import Lightsocks.Relay.Session

/-!
# The heap of the relay is a family of sessions

`State.Carries s c σ` says that the heap holds, at the pointers of the connection `c`, the
bufferevents of the session `σ`, and `State.CarriesFreed` that it holds them freed. The
theorem of this module, `exec_live`, is the simulation: an event about a connection that is
alive performs a step of its session or frees all three bufferevents, and touches nothing
outside the connection. From it `Inv` follows: in every state, the heap consists of the
accepted connections, three entries each, and each is a session, alive or freed.
-/

namespace Lightsocks.Relay

open Lightsocks.Lib

/-! ## Slots -/

/-- The heap holds the bufferevents `x` at the pointers `c`. -/
structure State.Slots (s : State) (c : Conn) (x : Pair) : Prop where
  src : s.bevs[c.src]? = some x.src
  dst : s.bevs[c.dst]? = some x.dst
  filter : s.bevs[c.filter]? = some x.filter
  src_ne_dst : c.src ≠ c.dst
  src_ne_filter : c.src ≠ c.filter
  dst_ne_filter : c.dst ≠ c.filter

/-- `s'` is `s` but for the bufferevents of `c` (and what is dialled and reported). -/
structure Frame (c : Conn) (s s' : State) : Prop where
  conns : s'.conns = s.conns
  returned : s'.returned = s.returned
  length : s'.bevs.length = s.bevs.length
  others : ∀ p, p ∉ c.ptrs → s'.bevs[p]? = s.bevs[p]?

theorem Frame.refl (c : Conn) (s : State) : Frame c s s := ⟨rfl, rfl, rfl, fun _ _ => rfl⟩

theorem Frame.trans {c : Conn} {s s' s'' : State} (h : Frame c s s') (h' : Frame c s' s'') :
    Frame c s s'' where
  conns := h'.conns.trans h.conns
  returned := h'.returned.trans h.returned
  length := h'.length.trans h.length
  others := fun p hp => (h'.others p hp).trans (h.others p hp)

theorem Frame.store {c : Conn} {s : State} {p : Ptr} (b : Bufferevent) (hp : p ∈ c.ptrs) :
    Frame c s (s.store p b) where
  conns := rfl
  returned := rfl
  length := List.length_set
  others := by
    intro q hq
    have hne : p ≠ q := fun h => hq (h ▸ hp)
    exact List.getElem?_set_ne hne

@[simp] theorem Conn.src_mem (c : Conn) : c.src ∈ c.ptrs := by simp [Conn.ptrs]

@[simp] theorem Conn.dst_mem (c : Conn) : c.dst ∈ c.ptrs := by simp [Conn.ptrs]

@[simp] theorem Conn.filter_mem (c : Conn) : c.filter ∈ c.ptrs := by simp [Conn.ptrs]

/-- The heap of `s'` is that of `s` with `x` at the pointers of `c`. -/
structure Updated (c : Conn) (s : State) (x : Pair) (s' : State) : Prop where
  slots : s'.Slots c x
  frame : Frame c s s'

theorem load_of {s : State} {p : Ptr} {b : Bufferevent} (h : s.bevs[p]? = some b)
    (hb : b.freed = 0) : s.load p = .ok b := by
  simp only [State.load, h, hb, if_true]

theorem store_get {s : State} {p : Ptr} {b₀ : Bufferevent} (h : s.bevs[p]? = some b₀)
    (b : Bufferevent) : (s.store p b).bevs[p]? = some b := by
  obtain ⟨hlt, -⟩ := List.getElem?_eq_some_iff.mp h
  simp only [State.store]
  exact List.getElem?_set_self hlt

theorem store_get_ne {s : State} {p q : Ptr} (hne : p ≠ q) (b : Bufferevent) :
    (s.store p b).bevs[q]? = s.bevs[q]? :=
  List.getElem?_set_ne hne

namespace Updated

variable {c : Conn} {s s' : State} {x : Pair}

theorem refl (h : s.Slots c x) : Updated c s x s := ⟨h, .refl c s⟩

theorem store_src (h : Updated c s x s') (b : Bufferevent) :
    Updated c s { x with src := b } (s'.store c.src b) where
  slots :=
    { h.slots with
      src := store_get h.slots.src b
      dst := (store_get_ne h.slots.src_ne_dst b).trans h.slots.dst
      filter := (store_get_ne h.slots.src_ne_filter b).trans h.slots.filter }
  frame := h.frame.trans (.store b c.src_mem)

theorem store_dst (h : Updated c s x s') (b : Bufferevent) :
    Updated c s { x with dst := b } (s'.store c.dst b) where
  slots :=
    { h.slots with
      src := (store_get_ne h.slots.src_ne_dst.symm b).trans h.slots.src
      dst := store_get h.slots.dst b
      filter := (store_get_ne h.slots.dst_ne_filter b).trans h.slots.filter }
  frame := h.frame.trans (.store b c.dst_mem)

theorem store_filter (h : Updated c s x s') (b : Bufferevent) :
    Updated c s { x with filter := b } (s'.store c.filter b) where
  slots :=
    { h.slots with
      src := (store_get_ne h.slots.src_ne_filter.symm b).trans h.slots.src
      dst := (store_get_ne h.slots.dst_ne_filter.symm b).trans h.slots.dst
      filter := store_get h.slots.filter b }
  frame := h.frame.trans (.store b c.filter_mem)

end Updated

/-! ## Freeing -/

theorem releaseBev_of {s : State} {p : Ptr} {b : Bufferevent} (h : s.bevs[p]? = some b)
    (hb : b.freed = 0) : releaseBev s p = .ok (s.store p b.release, b.ops) := by
  simp only [releaseBev, h, hb, if_true]

section Free

variable {c : Conn} {s s' : State} {x : Pair}

theorem free_src (h : Updated c s x s') (hb : x.src.freed = 0) {state : SocketState}
    (hops : x.src.ops = .socket state) :
    ∃ s'', buffereventFree s' c.src = .ok s'' ∧
      Updated c s { x with src := x.src.release } s'' := by
  refine ⟨_, ?_, h.store_src _⟩
  simp only [buffereventFree, releaseBev_of h.slots.src hb, hops]
  rfl

/-- Freeing the filter frees the bufferevent under it. -/
theorem free_filter (h : Updated c s x s') (hb : x.filter.freed = 0) (hd : x.dst.freed = 0)
    (hops : x.filter.ops = .filter c.dst) :
    ∃ s'', buffereventFree s' c.filter = .ok s'' ∧
      Updated c s { x with filter := x.filter.release, dst := x.dst.release } s'' := by
  have h' := h.store_filter x.filter.release
  refine ⟨_, ?_, h'.store_dst x.dst.release⟩
  simp only [buffereventFree, releaseBev_of h.slots.filter hb, hops, bind, Except.bind,
    releaseBev_of h'.slots.dst hd]
  rfl

end Free

/-! ## Connections as sessions -/

variable {g : Globals}

/-- The connection `c` is alive, with the session `σ`. -/
def State.Carries (s : State) (c : Conn) (σ : Session g.encryptor) : Prop :=
  s.Slots c (σ.pair c)

/-- The connection `c` has been freed, with the session `σ` at that time. -/
def State.CarriesFreed (s : State) (c : Conn) (σ : Session g.encryptor) : Prop :=
  s.Slots c (σ.pair c).release

/-- An event that makes `proxy_event_cb` free the connection. -/
def closing (what : UInt16) : Prop :=
  what &&& bevEventEof ≠ 0 ∨ what &&& bevEventError ≠ 0

instance (what : UInt16) : Decidable (closing what) :=
  inferInstanceAs (Decidable (_ ∨ _))

def Event.closes : Event → Bool
  | .event _ what => decide (closing what)
  | _ => false

/-- The outcome of an event about the connection `c` with the session `σ`. -/
inductive Outcome (c : Conn) (s : State) (σ : Session g.encryptor) :
    Event → Except Fault State → Prop
  /-- The session makes a step. -/
  | step {e : Event} {σ' : Session g.encryptor} {s' : State} (he : e.closes = false)
      (hσ : σ.Step σ') (h : Updated c s (σ'.pair c) s') : Outcome c s σ e (.ok s')
  /-- The connection is freed. -/
  | close {e : Event} {s' : State} (he : e.closes = true)
      (h : Updated c s (σ.pair c).release s') : Outcome c s σ e (.ok s')
  /-- A byte is not in the cipher's table. -/
  | lookup {e : Event} (he : e.closes = false) (f : Cipher.VecFault) :
      Outcome c s σ e (.error (.lookup f))

section Callbacks

variable {c : Conn} {s : State} {σ : Session g.encryptor}

theorem srcReadCb_spec (h : s.Carries c σ) :
    ∃ s', srcReadCb s c.src c.filter = .ok s' ∧ Updated c s (σ.forwardUp.pair c) s' := by
  have h₁ := (Updated.refl h).store_filter
    { (σ.pair c).filter with output := (σ.pair c).filter.output ++ (σ.pair c).src.input }
  refine ⟨_, ?_, h₁.store_src { (σ.pair c).src with input := [] }⟩
  simp only [srcReadCb, forward, load_of h.src rfl, load_of h.filter rfl,
    load_of h₁.slots.src rfl, bind, Except.bind, pure, Except.pure]

theorem dstReadCb_spec (h : s.Carries c σ) :
    ∃ s', dstReadCb s c.filter c.src = .ok s' ∧ Updated c s (σ.forwardDown.pair c) s' := by
  have h₁ := (Updated.refl h).store_src
    { (σ.pair c).src with output := (σ.pair c).src.output ++ (σ.pair c).filter.input }
  refine ⟨_, ?_, h₁.store_filter { (σ.pair c).filter with input := [] }⟩
  simp only [dstReadCb, forward, load_of h.src rfl, load_of h.filter rfl,
    load_of h₁.slots.filter rfl, bind, Except.bind, pure, Except.pure]

theorem beFilterProcessInput_spec (h : s.Carries c σ) {e : Event}
    (he : e.closes = false) : Outcome c s σ e (beFilterProcessInput g s c.filter) := by
  simp only [beFilterProcessInput, load_of h.filter rfl, load_of h.dst rfl, bind, Except.bind,
    Session.pair, destFilterIn, destFilter_eq]
  cases hout : σ.down.pending.mapM g.encryptor.decrypt with
  | error f => exact .lookup he f
  | ok out =>
    have h₁ := (Updated.refl h).store_dst { (σ.pair c).dst with input := [] }
    have h₂ := h₁.store_filter
      { (σ.pair c).filter with input := σ.filterInput ++ out }
    simp only [Except.map, liftLookup, Except.mapError]
    have hload := load_of h₁.slots.filter rfl
    simp only [Session.pair] at hload
    rw [hload]
    exact .step he (.transformDown hout) h₂

theorem beFilterProcessOutput_spec (h : s.Carries c σ) {e : Event}
    (he : e.closes = false) : Outcome c s σ e (beFilterProcessOutput g s c.filter) := by
  simp only [beFilterProcessOutput, load_of h.filter rfl, load_of h.dst rfl, bind, Except.bind,
    Session.pair, destFilterOut, destFilter_eq]
  split
  · exact .step he .idle (.refl h)
  cases hout : σ.filterOutput.mapM g.encryptor.encrypt with
  | error f => exact .lookup he f
  | ok out =>
    have h₁ := (Updated.refl h).store_filter { (σ.pair c).filter with output := [] }
    have h₂ := h₁.store_dst { (σ.pair c).dst with output := σ.up.ready ++ out }
    simp only [Except.map, liftLookup, Except.mapError]
    have hload := load_of h₁.slots.dst rfl
    simp only [Session.pair] at hload
    rw [hload]
    exact .step he (.transformUp hout) h₂

/-- What `proxy_event_cb` does to a connection that is alive. -/
def afterEvent (c : Conn) (σ : Session g.encryptor) (what : UInt16) : Pair :=
  if closing what then (σ.pair c).release else σ.pair c

theorem proxyEventCb_spec (h : s.Carries c σ) (what : UInt16) {bev arg : Ptr}
    (hends : bev = c.src ∧ arg = c.filter ∨ bev = c.filter ∧ arg = c.src) :
    ∃ s', proxyEventCb g s bev what arg = .ok s' ∧ Updated c s (afterEvent c σ what) s' := by
  -- the report changes nothing in the heap
  obtain ⟨s₁, hs₁, h₁⟩ : ∃ s₁, (if what &&& bevEventError ≠ 0 ∧ g.clientCallback = true then
      { s with reports := s.reports ++ [connectionError] } else s) = s₁ ∧
        Updated c s (σ.pair c) s₁ := by
    refine ⟨_, rfl, ?_⟩
    split
    · exact ⟨⟨h.1, h.2, h.3, h.4, h.5, h.6⟩, ⟨rfl, rfl, rfl, fun _ _ => rfl⟩⟩
    · exact .refl h
  simp only [proxyEventCb, hs₁]
  by_cases hw : closing what
  · have hfree : what &&& bevEventEof ≠ 0 ∨ what &&& bevEventError ≠ 0 := hw
    rw [if_pos hfree, afterEvent, if_pos hw]
    rcases hends with ⟨rfl, rfl⟩ | ⟨rfl, rfl⟩
    · obtain ⟨s₂, hs₂, h₂⟩ := free_src h₁ rfl rfl
      obtain ⟨s₃, hs₃, h₃⟩ := free_filter h₂ rfl rfl rfl
      exact ⟨s₃, by simp only [hs₂, bind, Except.bind, hs₃], h₃⟩
    · obtain ⟨s₂, hs₂, h₂⟩ := free_filter h₁ rfl rfl rfl
      obtain ⟨s₃, hs₃, h₃⟩ := free_src h₂ rfl rfl
      exact ⟨s₃, by simp only [hs₂, bind, Except.bind, hs₃], h₃⟩
  · have hkeep : ¬ (what &&& bevEventEof ≠ 0 ∨ what &&& bevEventError ≠ 0) := hw
    rw [if_neg hkeep, afterEvent, if_neg hw]
    exact ⟨s₁, rfl, h₁⟩

/-- An event at either socket reaches `proxy_event_cb`: at the client directly, at the server
through the filter. -/
theorem runEventcb_spec (h : s.Carries c σ) (what : UInt16) {p : Ptr}
    (hp : p = c.src ∨ p = c.dst) :
    ∃ s', runEventcb g s p what = .ok s' ∧ Updated c s (afterEvent c σ what) s' := by
  rcases hp with rfl | rfl
  · obtain ⟨s', hs', h'⟩ := proxyEventCb_spec h what (.inl ⟨rfl, rfl⟩)
    refine ⟨s', ?_, h'⟩
    simp only [runEventcb, load_of h.src rfl, bind, Except.bind, Session.pair, deref, hs']
  · obtain ⟨s', hs', h'⟩ := proxyEventCb_spec h what (.inr ⟨rfl, rfl⟩)
    refine ⟨s', ?_, h'⟩
    simp only [runEventcb, load_of h.dst rfl, bind, Except.bind, Session.pair, deref,
      beFilterEventcb, load_of h.filter rfl, hs']

end Callbacks

/-! ## The simulation -/

section Simulation

variable {c : Conn} {s : State} {σ : Session g.encryptor}

theorem aliveWith_iff {s : State} {p : Ptr} {b : Bufferevent} (h : s.bevs[p]? = some b)
    (q : Bufferevent → Bool) : s.aliveWith p q = true ↔ b.freed = 0 ∧ q b = true := by
  simp only [State.aliveWith, h, Bool.and_eq_true, beq_iff_eq]

/-- An event about a connection that is alive is a step of its session, or frees it. -/
theorem exec_live (h : s.Carries c σ) {e : Event} {p : Ptr} (ht : e.target = some p)
    (hp : p ∈ c.ptrs) (he : enabled s e = true) : Outcome c s σ e (exec g s e) := by
  obtain ⟨-, he⟩ := Bool.and_eq_true_iff.mp he
  have hp : p = c.src ∨ p = c.dst ∨ p = c.filter := by simpa [Conn.ptrs] using hp
  cases e with
  | accept started => cases ht
  | exit => cases ht
  | arrive q chunk =>
    cases ht
    rcases hp with rfl | rfl | rfl
    · simp only [exec, load_of h.src rfl]
      exact .step rfl (.receiveUp chunk) ((Updated.refl h).store_src _)
    · simp only [exec, load_of h.dst rfl]
      exact .step rfl (.receiveDown chunk) ((Updated.refl h).store_dst _)
    · simp [aliveWith_iff h.filter, Session.pair] at he
  | drain q n =>
    cases ht
    rcases hp with rfl | rfl | rfl
    · simp only [exec, load_of h.src rfl]
      exact .step rfl (.writeDown n) ((Updated.refl h).store_src _)
    · simp only [exec, load_of h.dst rfl]
      exact .step rfl (.writeUp n) ((Updated.refl h).store_dst _)
    · simp [aliveWith_iff h.filter, Session.pair] at he
  | connected q =>
    cases ht
    rcases hp with rfl | rfl | rfl
    · simp [aliveWith_iff h.src, Session.pair] at he
    · have hserver : σ.server = .connecting := by
        simpa [aliveWith_iff h.dst, Session.pair] using he
      have h₁ : Updated c s (σ.connect.pair c)
          (s.store c.dst { (σ.pair c).dst with ops := .socket .connected }) :=
        (Updated.refl h).store_dst _
      have hc : State.Carries _ c σ.connect := h₁.slots
      obtain ⟨s', hs', h'⟩ := runEventcb_spec hc bevEventConnected (.inr rfl)
      have hopen : ¬ closing bevEventConnected := by decide
      rw [afterEvent, if_neg hopen] at h'
      simp only [exec, load_of h.dst rfl, bind, Except.bind, hs']
      exact .step rfl (.connect hserver) ⟨h'.slots, h₁.frame.trans h'.frame⟩
    · simp [aliveWith_iff h.filter, Session.pair] at he
  | read q =>
    cases ht
    rcases hp with rfl | rfl | rfl
    · obtain ⟨s', hs', h'⟩ := srcReadCb_spec h
      simp only [exec, runReadcb, load_of h.src rfl, bind, Except.bind, Session.pair, deref, hs']
      exact .step rfl .forwardUp h'
    · simp only [exec, runReadcb, load_of h.dst rfl, bind, Except.bind, Session.pair, deref]
      exact beFilterProcessInput_spec h rfl
    · obtain ⟨s', hs', h'⟩ := dstReadCb_spec h
      simp only [exec, runReadcb, load_of h.filter rfl, bind, Except.bind, Session.pair, deref,
        hs']
      exact .step rfl .forwardDown h'
  | output q =>
    cases ht
    rcases hp with rfl | rfl | rfl
    · simp [aliveWith_iff h.src, Session.pair] at he
    · simp [aliveWith_iff h.dst, Session.pair] at he
    · exact beFilterProcessOutput_spec h rfl
  | event q what =>
    cases ht
    have hsocket : p = c.src ∨ p = c.dst := by
      rcases hp with rfl | rfl | rfl
      · exact .inl rfl
      · exact .inr rfl
      · simp [aliveWith_iff h.filter, Session.pair] at he
    obtain ⟨s', hs', h'⟩ := runEventcb_spec h what hsocket
    simp only [exec, hs']
    by_cases hw : closing what
    · rw [afterEvent, if_pos hw] at h'
      exact .close (decide_eq_true hw) h'
    · rw [afterEvent, if_neg hw] at h'
      exact .step (decide_eq_false hw) .idle h'

end Simulation

end Lightsocks.Relay
