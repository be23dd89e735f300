import Lightsocks.Relay.Simulation

/-!
# The invariant of the relay

In every state of every run the heap consists of the accepted connections, three entries
each. A connection is a session, alive as long as no closing event about it was delivered,
and freed after that. `step_cases` says once what a step of the relay can be; the results
about the relay are case analyses over it.
-/

namespace Lightsocks.Relay

open Lightsocks.Lib

variable {g : Globals}

/-! ## Accepting a connection -/

/-- The pointers of the connection that is accepted next. -/
def State.next (s : State) : Conn :=
  ⟨s.bevs.length, s.bevs.length + 1, s.bevs.length + 2⟩

/-- `proxy_listener_cb` allocates and wires the three bufferevents of a new session. -/
theorem proxyListenerCb_eq (s : State) (started : Bool) :
    proxyListenerCb g s started =
      let x := (Session.start started : Session g.encryptor).pair s.next
      .ok { s with
        bevs := s.bevs ++ [x.src, x.dst, x.filter]
        conns := s.conns ++ [s.next]
        dialled := s.dialled ++ [(s.next.dst, g.dstAddr)] } := by
  have hset (i : Nat) (b : Bufferevent) (l : List Bufferevent) :
      (s.bevs ++ l).set (s.bevs.length + i) b = s.bevs ++ l.set i b := by
    rw [List.set_append_right _ _ (Nat.le_add_right _ _), Nat.add_sub_cancel_left]
  have hset₀ := hset 0
  simp only [Nat.add_zero] at hset₀
  cases started <;>
    simp [proxyListenerCb, buffereventSocketNew, State.alloc, buffereventFilterNew,
      buffereventSetcb, State.load, State.store, buffereventSocketConnect, hset, hset₀,
      State.next, Session.pair, Session.start, Lane.empty, bind, Except.bind, pure, Except.pure]

/-- `s'` is `s` with one more connection. -/
structure Accepted (g : Globals) (s : State) (started : Bool) (s' : State) : Prop where
  conns : s'.conns = s.conns ++ [s.next]
  returned : s'.returned = s.returned
  length : s'.bevs.length = s.bevs.length + 3
  others : ∀ p < s.bevs.length, s'.bevs[p]? = s.bevs[p]?
  carries : s'.Carries s.next (Session.start started : Session g.encryptor)

theorem proxyListenerCb_spec (s : State) (started : Bool) :
    ∃ s', proxyListenerCb g s started = .ok s' ∧ Accepted g s started s' := by
  refine ⟨_, proxyListenerCb_eq s started, rfl, rfl, by simp, ?_, ?_⟩
  · intro p hp
    exact List.getElem?_append_left hp
  · constructor <;> simp [State.next]

/-! ## The invariant -/

structure HeapInv (g : Globals) (s : State) : Prop where
  length : s.bevs.length = 3 * s.conns.length
  layout : ∀ (k : Nat) (c : Conn), s.conns[k]? = some c →
    c = ⟨3 * k, 3 * k + 1, 3 * k + 2⟩
  session : ∀ c ∈ s.conns, ∃ σ : Session g.encryptor, s.Carries c σ ∨ s.CarriesFreed c σ

theorem mem_ptrs_iff (k p : Nat) :
    p ∈ Conn.ptrs ⟨3 * k, 3 * k + 1, 3 * k + 2⟩ ↔ p / 3 = k := by
  simp only [Conn.ptrs, List.mem_cons, List.not_mem_nil, or_false]
  change (p : Nat) = 3 * k ∨ (p : Nat) = 3 * k + 1 ∨ (p : Nat) = 3 * k + 2 ↔ p / 3 = k
  omega

namespace HeapInv

variable {s : State}

theorem mem_ptrs (hI : HeapInv g s) {k : Nat} {c : Conn} (hk : s.conns[k]? = some c) (p : Nat) :
    p ∈ c.ptrs ↔ p / 3 = k := by
  rw [hI.layout k c hk]
  exact mem_ptrs_iff k p

/-- Two connections share no bufferevent. -/
theorem disjoint (hI : HeapInv g s) {c c' : Conn} (hc : c ∈ s.conns) (hc' : c' ∈ s.conns) {p : Ptr}
    (hp : p ∈ c.ptrs) (hp' : p ∈ c'.ptrs) : c = c' := by
  obtain ⟨k, hk⟩ := List.mem_iff_getElem?.mp hc
  obtain ⟨k', hk'⟩ := List.mem_iff_getElem?.mp hc'
  have h := (hI.mem_ptrs hk p).mp hp
  have h' := (hI.mem_ptrs hk' p).mp hp'
  rw [← h] at hk
  rw [← h', hk] at hk'
  exact Option.some.inj hk'

/-- Every bufferevent belongs to a connection. -/
theorem owner (hI : HeapInv g s) {p : Nat} (hp : p < s.bevs.length) :
    ∃ c ∈ s.conns, p ∈ c.ptrs := by
  have hlt : p / 3 < s.conns.length := by
    have := hI.length
    omega
  exact ⟨s.conns[p / 3], List.getElem_mem hlt,
    (hI.mem_ptrs (List.getElem?_eq_getElem hlt) p).mpr rfl⟩

theorem ptr_lt (hI : HeapInv g s) {c : Conn} (hc : c ∈ s.conns) {p : Nat} (hp : p ∈ c.ptrs) :
    p < s.bevs.length := by
  obtain ⟨k, hk⟩ := List.mem_iff_getElem?.mp hc
  obtain ⟨hlt, -⟩ := List.getElem?_eq_some_iff.mp hk
  have h := (hI.mem_ptrs hk p).mp hp
  have := hI.length
  omega

end HeapInv

/-- A change outside the connection leaves its bufferevents. -/
theorem State.Slots.of_others {s s' : State} {c : Conn} {x : Pair} (h : s.Slots c x)
    (hoth : ∀ p ∈ c.ptrs, s'.bevs[p]? = s.bevs[p]?) : s'.Slots c x where
  src := (hoth _ c.src_mem).trans h.src
  dst := (hoth _ c.dst_mem).trans h.dst
  filter := (hoth _ c.filter_mem).trans h.filter
  src_ne_dst := h.src_ne_dst
  src_ne_filter := h.src_ne_filter
  dst_ne_filter := h.dst_ne_filter

theorem session_of_others {s s' : State} {c : Conn}
    (h : ∃ σ : Session g.encryptor, s.Carries c σ ∨ s.CarriesFreed c σ)
    (hoth : ∀ p ∈ c.ptrs, s'.bevs[p]? = s.bevs[p]?) :
    ∃ σ : Session g.encryptor, s'.Carries c σ ∨ s'.CarriesFreed c σ := by
  obtain ⟨σ, hσ | hσ⟩ := h
  · exact ⟨σ, .inl (State.Slots.of_others hσ hoth)⟩
  · exact ⟨σ, .inr (State.Slots.of_others hσ hoth)⟩

theorem State.CarriesFreed.not_carries {s : State} {c : Conn} {σ σ' : Session g.encryptor}
    (h : s.CarriesFreed c σ) : ¬ s.Carries c σ' := by
  intro h'
  have hfreed := congrArg Bufferevent.freed (Option.some.inj (h.src.symm.trans h'.src))
  cases hfreed

/-- A connection that has been freed has no bufferevent that is alive. -/
theorem State.CarriesFreed.not_alive {s : State} {c : Conn} {σ : Session g.encryptor}
    (h : s.CarriesFreed c σ) {p : Ptr} (hp : p ∈ c.ptrs) (q : Bufferevent → Bool) :
    s.aliveWith p q = false := by
  have hp : p = c.src ∨ p = c.dst ∨ p = c.filter := by simpa [Conn.ptrs] using hp
  rw [Bool.eq_false_iff]
  intro hq
  rcases hp with rfl | rfl | rfl
  · exact absurd ((aliveWith_iff h.src q).mp hq).1 (Nat.succ_ne_zero _)
  · exact absurd ((aliveWith_iff h.dst q).mp hq).1 (Nat.succ_ne_zero _)
  · exact absurd ((aliveWith_iff h.filter q).mp hq).1 (Nat.succ_ne_zero _)

/-- The target of an enabled event is alive. -/
theorem enabled_target {s : State} {e : Event} (he : enabled s e = true) {p : Ptr}
    (ht : e.target = some p) : ∃ q, s.aliveWith p q = true := by
  obtain ⟨-, he⟩ := Bool.and_eq_true_iff.mp he
  cases e <;> cases ht <;> exact ⟨_, he⟩

/-- What a step of the relay can be. -/
inductive StepCase (g : Globals) (s : State) : Event → Except Fault State → Prop
  | accept {started : Bool} {s' : State} (h : Accepted g s started s') :
      StepCase g s (.accept started) (.ok s')
  | exit : StepCase g s .exit (.ok { s with returned := true })
  | live {e : Event} {r : Except Fault State} {c : Conn} {p : Ptr} {σ : Session g.encryptor}
      (hc : c ∈ s.conns) (ht : e.target = some p) (hp : p ∈ c.ptrs) (hσ : s.Carries c σ)
      (h : Outcome c s σ e r) : StepCase g s e r

theorem step_cases {s : State} (hI : HeapInv g s) {e : Event} (he : enabled s e = true) :
    StepCase g s e (exec g s e) := by
  cases ht : e.target with
  | none =>
    cases e with
    | accept started =>
      obtain ⟨s', hs', h⟩ := proxyListenerCb_spec (g := g) s started
      simp only [exec, hs']
      exact .accept h
    | exit => exact .exit
    | _ => cases ht
  | some p =>
    obtain ⟨q, hq⟩ := enabled_target he ht
    have hlt : p < s.bevs.length := by
      by_contra hge
      simp [State.aliveWith, List.getElem?_eq_none (Nat.le_of_not_lt hge)] at hq
    obtain ⟨c, hc, hp⟩ := hI.owner hlt
    obtain ⟨σ, hσ | hσ⟩ := hI.session c hc
    · exact .live hc ht hp hσ (exec_live hσ ht hp he)
    · rw [hσ.not_alive hp q] at hq
      cases hq

theorem inv_empty : HeapInv g .empty := by
  constructor <;> simp [State.empty]

theorem Accepted.inv {s s' : State} {started : Bool} (h : Accepted g s started s')
    (hI : HeapInv g s) : HeapInv g s' where
  length := by
    rw [h.length, h.conns, List.length_append, hI.length, List.length_singleton]
    omega
  layout := by
    intro k c hk
    rw [h.conns] at hk
    rcases Nat.lt_or_ge k s.conns.length with hlt | hge
    · rw [List.getElem?_append_left hlt] at hk
      exact hI.layout k c hk
    · obtain ⟨hlt, heq⟩ := List.getElem?_eq_some_iff.mp hk
      have hke : k = s.conns.length := by
        simp at hlt
        omega
      subst hke
      simp only [List.getElem_concat_length] at heq
      rw [← heq, State.next, hI.length]
  session := by
    intro c hc
    rw [h.conns, List.mem_append, List.mem_singleton] at hc
    rcases hc with hc | rfl
    · exact session_of_others (hI.session c hc)
        (fun p hp => h.others p (hI.ptr_lt hc hp))
    · exact ⟨_, .inl h.carries⟩

/-- The frame of a connection leaves every other connection as it was. -/
theorem Frame.other {s s' : State} {c c' : Conn} (h : Frame c s s') (hI : HeapInv g s)
    (hc : c ∈ s.conns) (hc' : c' ∈ s.conns) (hne : c' ≠ c) :
    ∀ p ∈ c'.ptrs, s'.bevs[p]? = s.bevs[p]? :=
  fun p hp => h.others p (fun hp' => hne (hI.disjoint hc' hc hp hp'))

theorem Updated.inv {s s' : State} {c : Conn} {x : Pair} (h : Updated c s x s') (hI : HeapInv g s)
    (hc : c ∈ s.conns)
    (hx : ∃ σ : Session g.encryptor, s'.Carries c σ ∨ s'.CarriesFreed c σ) : HeapInv g s' where
  length := by rw [h.frame.length, h.frame.conns, hI.length]
  layout := by
    rw [h.frame.conns]
    exact hI.layout
  session := by
    intro c' hc'
    rw [h.frame.conns] at hc'
    by_cases hcc : c' = c
    · rw [hcc]
      exact hx
    · exact session_of_others (hI.session c' hc') (h.frame.other hI hc hc' hcc)

theorem StepCase.inv {s s' : State} {e : Event} (h : StepCase g s e (.ok s')) (hI : HeapInv g s) :
    HeapInv g s' := by
  cases h with
  | accept h => exact h.inv hI
  | exit =>
    exact ⟨hI.length, hI.layout, fun c hc => session_of_others (hI.session c hc) fun _ _ => rfl⟩
  | live hc ht hp hσ h =>
    cases h with
    | step he hstep h => exact h.inv hI hc ⟨_, .inl h.slots⟩
    | close he h => exact h.inv hI hc ⟨_, .inr h.slots⟩

/-- The invariant holds in every state of every run. -/
theorem inv_of_runs {es : List Event} {s : State} (h : (relay g).Runs es (.ok s)) : HeapInv g s :=
  Machine.Runs.invariant (I := fun _ s => HeapInv g s) inv_empty
    (fun _ s e s' _ hI he hs' => by
      have hcase := step_cases hI he
      rw [show exec g s e = .ok s' from hs'] at hcase
      exact hcase.inv hI) h

/-! ## Which connections are alive -/

/-- An event about `c` that closes it is among `es`. -/
def ClosedBy (es : List Event) (c : Conn) : Prop :=
  ∃ e ∈ es, e.closes = true ∧ ∃ p ∈ c.ptrs, e.target = some p

theorem closedBy_snoc {es : List Event} {e : Event} {c : Conn} :
    ClosedBy (es ++ [e]) c ↔
      ClosedBy es c ∨ (e.closes = true ∧ ∃ p ∈ c.ptrs, e.target = some p) := by
  simp only [ClosedBy, List.mem_append, List.mem_singleton, or_and_right, exists_or,
    exists_eq_left]

/-- A connection is freed if a closing event about it was delivered, and alive if not. -/
def Phase (g : Globals) (es : List Event) (s : State) (c : Conn) : Prop :=
  ClosedBy es c ∧ (∃ σ : Session g.encryptor, s.CarriesFreed c σ) ∨
  ¬ ClosedBy es c ∧ ∃ σ : Session g.encryptor, s.Carries c σ

/-- An event about another connection changes nothing about `c`. -/
theorem Phase.snoc_other {es : List Event} {e : Event} {s s' : State} {c : Conn}
    (h : Phase g es s c) (hoth : ∀ p ∈ c.ptrs, s'.bevs[p]? = s.bevs[p]?)
    (he : ∀ p, e.target = some p → p ∉ c.ptrs) : Phase g (es ++ [e]) s' c := by
  have hiff : ClosedBy (es ++ [e]) c ↔ ClosedBy es c := by
    rw [closedBy_snoc, or_iff_left]
    rintro ⟨-, p, hp, ht⟩
    exact he p ht hp
  rw [Phase, hiff]
  obtain ⟨hcl, σ, hσ⟩ | ⟨hcl, σ, hσ⟩ := h
  · exact .inl ⟨hcl, σ, State.Slots.of_others hσ hoth⟩
  · exact .inr ⟨hcl, σ, State.Slots.of_others hσ hoth⟩

/-- The events of a run are about bufferevents that exist. -/
def TargetsExist (es : List Event) (s : State) : Prop :=
  ∀ e ∈ es, ∀ p : Nat, e.target = some p → p < s.bevs.length

theorem StepCase.targetsExist {es : List Event} {s s' : State} {e : Event}
    (h : StepCase g s e (.ok s')) (hI : HeapInv g s) (ht : TargetsExist es s) :
    TargetsExist (es ++ [e]) s' := by
  have hmono : s.bevs.length ≤ s'.bevs.length := by
    cases h with
    | accept h =>
      rw [h.length]
      omega
    | exit => exact Nat.le_refl _
    | live hc _ hp hσ h =>
      cases h with
      | step _ _ h => exact Nat.le_of_eq h.frame.length.symm
      | close _ h => exact Nat.le_of_eq h.frame.length.symm
  intro e' he' p hp
  rcases List.mem_append.mp he' with he' | he'
  · exact Nat.lt_of_lt_of_le (ht e' he' p hp) hmono
  · obtain rfl := List.mem_singleton.mp he'
    cases h with
    | accept h => cases hp
    | exit => cases hp
    | live hc hq hq' hσ h =>
      cases hq.symm.trans hp
      exact Nat.lt_of_lt_of_le (hI.ptr_lt hc hq') hmono

theorem StepCase.phase {es : List Event} {s s' : State} {e : Event}
    (h : StepCase g s e (.ok s')) (hI : HeapInv g s) (ht : TargetsExist es s)
    (hph : ∀ c ∈ s.conns, Phase g es s c) : ∀ c ∈ s'.conns, Phase g (es ++ [e]) s' c := by
  intro c hc
  cases h with
  | accept h =>
    rw [h.conns, List.mem_append, List.mem_singleton] at hc
    rcases hc with hc | rfl
    · exact (hph c hc).snoc_other (fun p hp => h.others p (hI.ptr_lt hc hp))
        (fun p hp => by cases hp)
    · -- no event so far can be about the bufferevents just allocated
      refine .inr ⟨?_, _, h.carries⟩
      rw [closedBy_snoc]
      rintro (⟨e, he, -, p, hp, htp⟩ | ⟨hcl, -⟩)
      · have hlt := ht e he p htp
        have hge : s.bevs.length ≤ (p : Nat) := by
          simp only [State.next, Conn.ptrs, List.mem_cons, List.not_mem_nil, or_false] at hp
          rcases hp with rfl | rfl | rfl <;> omega
        omega
      · cases hcl
  | exit =>
    exact (hph c hc).snoc_other (fun _ _ => rfl) (fun p hp => by cases hp)
  | @live _ _ c' p σ hc' htp hp hσ h =>
    have hframe : Frame c' s s' := by
      cases h with
      | step _ _ h => exact h.frame
      | close _ h => exact h.frame
    rw [hframe.conns] at hc
    by_cases hcc : c = c'
    · subst hcc
      have hlive : ¬ ClosedBy es c := by
        obtain ⟨-, σ', hσ'⟩ | ⟨hcl, -⟩ := hph c hc
        · exact absurd hσ hσ'.not_carries
        · exact hcl
      cases h with
      | step he hstep h =>
        refine .inr ⟨?_, _, h.slots⟩
        rw [closedBy_snoc, he]
        rintro (hcl | ⟨hcl, -⟩)
        · exact hlive hcl
        · cases hcl
      | close he h => exact .inl ⟨closedBy_snoc.mpr (.inr ⟨he, p, hp, htp⟩), _, h.slots⟩
    · apply (hph c hc).snoc_other (hframe.other hI hc' hc hcc)
      intro q hq hqc
      cases htp.symm.trans hq
      exact hcc (hI.disjoint hc hc' hqc hp)

/-- In every run, a connection has been freed exactly if one of the events closed it. -/
theorem phase_of_runs {es : List Event} {s : State} (h : (relay g).Runs es (.ok s)) :
    ∀ c ∈ s.conns, Phase g es s c := by
  refine (Machine.Runs.invariant
    (I := fun es s => TargetsExist es s ∧ ∀ c ∈ s.conns, Phase g es s c) ?_ ?_ h).2
  · exact ⟨fun _ he => absurd he (List.not_mem_nil), fun _ hc => absurd hc (List.not_mem_nil)⟩
  · rintro es s e s' hs ⟨ht, hph⟩ he hs'
    have hI := inv_of_runs hs
    have hcase := step_cases hI he
    rw [show exec g s e = .ok s' from hs'] at hcase
    exact ⟨hcase.targetsExist hI ht, hcase.phase hI ht hph⟩

end Lightsocks.Relay
