import Lightsocks.Relay.Teardown

/-!
# Closing a connection

On EOF the relay frees both ends at once, and `bufferevent_free` discards what is in the
buffers. So a connection that ends without an error delivers everything that was read from
its endpoints exactly if all its buffers are empty when the EOF is reported, whichever
endpoint reports it and whatever the order of the events before.
-/

namespace Lightsocks.Relay

open Lightsocks.Lib

variable {g : Globals}

/-- An event reports an error on the connection `c`. -/
def ErrorReported (es : List Event) (c : Conn) : Prop :=
  ∃ p ∈ c.ptrs, ∃ what, Event.event p what ∈ es ∧ what &&& bevEventError ≠ 0

/-- The connect of `c` to the server could be begun. -/
def State.ConnectBegun (s : State) (c : Conn) : Prop :=
  ∃ dst, s.bevs[c.dst]? = some dst ∧ dst.ops ≠ .socket .unconnected

/-- Everything read from each endpoint of `c` has been written to the other. -/
def State.AllDelivered (g : Globals) (s : State) (c : Conn) : Prop :=
  ∃ src dst, s.bevs[c.src]? = some src ∧ s.bevs[c.dst]? = some dst ∧
    dst.sent.map Except.ok = src.received.map g.encryptor.encrypt ∧
    src.sent.map Except.ok = dst.received.map g.encryptor.decrypt

/-- Every connection that has been freed, and on which no error was reported, has delivered
everything. -/
def CleanCloses (g : Globals) (es : List Event) (s : State) : Prop :=
  ∀ c ∈ s.conns, s.Freed c → ¬ ErrorReported es c → s.ConnectBegun c → s.AllDelivered g c

/-- The six buffers of `c` are empty. -/
def State.BuffersEmpty (s : State) (c : Conn) : Prop :=
  ∀ p ∈ c.ptrs, ∃ b, s.bevs[p]? = some b ∧ b.input = [] ∧ b.output = []

/-- An EOF without an error finds the buffers of its connection empty. -/
def EofWhenEmpty (s : State) (e : Event) : Prop :=
  ∀ p what, e = .event p what → what &&& bevEventEof ≠ 0 → what &&& bevEventError = 0 →
    ∀ c ∈ s.conns, p ∈ c.ptrs → s.ConnectBegun c → s.BuffersEmpty c

instance (s : State) (c : Conn) : Decidable (s.ConnectBegun c) :=
  inferInstanceAs (Decidable (∃ dst ∈ s.bevs[c.dst]?, dst.ops ≠ .socket .unconnected))

instance (s : State) (c : Conn) : Decidable (s.BuffersEmpty c) :=
  inferInstanceAs (Decidable (∀ p ∈ c.ptrs, ∃ b ∈ s.bevs[p]?, b.input = [] ∧ b.output = []))

/-- `EofWhenEmpty`, of an event that is one. -/
theorem eofWhenEmpty_event {s : State} {p : Ptr} {what : UInt16} :
    EofWhenEmpty s (.event p what) ↔
      (what &&& bevEventEof ≠ 0 → what &&& bevEventError = 0 →
        ∀ c ∈ s.conns, p ∈ c.ptrs → s.ConnectBegun c → s.BuffersEmpty c) := by
  constructor
  · exact fun h => h p what rfl
  · rintro h p' what' ⟨⟩
    exact h

instance (s : State) (e : Event) : Decidable (EofWhenEmpty s e) :=
  match e with
  | .event _ _ => decidable_of_iff' _ eofWhenEmpty_event
  | .accept _ | .arrive _ _ | .drain _ _ | .connected _ | .read _ | .output _ | .exit =>
    isTrue fun _ _ h => nomatch h

theorem State.Carries.buffersEmpty_iff {s : State} {c : Conn} {σ : Session g.encryptor}
    (h : s.Carries c σ) : s.BuffersEmpty c ↔ σ.Drained := by
  simp only [State.BuffersEmpty, Conn.ptrs, List.forall_mem_cons, h.src, h.dst, h.filter,
    Option.some.injEq, exists_eq_left', Session.pair, Session.Drained]
  simp only [List.not_mem_nil, false_implies, implies_true, and_true]
  tauto

theorem State.Carries.connectBegun_iff {s : State} {c : Conn} {σ : Session g.encryptor}
    (h : s.Carries c σ) : s.ConnectBegun c ↔ σ.server ≠ .unconnected := by
  simp [State.ConnectBegun, h.dst, Session.pair]

theorem State.CarriesFreed.connectBegun_iff {s : State} {c : Conn} {σ : Session g.encryptor}
    (h : s.CarriesFreed c σ) : s.ConnectBegun c ↔ σ.server ≠ .unconnected := by
  simp [State.ConnectBegun, h.dst, Session.pair, Pair.release, Bufferevent.release]

theorem State.CarriesFreed.allDelivered_iff {s : State} {c : Conn} {σ : Session g.encryptor}
    (h : s.CarriesFreed c σ) : s.AllDelivered g c ↔ σ.Delivered := by
  simp only [State.AllDelivered, h.src, h.dst, Option.some.injEq, exists_eq_left', Pair.release,
    Bufferevent.release, Session.pair, Session.Delivered, exists_and_left]

/-- A step about another connection keeps what is known about a connection that is freed. -/
theorem CleanCloses.snoc_other {es : List Event} {e : Event} {s s' : State} {c : Conn}
    (h : s.Freed c → ¬ ErrorReported es c → s.ConnectBegun c → s.AllDelivered g c)
    (hoth : ∀ p ∈ c.ptrs, s'.bevs[p]? = s.bevs[p]?) :
    s'.Freed c → ¬ ErrorReported (es ++ [e]) c → s'.ConnectBegun c → s'.AllDelivered g c := by
  intro hf herr hbegun
  have herr' : ¬ ErrorReported es c := by
    rintro ⟨p, hp, what, hmem, hw⟩
    exact herr ⟨p, hp, what, List.mem_append_left _ hmem, hw⟩
  simp only [State.AllDelivered, State.ConnectBegun, hoth _ c.src_mem, hoth _ c.dst_mem]
    at hbegun ⊢
  exact h (hf.of_others fun p hp => (hoth p hp).symm) herr' hbegun

/-- An event that does not close is no EOF. -/
theorem eofWhenEmpty_of_open {s : State} {e : Event} (he : e.closes = false) :
    EofWhenEmpty s e := by
  rintro p what rfl heof
  exact absurd (.inl heof) (of_decide_eq_false he)

/-- Before it is closed, no error has been reported on a connection. -/
theorem not_errorReported {es : List Event} {c : Conn} (h : ¬ ClosedBy es c) :
    ¬ ErrorReported es c := by
  rintro ⟨p, hp, what, hmem, hw⟩
  exact h ⟨_, hmem, decide_eq_true (.inr hw), p, hp, rfl⟩

/-- The event that closes a connection loses nothing exactly if it is an error, or the
buffers are empty. -/
theorem clean_close_iff {es : List Event} {s s' : State} {c : Conn} {σ : Session g.encryptor}
    {p : Ptr} {what : UInt16} (hp : p ∈ c.ptrs) (hlive : ¬ ClosedBy es c) (hσ : s.Carries c σ)
    (hσ' : s'.CarriesFreed c σ) (hw : closing what) :
    (s'.Freed c → ¬ ErrorReported (es ++ [.event p what]) c → s'.ConnectBegun c →
        s'.AllDelivered g c) ↔
      (what &&& bevEventEof ≠ 0 → what &&& bevEventError = 0 → s.ConnectBegun c →
        s.BuffersEmpty c) := by
  have herr : ErrorReported (es ++ [.event p what]) c ↔ what &&& bevEventError ≠ 0 := by
    constructor
    · rintro ⟨q, hq, what', hmem, hw'⟩
      rcases List.mem_append.mp hmem with hmem | hmem
      · exact absurd ⟨q, hq, what', hmem, hw'⟩ (not_errorReported hlive)
      · cases List.mem_singleton.mp hmem
        exact hw'
    · intro hw'
      exact ⟨p, hp, what, List.mem_append_right _ List.mem_cons_self, hw'⟩
  rw [herr, not_ne_iff, hσ'.connectBegun_iff, hσ'.allDelivered_iff, hσ.connectBegun_iff,
    hσ.buffersEmpty_iff, Session.delivered_iff]
  constructor
  · intro h _ hnerr hbegun
    exact h hσ'.freed hnerr hbegun
  · intro h _ hnerr hbegun
    rcases hw with heof | hw
    · exact h heof hnerr hbegun
    · exact absurd hnerr hw

theorem StepCase.cleanCloses_iff {es : List Event} {s : State} {e : Event}
    {r : Except Fault State} (h : StepCase g s e r) (hI : HeapInv g s)
    (hph : ∀ c ∈ s.conns, Phase g es s c) (hs : CleanCloses g es s) :
    (∀ s', r = .ok s' → CleanCloses g (es ++ [e]) s') ↔ EofWhenEmpty s e := by
  cases h with
  | accept h =>
    refine iff_of_true ?_ (eofWhenEmpty_of_open rfl)
    rintro s' ⟨⟩ c hc
    rw [h.conns, List.mem_append, List.mem_singleton] at hc
    rcases hc with hc | rfl
    · exact CleanCloses.snoc_other (hs c hc) (fun p hp => h.others p (hI.ptr_lt hc hp))
    · exact fun hf => absurd hf h.carries.not_freed
  | exit =>
    refine iff_of_true ?_ (eofWhenEmpty_of_open rfl)
    rintro s' ⟨⟩ c hc
    exact CleanCloses.snoc_other (hs c hc) (fun _ _ => rfl)
  | @live _ _ c p σ hc ht hp hσ h =>
    cases h with
    | lookup he f => exact iff_of_true (fun s' h => by cases h) (eofWhenEmpty_of_open he)
    | step he hstep h =>
      refine iff_of_true ?_ (eofWhenEmpty_of_open he)
      rintro s' ⟨⟩ c' hc'
      rw [h.frame.conns] at hc'
      by_cases hcc : c' = c
      · subst hcc
        have hcar : State.Carries _ _ _ := h.slots
        exact fun hf => absurd hf hcar.not_freed
      · exact CleanCloses.snoc_other (hs c' hc') (h.frame.other hI hc hc' hcc)
    | @close s' he h =>
      cases e with
      | event q what =>
        cases ht
        have hw : closing what := of_decide_eq_true he
        have hlive : ¬ ClosedBy es c := by
          obtain ⟨-, σ', hσ'⟩ | ⟨hcl, -⟩ := hph c hc
          · exact absurd hσ hσ'.not_carries
          · exact hcl
        have hiff := clean_close_iff hp hlive hσ h.slots hw
        constructor
        · rintro hclean p' what' ⟨⟩ heof hnerr c' hc' hp'
          cases hI.disjoint hc' hc hp' hp
          exact hiff.mp (hclean s' rfl c (by rw [h.frame.conns]; exact hc)) heof hnerr
        · rintro hempty s'' ⟨⟩ c' hc'
          rw [h.frame.conns] at hc'
          by_cases hcc : c' = c
          · subst hcc
            exact hiff.mpr (fun heof hnerr =>
              hempty _ _ rfl heof hnerr c' hc hp)
          · exact CleanCloses.snoc_other (hs c' hc') (h.frame.other hI hc hc' hcc)
      | _ => cases he

theorem cleanCloses_empty : CleanCloses g [] .empty :=
  fun _ hc => absurd hc (List.not_mem_nil)

/-- In a run every connection that ends without an error has delivered everything exactly if
every EOF found the buffers of its connection empty. -/
theorem clean_closes_iff {es : List Event} {r : Except Fault State}
    (h : (relay g).Runs es r) :
    (relay g).Always (CleanCloses g) es ↔ (relay g).Along (fun _ s e => EofWhenEmpty s e) es := by
  apply h.always_iff_along cleanCloses_empty
  intro es s e hs he hclean
  exact (step_cases (inv_of_runs hs) he).cleanCloses_iff (inv_of_runs hs) (phase_of_runs hs) hclean

/-! ## Two runs -/

/-- A client sends a byte and closes while the server connection is being established. -/
def closeWhileConnecting : List Event :=
  [.accept true, .arrive 0 [7], .read 0, .output 2, .event 0 (bevEventReading ||| bevEventEof)]

/-- The byte that was waiting for the connect is gone. -/
theorem tail_lost_while_connecting :
    ¬ ∀ es r, (relay successorGlobals).Runs es r →
      (relay successorGlobals).Always (CleanCloses successorGlobals) es := by
  intro hall
  have hends : (relay successorGlobals).ends closeWhileConnecting (fun s =>
      s.conns == [⟨0, 1, 2⟩] && s.bevs ==
        [{ ops := .socket .connected, freed := 1, received := [7] },
          { ops := .socket .connecting, freed := 1 }, { ops := .filter 1, freed := 1 }]) =
      true := by decide
  obtain ⟨s, hr, hp⟩ := Machine.runs_of_ends hends
  obtain ⟨hconns, hbevs⟩ := Bool.and_eq_true_iff.mp hp
  have hconns : s.conns = [⟨0, 1, 2⟩] := eq_of_beq hconns
  have hbevs := eq_of_beq hbevs
  have hclean := hall _ _ hr _ s (List.prefix_refl _) hr ⟨0, 1, 2⟩ (by simp [hconns])
  have hfreed : s.Freed ⟨0, 1, 2⟩ := by simp [State.Freed, Conn.ptrs, hbevs]
  have hnoerror : ¬ ErrorReported closeWhileConnecting ⟨0, 1, 2⟩ := by
    rintro ⟨p, -, what, hmem, hw⟩
    simp only [closeWhileConnecting, List.mem_cons, List.not_mem_nil, or_false, reduceCtorEq,
      false_or, Event.event.injEq] at hmem
    rw [hmem.2] at hw
    exact hw (by decide)
  have hbegun : s.ConnectBegun ⟨0, 1, 2⟩ := by simp [State.ConnectBegun, hbevs]
  obtain ⟨src, dst, hsrc, hdst, hsent, -⟩ := hclean hfreed hnoerror hbegun
  simp only [hbevs, List.getElem?_cons_zero, List.getElem?_cons_succ, Option.some.injEq]
    at hsrc hdst
  rw [← hsrc, ← hdst] at hsent
  cases hsent

/-- A byte is delivered to the server before the client closes. -/
def closeWhenDelivered : List Event :=
  [.accept true, .connected 1, .arrive 0 [7], .read 0, .output 2, .drain 1 1,
    .event 0 (bevEventReading ||| bevEventEof)]

theorem clean_close_when_delivered :
    ∃ r, (relay successorGlobals).Runs closeWhenDelivered r ∧
      (relay successorGlobals).Always (CleanCloses successorGlobals) closeWhenDelivered := by
  have hends : (relay successorGlobals).ends closeWhenDelivered (fun _ => true) = true := by
    decide
  obtain ⟨s, hr, -⟩ := Machine.runs_of_ends hends
  exact ⟨.ok s, hr, (clean_closes_iff hr).mpr (Machine.along_of_ends (by decide))⟩

end Lightsocks.Relay
