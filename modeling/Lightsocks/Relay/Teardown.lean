import Lightsocks.Relay.Stream

/-!
# Teardown

`proxy_event_cb` frees both ends of a pair, and the filter frees the server socket under it.
No run frees a bufferevent twice or follows a pointer to one that has been freed, and an
event about one connection leaves every other as it was.

What can be left behind is a connection that no event will close any more: its connect could
not be begun, or the loop was left before an EOF or an error was reported on it.
`no_orphans_iff` says that these are the only ways.
-/

namespace Lightsocks.Relay

open Lightsocks.Lib

variable {g : Globals}

/-- The bufferevents of a connection are freed at most once, and together. -/
def FreedTogether (s : State) (c : Conn) : Prop :=
  ∃ src dst filter, s.bevs[c.src]? = some src ∧ s.bevs[c.dst]? = some dst ∧
    s.bevs[c.filter]? = some filter ∧
    src.freed ≤ 1 ∧ dst.freed = src.freed ∧ filter.freed = src.freed

theorem HeapInv.freedTogether {s : State} (hI : HeapInv g s) {c : Conn} (hc : c ∈ s.conns) :
    FreedTogether s c := by
  obtain ⟨σ, hσ | hσ⟩ := hI.session c hc
  · exact ⟨_, _, _, hσ.src, hσ.dst, hσ.filter, Nat.zero_le 1, rfl, rfl⟩
  · exact ⟨_, _, _, hσ.src, hσ.dst, hσ.filter, Nat.le_refl 1, rfl, rfl⟩

/-- A step about another connection, or about none, changes nothing about `c`. -/
theorem StepCase.isolated {s s' : State} {e : Event} (h : StepCase g s e (.ok s'))
    (hI : HeapInv g s) {c : Conn} (hc : c ∈ s.conns)
    (hother : ∀ p, e.target = some p → p ∉ c.ptrs) :
    ∀ p ∈ c.ptrs, s'.bevs[p]? = s.bevs[p]? := by
  cases h with
  | accept h => exact fun p hp => h.others p (hI.ptr_lt hc hp)
  | exit => exact fun _ _ => rfl
  | @live _ _ c' p σ hc' ht hp hσ h =>
    have hne : c ≠ c' := fun h => hother p ht (h ▸ hp)
    cases h with
    | step _ _ h => exact h.frame.other hI hc' hc hne
    | close _ h => exact h.frame.other hI hc' hc hne

/-- The only fault of a step is a byte outside the cipher's table. -/
theorem StepCase.fault {s : State} {e : Event} {f : Fault} (h : StepCase g s e (.error f)) :
    ∃ v, f = .lookup v := by
  cases h with
  | live _ _ _ _ h =>
    cases h with
    | lookup _ v => exact ⟨v, rfl⟩

/-- Teardown is exactly-once and isolated. -/
theorem teardown_once_and_isolated {es : List Event} {r : Except Fault State}
    (h : (relay g).Runs es r) :
    (∀ f, r = .error f → ∃ v, f = .lookup v) ∧
    (∀ s, r = .ok s → ∀ c ∈ s.conns, FreedTogether s c) ∧
    (∀ pre e s s', es = pre ++ [e] → (relay g).Runs pre (.ok s) → r = .ok s' →
      ∀ c ∈ s.conns, (∀ p, e.target = some p → p ∉ c.ptrs) →
        ∀ p ∈ c.ptrs, s'.bevs[p]? = s.bevs[p]?) := by
  refine ⟨?_, ?_, ?_⟩
  · rintro f rfl
    rcases List.eq_nil_or_concat es with rfl | ⟨pre, e, rfl⟩
    · cases h.eq_init
    · rw [List.concat_eq_append] at h
      obtain ⟨s, hs, he, hf⟩ := h.last
      have hcase := step_cases (inv_of_runs hs) he
      rw [show exec g s e = .error f from hf.symm] at hcase
      exact hcase.fault
  · rintro s rfl c hc
    exact (inv_of_runs h).freedTogether hc
  · rintro pre e s s' rfl hs rfl c hc hother
    obtain ⟨s₀, hs₀, he, hf⟩ := h.last
    cases hs.unique hs₀
    have hcase := step_cases (inv_of_runs hs) he
    rw [show exec g s e = .ok s' from hf.symm] at hcase
    exact hcase.isolated (inv_of_runs hs) hc hother

/-- Two connections; the server of the first reports an error and EOF at once, then the
client of the second closes. -/
def twoTeardowns : List Event :=
  [.accept true, .accept true, .connected 1, .arrive 0 [7], .read 0, .event 1 0x30,
    .event 3 0x10]

/-- Both are freed once, and the second teardown leaves the first connection as it was. -/
theorem teardown_of_two :
    ∃ s s', (relay successorGlobals).Runs (twoTeardowns.take 6) (.ok s) ∧
      (relay successorGlobals).Runs twoTeardowns (.ok s') ∧
      (∀ c ∈ s'.conns, FreedTogether s' c) ∧ s'.bevs.all (fun b => b.freed == 1) = true ∧
      ⟨0, 1, 2⟩ ∈ s.conns ∧ ∀ p ∈ Conn.ptrs ⟨0, 1, 2⟩, s'.bevs[p]? = s.bevs[p]? := by
  have hends : (relay successorGlobals).ends (twoTeardowns.take 6)
      (fun s => decide (⟨0, 1, 2⟩ ∈ s.conns)) = true := by decide
  have hends' : (relay successorGlobals).ends twoTeardowns
      (fun s => s.bevs.all (fun b => b.freed == 1)) = true := by decide
  obtain ⟨s, hr, hc⟩ := Machine.runs_of_ends hends
  obtain ⟨s', hr', hfreed⟩ := Machine.runs_of_ends hends'
  obtain ⟨-, htogether, hisolated⟩ := teardown_once_and_isolated hr'
  have hc := of_decide_eq_true hc
  refine ⟨s, s', hr, hr', htogether s' rfl, hfreed, hc, ?_⟩
  apply hisolated (twoTeardowns.take 6) (.event 3 0x10) s s' rfl hr rfl ⟨0, 1, 2⟩ hc
  rintro p ⟨⟩
  decide

/-! ## Orphans -/

/-- All three bufferevents of `c` have been freed. -/
def State.Freed (s : State) (c : Conn) : Prop :=
  ∀ p ∈ c.ptrs, ∃ b, s.bevs[p]? = some b ∧ b.freed ≠ 0

/-- The client of `c` is paired with a server socket that is connecting or connected. -/
def State.Paired (s : State) (c : Conn) : Prop :=
  ∃ src dst filter, s.bevs[c.src]? = some src ∧ s.bevs[c.dst]? = some dst ∧
    s.bevs[c.filter]? = some filter ∧
    src.freed = 0 ∧ dst.freed = 0 ∧ filter.freed = 0 ∧
    src.cbarg = some c.filter ∧ filter.cbarg = some c.src ∧ filter.ops = .filter c.dst ∧
    (dst.ops = .socket .connecting ∨ dst.ops = .socket .connected)

/-- No end of a connection is orphaned, and none is left once the server has returned. -/
def NoOrphans (s : State) : Prop :=
  (∀ c ∈ s.conns, s.Paired c ∨ s.Freed c) ∧ (s.returned = true → ∀ c ∈ s.conns, s.Freed c)

/-- The steps that leave no orphan, after the events `es`: a connection is accepted with a
connect that can be begun, and the loop is left when an EOF or an error has been reported on
every accepted connection. -/
def KeepsPairs (es : List Event) (s : State) : Event → Prop
  | .accept started => started = true
  | .exit => ∀ c ∈ s.conns, ClosedBy es c
  | _ => True

instance (es : List Event) (c : Conn) : Decidable (ClosedBy es c) :=
  inferInstanceAs (Decidable (∃ e ∈ es, e.closes = true ∧ ∃ p ∈ c.ptrs, e.target = some p))

instance (es : List Event) (s : State) (e : Event) : Decidable (KeepsPairs es s e) :=
  match e with
  | .accept started => inferInstanceAs (Decidable (started = true))
  | .exit => inferInstanceAs (Decidable (∀ c ∈ s.conns, ClosedBy es c))
  | .arrive _ _ | .drain _ _ | .connected _ | .read _ | .output _ | .event _ _ => isTrue trivial

theorem State.CarriesFreed.freed {s : State} {c : Conn} {σ : Session g.encryptor}
    (h : s.CarriesFreed c σ) : s.Freed c := by
  intro p hp
  have hp : p = c.src ∨ p = c.dst ∨ p = c.filter := by simpa [Conn.ptrs] using hp
  rcases hp with rfl | rfl | rfl
  · exact ⟨_, h.src, Nat.succ_ne_zero _⟩
  · exact ⟨_, h.dst, Nat.succ_ne_zero _⟩
  · exact ⟨_, h.filter, Nat.succ_ne_zero _⟩

theorem State.Carries.not_freed {s : State} {c : Conn} {σ : Session g.encryptor}
    (h : s.Carries c σ) : ¬ s.Freed c := by
  intro hf
  obtain ⟨b, hb, hne⟩ := hf c.src c.src_mem
  rw [h.src] at hb
  cases hb
  exact hne rfl

/-- What the events say about a connection is what its bufferevents say. -/
theorem Phase.freed_iff {es : List Event} {s : State} {c : Conn} (h : Phase g es s c) :
    s.Freed c ↔ ClosedBy es c := by
  obtain ⟨hcl, σ, hσ⟩ | ⟨hcl, σ, hσ⟩ := h
  · exact iff_of_true hσ.freed hcl
  · exact iff_of_false hσ.not_freed hcl

/-- A connection that is alive is paired unless its connect could not be begun. -/
theorem State.Carries.paired_iff {s : State} {c : Conn} {σ : Session g.encryptor}
    (h : s.Carries c σ) : s.Paired c ↔ σ.server ≠ .unconnected := by
  constructor
  · rintro ⟨src, dst, filter, -, hdst, -, -, -, -, -, -, -, hops⟩ hun
    rw [h.dst] at hdst
    cases hdst
    simp [Session.pair, hun] at hops
  · intro hne
    refine ⟨_, _, _, h.src, h.dst, h.filter, rfl, rfl, rfl, rfl, rfl, rfl, ?_⟩
    cases hserver : σ.server with
    | unconnected => exact absurd hserver hne
    | connecting => exact .inl (by rw [← hserver]; rfl)
    | connected => exact .inr (by rw [← hserver]; rfl)

theorem State.Freed.of_others {s s' : State} {c : Conn} (h : s.Freed c)
    (hoth : ∀ p ∈ c.ptrs, s'.bevs[p]? = s.bevs[p]?) : s'.Freed c := by
  intro p hp
  rw [hoth p hp]
  exact h p hp

theorem State.Paired.of_others {s s' : State} {c : Conn} (h : s.Paired c)
    (hoth : ∀ p ∈ c.ptrs, s'.bevs[p]? = s.bevs[p]?) : s'.Paired c := by
  simpa only [State.Paired, hoth _ c.src_mem, hoth _ c.dst_mem, hoth _ c.filter_mem] using h

theorem or_of_others {s s' : State} {c : Conn} (h : s.Paired c ∨ s.Freed c)
    (hoth : ∀ p ∈ c.ptrs, s'.bevs[p]? = s.bevs[p]?) : s'.Paired c ∨ s'.Freed c :=
  h.imp (fun h => h.of_others hoth) (fun h => h.of_others hoth)

/-- A step leaves no orphan exactly if it is not one of the two that do. -/
theorem StepCase.noOrphans_iff {es : List Event} {s : State} {e : Event}
    {r : Except Fault State} (h : StepCase g s e r) (hI : HeapInv g s)
    (hph : ∀ c ∈ s.conns, Phase g es s c) (hret : s.returned = false) (hs : NoOrphans s) :
    (∀ s', r = .ok s' → NoOrphans s') ↔ KeepsPairs es s e := by
  cases h with
  | @accept started s' h =>
    have hmem : s.next ∈ s'.conns := by simp [h.conns]
    constructor
    · intro hno
      rcases (hno s' rfl).1 s.next hmem with hp | hf
      · have hserver := (State.Carries.paired_iff h.carries).mp hp
        cases started with
        | false => exact absurd rfl hserver
        | true => rfl
      · exact absurd hf h.carries.not_freed
    · rintro rfl s'' ⟨⟩
      refine ⟨fun c hc => ?_, fun hr => ?_⟩
      · rw [h.conns, List.mem_append, List.mem_singleton] at hc
        rcases hc with hc | rfl
        · exact or_of_others (hs.1 c hc) (fun p hp => h.others p (hI.ptr_lt hc hp))
        · exact .inl ((State.Carries.paired_iff h.carries).mpr (by simp [Session.start]))
      · rw [h.returned, hret] at hr
        cases hr
  | exit =>
    constructor
    · intro hno c hc
      exact (hph c hc).freed_iff.mp ((hno _ rfl).2 rfl c hc)
    · rintro hclosed s' ⟨⟩
      have hf : ∀ c ∈ s.conns, s.Freed c := fun c hc => (hph c hc).freed_iff.mpr (hclosed c hc)
      exact ⟨fun c hc => .inr (hf c hc), fun _ => hf⟩
  | @live _ _ c p σ hc ht hp hσ h =>
    have hkeep : KeepsPairs es s e := by
      cases e <;> trivial
    refine iff_of_true ?_ hkeep
    rintro s' rfl
    have hback : ∀ x, Updated c s x s' → (s'.Paired c ∨ s'.Freed c) → NoOrphans s' := by
      intro x hx hcs
      refine ⟨fun c' hc' => ?_, fun hr => ?_⟩
      · rw [hx.frame.conns] at hc'
        by_cases hcc : c' = c
        · rw [hcc]
          exact hcs
        · exact or_of_others (hs.1 c' hc') (hx.frame.other hI hc hc' hcc)
      · rw [hx.frame.returned, hret] at hr
        cases hr
    cases h with
    | @step σ' _ he hstep h =>
      have hpaired : s.Paired c := (hs.1 c hc).resolve_right hσ.not_freed
      have hserver := (State.Carries.paired_iff hσ).mp hpaired
      have hcar : s'.Carries c σ' := h.slots
      exact hback _ h (.inl (hcar.paired_iff.mpr
        (mt hstep.server_unconnected_iff.mp hserver)))
    | close he h =>
      have hcar : s'.CarriesFreed c σ := h.slots
      exact hback _ h (.inr hcar.freed)

theorem noOrphans_empty : NoOrphans .empty := by
  constructor <;> simp [State.empty]

/-- A run leaves no orphan in any of its states exactly if every connect could be begun, and
an EOF or an error had been reported on every accepted connection when the loop was left. -/
theorem no_orphans_iff {es : List Event} {r : Except Fault State} (h : (relay g).Runs es r) :
    (relay g).Always (fun _ s => NoOrphans s) es ↔ (relay g).Along KeepsPairs es := by
  apply h.always_iff_along
  · exact noOrphans_empty
  · intro es s e hs he hno
    have hret : s.returned = false := by
      simpa using (Bool.and_eq_true_iff.mp he).1
    exact (step_cases (inv_of_runs hs) he).noOrphans_iff (inv_of_runs hs) (phase_of_runs hs) hret
      hno

/-- The server of the first client closes, the second client reports an error, and the loop is
left. -/
def closedBeforeExit : List Event :=
  [.accept true, .accept true, .connected 1, .event 1 0x11, .event 3 0x21, .exit]

theorem no_orphans_closed_before_exit :
    ∃ r, (relay successorGlobals).Runs closedBeforeExit r ∧
      (relay successorGlobals).Always (fun _ s => NoOrphans s) closedBeforeExit := by
  have hends : (relay successorGlobals).ends closedBeforeExit (fun _ => true) = true := by decide
  obtain ⟨s, hr, -⟩ := Machine.runs_of_ends hends
  exact ⟨.ok s, hr, (no_orphans_iff hr).mpr (Machine.along_of_ends (by decide))⟩

/-- The connect of the first accepted client fails at once. -/
theorem orphan_of_failed_connect :
    ¬ ∀ es r, (relay successorGlobals).Runs es r →
      (relay successorGlobals).Always (fun _ s => NoOrphans s) es := by
  intro hall
  have he : enabled .empty (.accept false) = true := by decide
  have hiff := (step_cases (g := successorGlobals) inv_empty he).noOrphans_iff inv_empty
    (phase_of_runs .nil) rfl noOrphans_empty
  have hkeep : KeepsPairs [] .empty (.accept false) := by
    refine hiff.mp (fun s' hs' => ?_)
    have hrun : (relay successorGlobals).Runs ([] ++ [.accept false]) (.ok s') := by
      rw [← hs']
      exact .snoc _ .nil he
    exact hall _ _ hrun _ s' (List.prefix_refl _) hrun
  cases hkeep

end Lightsocks.Relay
