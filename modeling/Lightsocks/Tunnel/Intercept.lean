import Lightsocks.Tunnel.Engine

/-!
# The listener of every run

lwIP is never shut down, so a run starts from the statics that the runs before it left. Each
run adds one interface and removes it, and `netif_num` moves on. `lwip_init_job_hadler` binds
its listener to the name `ho0`, though, and this is the name of the interface only if
`netif_add` has given it the number 0: in every 255th run.
-/

namespace Lightsocks.Tunnel

open Lightsocks.Lib

def Event.isLwipInit : Event → Bool
  | .dispatch (.lwipInit _ _) => true
  | _ => false

/-- How many runs have got as far as `netif_add`. -/
def lwipInits (es : List Event) : Nat := es.countP Event.isLwipInit

/-- In the loop, the listener of the run is found for every SYN over IPv4 that the interface
receives, and its accept callback is the tunnel's. -/
def Intercepts (s : State) : Prop :=
  s.pc.inLoop = true → ∀ l, s.listener = some l → ∀ seg : Segment, seg.dest.type = .v4 →
    ∃ pcb, tcpInputListener s.theNetif seg s.lwip.listenPcbs none = some pcb ∧
      pcb.ptr = l ∧ pcb.accept = .listenerAcceptFunc

/-! ## The statics along a run -/

/-- The statics belong to a run in progress. -/
def Pc.usesLwip : Pc → Bool
  | .cleanup .loopExit => true
  | pc => pc.inLoop

theorem Pc.usesLwip_of_inLoop {pc : Pc} (h : pc.inLoop = true) : pc.usesLwip = true := by
  cases pc <;> first | rfl | cases h

/-- The statics of lwIP after `n` calls of `netif_add`. Outside of the loop `haveNetif` and
`listener` may be left from the run before. -/
structure State.Coherent (s : State) (n : Nat) : Prop where
  clear : s.pc.usesLwip = false → s.lwip.Clear n
  down : s.pc.usesLwip = true → s.haveNetif = false → s.lwip.Clear n ∧ s.listener = none
  up : s.pc.usesLwip = true → s.haveNetif = true →
    ∃ m, n = m + 1 ∧ s.lwip.Up m s.theNetif s.listener
  job : s.pc.usesLwip = true → s.lwipJob = true → s.haveNetif = false

/-- A step that leaves lwIP alone. -/
theorem State.Coherent.frame {s s' : State} {n : Nat} (h : s.Coherent n)
    (hlwip : s'.lwip = s.lwip) (hnetif : s'.theNetif = s.theNetif)
    (hhave : s'.haveNetif = s.haveNetif) (hl : s'.listener = s.listener)
    (hjob : s'.lwipJob = s.lwipJob) (hpc : s'.pc.usesLwip = s.pc.usesLwip) :
    s'.Coherent n := by
  constructor <;> rw [hpc]
  · rw [hlwip]
    exact h.clear
  · rw [hlwip, hhave, hl]
    exact h.down
  · rw [hlwip, hhave, hl, hnetif]
    exact h.up
  · rw [hhave, hjob]
    exact h.job

/-- Outside of the loop lwIP has nothing registered. -/
theorem State.Coherent.outside {s : State} {n : Nat} (h : s.lwip.Clear n)
    (hpc : s.pc.usesLwip = false) : s.Coherent n := by
  constructor <;> intro hu
  · exact h
  all_goals
    rw [hpc] at hu
    cases hu

@[simp]
theorem SetupStep.effect_lwip (s : State) (step : SetupStep) :
    (step.effect s).lwip = s.lwip := by
  cases step <;> rfl

@[simp]
theorem SetupStep.failEffect_lwip (s : State) (step : SetupStep) :
    (step.failEffect s).lwip = s.lwip := by
  cases step <;> rfl

theorem SetupStep.next_usesLwip (s : State) {step : SetupStep} (h : step ≠ .loopState) :
    (step.next s).usesLwip = false := by
  cases step with
  | loopState => exact absurd rfl h
  | udpMode =>
    simp only [SetupStep.next]
    split <;> rfl
  | _ => rfl

/-- Input leaves the statics as they are. -/
theorem tcpInput_coherent {s : State} {n : Nat} (h : s.Coherent n)
    (hu : s.pc.usesLwip = true) (seg : Segment) :
    (tcpInput s.lwip s.theNetif seg).1 = s.lwip := by
  cases hn : s.haveNetif with
  | false =>
    obtain ⟨hclear, -⟩ := h.down hu hn
    simp [tcpInput, hclear.listenPcbs, tcpInputListener]
  | true =>
    obtain ⟨m, -, hup⟩ := h.up hu hn
    exact hup.tcpInput seg

theorem Event.isLwipInit_eq_false {d : Dispatch} (h : ∀ ok ok', d ≠ .lwipInit ok ok') :
    (Event.dispatch d).isLwipInit = false := by
  cases d with
  | lwipInit ok ok' => exact absurd rfl (h ok ok')
  | _ => rfl

theorem dispatchInput_eq {s : State} {n : Nat} (h : s.Coherent n) (hu : s.pc.usesLwip = true)
    (d : Dispatch) : d.input s = s.lwip := by
  cases d with
  | deviceRead syn =>
    cases syn with
    | none => rfl
    | some seg => exact tcpInput_coherent h hu seg
  | _ => rfl

theorem dispatch_lwipInit_ok {s : State} {n : Nat} (h : s.Coherent n)
    (hu : s.pc.usesLwip = true) (hq : s.quitting = false) (hhave : s.haveNetif = false) :
    ∃ s', dispatch s (.lwipInit true true) = .ok s' ∧ s'.pc.inLoop = true ∧
      s'.listener.isSome = true := by
  obtain ⟨hclear, hl⟩ := h.down hu hhave
  obtain ⟨-, hsome⟩ := lwipInitJobHandler_up hclear s.theNetif true true
  refine ⟨_, if_neg (by simp [hq, hhave, hl]), ?_, hsome⟩
  dsimp only
  rw [hsome]
  rfl

theorem Label.effect_lwip (s : State) {label : Label} (h : label ≠ .loopExit) :
    (label.effect s).lwip = s.lwip := by
  cases label <;> first | rfl | exact absurd rfl h

/-- The cleanup takes back what the loop registered. -/
theorem cleanup_clear {s : State} {n : Nat} {label : Label} (h : s.Coherent n)
    (hpc : s.pc = .cleanup label) : (label.effect s).lwip.Clear n := by
  by_cases hlabel : label = .loopExit
  · subst hlabel
    have hu : s.pc.usesLwip = true := by rw [hpc]; rfl
    change (lwipCleanup s.lwip s.theNetif s.haveNetif s.listener).Clear n
    cases hn : s.haveNetif with
    | false =>
      obtain ⟨hclear, hl⟩ := h.down hu hn
      rw [hl]
      exact hclear
    | true =>
      obtain ⟨m, rfl, hup⟩ := h.up hu hn
      exact lwipCleanup_clear hup
  · rw [Label.effect_lwip s hlabel]
    apply h.clear
    rw [hpc]
    cases label <;> first | rfl | exact absurd rfl hlabel

/-! ## Steps -/

theorem lwipInits_snoc (es : List Event) (e : Event) :
    lwipInits (es ++ [e]) = lwipInits es + if e.isLwipInit then 1 else 0 := by
  simp [lwipInits, List.countP_append, List.countP_singleton]

theorem Step.coherent {s s' : State} {n : Nat} {e : Event} (hstep : Step s e s')
    (h : s.Coherent n) : s'.Coherent (n + if e.isLwipInit then 1 else 0) := by
  cases hstep with
  | start options hpc => exact h.frame rfl rfl rfl rfl rfl (by rw [hpc]; rfl)
  | @setup step hpc =>
    have hclear : s.lwip.Clear n := h.clear (by rw [hpc]; rfl)
    by_cases hstep : step = .loopState
    · -- the loop is entered without an interface and without a listener
      subst hstep
      refine ⟨fun hu => ?_, fun _ _ => ⟨hclear, rfl⟩, fun _ hu => ?_, fun _ _ => rfl⟩
      · cases hu
      · cases hu
    · exact .outside (by simpa [Event.isLwipInit] using hclear) (SetupStep.next_usesLwip s hstep)
  | @setupFails step label hpc _ hlabel =>
    have hclear : s.lwip.Clear n := h.clear (by rw [hpc]; rfl)
    refine .outside (by simpa [Event.isLwipInit] using hclear) ?_
    cases step <;> cases hlabel <;> rfl
  | exitLoop hpc => exact h.frame rfl rfl rfl rfl rfl (by rw [hpc]; rfl)
  | iterate hpc => exact h.frame rfl rfl rfl rfl rfl (by rw [hpc]; rfl)
  | @lwipInit newOk listenOk _ hpc _ _ hhave _ hr =>
    obtain ⟨hclear, -⟩ := h.down (by rw [hpc]; rfl) hhave
    obtain ⟨hup, -⟩ := lwipInitJobHandler_up hclear s.theNetif newOk listenOk
    rw [← hr] at hup
    refine ⟨fun hu => ?_, fun _ hn => ?_, fun _ _ => ⟨n, rfl, hup⟩, fun _ hj => ?_⟩
    · dsimp only at hu
      split at hu <;> cases hu
    · cases hn
    · cases hj
  | @handle d hpc hd =>
    rw [Event.isLwipInit_eq_false hd]
    have hu : s.pc.usesLwip = true := by rw [hpc]; rfl
    refine h.frame (dispatchInput_eq h hu d) rfl rfl rfl rfl ?_
    rw [hu]
    cases d <;> rfl
  | waitForEvents hpc => exact h.frame rfl rfl rfl rfl rfl (by rw [hpc]; rfl)
  | lwipInitFail hpc =>
    refine h.frame rfl rfl rfl rfl rfl ?_
    rw [hpc]
    dsimp only
    split <;> rfl
  | terminate pc hpc hpc' =>
    refine h.frame rfl rfl rfl rfl rfl ?_
    rw [hpc]
    exact Pc.usesLwip_of_inLoop hpc'.1
  | @cleanup label held hpc =>
    refine .outside (cleanup_clear h hpc) ?_
    cases label <;> rfl
  | stop => exact h.frame rfl rfl rfl rfl rfl rfl
  | stopStep _ => exact h.frame rfl rfl rfl rfl rfl rfl

theorem coherent_of_runs {es : List Event} {s : State} (h : tunnel.Runs es (.ok s)) :
    s.Coherent (lwipInits es) := by
  refine Machine.Runs.invariant (I := fun es s => s.Coherent (lwipInits es)) ?_ ?_ h
  · exact .outside Lwip.clear_initial rfl
  · intro es s e s' _ hI he hs'
    rw [lwipInits_snoc]
    exact (step_of_exec he hs').coherent hI

/-- Where a listener of the run comes from. -/
theorem Step.listener {s s' : State} {n : Nat} {e : Event} (hstep : Step s e s')
    (h : s.Coherent n) (hloop : s'.pc.inLoop = true) (hl : s'.listener.isSome = true) :
    (e = .dispatch (.lwipInit true true) ∧ s.quitting = false) ∨
      (s.pc.inLoop = true ∧ s.listener.isSome = true ∧ e.isLwipInit = false) := by
  cases hstep with
  | start | setupFails | exitLoop => cases hloop
  | @setup step hpc =>
    by_cases hstep : step = .loopState
    · subst hstep
      cases hl
    · have := SetupStep.next_usesLwip s hstep
      rw [Pc.usesLwip_of_inLoop hloop] at this
      cases this
  | @lwipInit newOk listenOk _ hpc _ hquitting hhave _ hr =>
    obtain ⟨hclear, -⟩ := h.down (by rw [hpc]; rfl) hhave
    obtain ⟨-, hsome⟩ := lwipInitJobHandler_up hclear s.theNetif newOk listenOk
    rw [← hr] at hsome
    obtain ⟨rfl, rfl⟩ := Bool.and_eq_true_iff.mp (hsome.symm.trans hl)
    exact .inl ⟨rfl, hquitting⟩
  | handle hpc hd => exact .inr ⟨by rw [hpc]; rfl, hl, Event.isLwipInit_eq_false hd⟩
  | iterate hpc | waitForEvents hpc | lwipInitFail hpc | terminate _ hpc =>
    exact .inr ⟨by rw [hpc]; rfl, hl, rfl⟩
  | @cleanup label => cases label <;> cases hloop
  | stop | stopStep => exact .inr ⟨hloop, hl, rfl⟩

/-! ## Runs -/

/-- The listener of the run after `n - 1` others. -/
theorem intercepts_iff_first {s : State} {n : Nat} (h : s.Coherent n) :
    Intercepts s ↔ (s.pc.inLoop = true → s.listener.isSome = true → n % 255 = 1) := by
  by_cases hloop : s.pc.inLoop = true
  · cases hl : s.listener with
    | none => exact iff_of_true (fun _ l hl' => by rw [hl] at hl'; cases hl') (fun _ h => nomatch h)
    | some l =>
      have hu := Pc.usesLwip_of_inLoop hloop
      have hhave : s.haveNetif = true := by
        by_contra hn
        rw [(h.down hu (by simpa using hn)).2] at hl
        cases hl
      obtain ⟨m, rfl, hup⟩ := h.up hu hhave
      rw [hl] at hup
      have hlist : s.lwip.listenPcbs = [listenPcb l] := hup.listenPcbs
      have hmod : (m + 1) % 255 = 1 ↔ m % 255 = 0 := by omega
      simp only [Option.isSome_some, hloop, forall_const, hmod]
      constructor
      · intro hint
        obtain ⟨pcb, hpcb, -⟩ := hint hloop l hl ⟨⟨.v4, 0⟩, 0⟩ rfl
        rw [hlist, tcpInputListener_listenPcb] at hpcb
        split at hpcb
        · rename_i hnamed
          rw [← netifIsNamed_iff, ← hup.netif_eq]
          exact hnamed.2
        · cases hpcb
      · intro hm _ l' hl' seg hseg
        rw [hl] at hl'
        cases hl'
        refine ⟨listenPcb l, ?_, rfl, rfl⟩
        rw [hlist]
        exact (tcpInputListener_up hup.netif_eq hseg).mpr hm
  · exact iff_of_true (fun h => absurd h hloop) (fun h => absurd h hloop)

/-- Every run intercepts exactly if each `lwip_init_job_hadler` that makes a listener was
preceded by a multiple of 255 others. -/
theorem intercepts_iff {es : List Event} {r : Except Fault State} (h : tunnel.Runs es r) :
    tunnel.Always (fun _ s => Intercepts s) es ↔
      tunnel.Along (fun es s e => e = .dispatch (.lwipInit true true) → s.quitting = false →
        lwipInits es % 255 = 0) es := by
  apply h.always_iff_along
  · intro hloop
    cases hloop
  · intro es s e hs he hint
    have hc := coherent_of_runs hs
    constructor
    · rintro hgood rfl hq
      obtain ⟨hpc, hjob⟩ := Bool.and_eq_true_iff.mp he
      have hpc : s.pc = .iteration := eq_of_beq hpc
      have hu : s.pc.usesLwip = true := by rw [hpc]; rfl
      have hhave := hc.job hu hjob
      obtain ⟨s', hs', hloop, hl⟩ := dispatch_lwipInit_ok hc hu hq hhave
      have hstep : Step s (.dispatch (.lwipInit true true)) s' := step_of_exec he hs'
      have hc' := hstep.coherent hc
      have hn := (intercepts_iff_first hc').mp (hgood s' hs') hloop hl
      simp only [Event.isLwipInit, if_true] at hn
      omega
    · intro hC s' hs'
      have hstep := step_of_exec he hs'
      rw [intercepts_iff_first (hstep.coherent hc)]
      intro hloop hl
      rcases hstep.listener hc hloop hl with ⟨rfl, hquitting⟩ | ⟨hloop', hl', hd⟩
      · have hn := hC rfl hquitting
        simp only [Event.isLwipInit, if_true]
        omega
      · rw [hd]
        exact (intercepts_iff_first hc).mp hint hloop' hl'

/-- The setup of a run that has a udpgw server, up to its loop. -/
def upToLoop : List Event :=
  [.start ⟨3, 1500, some "127.0.0.1:7300"⟩, .setup .blogInit true, .setup .clearPassword true,
    .setup .networkInit true, .setup .processArguments true, .setup .timeInit true,
    .setup .reactorInit true, .setup .clearQuitting true, .setup .signalInit true,
    .setup .tapInit true, .setup .deviceReadInterface true, .setup .deviceReadBuffer true,
    .setup .udpMode true, .setup .udpgwMtu true, .setup .udpgwClient true,
    .setup .lwipInitJob true, .setup .deviceWriteBuf true, .setup .tcpTimer true,
    .setup .loopState true]

/-- The `i`-th call of `stopTun2socks`. -/
def stopSteps (i : Nat) : List Event :=
  [.stopStep i .assertNotQuitting, .stopStep i .log, .stopStep i .setQuitting,
    .stopStep i .reactorQuit]

/-- The loop is left, and the run returns. -/
def leave : List Event :=
  [.checkExiting, .cleanup .loopExit, .cleanup .fail5, .cleanup .fail4a, .cleanup .fail4,
    .cleanup .fail3, .cleanup .fail2, .cleanup .fail1, .cleanup .fail0]

/-- A run that makes its listener. -/
def listening : List Event := upToLoop ++ [.checkExiting, .dispatch (.lwipInit true true)]

theorem first_run_intercepts :
    ∃ r, tunnel.Runs listening r ∧
      (tunnel.Always (fun _ s => Intercepts s) listening ↔
        tunnel.Along (fun es s e => e = .dispatch (.lwipInit true true) → s.quitting = false →
          lwipInits es % 255 = 0) listening) := by
  have hends : tunnel.ends listening (fun _ => true) = true := by decide
  obtain ⟨s, hr, -⟩ := Machine.runs_of_ends hends
  exact ⟨.ok s, hr, intercepts_iff hr⟩

/-- The run after one that was stopped. -/
def listeningAgain : List Event := listening ++ [.stop] ++ stopSteps 0 ++ leave ++ listening

/-- The second run has the interface `ho1`, and a SYN to port 80 does not find its listener. -/
theorem second_run_misses :
    ∃ s, tunnel.Runs listeningAgain (.ok s) ∧ ¬ Intercepts s := by
  have hends : tunnel.ends listeningAgain (fun s => s.pc.inLoop && s.listener == some 3 &&
      tcpInputListener s.theNetif ⟨⟨.v4, 0x01020304⟩, 80⟩ s.lwip.listenPcbs none == none) =
      true := by decide +kernel
  obtain ⟨s, hr, hs⟩ := Machine.runs_of_ends hends
  obtain ⟨hs, hmiss⟩ := Bool.and_eq_true_iff.mp hs
  obtain ⟨hloop, hl⟩ := Bool.and_eq_true_iff.mp hs
  refine ⟨s, hr, fun hint => ?_⟩
  obtain ⟨pcb, hpcb, -⟩ := hint hloop 3 (eq_of_beq hl) ⟨⟨.v4, 0x01020304⟩, 80⟩ rfl
  rw [eq_of_beq hmiss] at hpcb
  cases hpcb

end Lightsocks.Tunnel
