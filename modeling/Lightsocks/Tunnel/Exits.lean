import Lightsocks.Tunnel.Intercept

/-!
# The exits of `startTun2socks`

What a run holds is a stack that depends only on where the run is (`Pc.holds`), so every
`goto` leads to the label that frees what is held there, and each guard of a module is down
again before the step that asserts it (`State.Orderly`). No step of the setup or of the
cleanup faults, whichever steps have failed before.
-/

namespace Lightsocks.Tunnel

open Lightsocks.Lib

/-! ## What is held where -/

/-- The client of the UDP back end, if there is one. -/
def UdpMode.client : UdpMode → List Resource
  | .udpgw => [.udpgwClient]
  | .none => []

/-- What is held at a label, the latest first. -/
def Label.holds (udpMode : UdpMode) : Label → List Resource
  | .loopExit => .tcpTimer :: .deviceWriteBuf :: fail5
  | .fail5 => fail5
  | .fail4a => .deviceReadBuffer :: fail4
  | .fail4 => fail4
  | .fail3 => [.signal, .reactor]
  | .fail2 => [.reactor]
  | .fail1 | .fail0 => []
where
  fail4 := [.deviceReadInterface, .device, .signal, .reactor]
  fail5 := .lwipInitJob :: udpMode.client ++ .deviceReadBuffer :: fail4

/-- What is held before a step of the setup. -/
def SetupStep.holds (udpMode : UdpMode) : SetupStep → List Resource
  | .clearQuitting | .signalInit => Label.fail2.holds udpMode
  | .tapInit => Label.fail3.holds udpMode
  | .deviceReadInterface => .device :: Label.fail3.holds udpMode
  | .deviceReadBuffer => Label.fail4.holds udpMode
  | .udpMode | .udpgwMtu | .udpgwClient => Label.fail4a.holds udpMode
  | .lwipInitJob => udpMode.client ++ Label.fail4a.holds udpMode
  | .deviceWriteBuf => Label.fail5.holds udpMode
  | .tcpTimer => .deviceWriteBuf :: Label.fail5.holds udpMode
  | .loopState => Label.loopExit.holds udpMode
  | _ => []

def Pc.holds (udpMode : UdpMode) : Pc → List Resource
  | .idle => []
  | .setup step => step.holds udpMode
  | .cleanup label => label.holds udpMode
  | _ => Label.loopExit.holds udpMode

/-! ## The guards -/

/-- The run has not made this step yet. -/
def Pc.before (step : SetupStep) : Pc → Bool
  | .idle => true
  | .setup step' => decide (step'.ctorIdx ≤ step.ctorIdx)
  | _ => false

/-- Between two runs, and from `BLog_Free` on, there is no logger. -/
def Pc.noLogger : Pc → Bool
  | .idle | .setup .blogInit | .cleanup .fail0 => true
  | _ => false

/-- In the loop, and when it has just been left, everything is held. -/
theorem Pc.of_usesLwip {pc : Pc} (h : pc.usesLwip = true) :
    (∀ udpMode, pc.holds udpMode = Label.loopExit.holds udpMode) ∧
      (∀ step, pc.before step = false) ∧ pc.noLogger = false := by
  cases pc with
  | idle | setup step => cases h
  | cleanup label => cases label <;> first | exact ⟨fun _ => rfl, fun _ => rfl, rfl⟩ | cases h
  | _ => exact ⟨fun _ => rfl, fun _ => rfl, rfl⟩

structure State.Orderly (s : State) : Prop where
  held : s.held = s.pc.holds s.udpMode
  udpgw : s.pc = .setup .udpgwMtu ∨ s.pc = .setup .udpgwClient → s.udpMode = .udpgw
  logger : s.blogInitialized = !s.pc.noLogger
  password : s.passwordFileContents = false
  network : s.pc.before .networkInit = true → s.bnetworkInitialized = false
  time : s.pc.before .timeInit = true → s.btimeInitialized = false
  signal : s.pc.before .signalInit = true → s.bsignalInitialized = false
  signalHeld : .signal ∈ s.held → s.bsignalInitialized = true ∧ s.bsignalFinished = false

theorem State.orderly_initial : State.initial.Orderly where
  held := rfl
  udpgw h := by simp [State.initial] at h
  logger := rfl
  password := rfl
  network _ := rfl
  time _ := rfl
  signal _ := rfl
  signalHeld h := by cases h

/-! ## Setup -/

namespace SetupStep

variable {s : State} {step : SetupStep}

theorem holds_next (hheld : s.held = step.holds s.udpMode)
    (hudpgw : step = .udpgwMtu ∨ step = .udpgwClient → s.udpMode = .udpgw) :
    (step.effect s).held = (step.next s).holds (step.effect s).udpMode := by
  cases step with
  | udpMode =>
    simp only [next, effect]
    split <;> exact hheld
  | udpgwClient => simp [effect, next, hheld, hudpgw (.inr rfl), Pc.holds, holds, UdpMode.client]
  | reactorInit | signalInit | tapInit | deviceReadInterface | deviceReadBuffer | lwipInitJob
  | deviceWriteBuf | tcpTimer => exact congrArg (_ :: ·) hheld
  | _ => exact hheld

theorem udpgw_next (hudpgw : step = .udpgwMtu ∨ step = .udpgwClient → s.udpMode = .udpgw) :
    step.next s = .setup .udpgwMtu ∨ step.next s = .setup .udpgwClient →
      (step.effect s).udpMode = .udpgw := by
  cases step with
  | udpMode =>
    simp only [next, effect]
    split <;> simp
  | udpgwMtu => exact fun _ => hudpgw (.inl rfl)
  | _ => simp [next]

theorem next_cases (s : State) (step : SetupStep) :
    (∃ step', step.next s = .setup step' ∧ step.ctorIdx < step'.ctorIdx) ∨
      step.next s = .loopHead := by
  cases step with
  | udpMode =>
    simp only [next]
    split <;> exact .inl ⟨_, rfl, by decide⟩
  | loopState => exact .inr rfl
  | _ => exact .inl ⟨_, rfl, by decide⟩

/-- What has not been done before the next step has not been done before this one, nor by it. -/
theorem before_next {guard : SetupStep} (h : (step.next s).before guard = true) :
    (Pc.setup step).before guard = true ∧ step ≠ guard := by
  rcases next_cases s step with ⟨step', hnext, hlt⟩ | hnext
  · rw [hnext] at h
    have hle : step'.ctorIdx ≤ guard.ctorIdx := of_decide_eq_true h
    refine ⟨decide_eq_true (by omega), fun heq => ?_⟩
    rw [heq] at hlt
    omega
  · rw [hnext] at h
    cases h

theorem noLogger_next (s : State) (step : SetupStep) : (step.next s).noLogger = false := by
  rcases next_cases s step with ⟨step', hnext, hlt⟩ | hnext
  · rw [hnext]
    cases step' with
    | blogInit => exact absurd hlt (Nat.not_lt_zero _)
    | _ => rfl
  · rw [hnext]
    rfl

end SetupStep

@[simp]
theorem Label.effect_udpMode (s : State) (label : Label) :
    (label.effect s).udpMode = s.udpMode := by
  cases label <;> rfl

namespace State.Orderly

variable {s : State}

theorem setup (h : s.Orderly) {step : SetupStep} (hpc : s.pc = .setup step) :
    ({ step.effect s with pc := step.next s } : State).Orderly := by
  obtain ⟨hheld, hudpgw, hlogger, hpassword, hnetwork, htime, hsignal, hsignalHeld⟩ := h
  rw [hpc] at hheld hudpgw hlogger hnetwork htime hsignal
  have hudpgw' : step = .udpgwMtu ∨ step = .udpgwClient → s.udpMode = .udpgw := by
    simpa using hudpgw
  refine ⟨SetupStep.holds_next hheld hudpgw', SetupStep.udpgw_next hudpgw', ?_, ?_, fun hb => ?_,
    fun hb => ?_, fun hb => ?_, fun hmem => ?_⟩
  · dsimp only
    rw [SetupStep.noLogger_next]
    cases step <;> first | rfl | exact hlogger
  · cases step <;> first | rfl | exact hpassword
  · obtain ⟨hb, hne⟩ := SetupStep.before_next hb
    cases step <;> first | exact hnetwork hb | exact absurd rfl hne
  · obtain ⟨hb, hne⟩ := SetupStep.before_next hb
    cases step <;> first | exact htime hb | exact absurd rfl hne
  · obtain ⟨hb, hne⟩ := SetupStep.before_next hb
    cases step <;> first | exact hsignal hb | exact absurd rfl hne
  · cases step with
    | signalInit => exact ⟨rfl, rfl⟩
    | _ => exact hsignalHeld (by simpa [SetupStep.effect] using hmem)

theorem setupFails (h : s.Orderly) {step : SetupStep} {label : Label}
    (hpc : s.pc = .setup step) (hlabel : step.failLabel = some label) :
    ({ step.failEffect s with pc := .cleanup label } : State).Orderly := by
  obtain ⟨hheld, -, hlogger, hpassword, -, -, -, hsignalHeld⟩ := h
  rw [hpc] at hheld hlogger
  refine ⟨?_, fun hu => ?_, ?_, ?_, fun hb => ?_, fun hb => ?_, fun hb => ?_, ?_⟩
  · cases step <;> cases hlabel <;> exact hheld
  · simp at hu
  · cases step <;> cases hlabel <;> exact hlogger
  · cases step <;> exact hpassword
  · cases hb
  · cases hb
  · cases hb
  · cases step <;> exact hsignalHeld

end State.Orderly

/-! ## Cleanup -/

/-- A label frees the top of the stack. -/
theorem Label.holds_eq (s : State) (label : Label) :
    label.holds s.udpMode = label.frees s ++ label.next.holds s.udpMode := by
  cases label with
  | fail5 => cases h : s.udpMode <;> simp [Label.frees, h] <;> rfl
  | _ => rfl

theorem State.free_append {s : State} {rs rest : List Resource} (h : s.held = rs ++ rest) :
    s.free rs = .ok { s with held := rest } := by
  induction rs generalizing s with
  | nil =>
    rw [List.nil_append] at h
    rw [← h]
    rfl
  | cons r rs ih =>
    have hmem : r ∈ s.held := by simp [h]
    have htail : s.held.erase r = rs ++ rest := by simp [h]
    rw [State.free, if_pos hmem, ih (by exact htail)]

@[simp]
theorem Label.effect_held (s : State) (label : Label) : (label.effect s).held = s.held := by
  cases label <;> rfl

namespace State.Orderly

variable {s : State}

/-- No step of the cleanup fails. -/
theorem cleanup_eq (h : s.Orderly) {label : Label} (hpc : s.pc = .cleanup label) :
    cleanup s label = .ok { label.effect s with
      held := label.next.holds s.udpMode
      pc := label.next } := by
  have hheld : (label.effect s).held = label.frees s ++ label.next.holds s.udpMode := by
    rw [Label.effect_held, h.held, hpc]
    exact label.holds_eq s
  have hasserts : label.asserts s = true := by
    cases label with
    | fail3 =>
      obtain ⟨hsignal, hfinished⟩ := h.signalHeld (by rw [h.held, hpc]; exact List.mem_cons_self)
      simp [Label.asserts, hsignal, hfinished]
    | fail1 =>
      have hlogger := h.logger
      rw [hpc] at hlogger
      exact hlogger
    | _ => rfl
  rw [cleanup, if_pos hasserts, State.free_append hheld]
  rfl

theorem cleanup (h : s.Orderly) {label : Label} (hpc : s.pc = .cleanup label) :
    ({ label.effect s with
      held := label.next.holds s.udpMode
      pc := label.next } : State).Orderly := by
  obtain ⟨hheld, -, hlogger, hpassword, -, -, -, hsignalHeld⟩ := h
  rw [hpc] at hheld hlogger
  refine ⟨?_, fun hu => ?_, ?_, ?_, fun hb => ?_, fun hb => ?_, fun hb => ?_, fun hmem => ?_⟩
  · simp
  · cases label <;> simp [Label.next] at hu
  · cases label <;> first | rfl | exact hlogger
  · cases label <;> exact hpassword
  · cases label <;> first | rfl | cases hb
  · cases label <;> first | rfl | cases hb
  · cases label <;> first | rfl | cases hb
  · rw [hheld] at hsignalHeld
    cases label with
    | fail3 | fail2 | fail1 | fail0 => simp [Label.next, Pc.holds, Label.holds] at hmem
    | _ => exact hsignalHeld (by rw [Pc.holds, Label.holds_eq]; exact List.mem_append_right _ hmem)

/-- No step of the setup fails an assertion, if the device is given as one. -/
theorem asserts (h : s.Orderly) {step : SetupStep} (hpc : s.pc = .setup step)
    (htap : step = .tapInit → 0 ≤ s.options.tunfd ∧ 0 ≤ s.options.tunmtu) :
    step.asserts s = true := by
  obtain ⟨-, -, hlogger, hpassword, hnetwork, htime, hsignal, -⟩ := h
  rw [hpc] at hlogger hnetwork htime hsignal
  cases step with
  | blogInit => simp [SetupStep.asserts, hlogger, Pc.noLogger]
  | networkInit => simp [SetupStep.asserts, hnetwork rfl]
  | processArguments => simp [SetupStep.asserts, hpassword]
  | timeInit => simp [SetupStep.asserts, htime rfl]
  | signalInit => simp [SetupStep.asserts, hsignal rfl]
  | tapInit => simp [SetupStep.asserts, htap rfl]
  | _ => rfl

/-- A step within the loop, into it or out of it. -/
theorem inLoop {s' : State} (h : s.Orderly) (hpc : s.pc.usesLwip = true)
    (hpc' : s'.pc.usesLwip = true)
    (hsame : (s'.held, s'.udpMode, s'.blogInitialized, s'.passwordFileContents,
      s'.bsignalInitialized, s'.bsignalFinished) =
        (s.held, s.udpMode, s.blogInitialized, s.passwordFileContents, s.bsignalInitialized,
          s.bsignalFinished)) : s'.Orderly := by
  obtain ⟨hheld, -, hlogger, hpassword, -, -, -, hsignalHeld⟩ := h
  simp only [Prod.mk.injEq] at hsame
  obtain ⟨hheld', hmode', hlogger', hpassword', hsignal', hfinished'⟩ := hsame
  obtain ⟨hholds, hbefore, hno⟩ := Pc.of_usesLwip hpc
  obtain ⟨hholds', hbefore', hno'⟩ := Pc.of_usesLwip hpc'
  refine ⟨?_, fun hu => ?_, ?_, ?_, fun hb => ?_, fun hb => ?_, fun hb => ?_, ?_⟩
  · rw [hheld', hheld, hmode', hholds, hholds']
  · rcases hu with hu | hu <;> rw [hu] at hpc' <;> cases hpc'
  · rw [hlogger', hlogger, hno, hno']
  · rw [hpassword', hpassword]
  · rw [hbefore'] at hb
    cases hb
  · rw [hbefore'] at hb
    cases hb
  · rw [hbefore'] at hb
    cases hb
  · rw [hheld', hsignal', hfinished']
    exact hsignalHeld

end State.Orderly

/-! ## Runs -/

theorem Step.orderly {s s' : State} {e : Event} (hstep : Step s e s')
    (he : ∀ label, e ≠ .cleanup label) (h : s.Orderly) : s'.Orderly := by
  cases hstep with
  | start options hpc =>
    obtain ⟨hheld, -, hlogger, hpassword, hnetwork, htime, hsignal, hsignalHeld⟩ := h
    rw [hpc] at hheld hlogger hnetwork htime hsignal
    exact ⟨hheld, fun hu => by simp at hu, hlogger, hpassword, fun _ => hnetwork rfl,
      fun _ => htime rfl, fun _ => hsignal rfl, hsignalHeld⟩
  | setup hpc => exact h.setup hpc
  | setupFails hpc _ hlabel => exact h.setupFails hpc hlabel
  | exitLoop hpc | iterate hpc | waitForEvents hpc =>
    exact h.inLoop (by rw [hpc]; rfl) rfl rfl
  | lwipInit _ hpc | lwipInitFail hpc =>
    refine h.inLoop (by rw [hpc]; rfl) ?_ rfl
    dsimp only
    split <;> rfl
  | @handle d hpc =>
    refine h.inLoop (by rw [hpc]; rfl) ?_ rfl
    cases d <;> rfl
  | terminate pc hpc hpc' =>
    exact h.inLoop (by rw [hpc]; rfl) (Pc.usesLwip_of_inLoop hpc'.1) rfl
  | @cleanup label => exact absurd rfl (he label)
  | stop =>
    obtain ⟨hheld, hudpgw, hlogger, hpassword, hnetwork, htime, hsignal, hsignalHeld⟩ := h
    exact ⟨hheld, hudpgw, hlogger, hpassword, hnetwork, htime, hsignal, hsignalHeld⟩
  | stopStep =>
    obtain ⟨hheld, hudpgw, hlogger, hpassword, hnetwork, htime, hsignal, hsignalHeld⟩ := h
    exact ⟨hheld, hudpgw, hlogger, hpassword, hnetwork, htime, hsignal, hsignalHeld⟩

theorem State.Orderly.exec {s s' : State} {e : Event} (h : s.Orderly)
    (he : enabled s e = true) (hs' : exec s e = .ok s') : s'.Orderly := by
  by_cases hcleanup : ∃ label, e = .cleanup label
  · obtain ⟨label, rfl⟩ := hcleanup
    have hpc : s.pc = .cleanup label := eq_of_beq he
    cases (h.cleanup_eq hpc).symm.trans hs'
    exact h.cleanup hpc
  · exact (step_of_exec he hs').orderly (fun label hl => hcleanup ⟨label, hl⟩) h

end Lightsocks.Tunnel
