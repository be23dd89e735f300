import Lightsocks.Tunnel.Intercept

/-!
# Stopping the tunnel

`terminate` is written for one caller, inside the loop: it asserts that nobody has called it
before, and it reports through two flags that `startTun2socks` clears half-way through its
setup. Whether a call meets its assertions, and whether a stop reaches the loop, depends only
on the order of a few steps, which is stated here over the events of a run.
-/

namespace Lightsocks.Tunnel

open Lightsocks.Lib

/-! ## Histories -/

def quittingAfter (quitting : Bool) : Event → Bool
  | .setup .clearQuitting _ => false
  | .terminate .setQuitting | .stopStep _ .setQuitting => true
  | _ => quitting

/-- Some `terminate` has set `quitting` since the setup last cleared it. -/
def quittingIn (es : List Event) : Bool := es.foldl quittingAfter false

def loggerAfter (logger : Bool) : Event → Bool
  | .setup .blogInit _ => true
  | .cleanup .fail1 => false
  | _ => logger

/-- The logger is initialized: `BLog_InitStdout` has run, and `BLog_Free` has not since. -/
def loggerIn (es : List Event) : Bool := es.foldl loggerAfter false

/-- The steps of a run before `BReactor_Init`, and a stop among them. -/
structure Early where
  early : Bool
  lost : Bool

def Early.after (h : Early) : Event → Early
  | .start _ => ⟨true, false⟩
  | .setup .reactorInit _ => { h with early := false }
  | .stopStep _ .reactorQuit => { h with lost := h.lost || h.early }
  | _ => h

def earlyIn (es : List Event) : Early := es.foldl Early.after ⟨false, false⟩

/-- Some stop of the last run called `BReactor_Quit` before that run called `BReactor_Init`. -/
def stopLost (es : List Event) : Bool := (earlyIn es).lost

/-- The step comes neither too late nor too early. -/
def InTime (es : List Event) : Event → Prop
  | .terminate .assertNotQuitting | .stopStep _ .assertNotQuitting => quittingIn es = false
  | .terminate .log | .stopStep _ .log => loggerIn es = true
  | .dispatch _ => stopLost es = false
  | _ => True

/-- An assertion of `terminate` fails. -/
def TerminateFails : Fault → Prop
  | .terminateQuitting | .terminateLog => True
  | _ => False

/-- Nothing is dispatched by an iteration that began after a stop of this run had returned. -/
def Prompt (s : State) (e : Event) : Prop := ∀ d, e = .dispatch d → s.late = false

/-! ## The flags along a run -/

theorem Step.flags {s s' : State} {e : Event} (hstep : Step s e s') :
    s'.quitting = quittingAfter s.quitting e ∧
      s'.blogInitialized = loggerAfter s.blogInitialized e := by
  cases hstep with
  | @setup step => cases step <;> exact ⟨rfl, rfl⟩
  | @setupFails step label _ _ hlabel => cases step <;> cases hlabel <;> exact ⟨rfl, rfl⟩
  | @cleanup label => cases label <;> exact ⟨rfl, rfl⟩
  | @terminate step => cases step <;> simp [TerminateStep.effect, quittingAfter, loggerAfter]
  | @stopStep i step => cases step <;> simp [TerminateStep.effect, quittingAfter, loggerAfter]
  | _ => exact ⟨rfl, rfl⟩

theorem flags_of_runs {es : List Event} {s : State} (h : tunnel.Runs es (.ok s)) :
    s.quitting = quittingIn es ∧ s.blogInitialized = loggerIn es := by
  refine Machine.Runs.invariant
    (I := fun es s => s.quitting = quittingIn es ∧ s.blogInitialized = loggerIn es)
    ⟨rfl, rfl⟩ ?_ h
  intro es s e s' _ hI he hs'
  obtain ⟨hq, hb⟩ := (step_of_exec he hs').flags
  rw [hq, hb, hI.1, hI.2, quittingIn, quittingIn, loggerIn, loggerIn, List.foldl_append,
    List.foldl_append]
  exact ⟨rfl, rfl⟩

/-! ## Lost stops -/

/-- A run has not got past `BReactor_Init`. -/
def Pc.beforeReactorInit : Pc → Bool
  | .setup .blogInit | .setup .clearPassword | .setup .networkInit
  | .setup .processArguments | .setup .timeInit | .setup .reactorInit => true
  | _ => false

/-- A run has got past `BReactor_Init`, and not out of its loop. -/
def Pc.afterReactorInit : Pc → Bool
  | .setup step => !(Pc.setup step).beforeReactorInit
  | pc => pc.inLoop

/-- A stop that returned during the run is lost, or it has the loop exit. -/
structure State.Recorded (s : State) (h : Early) : Prop where
  before : s.pc.beforeReactorInit = true → h.early = true ∧ h.lost = s.stopped
  after : s.pc.afterReactorInit = true →
    h.early = false ∧ (h.lost = true → s.stopped = true) ∧
      (s.stopped = true → s.exiting = true ∨ h.lost = true)
  iteration : s.pc = .iteration → s.late = h.lost

theorem Pc.beforeReactorInit_of_after {pc : Pc} (h : pc.afterReactorInit = true) :
    pc.beforeReactorInit = false := by
  cases pc with
  | setup step => simpa [Pc.afterReactorInit] using h
  | _ => rfl

theorem State.Recorded.of_before {s : State} {h : Early}
    (hpc : s.pc.beforeReactorInit = true) (hearly : h.early = true)
    (hlost : h.lost = s.stopped) : s.Recorded h where
  before _ := ⟨hearly, hlost⟩
  after ha := by
    rw [Pc.beforeReactorInit_of_after ha] at hpc
    cases hpc
  iteration hp := by
    rw [hp] at hpc
    cases hpc

theorem State.Recorded.of_after {s : State} {h : Early} (hpc : s.pc.afterReactorInit = true)
    (hafter : h.early = false ∧ (h.lost = true → s.stopped = true) ∧
      (s.stopped = true → s.exiting = true ∨ h.lost = true))
    (hiter : s.pc = .iteration → s.late = h.lost) : s.Recorded h where
  before hb := by
    rw [Pc.beforeReactorInit_of_after hpc] at hb
    cases hb
  after _ := hafter
  iteration := hiter

/-- A run on its way out records nothing. -/
theorem State.Recorded.of_outside {s : State} {h : Early}
    (hb : s.pc.beforeReactorInit = false) (ha : s.pc.afterReactorInit = false) :
    s.Recorded h where
  before hp := by
    rw [hb] at hp
    cases hp
  after hp := by
    rw [ha] at hp
    cases hp
  iteration hp := by
    rw [hp] at ha
    cases ha

theorem SetupStep.next_udpMode (s : State) :
    (SetupStep.udpMode.next s).afterReactorInit = true ∧
      SetupStep.udpMode.next s ≠ .iteration := by
  simp only [SetupStep.next]
  split <;> exact ⟨rfl, by simp⟩

theorem setup_recorded {s : State} {h : Early} {step : SetupStep} (hr : s.Recorded h)
    (hpc : s.pc = .setup step) :
    ({ step.effect s with pc := step.next s } : State).Recorded (h.after (.setup step true)) := by
  obtain ⟨hbefore, hafter, -⟩ := hr
  rw [hpc] at hbefore hafter
  cases step with
  | blogInit | clearPassword | networkInit | processArguments | timeInit =>
    obtain ⟨hearly, hlost⟩ := hbefore rfl
    exact .of_before rfl hearly hlost
  | reactorInit =>
    -- the stops so far are all lost
    obtain ⟨-, hlost⟩ := hbefore rfl
    refine .of_after rfl ⟨rfl, ?_, ?_⟩ (fun hp => by cases hp)
    · exact fun h => hlost ▸ h
    · exact fun h => .inr (hlost ▸ h)
  | udpMode =>
    obtain ⟨hnext, hiter⟩ := SetupStep.next_udpMode s
    exact .of_after hnext (hafter rfl) (fun hp => absurd hp hiter)
  | _ => exact .of_after rfl (hafter rfl) (fun hp => by cases hp)

theorem Pc.afterReactorInit_of_inLoop {pc : Pc} (h : pc.inLoop = true) :
    pc.afterReactorInit = true := by
  cases pc with
  | loopHead | iteration | lwipInitFail | terminate => rfl
  | _ => cases h

/-- A step that is no step of a stop, inside the loop. -/
theorem State.Recorded.inLoop {s s' : State} {h : Early} (hr : s.Recorded h)
    (hloop : s.pc.inLoop = true) (hloop' : s'.pc.inLoop = true)
    (hstopped : s'.stopped = s.stopped) (hexiting : s.exiting = true → s'.exiting = true)
    (hiter : s'.pc = .iteration → s'.late = s.stopped ∧ s.exiting = false) : s'.Recorded h := by
  obtain ⟨hearly, hlost, hstop⟩ := hr.after (Pc.afterReactorInit_of_inLoop hloop)
  refine .of_after (Pc.afterReactorInit_of_inLoop hloop') ⟨hearly, ?_, ?_⟩ (fun hp => ?_)
  · rw [hstopped]
    exact hlost
  · rw [hstopped]
    exact fun hs => (hstop hs).imp hexiting id
  · obtain ⟨hlate, hexit⟩ := hiter hp
    rw [hlate, Bool.eq_iff_iff]
    exact ⟨fun hs => (hstop hs).resolve_left (by simp [hexit]), hlost⟩

theorem stopStep_recorded {s : State} {h : Early} {i : Nat} {step : TerminateStep}
    (hr : s.Recorded h) :
    ({ step.effect s with
      stops := s.stops.set i step.next
      stopped := s.stopped || (step.next.isNone && s.pc != .idle) } : State).Recorded
        (h.after (.stopStep i step)) := by
  obtain ⟨hbefore, hafter, hiter⟩ := hr
  cases step with
  | reactorQuit =>
    refine ⟨fun hp => ?_, fun hp => ?_, fun hp => ?_⟩
    · -- the stop is lost
      change s.pc.beforeReactorInit = true at hp
      obtain ⟨hearly, -⟩ := hbefore hp
      have hidle : s.pc ≠ .idle := fun hidle => by
        rw [hidle] at hp
        cases hp
      simp [Early.after, TerminateStep.next, hearly, hidle]
    · obtain ⟨hearly, hlost, -⟩ := hafter hp
      refine ⟨hearly, fun hl => ?_, fun _ => .inl (Bool.or_true _)⟩
      simp only [Early.after, hearly, Bool.or_false] at hl
      simp [hlost hl]
    · have hearly := (hafter (by rw [show s.pc = .iteration from hp]; rfl)).1
      simp only [Early.after, hearly, Bool.or_false]
      exact hiter hp
  | assertNotQuitting | log | setQuitting =>
    refine ⟨fun hp => ?_, fun hp => ?_, fun hp => hiter hp⟩
    · simpa [Early.after, TerminateStep.next] using hbefore hp
    · simpa [Early.after, TerminateStep.next, TerminateStep.effect] using hafter hp

theorem Step.recorded {s s' : State} {h : Early} {e : Event} (hstep : Step s e s')
    (hr : s.Recorded h) : s'.Recorded (h.after e) := by
  cases hstep with
  | start => exact .of_before rfl rfl rfl
  | setup hpc => exact setup_recorded hr hpc
  | setupFails | exitLoop => exact .of_outside rfl rfl
  | iterate hpc hexit =>
    exact hr.inLoop (by rw [hpc]; rfl) rfl rfl id (fun _ => ⟨rfl, hexit⟩)
  | lwipInit _ hpc | lwipInitFail hpc =>
    refine hr.inLoop (by rw [hpc]; rfl) ?_ rfl id (fun hp => ?_)
    · dsimp only
      split <;> rfl
    · dsimp only at hp
      split at hp <;> cases hp
  | @handle d hpc =>
    refine hr.inLoop (by rw [hpc]; rfl) ?_ rfl id (fun hp => ?_)
    · cases d <;> rfl
    · cases d <;> cases hp
  | waitForEvents hpc =>
    exact hr.inLoop (by rw [hpc]; rfl) rfl rfl id (fun hp => by cases hp)
  | terminate pc hpc hpc' =>
    refine hr.inLoop (by rw [hpc]; rfl) hpc'.1 rfl (fun hexit => ?_) (fun hp => ?_)
    · simp [TerminateStep.effect, hexit]
    · exact absurd hp hpc'.2
  | @cleanup label => cases label <;> exact .of_outside rfl rfl
  | stop => exact ⟨hr.before, hr.after, hr.iteration⟩
  | stopStep => exact stopStep_recorded hr

theorem recorded_of_runs {es : List Event} {s : State} (h : tunnel.Runs es (.ok s)) :
    s.Recorded (earlyIn es) := by
  refine Machine.Runs.invariant (I := fun es s => s.Recorded (earlyIn es)) ?_ ?_ h
  · exact .of_outside rfl rfl
  · intro es s e s' _ hI he hs'
    rw [earlyIn, List.foldl_append]
    exact (step_of_exec he hs').recorded hI

/-! ## Runs -/

/-- Only `terminate` fails the assertions of `terminate`. -/
theorem terminate_fails_iff (s : State) (step : TerminateStep) :
    (∀ f, terminate s step = .error f → ¬ TerminateFails f) ↔
      (step = .assertNotQuitting → s.quitting = false) ∧
        (step = .log → s.blogInitialized = true) := by
  cases step with
  | assertNotQuitting => cases hq : s.quitting <;> simp [terminate, hq, TerminateFails]
  | log => cases hb : s.blogInitialized <;> simp [terminate, hb, TerminateFails]
  | setQuitting | reactorQuit => simp [terminate]

theorem handlerTerminate_error {s : State} {step : TerminateStep} {f : Fault} :
    handlerTerminate s step = .error f ↔ terminate s step = .error f := by
  unfold handlerTerminate
  cases terminate s step <;> simp [bind, Except.bind, pure, Except.pure]

theorem stopTerminate_error {s : State} {i : Nat} {step : TerminateStep} {f : Fault} :
    stopTerminate s i step = .error f ↔ terminate s step = .error f := by
  unfold stopTerminate
  cases terminate s step <;> simp [bind, Except.bind, pure, Except.pure]

theorem free_error {s : State} {rs : List Resource} {f : Fault} (h : s.free rs = .error f) :
    ∃ r, f = .notHeld r := by
  induction rs generalizing s with
  | nil => cases h
  | cons r rs ih =>
    unfold State.free at h
    split at h
    · exact ih h
    · cases h
      exact ⟨r, rfl⟩

theorem cleanup_error {s : State} {label : Label} {f : Fault} (h : cleanup s label = .error f) :
    ¬ TerminateFails f := by
  unfold cleanup at h
  split at h
  · cases hfree : (label.effect s).free (label.frees s) with
    | ok s₁ =>
      rw [hfree] at h
      cases h
    | error f' =>
      obtain ⟨r, rfl⟩ := free_error hfree
      rw [hfree] at h
      cases h
      exact id
  · cases h
    exact id

/-- A step is good exactly if it is in time. -/
theorem step_iff {es : List Event} {s : State} {e : Event} (hs : tunnel.Runs es (.ok s))
    (he : enabled s e = true) :
    ((∀ f, exec s e = .error f → ¬ TerminateFails f) ∧ Prompt s e) ↔ InTime es e := by
  obtain ⟨hq, hb⟩ := flags_of_runs hs
  have hprompt : ∀ e, (∀ d, e ≠ .dispatch d) → Prompt s e :=
    fun e hne d hd => absurd hd (hne d)
  cases e with
  | terminate step =>
    rw [and_iff_left (hprompt _ (by simp))]
    simp only [exec, handlerTerminate_error, terminate_fails_iff, hq, hb]
    cases step <;> simp [InTime]
  | stopStep i step =>
    rw [and_iff_left (hprompt _ (by simp))]
    simp only [exec, stopTerminate_error, terminate_fails_iff, hq, hb]
    cases step <;> simp [InTime]
  | dispatch d =>
    obtain ⟨hpc, -⟩ := Bool.and_eq_true_iff.mp he
    have hlate := (recorded_of_runs hs).iteration (eq_of_beq hpc)
    have hok : ∀ f, exec s (.dispatch d) = .error f → ¬ TerminateFails f := by
      intro f hf
      cases d <;> simp only [exec, dispatch] at hf
      case other => cases hf
      all_goals
        split at hf <;> cases hf
        exact id
    rw [and_iff_right hok]
    simp [Prompt, InTime, hlate, stopLost]
  | setup step ok =>
    refine iff_of_true ⟨fun f hf => ?_, hprompt _ (by simp)⟩ trivial
    simp only [exec, setup] at hf
    split at hf
    · split at hf <;> cases hf
    · cases hf
      exact id
  | cleanup label => exact iff_of_true ⟨fun f hf => cleanup_error hf, hprompt _ (by simp)⟩ trivial
  | start | checkExiting | waitForEvents | lwipInitFail | stop =>
    refine iff_of_true ⟨fun f hf => ?_, hprompt _ (by simp)⟩ trivial
    cases hf

/-- The assertions of `terminate` hold, and no event is dispatched by an iteration that began
after a stop, exactly if the steps of the run are in time. -/
theorem tunnel_stop_iff {es : List Event} {r : Except Fault State} (h : tunnel.Runs es r) :
    ((∀ f, r = .error f → ¬ TerminateFails f) ∧
      tunnel.Along (fun _ s e => Prompt s e) es) ↔
      tunnel.Along (fun es _ e => InTime es e) es := by
  refine Machine.Runs.iff_along (P := fun es r => (∀ f, r = .error f → ¬ TerminateFails f) ∧
    tunnel.Along (fun _ s e => Prompt s e) es) ?_ ?_ ?_ h
  · exact ⟨fun f hf => (nomatch hf), Machine.along_nil _⟩
  · intro es s e hs _ hP
    exact ⟨fun f hf => (nomatch hf), ((Machine.along_snoc hs).mp hP.2).1⟩
  · intro es s e hs he hP
    rw [Machine.along_snoc hs, and_iff_right hP.2]
    exact step_iff hs he

/-- A run that is stopped once, in its loop. -/
def stoppedOnce : List Event := listening ++ [.stop] ++ stopSteps 0 ++ leave

theorem tunnel_stop_once :
    ∃ r, tunnel.Runs stoppedOnce r ∧
      (((∀ f, r = .error f → ¬ TerminateFails f) ∧
        tunnel.Along (fun _ s e => Prompt s e) stoppedOnce) ↔
        tunnel.Along (fun es _ e => InTime es e) stoppedOnce) := by
  have hends : tunnel.ends stoppedOnce (fun _ => true) = true := by decide
  obtain ⟨s, hr, -⟩ := Machine.runs_of_ends hends
  exact ⟨.ok s, hr, tunnel_stop_iff hr⟩

/-- `stop` and then `onDestroy`, in the loop. -/
def stoppedTwice : List Event :=
  listening ++ [.stop] ++ stopSteps 0 ++ [.stop, .stopStep 1 .assertNotQuitting]

/-- A stop before the worker thread has initialized the logger. -/
def stoppedBeforeLog : List Event :=
  [.start ⟨3, 1500, none⟩, .stop, .stopStep 0 .assertNotQuitting, .stopStep 0 .log]

/-- A stop between the logger and the reactor; the loop is entered all the same. -/
def stoppedBeforeReactor : List Event :=
  [.start ⟨3, 1500, some "127.0.0.1:7300"⟩, .setup .blogInit true, .stop] ++ stopSteps 0 ++
    upToLoop.drop 2 ++ [.checkExiting]

/-- Two stops abort the process, as does a stop before the logger is there, and a stop before
the reactor is lost: the loop goes on to dispatch. -/
theorem tunnel_stop_unsafe :
    tunnel.Runs stoppedTwice (.error .terminateQuitting) ∧
    tunnel.Runs stoppedBeforeLog (.error .terminateLog) ∧
    (∃ r, tunnel.Runs (stoppedBeforeReactor ++ [.dispatch (.lwipInit true true)]) r ∧
      ¬ tunnel.Along (fun _ s e => Prompt s e)
        (stoppedBeforeReactor ++ [.dispatch (.lwipInit true true)])) := by
  refine ⟨Machine.runs_of_faults (by decide +kernel),
    Machine.runs_of_faults (by decide +kernel), ?_⟩
  have hends : tunnel.ends stoppedBeforeReactor (fun s =>
      s.late && enabled s (.dispatch (.lwipInit true true))) = true := by decide +kernel
  obtain ⟨s, hr, hs⟩ := Machine.runs_of_ends hends
  obtain ⟨hlate, hen⟩ := Bool.and_eq_true_iff.mp hs
  refine ⟨_, hr.snoc _ hen, fun hal => ?_⟩
  have hprompt := ((Machine.along_snoc hr).mp hal).2 _ rfl
  rw [hlate] at hprompt
  cases hprompt

end Lightsocks.Tunnel
