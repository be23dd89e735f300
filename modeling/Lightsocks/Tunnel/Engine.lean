import Lightsocks.Lib.Machine
import Lightsocks.Tunnel.Lwip

/-!
# Runs of the tunnel

`startTun2socks` runs on a worker thread, again and again in one process, and any other thread
may call `stopTun2socks` at any time. Each step of either is an event here, so a run of the
machine is an interleaving. A step of the setup that can fail comes with its outcome, and each
`goto` target of the cleanup is one step.

An iteration of `BReactor_Exec` is the check of `exiting`, and then a dispatch or a wait for
events. The handlers of the tunnel are executed at once, except that `terminate` keeps its
steps. The flags `initialized` of the modules are the guards that the next run asserts.
-/

namespace Lightsocks.Tunnel

open Lightsocks.Lib

/-- The part of `options` that differs between runs. -/
structure Options where
  tunfd : Int
  tunmtu : Int
  udpgwRemoteServerAddr : Option String
  deriving DecidableEq, Repr

/-- `UdpModeSocks` needs `socks5_udp`, which is 0. -/
inductive UdpMode
  | none
  | udpgw
  deriving DecidableEq, Repr

/-- What a run initializes and has to free. -/
inductive Resource
  | reactor
  | signal
  | device
  | deviceReadInterface
  | deviceReadBuffer
  | udpgwClient
  | lwipInitJob
  | deviceWriteBuf
  | tcpTimer
  deriving DecidableEq, Repr

inductive SetupStep
  | blogInit
  | clearPassword
  | networkInit
  | processArguments
  | timeInit
  | reactorInit
  | clearQuitting
  | signalInit
  | tapInit
  | deviceReadInterface
  | deviceReadBuffer
  | udpMode
  | udpgwMtu
  | udpgwClient
  | lwipInitJob
  | deviceWriteBuf
  | tcpTimer
  | loopState
  deriving DecidableEq, Repr

/-- The targets of the `goto`s, after the cleanup that only the loop's exit makes. -/
inductive Label
  | loopExit
  | fail5
  | fail4a
  | fail4
  | fail3
  | fail2
  | fail1
  | fail0
  deriving DecidableEq, Repr

inductive TerminateStep
  | assertNotQuitting
  | log
  | setQuitting
  | reactorQuit
  deriving DecidableEq, Repr

/-- Where `startTun2socks` is. -/
inductive Pc
  | idle
  | setup (step : SetupStep)
  /-- At the head of the `while` of `BReactor_Exec`. -/
  | loopHead
  /-- `exiting` was 0. -/
  | iteration
  /-- At the label `fail` of `lwip_init_job_hadler`. -/
  | lwipInitFail
  /-- A handler has called `terminate`. -/
  | terminate (step : TerminateStep)
  | cleanup (label : Label)
  deriving DecidableEq, Repr

/-- `lwipJob` says whether `lwip_init_job` is set. `stops` has the next step of each call of
`stopTun2socks`, `none` once it has returned. `stopped` and `late` are history: that a stop
returned since this run began, and that one had when the iteration in progress began. -/
structure State where
  options : Options
  udpMode : UdpMode
  blogInitialized : Bool
  passwordFileContents : Bool
  bnetworkInitialized : Bool
  btimeInitialized : Bool
  bsignalInitialized : Bool
  bsignalFinished : Bool
  exiting : Bool
  quitting : Bool
  lwipJob : Bool
  haveNetif : Bool
  listener : Option Nat
  theNetif : Netif
  lwip : Lwip
  held : List Resource
  pc : Pc
  stops : List (Option TerminateStep)
  stopped : Bool
  late : Bool
  deriving DecidableEq, Repr

def State.initial : State where
  options := ⟨0, 0, none⟩
  udpMode := .none
  blogInitialized := false
  passwordFileContents := false
  bnetworkInitialized := false
  btimeInitialized := false
  bsignalInitialized := false
  bsignalFinished := false
  exiting := false
  quitting := false
  lwipJob := false
  haveNetif := false
  listener := none
  theNetif := ⟨(Char.ofNat 0, Char.ofNat 0), 0⟩
  lwip := .initial
  held := []
  pc := .idle
  stops := []
  stopped := false
  late := false

/-- What `BReactor_Exec` dispatches. -/
inductive Dispatch
  /-- `lwip_init_job_hadler`, with whether there is memory for the pcb and for the listener. -/
  | lwipInit (newOk listenOk : Bool)
  /-- `device_read_handler_send`; a SYN that belongs to no connection gets to the listeners. -/
  | deviceRead (syn : Option Segment)
  | tcpTimer
  | deviceError
  | signal
  /-- A handler of another module, which calls none of the tunnel's `terminate`. -/
  | other
  deriving DecidableEq, Repr

inductive Event
  | start (options : Options)
  | setup (step : SetupStep) (ok : Bool)
  /-- The condition of the `while`. -/
  | checkExiting
  | dispatch (d : Dispatch)
  | waitForEvents
  /-- The test of `quitting` after the label `fail`. -/
  | lwipInitFail
  /-- A step of the `terminate` that a handler has called. -/
  | terminate (step : TerminateStep)
  | cleanup (label : Label)
  /-- `stopTun2socks` is called. -/
  | stop
  /-- The `i`-th call of `stopTun2socks` makes a step of `terminate`. -/
  | stopStep (i : Nat) (step : TerminateStep)
  deriving DecidableEq, Repr

/-- The process aborts, or uses what it does not have. -/
inductive Fault
  /-- The assertion of `terminate`. -/
  | terminateQuitting
  /-- `terminate` logs, and the logger is not initialized. -/
  | terminateLog
  | assertion
  | notHeld (r : Resource)
  deriving DecidableEq, Repr

/-- The run is inside `BReactor_Exec`. -/
def Pc.inLoop : Pc → Bool
  | .loopHead | .iteration | .lwipInitFail | .terminate _ => true
  | _ => false

/-! ## Setup -/

/-- The largest UDP payload that goes through the device, without an IPv6 address: the sizes of
the two headers are 20 and 8. -/
def udpMtu (tunmtu : Int) : Int := max (tunmtu - 28) 0

/-- `udpgw_compute_mtu`, with a header of 3 bytes and addresses of 6 and of 18 bytes, of an MTU
that is not negative: of a negative one the source has no size, and returns -1. -/
def udpgwComputeMtu (dgramMtu : Int) : Int :=
  let s := 3 + (max 6 18 + dgramMtu)
  if s ≤ 2147483647 then s else -1

/-- Not "device MTU is too large for UDP". -/
def udpgwMtuOk (tunmtu : Int) : Bool :=
  let udpgwMtu := udpgwComputeMtu (udpMtu tunmtu)
  !(decide (udpgwMtu < 0) || decide (udpgwMtu > 65535))

/-- What a step of the setup asserts. -/
def SetupStep.asserts (s : State) : SetupStep → Bool
  | .blogInit => !s.blogInitialized
  | .networkInit => !s.bnetworkInitialized
  | .processArguments => !s.passwordFileContents
  | .timeInit => !s.btimeInitialized
  | .signalInit => !s.bsignalInitialized
  | .tapInit => decide (0 ≤ s.options.tunfd) && decide (0 ≤ s.options.tunmtu)
  | _ => true

/-- The effect of a step that succeeds. -/
def SetupStep.effect (s : State) : SetupStep → State
  | .blogInit => { s with blogInitialized := true }
  | .clearPassword => { s with passwordFileContents := false }
  | .networkInit => { s with bnetworkInitialized := true }
  | .processArguments => s
  | .timeInit => { s with btimeInitialized := true }
  | .reactorInit => { s with exiting := false, held := .reactor :: s.held }
  | .clearQuitting => { s with quitting := false }
  | .signalInit =>
    { s with bsignalInitialized := true, bsignalFinished := false, held := .signal :: s.held }
  | .tapInit => { s with held := .device :: s.held }
  | .deviceReadInterface => { s with held := .deviceReadInterface :: s.held }
  | .deviceReadBuffer => { s with held := .deviceReadBuffer :: s.held }
  | .udpMode =>
    { s with udpMode := if s.options.udpgwRemoteServerAddr.isSome then .udpgw else .none }
  | .udpgwMtu => s
  | .udpgwClient => { s with held := .udpgwClient :: s.held }
  | .lwipInitJob => { s with lwipJob := true, held := .lwipInitJob :: s.held }
  | .deviceWriteBuf => { s with held := .deviceWriteBuf :: s.held }
  | .tcpTimer => { s with held := .tcpTimer :: s.held }
  | .loopState => { s with haveNetif := false, listener := none }

/-- The effect of a step that fails: `BReactor_Init` has cleared `exiting` by then. -/
def SetupStep.failEffect (s : State) : SetupStep → State
  | .reactorInit => { s with exiting := false }
  | _ => s

/-- Where a step that succeeds leads. -/
def SetupStep.next (s : State) : SetupStep → Pc
  | .blogInit => .setup .clearPassword
  | .clearPassword => .setup .networkInit
  | .networkInit => .setup .processArguments
  | .processArguments => .setup .timeInit
  | .timeInit => .setup .reactorInit
  | .reactorInit => .setup .clearQuitting
  | .clearQuitting => .setup .signalInit
  | .signalInit => .setup .tapInit
  | .tapInit => .setup .deviceReadInterface
  | .deviceReadInterface => .setup .deviceReadBuffer
  | .deviceReadBuffer => .setup .udpMode
  | .udpMode =>
    if s.options.udpgwRemoteServerAddr.isSome then .setup .udpgwMtu else .setup .lwipInitJob
  | .udpgwMtu => .setup .udpgwClient
  | .udpgwClient => .setup .lwipInitJob
  | .lwipInitJob => .setup .deviceWriteBuf
  | .deviceWriteBuf => .setup .tcpTimer
  | .tcpTimer => .setup .loopState
  | .loopState => .loopHead

/-- The target of the `goto` of a step that fails. -/
def SetupStep.failLabel : SetupStep → Option Label
  | .networkInit | .processArguments | .reactorInit => some .fail1
  | .signalInit => some .fail2
  | .tapInit => some .fail3
  | .deviceReadBuffer => some .fail4
  | .udpgwMtu | .udpgwClient => some .fail4a
  | .deviceWriteBuf => some .fail5
  | _ => none

/-- The outcomes that a step can have. -/
def SetupStep.canEnd (s : State) (step : SetupStep) (ok : Bool) : Bool :=
  match step with
  | .udpgwMtu => ok == udpgwMtuOk s.options.tunmtu
  | step => ok || step.failLabel.isSome

def setup (s : State) (step : SetupStep) (ok : Bool) : Except Fault State :=
  if step.asserts s then
    match ok, step.failLabel with
    | false, some label => .ok { step.failEffect s with pc := .cleanup label }
    | _, _ => .ok { step.effect s with pc := step.next s }
  else .error .assertion

/-! ## Termination -/

def TerminateStep.next : TerminateStep → Option TerminateStep
  | .assertNotQuitting => some .log
  | .log => some .setQuitting
  | .setQuitting => some .reactorQuit
  | .reactorQuit => none

/-- A step of `terminate`. -/
def terminate (s : State) : TerminateStep → Except Fault State
  | .assertNotQuitting => if s.quitting then .error .terminateQuitting else .ok s
  | .log => if s.blogInitialized then .ok s else .error .terminateLog
  | .setQuitting => .ok { s with quitting := true }
  | .reactorQuit => .ok { s with exiting := true }

/-- `terminate` in a handler: the handler returns when it is done. -/
def handlerTerminate (s : State) (step : TerminateStep) : Except Fault State := do
  let s ← terminate s step
  return { s with pc := match step.next with
    | some step => .terminate step
    | none => .loopHead }

/-- `terminate` in the `i`-th call of `stopTun2socks`. -/
def stopTerminate (s : State) (i : Nat) (step : TerminateStep) : Except Fault State := do
  let s ← terminate s step
  return { s with
    stops := s.stops.set i step.next
    stopped := s.stopped || (step.next.isNone && s.pc != .idle) }

/-! ## The loop -/

/-- A handler of the tunnel; each asserts that the tunnel is not quitting. -/
def dispatch (s : State) : Dispatch → Except Fault State
  | .lwipInit newOk listenOk =>
    if s.quitting || s.haveNetif || s.listener.isSome then .error .assertion
    else
      let r := lwipInitJobHandler s.lwip s.theNetif newOk listenOk
      .ok { s with
        lwip := r.lwip
        theNetif := r.theNetif
        haveNetif := true
        listener := r.listener
        lwipJob := false
        pc := if r.listener.isSome then .loopHead else .lwipInitFail }
  | .deviceRead syn =>
    if s.quitting then .error .assertion
    else .ok { s with
      lwip := match syn with
        | some seg => (tcpInput s.lwip s.theNetif seg).1
        | none => s.lwip
      pc := .loopHead }
  | .tcpTimer => if s.quitting then .error .assertion else .ok { s with pc := .loopHead }
  | .deviceError | .signal =>
    if s.quitting then .error .assertion
    else .ok { s with pc := .terminate .assertNotQuitting }
  | .other => .ok { s with pc := .loopHead }

/-! ## Cleanup -/

/-- Free resources, each of which is held. -/
def State.free (s : State) : List Resource → Except Fault State
  | [] => .ok s
  | r :: rs =>
    if r ∈ s.held then State.free { s with held := s.held.erase r } rs else .error (.notHeld r)

/-- What the statements after a label free, up to the next one. -/
def Label.frees (s : State) : Label → List Resource
  | .loopExit => [.tcpTimer, .deviceWriteBuf]
  | .fail5 =>
    match s.udpMode with
    | .udpgw => [.lwipInitJob, .udpgwClient]
    | .none => [.lwipInitJob]
  | .fail4a => [.deviceReadBuffer]
  | .fail4 => [.deviceReadInterface, .device]
  | .fail3 => [.signal]
  | .fail2 => [.reactor]
  | .fail1 => []
  | .fail0 => []

def Label.asserts (s : State) : Label → Bool
  | .fail3 => s.bsignalInitialized && !s.bsignalFinished
  | .fail1 => s.blogInitialized
  | _ => true

def Label.effect (s : State) : Label → State
  | .loopExit => { s with lwip := lwipCleanup s.lwip s.theNetif s.haveNetif s.listener }
  | .fail5 => { s with lwipJob := false }
  | .fail3 => { s with bsignalFinished := true }
  | .fail1 => { s with blogInitialized := false }
  | .fail0 =>
    { s with bnetworkInitialized := false, btimeInitialized := false, bsignalInitialized := false }
  | _ => s

def Label.next : Label → Pc
  | .loopExit => .cleanup .fail5
  | .fail5 => .cleanup .fail4a
  | .fail4a => .cleanup .fail4
  | .fail4 => .cleanup .fail3
  | .fail3 => .cleanup .fail2
  | .fail2 => .cleanup .fail1
  | .fail1 => .cleanup .fail0
  | .fail0 => .idle

def cleanup (s : State) (label : Label) : Except Fault State :=
  if label.asserts s then do
    let s ← (label.effect s).free (label.frees s)
    return { s with pc := label.next }
  else .error .assertion

/-! ## The machine -/

def enabled (s : State) : Event → Bool
  | .start _ => s.pc == .idle
  | .setup step ok => s.pc == .setup step && step.canEnd s ok
  | .checkExiting => s.pc == .loopHead
  | .dispatch d =>
    s.pc == .iteration &&
      -- the job runs once, before the timer and before packets from the device
      match d with
      | .lwipInit _ _ => s.lwipJob
      | .deviceRead _ | .tcpTimer => !s.lwipJob
      | _ => true
  | .waitForEvents => s.pc == .iteration
  | .lwipInitFail => s.pc == .lwipInitFail
  | .terminate step => s.pc == .terminate step
  | .cleanup label => s.pc == .cleanup label
  | .stop => true
  | .stopStep i step => s.stops[i]? == some (some step)

def exec (s : State) : Event → Except Fault State
  | .start options => .ok { s with options, pc := .setup .blogInit, stopped := false }
  | .setup step ok => setup s step ok
  | .checkExiting =>
    .ok (if s.exiting then { s with pc := .cleanup .loopExit }
      else { s with pc := .iteration, late := s.stopped })
  | .dispatch d => dispatch s d
  | .waitForEvents => .ok { s with pc := .loopHead }
  | .lwipInitFail =>
    .ok { s with pc := if s.quitting then .loopHead else .terminate .assertNotQuitting }
  | .terminate step => handlerTerminate s step
  | .cleanup label => cleanup s label
  | .stop => .ok { s with stops := s.stops ++ [some .assertNotQuitting] }
  | .stopStep i step => stopTerminate s i step

def tunnel : Machine State Event Fault where
  init := .initial
  enabled := enabled
  exec := exec

/-! ## Steps

The invariants are case analyses over `Step`, which says once what an event can do. -/

/-- What the handlers other than `lwip_init_job_hadler` do to the statics of lwIP. -/
def Dispatch.input (s : State) : Dispatch → Lwip
  | .deviceRead (some seg) => (tcpInput s.lwip s.theNetif seg).1
  | _ => s.lwip

/-- Where the handlers other than `lwip_init_job_hadler` lead. -/
def Dispatch.next : Dispatch → Pc
  | .deviceError | .signal => .terminate .assertNotQuitting
  | _ => .loopHead

/-- The effect of a step of `terminate` on the two flags. -/
def TerminateStep.effect (s : State) (step : TerminateStep) : State :=
  { s with
    quitting := s.quitting || step == .setQuitting
    exiting := s.exiting || step == .reactorQuit }

/-- What a step of the machine can be, if it does not fail. -/
inductive Step (s : State) : Event → State → Prop
  | start (options : Options) (hpc : s.pc = .idle) :
      Step s (.start options) { s with options, pc := .setup .blogInit, stopped := false }
  | setup {step : SetupStep} (hpc : s.pc = .setup step) (hasserts : step.asserts s = true) :
      Step s (.setup step true) { step.effect s with pc := step.next s }
  | setupFails {step : SetupStep} {label : Label} (hpc : s.pc = .setup step)
      (hasserts : step.asserts s = true) (hlabel : step.failLabel = some label) :
      Step s (.setup step false) { step.failEffect s with pc := .cleanup label }
  | exitLoop (hpc : s.pc = .loopHead) (hexit : s.exiting = true) :
      Step s .checkExiting { s with pc := .cleanup .loopExit }
  | iterate (hpc : s.pc = .loopHead) (hexit : s.exiting = false) :
      Step s .checkExiting { s with pc := .iteration, late := s.stopped }
  | lwipInit {newOk listenOk : Bool} (r : LwipInit) (hpc : s.pc = .iteration)
      (hjob : s.lwipJob = true) (hquitting : s.quitting = false)
      (hhave : s.haveNetif = false) (hlistener : s.listener = none)
      (hr : r = lwipInitJobHandler s.lwip s.theNetif newOk listenOk) :
      Step s (.dispatch (.lwipInit newOk listenOk)) { s with
        lwip := r.lwip
        theNetif := r.theNetif
        haveNetif := true
        listener := r.listener
        lwipJob := false
        pc := if r.listener.isSome then .loopHead else .lwipInitFail }
  | handle {d : Dispatch} (hpc : s.pc = .iteration) (hd : ∀ ok ok', d ≠ .lwipInit ok ok') :
      Step s (.dispatch d) { s with lwip := d.input s, pc := d.next }
  | waitForEvents (hpc : s.pc = .iteration) : Step s .waitForEvents { s with pc := .loopHead }
  | lwipInitFail (hpc : s.pc = .lwipInitFail) :
      Step s .lwipInitFail
        { s with pc := if s.quitting then .loopHead else .terminate .assertNotQuitting }
  | terminate {step : TerminateStep} (pc : Pc) (hpc : s.pc = .terminate step)
      (hpc' : pc.inLoop = true ∧ pc ≠ .iteration) :
      Step s (.terminate step) { step.effect s with pc }
  | cleanup {label : Label} (held : List Resource) (hpc : s.pc = .cleanup label) :
      Step s (.cleanup label) { label.effect s with held, pc := label.next }
  | stop : Step s .stop { s with stops := s.stops ++ [some .assertNotQuitting] }
  | stopStep {i : Nat} {step : TerminateStep} (hi : s.stops[i]? = some (some step)) :
      Step s (.stopStep i step) { step.effect s with
        stops := s.stops.set i step.next
        stopped := s.stopped || (step.next.isNone && s.pc != .idle) }

theorem SetupStep.failLabel_of_canEnd {s : State} {step : SetupStep}
    (h : step.canEnd s false = true) : ∃ label, step.failLabel = some label := by
  cases step <;> first | exact ⟨_, rfl⟩ | cases h

theorem setup_step {s s' : State} {step : SetupStep} {ok : Bool} (hpc : s.pc = .setup step)
    (hend : step.canEnd s ok = true) (hs' : setup s step ok = .ok s') :
    Step s (.setup step ok) s' := by
  unfold setup at hs'
  split at hs'
  · rename_i hasserts
    cases ok with
    | true =>
      cases hs'
      exact .setup hpc hasserts
    | false =>
      obtain ⟨label, hlabel⟩ := SetupStep.failLabel_of_canEnd hend
      rw [hlabel] at hs'
      cases hs'
      exact .setupFails hpc hasserts hlabel
  · cases hs'

theorem terminate_eq {s s' : State} {step : TerminateStep} (h : terminate s step = .ok s') :
    s' = step.effect s := by
  cases step <;> simp only [terminate] at h
  case assertNotQuitting | log =>
    split at h <;> cases h
    change s = { s with quitting := s.quitting || false, exiting := s.exiting || false }
    rw [Bool.or_false, Bool.or_false]
  all_goals
    cases h
    simp [TerminateStep.effect]

theorem dispatch_step {s s' : State} {d : Dispatch} (hpc : s.pc = .iteration)
    (hjob : ∀ ok ok', d = .lwipInit ok ok' → s.lwipJob = true) (hs' : dispatch s d = .ok s') :
    Step s (.dispatch d) s' := by
  cases d with
  | lwipInit newOk listenOk =>
    simp only [dispatch] at hs'
    split at hs'
    · cases hs'
    · rename_i hguard
      simp only [Bool.or_eq_true, not_or, Bool.not_eq_true, Option.isSome_eq_false_iff,
        Option.isNone_iff_eq_none] at hguard
      cases hs'
      exact .lwipInit _ hpc (hjob _ _ rfl) hguard.1.1 hguard.1.2 hguard.2 rfl
  | deviceRead syn =>
    simp only [dispatch] at hs'
    split at hs' <;> cases hs'
    cases syn <;> exact .handle hpc (by simp)
  | other =>
    cases hs'
    exact .handle hpc (by simp)
  | tcpTimer | deviceError | signal =>
    simp only [dispatch] at hs'
    split at hs' <;> cases hs'
    exact .handle hpc (by simp)

theorem free_eq {s s' : State} {rs : List Resource} (h : s.free rs = .ok s') :
    ∃ held, s' = { s with held } := by
  induction rs generalizing s with
  | nil =>
    cases h
    exact ⟨_, rfl⟩
  | cons r rs ih =>
    unfold State.free at h
    split at h
    · obtain ⟨held, h⟩ := ih h
      exact ⟨held, h⟩
    · cases h

/-- A step of the cleanup has the effect of its label. -/
theorem cleanup_eq {s s' : State} {label : Label} (h : cleanup s label = .ok s') :
    ∃ held, s' = { label.effect s with held, pc := label.next } := by
  unfold cleanup at h
  split at h
  · obtain ⟨s₁, hs₁, h⟩ := bind_ok h
    obtain ⟨held, rfl⟩ := free_eq hs₁
    cases h
    exact ⟨held, rfl⟩
  · cases h

/-- A step of the machine is one of the cases. -/
theorem step_of_exec {s s' : State} {e : Event} (he : enabled s e = true)
    (hs' : exec s e = .ok s') : Step s e s' := by
  cases e with
  | start options =>
    cases hs'
    exact .start options (eq_of_beq he)
  | setup step ok =>
    obtain ⟨hpc, hend⟩ := Bool.and_eq_true_iff.mp he
    exact setup_step (eq_of_beq hpc) hend hs'
  | checkExiting =>
    cases hs'
    split
    · rename_i hexit
      exact .exitLoop (eq_of_beq he) hexit
    · rename_i hexit
      exact .iterate (eq_of_beq he) (by simpa using hexit)
  | dispatch d =>
    obtain ⟨hpc, hjob⟩ := Bool.and_eq_true_iff.mp he
    refine dispatch_step (eq_of_beq hpc) ?_ hs'
    rintro ok ok' rfl
    exact hjob
  | waitForEvents =>
    cases hs'
    exact .waitForEvents (eq_of_beq he)
  | lwipInitFail =>
    cases hs'
    exact .lwipInitFail (eq_of_beq he)
  | terminate step =>
    obtain ⟨s₁, hs₁, hs'⟩ := bind_ok hs'
    obtain rfl := terminate_eq hs₁
    cases hs'
    refine .terminate _ (eq_of_beq he) ?_
    cases step <;> exact ⟨rfl, by simp [TerminateStep.next]⟩
  | cleanup label =>
    obtain ⟨held, rfl⟩ := cleanup_eq hs'
    exact .cleanup held (eq_of_beq he)
  | stop =>
    cases hs'
    exact .stop
  | stopStep i step =>
    obtain ⟨s₁, hs₁, hs'⟩ := bind_ok hs'
    obtain rfl := terminate_eq hs₁
    cases hs'
    exact .stopStep (eq_of_beq he)

end Lightsocks.Tunnel
