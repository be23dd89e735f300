import Lightsocks.Lib.Machine

/-!
# Starting and stopping the proxy

`start_proxy_server` runs on a worker thread and `stop_proxy_server` on any other, any number
of times; they share the globals of the server. Each step of either is an event here, so a
run is an interleaving.

The global `base` is never reset, so after a run has returned it points to an `event_base`
that has been freed (`BasePtr.freed`); there is at most one that has not. In the loop,
`event_loopexit_cb` is a callback that `event_base_loopexit` puts into the queue of active
callbacks; with a callback in the queue the loop polls and does not wait. What else happens
in a callback is left open, but for the filters' accesses to the global `encryptor`.
-/

namespace Lightsocks.Proxy

open Lightsocks.Lib

/-- The part of a `struct event_base` that ends its loop. -/
structure EventBase where
  eventBreak : Bool
  eventGotterm : Bool
  /-- How often `event_loopexit_cb` is in the queue of active callbacks. -/
  loopexits : Nat
  deriving DecidableEq, Repr

/-- Nothing asks the loop to end. -/
def EventBase.quiet (b : EventBase) : Bool :=
  !b.eventBreak && !b.eventGotterm && b.loopexits == 0

/-- The global `base`. -/
inductive BasePtr
  | null
  | live (b : EventBase)
  | freed
  deriving DecidableEq, Repr

/-- Where `start_proxy_server` is, or which call it makes next. -/
inductive StartPc
  | idle
  | signal
  | eventBaseNew
  | evconnlistenerNewBind
  | eventBaseDispatch
  /-- At the head of the `while` of `event_base_loop`. -/
  | loopHead
  /-- In the backend's dispatch, until an event comes. -/
  | waiting
  /-- In the backend's dispatch, with callbacks already active. -/
  | polling
  /-- In `event_process_active`. -/
  | processing
  | callback
  | evconnlistenerFree
  | eventBaseFree
  deriving DecidableEq, Repr

/-- Which call or assignment `stop_proxy_server` makes next. -/
inductive StopPc
  | loopbreak
  | loopexit
  | clearEncryptor
  | clearServerPort
  | clearClientCallback
  | returned
  deriving DecidableEq, Repr

/-- A call of `stop_proxy_server`, with its local `result`. -/
structure Stop where
  pc : StopPc
  result : Int
  deriving DecidableEq, Repr

/-- `encryptor` and `clientCallback` say whether the pointers are set, and `listener` whether
`ev` is. `stopped` and `signalled` are history: that a `stop_proxy_server` returned since this
run began, and that one of them reached the loop of this run, with its loopexit or, once the
loop had been entered, with its loopbreak. -/
structure State where
  serverIp : List UInt8
  serverPort : Int
  localPort : Int
  base : BasePtr
  encryptor : Bool
  clientCallback : Bool
  pc : StartPc
  listener : Bool
  results : List Int
  stops : List Stop
  stopped : Bool
  signalled : Bool
  deriving DecidableEq, Repr

def State.initial : State where
  serverIp := []
  serverPort := 0
  localPort := 0
  base := .null
  encryptor := false
  clientCallback := false
  pc := .idle
  listener := false
  results := []
  stops := []
  stopped := false
  signalled := false

inductive Fault
  | nullBase
  /-- An `event_base` is used after `event_base_free`. -/
  | freedBase
  /-- `evconnlistener_free` of a null pointer. -/
  | nullListener
  /-- A lookup in a null `encryptor`. -/
  | nullEncryptor
  deriving DecidableEq, Repr

inductive Event
  /-- `start_proxy_server` is called, and sets the globals. -/
  | start (serverIp : List UInt8) (serverPort localPort : Int)
  | signal (ok : Bool)
  | eventBaseNew (ok : Bool)
  | evconnlistenerNewBind (ok : Bool)
  /-- `event_base_loop` is entered. -/
  | dispatch
  /-- The checks at the head of the loop. -/
  | iterate
  /-- The backend's dispatch returns. -/
  | wake (ok : Bool)
  /-- `event_loopexit_cb` runs. -/
  | loopexitCb
  /-- Another callback begins. -/
  | callback
  /-- `dest_filter_in` or `dest_filter_out` looks a byte up. -/
  | lookup
  | callbackReturns
  /-- No callback is active any more. -/
  | processed
  | evconnlistenerFree
  | eventBaseFree
  /-- `stop_proxy_server` is called. -/
  | stop
  /-- The `i`-th call of `stop_proxy_server` makes the step `pc`. -/
  | stopStep (i : Nat) (pc : StopPc)
  deriving DecidableEq, Repr

/-- `start_proxy_server` is inside `event_base_loop`. -/
def StartPc.inLoop : StartPc → Bool
  | .loopHead | .waiting | .polling | .processing | .callback => true
  | _ => false

def State.loopexits (s : State) : Nat :=
  match s.base with
  | .live b => b.loopexits
  | _ => 0

def enabled (s : State) : Event → Bool
  | .start _ _ _ => s.pc == .idle
  | .signal _ => s.pc == .signal
  | .eventBaseNew _ => s.pc == .eventBaseNew
  | .evconnlistenerNewBind _ => s.pc == .evconnlistenerNewBind
  | .dispatch => s.pc == .eventBaseDispatch
  | .iterate => s.pc == .loopHead
  | .wake _ => s.pc == .waiting || s.pc == .polling
  | .loopexitCb => s.pc == .processing && decide (0 < s.loopexits)
  | .callback => s.pc == .processing
  | .lookup => s.pc == .callback
  | .callbackReturns => s.pc == .callback
  | .processed => s.pc == .processing && s.loopexits == 0
  | .evconnlistenerFree => s.pc == .evconnlistenerFree
  | .eventBaseFree => s.pc == .eventBaseFree
  | .stop => true
  | .stopStep i pc =>
    match s.stops[i]? with
    | some stop => stop.pc == pc && pc != .returned
    | none => false

/-! ## `start_proxy_server` -/

/-- libevent follows the pointer `base`. -/
def State.useBase (s : State) (k : EventBase → State) : Except Fault State :=
  match s.base with
  | .null => .error .nullBase
  | .live b => .ok (k b)
  | .freed => .error .freedBase

def State.return_ (s : State) (result : Int) : State :=
  { s with pc := .idle, results := s.results ++ [result] }

/-- The head of the loop: the loop ends if it was asked to, or if nothing is registered. -/
def iterate (s : State) (b : EventBase) : State :=
  if b.eventGotterm || b.eventBreak then { s with pc := .evconnlistenerFree }
  else if !s.listener && b.loopexits == 0 then { s with pc := .evconnlistenerFree }
  else if b.loopexits == 0 then { s with pc := .waiting }
  else { s with pc := .polling }

/-- After a callback `event_process_active` goes on unless the loop was broken. -/
def afterCallback (s : State) (b : EventBase) : State :=
  if b.eventBreak then { s with pc := .loopHead } else { s with pc := .processing }

/-! ## `stop_proxy_server` -/

/-- `event_base_loopbreak`. -/
def eventBaseLoopbreak (s : State) : Except Fault (State × Int) :=
  match s.base with
  | .null => .ok (s, -1)
  | .live b =>
    .ok ({ s with
      base := .live { b with eventBreak := true }
      signalled := s.signalled || s.pc.inLoop }, 0)
  | .freed => .error .freedBase

/-- `event_base_loopexit` without a time. -/
def eventBaseLoopexit (s : State) : Except Fault (State × Int) :=
  match s.base with
  | .null => .ok (s, -1)
  | .live b =>
    .ok ({ s with
      base := .live { b with loopexits := b.loopexits + 1 }
      signalled := true }, 0)
  | .freed => .error .freedBase

/-- A step of the `i`-th call of `stop_proxy_server`. -/
def stopStep (s : State) (i : Nat) (stop : Stop) : Except Fault State :=
  match stop.pc with
  | .loopbreak => do
    let (s, result) ← eventBaseLoopbreak s
    return { s with stops := s.stops.set i ⟨.loopexit, result⟩ }
  | .loopexit => do
    let (s, _) ← eventBaseLoopexit s
    return { s with stops := s.stops.set i { stop with pc := .clearEncryptor } }
  | .clearEncryptor =>
    .ok { s with
      encryptor := false
      stops := s.stops.set i { stop with pc := .clearServerPort } }
  | .clearServerPort =>
    .ok { s with
      serverPort := 0
      stops := s.stops.set i { stop with pc := .clearClientCallback } }
  | .clearClientCallback =>
    .ok { s with
      clientCallback := false
      stops := s.stops.set i { stop with pc := .returned }
      stopped := s.stopped || s.pc != .idle }
  | .returned => .ok s

def exec (s : State) : Event → Except Fault State
  | .start serverIp serverPort localPort =>
    .ok { s with
      serverIp, serverPort, localPort
      encryptor := true
      clientCallback := true
      pc := .signal
      listener := false
      stopped := false
      signalled := false }
  | .signal ok => .ok (if ok then { s with pc := .eventBaseNew } else s.return_ (-1))
  | .eventBaseNew ok =>
    .ok (if ok then
        { s with base := .live ⟨false, false, 0⟩, pc := .evconnlistenerNewBind }
      else { s with base := .null }.return_ (-2))
  | .evconnlistenerNewBind ok => .ok { s with listener := ok, pc := .eventBaseDispatch }
  | .dispatch =>
    s.useBase fun b =>
      { s with
        base := .live { b with eventBreak := false, eventGotterm := false }
        pc := .loopHead }
  | .iterate => s.useBase fun b => iterate s b
  | .wake ok => .ok { s with pc := if ok then .processing else .evconnlistenerFree }
  | .loopexitCb =>
    s.useBase fun b =>
      let b := { b with eventGotterm := true, loopexits := b.loopexits - 1 }
      afterCallback { s with base := .live b } b
  | .callback => .ok { s with pc := .callback }
  | .lookup => if s.encryptor then .ok s else .error .nullEncryptor
  | .callbackReturns => s.useBase fun b => afterCallback s b
  | .processed => .ok { s with pc := .loopHead }
  | .evconnlistenerFree =>
    if s.listener then .ok { s with pc := .eventBaseFree } else .error .nullListener
  | .eventBaseFree => s.useBase fun _ => { s with base := .freed }.return_ 0
  | .stop => .ok { s with stops := s.stops ++ [⟨.loopbreak, 0⟩] }
  | .stopStep i _ =>
    match s.stops[i]? with
    | some stop => stopStep s i stop
    | none => .ok s

def proxy : Machine State Event Fault where
  init := .initial
  enabled := enabled
  exec := exec

/-! ## Steps

The invariants are case analyses over `Step`, which says once what an event can do. -/

/-- What a step of the machine can be, if it does not fail. -/
inductive Step (s : State) : Event → State → Prop
  | start (serverIp : List UInt8) (serverPort localPort : Int) (hpc : s.pc = .idle) :
      Step s (.start serverIp serverPort localPort) { s with
        serverIp, serverPort, localPort
        encryptor := true
        clientCallback := true
        pc := .signal
        listener := false
        stopped := false
        signalled := false }
  | signal (hpc : s.pc = .signal) : Step s (.signal true) { s with pc := .eventBaseNew }
  | signalFails (hpc : s.pc = .signal) : Step s (.signal false) (s.return_ (-1))
  | eventBaseNew (hpc : s.pc = .eventBaseNew) :
      Step s (.eventBaseNew true)
        { s with base := .live ⟨false, false, 0⟩, pc := .evconnlistenerNewBind }
  | eventBaseNewFails (hpc : s.pc = .eventBaseNew) :
      Step s (.eventBaseNew false) ({ s with base := .null }.return_ (-2))
  | evconnlistenerNewBind (ok : Bool) (hpc : s.pc = .evconnlistenerNewBind) :
      Step s (.evconnlistenerNewBind ok) { s with listener := ok, pc := .eventBaseDispatch }
  | dispatch (b : EventBase) (hpc : s.pc = .eventBaseDispatch) (hb : s.base = .live b) :
      Step s .dispatch { s with
        base := .live { b with eventBreak := false, eventGotterm := false }
        pc := .loopHead }
  | iterate (b : EventBase) (hpc : s.pc = .loopHead) (hb : s.base = .live b) :
      Step s .iterate (iterate s b)
  | wake (hpc : s.pc = .waiting ∨ s.pc = .polling) :
      Step s (.wake true) { s with pc := .processing }
  | wakeFails (hpc : s.pc = .waiting ∨ s.pc = .polling) :
      Step s (.wake false) { s with pc := .evconnlistenerFree }
  | loopexitCb (b b' : EventBase) (hpc : s.pc = .processing) (hb : s.base = .live b)
      (hpos : 0 < b.loopexits)
      (hb' : b' = { b with eventGotterm := true, loopexits := b.loopexits - 1 }) :
      Step s .loopexitCb (afterCallback { s with base := .live b' } b')
  | callback (hpc : s.pc = .processing) : Step s .callback { s with pc := .callback }
  | lookup (hpc : s.pc = .callback) (henc : s.encryptor = true) : Step s .lookup s
  | callbackReturns (b : EventBase) (hpc : s.pc = .callback) (hb : s.base = .live b) :
      Step s .callbackReturns (afterCallback s b)
  | processed (hpc : s.pc = .processing) : Step s .processed { s with pc := .loopHead }
  | evconnlistenerFree (hpc : s.pc = .evconnlistenerFree) (hl : s.listener = true) :
      Step s .evconnlistenerFree { s with pc := .eventBaseFree }
  | eventBaseFree (b : EventBase) (hpc : s.pc = .eventBaseFree) (hb : s.base = .live b) :
      Step s .eventBaseFree ({ s with base := .freed }.return_ 0)
  | stop : Step s .stop { s with stops := s.stops ++ [⟨.loopbreak, 0⟩] }
  | loopbreakNull {i : Nat} {stop : Stop} (hi : s.stops[i]? = some stop)
      (hpc : stop.pc = .loopbreak) (hb : s.base = .null) :
      Step s (.stopStep i .loopbreak) { s with stops := s.stops.set i ⟨.loopexit, -1⟩ }
  | loopbreak {i : Nat} {stop : Stop} (b : EventBase) (hi : s.stops[i]? = some stop)
      (hpc : stop.pc = .loopbreak) (hb : s.base = .live b) :
      Step s (.stopStep i .loopbreak) { s with
        base := .live { b with eventBreak := true }
        signalled := s.signalled || s.pc.inLoop
        stops := s.stops.set i ⟨.loopexit, 0⟩ }
  | loopexitNull {i : Nat} {stop : Stop} (hi : s.stops[i]? = some stop)
      (hpc : stop.pc = .loopexit) (hb : s.base = .null) :
      Step s (.stopStep i .loopexit)
        { s with stops := s.stops.set i { stop with pc := .clearEncryptor } }
  | loopexit {i : Nat} {stop : Stop} (b : EventBase) (hi : s.stops[i]? = some stop)
      (hpc : stop.pc = .loopexit) (hb : s.base = .live b) :
      Step s (.stopStep i .loopexit) { s with
        base := .live { b with loopexits := b.loopexits + 1 }
        signalled := true
        stops := s.stops.set i { stop with pc := .clearEncryptor } }
  | clearEncryptor {i : Nat} {stop : Stop} (hi : s.stops[i]? = some stop)
      (hpc : stop.pc = .clearEncryptor) :
      Step s (.stopStep i .clearEncryptor) { s with
        encryptor := false
        stops := s.stops.set i { stop with pc := .clearServerPort } }
  | clearServerPort {i : Nat} {stop : Stop} (hi : s.stops[i]? = some stop)
      (hpc : stop.pc = .clearServerPort) :
      Step s (.stopStep i .clearServerPort) { s with
        serverPort := 0
        stops := s.stops.set i { stop with pc := .clearClientCallback } }
  | clearClientCallback {i : Nat} {stop : Stop} (hi : s.stops[i]? = some stop)
      (hpc : stop.pc = .clearClientCallback) :
      Step s (.stopStep i .clearClientCallback) { s with
        clientCallback := false
        stops := s.stops.set i { stop with pc := .returned }
        stopped := s.stopped || s.pc != .idle }

theorem useBase_ok {s s' : State} {k : EventBase → State} (h : s.useBase k = .ok s') :
    ∃ b, s.base = .live b ∧ s' = k b := by
  unfold State.useBase at h
  split at h
  · cases h
  · rename_i b hb
    cases h
    exact ⟨b, hb, rfl⟩
  · cases h

theorem stopStep_step {s s' : State} {i : Nat} {stop : Stop} (hi : s.stops[i]? = some stop)
    (hret : stop.pc ≠ .returned) (hs' : stopStep s i stop = .ok s') :
    Step s (.stopStep i stop.pc) s' := by
  unfold stopStep at hs'
  split at hs'
  · rename_i hpc
    rw [hpc]
    obtain ⟨x, hx, hs'⟩ := bind_ok hs'
    unfold eventBaseLoopbreak at hx
    split at hx <;> cases hx <;> cases hs'
    · exact .loopbreakNull hi hpc ‹_›
    · exact .loopbreak _ hi hpc ‹_›
  · rename_i hpc
    rw [hpc]
    obtain ⟨x, hx, hs'⟩ := bind_ok hs'
    unfold eventBaseLoopexit at hx
    split at hx <;> cases hx <;> cases hs'
    · exact .loopexitNull hi hpc ‹_›
    · exact .loopexit _ hi hpc ‹_›
  · rename_i hpc
    rw [hpc]
    cases hs'
    exact .clearEncryptor hi hpc
  · rename_i hpc
    rw [hpc]
    cases hs'
    exact .clearServerPort hi hpc
  · rename_i hpc
    rw [hpc]
    cases hs'
    exact .clearClientCallback hi hpc
  · rename_i hpc
    exact absurd hpc hret

/-- A step of the machine is one of the cases. -/
theorem step_of_exec {s s' : State} {e : Event} (he : enabled s e = true)
    (hs' : exec s e = .ok s') : Step s e s' := by
  cases e with
  | start serverIp serverPort localPort =>
    cases hs'
    exact .start _ _ _ (eq_of_beq he)
  | signal ok =>
    cases hs'
    cases ok with
    | true => exact .signal (eq_of_beq he)
    | false => exact .signalFails (eq_of_beq he)
  | eventBaseNew ok =>
    cases hs'
    cases ok with
    | true => exact .eventBaseNew (eq_of_beq he)
    | false => exact .eventBaseNewFails (eq_of_beq he)
  | evconnlistenerNewBind ok =>
    cases hs'
    exact .evconnlistenerNewBind ok (eq_of_beq he)
  | dispatch =>
    obtain ⟨b, hb, rfl⟩ := useBase_ok hs'
    exact .dispatch b (eq_of_beq he) hb
  | iterate =>
    obtain ⟨b, hb, rfl⟩ := useBase_ok hs'
    exact .iterate b (eq_of_beq he) hb
  | wake ok =>
    have hpc := (Bool.or_eq_true_iff.mp he).imp eq_of_beq eq_of_beq
    cases hs'
    cases ok with
    | true => exact .wake hpc
    | false => exact .wakeFails hpc
  | loopexitCb =>
    obtain ⟨hpc, hpos⟩ := Bool.and_eq_true_iff.mp he
    obtain ⟨b, hb, rfl⟩ := useBase_ok hs'
    exact .loopexitCb b _ (eq_of_beq hpc) hb (by simpa [State.loopexits, hb] using hpos) rfl
  | callback =>
    cases hs'
    exact .callback (eq_of_beq he)
  | lookup =>
    simp only [exec] at hs'
    split at hs' <;> cases hs'
    exact .lookup (eq_of_beq he) ‹_›
  | callbackReturns =>
    obtain ⟨b, hb, rfl⟩ := useBase_ok hs'
    exact .callbackReturns b (eq_of_beq he) hb
  | processed =>
    obtain ⟨hpc, -⟩ := Bool.and_eq_true_iff.mp he
    cases hs'
    exact .processed (eq_of_beq hpc)
  | evconnlistenerFree =>
    simp only [exec] at hs'
    split at hs' <;> cases hs'
    exact .evconnlistenerFree (eq_of_beq he) ‹_›
  | eventBaseFree =>
    obtain ⟨b, hb, rfl⟩ := useBase_ok hs'
    exact .eventBaseFree b (eq_of_beq he) hb
  | stop =>
    cases hs'
    exact .stop
  | stopStep i pc =>
    simp only [enabled] at he
    simp only [exec] at hs'
    split at hs'
    · rename_i stop hi
      rw [hi] at he
      obtain ⟨hpc, hret⟩ := Bool.and_eq_true_iff.mp he
      obtain rfl : stop.pc = pc := eq_of_beq hpc
      exact stopStep_step hi (by simpa using hret) hs'
    · rename_i hi
      rw [hi] at he
      cases he

end Lightsocks.Proxy
