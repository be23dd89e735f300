import Lightsocks.App.Engines

/-!
# The activity and the system

`MainActivity` lives in another process than the service. Between the two stands the system,
which delivers start commands, connections and results in its own time: what it still has to
deliver is part of the state here. Of the widgets only the two buttons and the progress bar are
kept, and of the form only whether it is valid and what it puts into the start command.

An activity that is destroyed loses its connection. A callback or a click of an activity that
is gone does not happen.
-/

namespace Lightsocks.App

open Lightsocks.Lib

/-- The enabled flags of the buttons, `remoteLightsocksService != null`, and whether
`serviceConnection` is bound. `process` tells in which process the binder lives: how many had
died when it was handed out. -/
structure Activity where
  btnStart : Bool
  btnStop : Bool
  loading : Bool
  remote : Bool
  bound : Bool
  process : Nat
  deriving DecidableEq, Repr

/-- `updateUI`. -/
def Activity.updateUI (a : Activity) (loading startEnabled : Bool) : Activity :=
  { a with
    loading
    btnStop := !startEnabled && !loading
    btnStart := startEnabled && !loading }

/-- `permissions` counts the results of `startActivityForResult` that are still to come, and
`commands` has the start commands that are not yet delivered. `connecting` and `disconnecting`
say that `onServiceConnected` and `onServiceDisconnected` are to come, and `callback` that the
service has the callback of this activity. -/
structure System where
  activity : Option Activity
  permissions : Nat
  commands : List Intent
  connecting : Bool
  disconnecting : Bool
  callback : Bool
  service : Service
  deriving DecidableEq, Repr

def System.initial : System where
  activity := none
  permissions := 0
  commands := []
  connecting := false
  disconnecting := false
  callback := false
  service := .initial

/-- `form` is the intent of a valid form, and `prepared` says that `VpnService.prepare` returns
null. -/
inductive SystemEvent
  | onCreate (fromService : Bool)
  | onDestroy
  | clickStart (form : Option Intent) (prepared : Bool)
  | clickStop
  | onActivityResult (ok : Bool) (form : Option Intent) (prepared : Bool)
  | onServiceConnected
  | onServiceDisconnected
  /-- The next start command gets to `onStartCommand`; `fd` is what `configure` returns. -/
  | deliver (fd : Option Int)
  /-- The service is sticky: the system restarts it without an intent. -/
  | restart
  /-- A step of the service. -/
  | service (e : Event)
  deriving DecidableEq, Repr

/-- Nothing is left of the connection. -/
def System.disconnect (s : System) : System :=
  { s with connecting := false, disconnecting := false, callback := false }

/-- `bindVPNService`: the service is created if need be, and the connection will be told. Android
is taken to call `onServiceConnected` for every bind, also for one of a connection that is bound
already. -/
def System.bindVPNService (s : System) (a : Activity) : System :=
  { s with activity := some { a with bound := true }, connecting := true }

/-- `startVPN`. -/
def System.startVPN (s : System) (a : Activity) (form : Option Intent) (prepared : Bool) :
    System :=
  let a := a.updateUI true false
  match form with
  | none => { s with activity := some (a.updateUI false true) }
  | some intent =>
    if prepared then { s with commands := s.commands ++ [intent] }.bindVPNService a
    else { s with activity := some a, permissions := s.permissions + 1 }

/-- `onCreate`, whose intent may have the extra that the service puts into its notification. -/
def System.onCreate (s : System) (fromService : Bool) : System :=
  let a := (Activity.mk false false false false false 0).updateUI false true
  if fromService && !a.remote then s.bindVPNService (a.updateUI true false)
  else { s with activity := some a }

/-- What the activity sees of a step of the service: that its process has died, or that a
coroutine calls back with the state 0, which unbinds the connection. -/
def System.observe (s : System) (service : Service) (e : Event) : System :=
  match s.activity with
  | none => { s with service }
  | some a =>
    if service.deaths ≠ s.service.deaths then
      { s with service, disconnecting := a.bound && a.remote, callback := false }
    else
      match e with
      | .finish _ =>
        if s.callback then
          { s.disconnect with service, activity := some { a with bound := false } }
        else { s with service }
      | _ => { s with service }

namespace System

def enabled (s : System) : SystemEvent → Bool
  | .onCreate _ => s.activity.isNone
  | .onDestroy => s.activity.isSome
  | .clickStart _ _ =>
    match s.activity with
    | some a => a.btnStart
    | none => false
  | .clickStop =>
    match s.activity with
    | some a => a.btnStop
    | none => false
  | .onActivityResult _ _ _ => s.activity.isSome && decide (0 < s.permissions)
  | .onServiceConnected =>
    match s.activity with
    | some a => s.connecting && a.bound
    | none => false
  | .onServiceDisconnected =>
    match s.activity with
    | some a => s.disconnecting && a.bound
    | none => false
  | .deliver _ => !s.commands.isEmpty
  | .restart => decide (0 < s.service.deaths)
  | .service (.onStartCommand _ _) | .service .stop => false
  | .service e => s.service.enabled e

def exec (s : System) : SystemEvent → Except Fault System
  | .onCreate fromService => .ok (s.onCreate fromService)
  | .onDestroy => .ok { s.disconnect with activity := none }
  | .clickStart form prepared =>
    match s.activity with
    | some a => .ok (s.startVPN a form prepared)
    | none => .ok s
  | .clickStop =>
    match s.activity with
    | some a =>
      if !a.remote then .ok s
      -- the binder of a dead process throws
      else if a.process ≠ s.service.deaths then .ok { s.disconnect with activity := none }
      else do
        let service ← s.service.exec .stop
        return { s with activity := some (a.updateUI true false), service }
    | none => .ok s
  | .onActivityResult ok form prepared =>
    let s := { s with permissions := s.permissions - 1 }
    match s.activity with
    | some a => .ok (if ok then s.startVPN a form prepared else s)
    | none => .ok s
  | .onServiceConnected =>
    match s.activity with
    | some a =>
      .ok { s with
        activity := some ({ a with remote := true, process := s.service.deaths }.updateUI
          false false)
        connecting := false
        callback := true }
    | none => .ok s
  | .onServiceDisconnected =>
    match s.activity with
    | some a =>
      -- the connection stays bound, and the system connects it again
      .ok { s with
        activity := some ({ a with remote := false }.updateUI false true)
        connecting := true
        disconnecting := false }
    | none => .ok s
  | .deliver fd =>
    match s.commands with
    | intent :: commands => do
      let service ← s.service.exec (.onStartCommand (some intent) fd)
      return { s with commands }.observe service (.onStartCommand (some intent) fd)
    | [] => .ok s
  | .restart => do
    let service ← s.service.exec (.onStartCommand none none)
    return s.observe service (.onStartCommand none none)
  | .service e => do
    let service ← s.service.exec e
    return s.observe service e

end System

def system : Machine System SystemEvent Fault where
  init := .initial
  enabled := System.enabled
  exec := System.exec

end Lightsocks.App
