import Lightsocks.App.Jni
import Lightsocks.Proxy.Lifecycle
import Lightsocks.Tunnel.Engine

/-!
# The VPN service

`LightsocksVPNService` runs in a process of its own, and so do the two engines: each start
command launches a coroutine with two asyncs, one for `startTun2socks` and one for
`start_proxy_server`, which run on the threads of the default dispatcher. The machines of the
two engines are components of the state here, and their steps are events of the service.

The names of the native methods are swapped: `stopProxy` calls `stopTun2socks`, and
`stopTunSocks` calls `stop_proxy_server`. When the process dies, by an assertion, a null
pointer, an exception or `killProcess`, everything in it is gone; what the system still has to
deliver is not part of this state.
-/

namespace Lightsocks.App

open Lightsocks.Lib

inductive Engine
  | tun
  | proxy
  deriving DecidableEq, Repr

def Engine.other : Engine → Engine
  | .tun => .proxy
  | .proxy => .tun

/-- The extras of a start command. -/
structure Intent where
  socksIp : String
  socksPort : Int
  udpgwAddr : String
  deriving DecidableEq, Repr

/-- An async block; its native call has been entered, or has returned. -/
inductive Async
  | pending
  | entered
  | returned
  | cancelled
  deriving DecidableEq, Repr

/-- The coroutine itself awaits both asyncs, and then reports and stops the service. -/
inductive Stage
  | awaiting
  | finished
  | cancelled
  deriving DecidableEq, Repr

/-- What `start` has launched. -/
structure Coroutine where
  intent : Intent
  fd : Int
  tun : Async
  proxy : Async
  stage : Stage
  deriving DecidableEq, Repr

def Coroutine.async (c : Coroutine) : Engine → Async
  | .tun => c.tun
  | .proxy => c.proxy

def Coroutine.setAsync (c : Coroutine) (g : Engine) (a : Async) : Coroutine :=
  match g with
  | .tun => { c with tun := a }
  | .proxy => { c with proxy := a }

@[simp]
theorem Engine.other_other (g : Engine) : g.other.other = g := by
  cases g <;> rfl

theorem Engine.eq_or_other (g g' : Engine) : g' = g ∨ g' = g.other := by
  cases g <;> cases g' <;> simp [Engine.other]

@[simp]
theorem Coroutine.async_setAsync (c : Coroutine) (g : Engine) (a : Async) :
    (c.setAsync g a).async g = a := by
  cases g <;> rfl

@[simp]
theorem Coroutine.async_setAsync_other (c : Coroutine) (g : Engine) (a : Async) :
    (c.setAsync g a).async g.other = c.async g.other := by
  cases g <;> rfl

/-- Where a call of `LightsocksVPNService.stop` is; `stopTun2socks i` is inside the `i`-th
native call. -/
inductive StopPc
  | stopSelf
  | stopProxy
  | stopTun2socks (i : Nat)
  | stopTunSocks
  | stopProxyServer (i : Nat)
  | postKill
  | returned
  deriving DecidableEq, Repr

/-- `selfStopped` says whether `stopSelf` has been called. `deaths` is history: how many
processes have died before this one. -/
structure Service where
  tunnel : Tunnel.State
  proxy : Proxy.State
  coroutines : List Coroutine
  stops : List StopPc
  selfStopped : Bool
  killPosted : Bool
  deaths : Nat
  deriving DecidableEq, Repr

def Service.initial : Service where
  tunnel := .initial
  proxy := .initial
  coroutines := []
  stops := []
  selfStopped := false
  killPosted := false
  deaths := 0

/-- A new process. -/
def Service.died (s : Service) : Service := { Service.initial with deaths := s.deaths + 1 }

inductive Fault
  /-- A native start function is entered while an earlier call has not returned. -/
  | reentered (g : Engine)
  /-- An `event_base` is used after `event_base_free`. -/
  | freedBase
  deriving DecidableEq, Repr

inductive Event
  /-- With no intent when the system restarts the service; `fd` is what `configure` returns. -/
  | onStartCommand (intent : Option Intent) (fd : Option Int)
  /-- An async of the `i`-th coroutine enters its native call. -/
  | enter (g : Engine) (i : Nat)
  | tunnel (e : Tunnel.Event)
  | proxy (e : Proxy.Event)
  /-- The `i`-th coroutine has both results. -/
  | finish (i : Nat)
  /-- `stop` is called by a client. -/
  | stop
  | stopStep (i : Nat)
  | onDestroy
  | killProcess
  deriving DecidableEq, Repr

/-- A native call of the engine has not returned. -/
def Service.running (s : Service) : Engine → Bool
  | .tun => s.tunnel.pc != .idle
  | .proxy => s.proxy.pc != .idle

/-- The asyncs whose native call has returned notice. -/
def Service.noticeReturn (s : Service) (g : Engine) : Service :=
  if s.running g then s
  else { s with
    coroutines := s.coroutines.map fun c =>
      if c.async g = .entered then c.setAsync g .returned else c }

def mtu : Int := 1500

def localProxyListenPort : Int := 6666

/-- A step of `startTun2socks` or of `stopTun2socks`. -/
def Service.tunnelExec (s : Service) (e : Tunnel.Event) : Service :=
  match Tunnel.exec s.tunnel e with
  | .ok tunnel => { s with tunnel }
  | .error _ => s.died

/-- A step of `start_proxy_server` or of `stop_proxy_server`. -/
def Service.proxyExec (s : Service) (e : Proxy.Event) : Except Fault Service :=
  match Proxy.exec s.proxy e with
  | .ok proxy => .ok { s with proxy }
  | .error .freedBase => .error .freedBase
  | .error _ => .ok s.died

/-- The native start function, with what the coroutine passes to it. -/
def Service.nativeStart (s : Service) (c : Coroutine) : Engine → Except Fault Service
  | .tun => .ok (s.tunnelExec (.start ⟨c.fd, mtu, some c.intent.udpgwAddr⟩))
  | .proxy =>
    s.proxyExec (.start (getStringUTFChars c.intent.socksIp) c.intent.socksPort
      localProxyListenPort)

/-- A step of the `i`-th call of `stop`. -/
def Service.stopExec (s : Service) (i : Nat) : StopPc → Except Fault Service
  | .stopSelf => .ok { s with selfStopped := true, stops := s.stops.set i .stopProxy }
  | .stopProxy =>
    .ok { s.tunnelExec .stop with
      stops := s.stops.set i (.stopTun2socks s.tunnel.stops.length) }
  | .stopTun2socks _ => .ok { s with stops := s.stops.set i .stopTunSocks }
  | .stopTunSocks => do
    let s' ← s.proxyExec .stop
    return { s' with stops := s.stops.set i (.stopProxyServer s.proxy.stops.length) }
  | .stopProxyServer _ => .ok { s with stops := s.stops.set i .postKill }
  | .postKill => .ok { s with killPosted := true, stops := s.stops.set i .returned }
  | .returned => .ok s

/-- A step of a call of `stop` is possible once its native call has returned. -/
def Service.stopEnabled (s : Service) : StopPc → Bool
  | .stopTun2socks i => s.tunnel.stops[i]? == some none
  | .stopProxyServer i => (s.proxy.stops[i]?.map Proxy.Stop.pc) == some .returned
  | .returned => false
  | _ => true

namespace Service

def enabled (s : Service) : Event → Bool
  | .onStartCommand _ _ => true
  | .enter g i => (s.coroutines[i]?.map fun c => c.async g) == some .pending
  | .tunnel (.start _) | .tunnel .stop => false
  | .tunnel e => Tunnel.enabled s.tunnel e
  | .proxy (.start _ _ _) | .proxy .stop => false
  | .proxy e => Proxy.enabled s.proxy e
  | .finish i =>
    match s.coroutines[i]? with
    | some c => c.tun == .returned && c.proxy == .returned && c.stage == .awaiting
    | none => false
  | .stop => true
  | .stopStep i =>
    match s.stops[i]? with
    | some pc => s.stopEnabled pc
    | none => false
  | .onDestroy => true
  | .killProcess => s.killPosted

def exec (s : Service) : Event → Except Fault Service
  | .onStartCommand (some intent) (some fd) =>
    .ok { s with coroutines := s.coroutines ++ [⟨intent, fd, .pending, .pending, .awaiting⟩] }
  | .onStartCommand _ _ => .ok s.died
  | .enter g i =>
    match s.coroutines[i]? with
    | some c =>
      if s.running g then .error (.reentered g)
      else do
        let s' ← s.nativeStart c g
        return { s' with coroutines := s'.coroutines.set i (c.setAsync g .entered) }
    | none => .ok s
  | .tunnel e => .ok ((s.tunnelExec e).noticeReturn .tun)
  | .proxy e => do
    let s' ← s.proxyExec e
    return s'.noticeReturn .proxy
  | .finish i =>
    match s.coroutines[i]? with
    | some c =>
      .ok { s with
        coroutines := s.coroutines.set i { c with stage := .finished }
        selfStopped := true }
    | none => .ok s
  | .stop => .ok { s with stops := s.stops ++ [.stopSelf] }
  | .stopStep i =>
    match s.stops[i]? with
    | some pc => s.stopExec i pc
    | none => .ok s
  | .onDestroy =>
    .ok { s with
      coroutines := s.coroutines.map fun c =>
        { c with
          tun := if c.tun = .pending then .cancelled else c.tun
          proxy := if c.proxy = .pending then .cancelled else c.proxy
          stage := if c.stage = .awaiting then .cancelled else c.stage }
      stops := s.stops ++ [.stopSelf] }
  | .killProcess => .ok s.died

end Service

def service : Machine Service Event Fault where
  init := .initial
  enabled := Service.enabled
  exec := Service.exec

end Lightsocks.App
