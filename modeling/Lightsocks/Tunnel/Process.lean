import Lightsocks.Tunnel.Exits
import Lightsocks.Tunnel.Transfer

/-!
# The process of the tunnel

All the runs of `startTun2socks` in one process, with the connections and with the device:
the events of the connections come between those of the run, when it is in an iteration of
its loop. The clients that are left when the loop is over are freed, and what a run acquires
and releases is entered in the ledger in the order of the source.
-/

namespace Lightsocks.Tunnel

open Lightsocks.Lib

/-! ## The device -/

/-- `enum BTap_init_type`. -/
inductive BTapInitType
  | string
  | fd
  deriving DecidableEq, Repr

/-- `closed` is history: the file descriptors that were closed. -/
structure BTap where
  closeFd : Bool
  fd : Int
  frameMtu : Int
  closed : List Int
  deriving DecidableEq, Repr

def BTap.initial : BTap := ⟨false, 0, 0, []⟩

def BTap.close (o : BTap) : BTap := if o.closeFd then { o with closed := o.fd :: o.closed } else o

/-- `BTap_Init2`, once there is a file descriptor; `ok` is whether the reactor takes it. -/
def bTapInit2 (o : BTap) (initType : BTapInitType) (fd mtu : Int) (ok : Bool) : BTap :=
  let o := { o with closeFd := initType != .fd, fd, frameMtu := mtu }
  if ok then o else o.close

def bTapFree (o : BTap) : BTap := o.close

/-! ## The machine -/

structure Process where
  tunnel : State
  clients : Clients
  device : BTap

def Process.initial : Process := ⟨.initial, .initial, .initial⟩

inductive ProcessEvent
  | tunnel (e : Event)
  | client (e : ClientEvent)
  deriving DecidableEq, Repr

inductive ProcessFault
  | tunnel (f : Fault)
  | client (f : ClientFault)
  deriving DecidableEq, Repr

/-- What a step of the setup acquires. -/
def SetupStep.acquires : SetupStep → Option Resource
  | .reactorInit => some .reactor
  | .signalInit => some .signal
  | .tapInit => some .device
  | .deviceReadInterface => some .deviceReadInterface
  | .deviceReadBuffer => some .deviceReadBuffer
  | .udpgwClient => some .udpgwClient
  | .lwipInitJob => some .lwipInitJob
  | .deviceWriteBuf => some .deviceWriteBuf
  | .tcpTimer => some .tcpTimer
  | _ => none

/-- What the run has registered with lwIP, the latest first. -/
def lwipThings (haveNetif : Bool) (listener : Option Nat) : List Thing :=
  (if listener.isSome then [.listener] else []) ++ (if haveNetif then [.netif] else [])

/-- What the statements after a label release. -/
def Label.releases (s : State) (label : Label) : List Thing :=
  (match label with
    | .loopExit => lwipThings s.haveNetif s.listener
    | _ => []) ++ (label.frees s).map .setup

/-- The entries that an event makes, the first one first. -/
def Event.entries (s : State) : Event → List (Entry Thing)
  | .setup step true => step.acquires.toList.map fun r => .acquire (.setup r)
  | .dispatch (.lwipInit newOk listenOk) =>
    let r := lwipInitJobHandler s.lwip s.theNetif newOk listenOk
    (lwipThings true r.listener).reverse.map .acquire
  | .cleanup label => (label.releases s).map .release
  | _ => []

/-- What an event of the run does to the connections. -/
def Event.clients (clients : Clients) : Event → Except ClientFault Clients
  | .setup .loopState _ => .ok { clients with tcpClients := [], numClients := 0 }
  | .cleanup .loopExit => freeClients clients.tcpClients.length clients
  | _ => .ok clients

def Event.device (s : State) (o : BTap) : Event → BTap
  | .setup .tapInit ok => bTapInit2 o .fd s.options.tunfd s.options.tunmtu ok
  | .cleanup .fail4 => bTapFree o
  | _ => o

/-- A callback of lwIP is over before its iteration is. -/
def Event.waits : Event → Bool
  | .dispatch _ | .waitForEvents => true
  | _ => false

namespace Process

def enabled (p : Process) : ProcessEvent → Bool
  | .tunnel e => Tunnel.enabled p.tunnel e && !(e.waits && p.clients.call.isSome)
  | .client e =>
    p.tunnel.pc == .iteration && p.tunnel.haveNetif && e.enabled p.clients &&
      match e with
      | .accept _ _ => p.tunnel.listener.isSome
      | _ => true

def exec (p : Process) : ProcessEvent → Except ProcessFault Process
  | .tunnel e => do
    let clients ← (e.clients p.clients).mapError .client
    let tunnel ← (Tunnel.exec p.tunnel e).mapError .tunnel
    return {
      tunnel
      clients := (e.entries p.tunnel).foldl Clients.write clients
      device := e.device p.tunnel p.device }
  | .client e => do
    let clients ← (e.exec p.clients).mapError .client
    return { p with clients }

end Process

def process : Machine Process ProcessEvent ProcessFault where
  init := .initial
  enabled := Process.enabled
  exec := Process.exec

end Lightsocks.Tunnel
