import Lightsocks.Lib.Ledger
import Lightsocks.Tunnel.Engine
import Mathlib.Logic.Function.Basic

/-!
# The connections of the tunnel

A `struct tcp_client` stands between a pcb of lwIP and a `BSocksClient`, and is freed when both
are closed. Everything that frees one of the three is here, with the callbacks that lead to it;
of the buffers only the lengths are kept. What lwIP and the SOCKS client know about a
connection is `Ends`: it outlives the record, so a callback that comes too late is a fault, and
so is any access to a record, a pcb or a SOCKS client that is gone. lwIP frees a pcb that was
neither closed nor aborted only together with a call of its error callback.

A callback of lwIP that uses the dead mechanism ends with the event `leave`, so that the jobs
of its `SYNC_COMMIT` can come before. The members that the source leaves uninitialized until
SOCKS is up are 0. `startTun2socks` sets no user name.
-/

namespace Lightsocks.Tunnel

open Lightsocks.Lib

/-! ## Resources -/

/-- What a run acquires: a resource of the setup, the netif, the listener, and the three parts
of the `i`-th connection of the process. -/
inductive Thing
  | setup (r : Resource)
  | netif
  | listener
  | record (i : Nat)
  | pcb (i : Nat)
  | socks (i : Nat)
  deriving DecidableEq, Repr

/-- What a resource refers to from its initialization on: most objects of the setup have jobs,
timers or file descriptors in the reactor, the udpgw client is made for the MTU of the device, and
output goes through the netif to the device and to `device_write_buf`. What only a handler needs
(`udp_send_packet_to_device` writes to `device_write_buf`) is not counted: handlers run in the
loop, where everything is held. -/
def Thing.needs : Thing → List Thing
  | .setup .reactor | .setup .deviceWriteBuf => []
  | .setup .deviceReadBuffer =>
    [.setup .reactor, .setup .device, .setup .deviceReadInterface]
  | .setup .udpgwClient => [.setup .reactor, .setup .device]
  | .setup _ => [.setup .reactor]
  | .netif => [.setup .device, .setup .deviceWriteBuf]
  | .listener => [.netif]
  | .record _ => []
  | .pcb i => [.record i, .netif]
  | .socks i => [.record i, .setup .reactor]

def Thing.Uses (x y : Thing) : Prop := y ∈ x.needs

instance : DecidableRel Thing.Uses := fun x y => inferInstanceAs (Decidable (y ∈ x.needs))

/-! ## State -/

/-- `struct tcp_client`. -/
structure TcpClient where
  aborted : Bool
  clientClosed : Bool
  bufUsed : Int
  socksUp : Bool
  socksClosed : Bool
  socksRecvBufUsed : Int
  socksRecvBufSent : Int
  socksRecvWaiting : Bool
  socksRecvTcpPending : Int
  deriving DecidableEq, Repr

/-- The sizes of `buf` and of `socks_recv_buf`. -/
def tcpWnd : Int := 5840

def clientSocksRecvBufSize : Int := 8192

/-- The callbacks of a pcb that are set. -/
structure Callbacks where
  err : Bool
  recv : Bool
  sent : Bool
  deriving DecidableEq, Repr

def Callbacks.none : Callbacks := ⟨false, false, false⟩

/-- The pcb and the SOCKS client of a connection. `unacked` counts the bytes that were written
and not confirmed, and `sending` and `receiving` are the operations in progress. -/
structure Ends where
  callbacks : Callbacks
  pcbOpen : Bool
  unacked : Int
  socks : Bool
  up : Bool
  sending : Option Int
  receiving : Bool
  deriving DecidableEq, Repr

def Ends.gone : Ends := ⟨.none, false, 0, false, false, .none, false⟩

/-- A callback of lwIP in progress, with its `badvpn__dead`. `aborted` is history: that
`tcp_abort` was called for its pcb. -/
structure Call where
  client : Nat
  killed : Int
  aborted : Bool
  deriving DecidableEq, Repr

/-- `tcp_clients` and `num_clients`, and what is in memory. `log` is history: the ledger of the
process. -/
structure Clients where
  tcpClients : List Nat
  numClients : Int
  record : Nat → Option TcpClient
  ends : Nat → Ends
  next : Nat
  call : Option Call
  log : List (Entry Thing)

def Clients.initial : Clients where
  tcpClients := []
  numClients := 0
  record _ := .none
  ends _ := .gone
  next := 0
  call := .none
  log := []

inductive ClientFault
  /-- A record is used after it was freed. -/
  | recordGone (i : Nat)
  /-- A pcb is used after it was closed. -/
  | pcbGone (i : Nat)
  | socksGone (i : Nat)
  /-- An operation is started while another one is in progress. -/
  | busy (i : Nat)
  /-- `tcp_abort` calls the error callback. -/
  | reentered (i : Nat)
  /-- lwIP is not told that its pcb was aborted, or is told so of one that was not. -/
  | wrongResult (i : Nat)
  | notListed (i : Nat)
  | assertion
  | outOfFuel
  deriving DecidableEq, Repr

def Clients.client (s : Clients) (i : Nat) : Except ClientFault TcpClient :=
  match s.record i with
  | some c => .ok c
  | none => .error (.recordGone i)

def Clients.setClient (s : Clients) (i : Nat) (c : TcpClient) : Clients :=
  { s with record := Function.update s.record i (some c) }

def Clients.setEnds (s : Clients) (i : Nat) (e : Ends) : Clients :=
  { s with ends := Function.update s.ends i e }

def Clients.write (s : Clients) (e : Entry Thing) : Clients := { s with log := e :: s.log }

def assertClient (c : Bool) : Except ClientFault Unit := if c then .ok () else .error .assertion

/-! ## lwIP and SOCKS -/

/-- The pcb, for a function that works on it. -/
def Clients.pcb (s : Clients) (i : Nat) : Except ClientFault Ends :=
  if (s.ends i).pcbOpen then .ok (s.ends i) else .error (.pcbGone i)

/-- `tcp_err`, `tcp_recv` and `tcp_sent`. -/
def Clients.tcpCallbacks (s : Clients) (i : Nat) (set : Callbacks → Callbacks) :
    Except ClientFault Clients := do
  let e ← s.pcb i
  return s.setEnds i { e with callbacks := set e.callbacks }

def Clients.tcpRecved (s : Clients) (i : Nat) : Except ClientFault Clients := do
  let _ ← s.pcb i
  return s

/-- `tcp_close`, when it succeeds; lwIP ends the connection on its own then. -/
def Clients.tcpClose (s : Clients) (i : Nat) : Except ClientFault Clients := do
  let e ← s.pcb i
  return (s.setEnds i { e with pcbOpen := false }).write (.release (.pcb i))

/-- The callback in progress, if it is one of this connection. -/
def Clients.onCall (s : Clients) (i : Nat) (f : Call → Call) : Clients :=
  { s with call := s.call.map fun call => if call.client = i then f call else call }

def Clients.tcpAbort (s : Clients) (i : Nat) : Except ClientFault Clients := do
  let e ← s.pcb i
  if e.callbacks.err then throw (.reentered i)
  else
    let s := (s.setEnds i { e with pcbOpen := false }).write (.release (.pcb i))
    return s.onCall i fun call => { call with aborted := true }

def bSocksClientFree (s : Clients) (i : Nat) : Except ClientFault Clients :=
  if (s.ends i).socks then
    .ok ((s.setEnds i { s.ends i with socks := false, sending := none, receiving := false }).write
      (.release (.socks i)))
  else .error (.socksGone i)

/-- `StreamPassInterface_Sender_Send`. -/
def senderSend (s : Clients) (i : Nat) (dataLen : Int) : Except ClientFault Clients :=
  if !(s.ends i).socks then .error (.socksGone i)
  else if (s.ends i).sending.isSome || decide (dataLen ≤ 0) then .error (.busy i)
  else .ok (s.setEnds i { s.ends i with sending := some dataLen })

/-- `StreamRecvInterface_Receiver_Recv`. -/
def receiverRecv (s : Clients) (i : Nat) : Except ClientFault Clients :=
  if !(s.ends i).socks then .error (.socksGone i)
  else if (s.ends i).receiving then .error (.busy i)
  else .ok (s.setEnds i { s.ends i with receiving := true })

/-- `DEAD_KILL_WITH`. -/
def deadKillWith (s : Clients) (i : Nat) (killed : Int) : Clients :=
  s.onCall i fun call => { call with killed }

/-- `DEAD_ENTER`. -/
def deadEnter (s : Clients) (i : Nat) : Clients := { s with call := some ⟨i, 0, false⟩ }

/-- `DEAD_LEAVE2`, which writes into the record unless it was killed, and the return: lwIP
takes the pcb for aborted exactly if the value was positive. -/
def deadLeave (s : Clients) : Except ClientFault Clients :=
  match s.call with
  | some call =>
    if call.killed = 0 ∧ (s.record call.client).isNone then .error (.recordGone call.client)
    else if decide (0 < call.killed) = call.aborted then .ok { s with call := none }
    else .error (.wrongResult call.client)
  | none => .ok s

/-! ## Freeing -/

def clientAbortPcb (s : Clients) (i : Nat) : Except ClientFault Clients := do
  let c ← s.client i
  assertClient (!c.aborted)
  let s ← s.tcpAbort i
  return deadKillWith (s.setClient i { c with aborted := true }) i 1

def clientDealloc (s : Clients) (i : Nat) : Except ClientFault Clients := do
  let c ← s.client i
  assertClient c.clientClosed
  assertClient c.socksClosed
  assertClient (decide (0 < s.numClients))
  if i ∉ s.tcpClients then throw (.notListed i)
  else
    let s := { s with numClients := s.numClients - 1, tcpClients := s.tcpClients.erase i }
    let s := if c.aborted then s else deadKillWith s i (-1)
    return { s with record := Function.update s.record i none }.write (.release (.record i))

-- The three functions call each other, each after it has closed one side: two calls are the
-- most. `closeOk` is whether `tcp_close` succeeds.
mutual

def clientHandleFreedClient (closeOk : Bool) :
    Nat → Clients → Nat → Except ClientFault Clients
  | 0, _, _ => .error .outOfFuel
  | depth + 1, s, i => do
    let c ← s.client i
    assertClient (!c.clientClosed)
    let s := s.setClient i { c with clientClosed := true }
    if 0 < c.bufUsed ∧ c.socksClosed = false then return s
    else if c.socksClosed = false then clientFreeSocks closeOk depth s i
    else clientDealloc s i

def clientFreeClient (closeOk : Bool) : Nat → Clients → Nat → Except ClientFault Clients
  | 0, _, _ => .error .outOfFuel
  | depth + 1, s, i => do
    let c ← s.client i
    assertClient (!c.clientClosed)
    let s ← s.tcpCallbacks i fun _ => .none
    let s ← (if closeOk then s.tcpClose i else clientAbortPcb s i)
    clientHandleFreedClient closeOk depth s i

def clientFreeSocks (closeOk : Bool) : Nat → Clients → Nat → Except ClientFault Clients
  | 0, _, _ => .error .outOfFuel
  | depth + 1, s, i => do
    let c ← s.client i
    assertClient (!c.socksClosed)
    let s ←
      (if c.socksUp = true ∧ c.clientClosed = false then
        s.tcpCallbacks i fun callbacks => { callbacks with recv := false }
      else pure s)
    let s ← bSocksClientFree s i
    let s := s.setClient i { c with socksClosed := true }
    if c.socksUp = true ∧ (0 ≤ c.socksRecvBufUsed ∨ 0 < c.socksRecvTcpPending) ∧
        c.clientClosed = false then return s
    else if c.clientClosed = false then clientFreeClient closeOk depth s i
    else clientDealloc s i

end

/-- The depth of the calls. -/
def callDepth : Nat := 3

def clientAbortClient (s : Clients) (i : Nat) : Except ClientFault Clients := do
  let c ← s.client i
  assertClient (!c.clientClosed)
  let s ← s.tcpCallbacks i fun _ => .none
  let s ← clientAbortPcb s i
  clientHandleFreedClient true callDepth s i

def clientMurder (s : Clients) (i : Nat) : Except ClientFault Clients := do
  let c ← s.client i
  let s ←
    (if c.clientClosed = false then do
      let s ← s.tcpCallbacks i fun _ => .none
      let s ← clientAbortPcb s i
      let c ← s.client i
      return s.setClient i { c with clientClosed := true }
    else pure s)
  let c ← s.client i
  let s ←
    (if c.socksClosed = false then do
      let s ← bSocksClientFree s i
      return s.setClient i { c with socksClosed := true }
    else pure s)
  clientDealloc s i

/-- The loop of `startTun2socks` that frees the clients. -/
def freeClients : Nat → Clients → Except ClientFault Clients
  | fuel, s =>
    match s.tcpClients with
    | [] => .ok s
    | i :: _ =>
      match fuel with
      | 0 => .error .outOfFuel
      | fuel + 1 => do
        let s ← clientMurder s i
        freeClients fuel s

/-! ## Data -/

def clientSendToSocks (s : Clients) (i : Nat) : Except ClientFault Clients := do
  let c ← s.client i
  assertClient (!c.socksClosed)
  assertClient c.socksUp
  assertClient (decide (0 < c.bufUsed))
  senderSend s i c.bufUsed

def clientSocksRecvInitiate (s : Clients) (i : Nat) : Except ClientFault Clients := do
  let c ← s.client i
  assertClient (!c.clientClosed)
  assertClient (!c.socksClosed)
  assertClient c.socksUp
  assertClient (c.socksRecvBufUsed == -1)
  receiverRecv s i

/-- What `tcp_write` returns. -/
inductive WriteErr
  | ok
  | mem
  | other
  deriving DecidableEq, Repr

/-- What lwIP answers to `client_socks_recv_send_out`: for each round of the loop the room in
the send buffer and the result of `tcp_write`, and then that of `tcp_output`. -/
structure SendOut where
  writes : List (Nat × WriteErr)
  outputOk : Bool
  deriving DecidableEq, Repr

/-- The loop of `client_socks_recv_send_out`; true if a write has failed. After the last of the
answers there is no room. -/
def sendOutLoop (i : Nat) : List (Nat × WriteErr) → Clients → Except ClientFault (Clients × Bool)
  | [], s => .ok (s, false)
  | (sndbuf, err) :: rest, s => do
    let c ← s.client i
    let e ← s.pcb i
    let toWrite := min (c.socksRecvBufUsed - c.socksRecvBufSent) sndbuf
    if toWrite = 0 then return (s, false)
    else
      match err with
      | .mem => return (s, false)
      | .other => return (s, true)
      | .ok =>
        let s := (s.setEnds i { e with unacked := e.unacked + toWrite }).setClient i { c with
          socksRecvBufSent := c.socksRecvBufSent + toWrite
          socksRecvTcpPending := c.socksRecvTcpPending + toWrite }
        if c.socksRecvBufSent + toWrite < c.socksRecvBufUsed then sendOutLoop i rest s
        else return (s, false)

/-- `client_socks_recv_send_out`, with what it returns. -/
def clientSocksRecvSendOut (s : Clients) (i : Nat) (io : SendOut) :
    Except ClientFault (Clients × Int) := do
  let c ← s.client i
  assertClient (!c.clientClosed)
  assertClient c.socksUp
  assertClient (decide (0 < c.socksRecvBufUsed))
  assertClient (decide (c.socksRecvBufSent < c.socksRecvBufUsed))
  assertClient (!c.socksRecvWaiting)
  let (s, failed) ← sendOutLoop i io.writes s
  if failed then
    let s ← clientAbortClient s i
    return (s, -1)
  else
    -- `tcp_output`
    let _ ← s.pcb i
    if !io.outputOk then
      let s ← clientAbortClient s i
      return (s, -1)
    else
      let c ← s.client i
      if c.socksRecvBufSent < c.socksRecvBufUsed then
        if c.socksRecvTcpPending = 0 then
          let s ← clientAbortClient s i
          return (s, -1)
        else return (s.setClient i { c with socksRecvWaiting := true }, 0)
      else return (s.setClient i { c with socksRecvBufUsed := -1 }, 0)

/-! ## Callbacks -/

/-- `listener_accept_func`, with whether there is memory for the record and for the SOCKS
client. -/
def listenerAcceptFunc (s : Clients) (mallocOk socksOk : Bool) : Except ClientFault Clients :=
  if !mallocOk then .ok s
  else
    let i := s.next
    let s := { s with next := i + 1 }.write (.acquire (.record i))
    if !socksOk then .ok (s.write (.release (.record i)))
    else do
      let c : TcpClient := {
        aborted := false
        clientClosed := false
        bufUsed := 0
        socksUp := false
        socksClosed := false
        socksRecvBufUsed := 0
        socksRecvBufSent := 0
        socksRecvWaiting := false
        socksRecvTcpPending := 0 }
      let s := (s.setClient i c).setEnds i { Ends.gone with socks := true }
      let s := s.write (.acquire (.socks i))
      assertClient (decide (0 ≤ s.numClients))
      let s := { s with tcpClients := s.tcpClients ++ [i], numClients := s.numClients + 1 }
      -- `tcp_arg`, `tcp_err` and `tcp_recv`
      let s := s.setEnds i { s.ends i with pcbOpen := true, callbacks := ⟨true, true, false⟩ }
      return deadEnter (s.write (.acquire (.pcb i))) i

/-- `client_err_func`: lwIP has freed the pcb. -/
def clientErrFunc (s : Clients) (i : Nat) : Except ClientFault Clients := do
  let c ← s.client i
  assertClient (!c.clientClosed)
  clientHandleFreedClient true callDepth s i

/-- `client_recv_func`, up to its end; `p` is the length of the data. -/
def clientRecvFunc (s : Clients) (i : Nat) (p : Option Int) (closeOk : Bool) :
    Except ClientFault Clients := do
  let c ← s.client i
  assertClient (!c.clientClosed)
  let s := deadEnter s i
  match p with
  | none => clientFreeClient closeOk callDepth s i
  | some totLen =>
    assertClient (decide (0 < totLen))
    if totLen > tcpWnd - c.bufUsed then return s
    else
      let s := s.setClient i { c with bufUsed := c.bufUsed + totLen }
      if c.bufUsed + totLen = totLen ∧ c.socksUp = true then
        assertClient (!c.socksClosed)
        clientSendToSocks s i
      else return s

/-- `client_sent_func`, up to its end. -/
def clientSentFunc (s : Clients) (i : Nat) (len : Int) (io : SendOut) (closeOk : Bool) :
    Except ClientFault Clients := do
  let c ← s.client i
  assertClient (!c.clientClosed)
  assertClient c.socksUp
  assertClient (decide (0 < len))
  assertClient (decide (len ≤ c.socksRecvTcpPending))
  let s := deadEnter s i
  let c : TcpClient := { c with socksRecvTcpPending := c.socksRecvTcpPending - len }
  if 0 < c.socksRecvBufUsed then
    assertClient c.socksRecvWaiting
    assertClient (decide (c.socksRecvBufSent < c.socksRecvBufUsed))
    let s := s.setClient i { c with socksRecvWaiting := false }
    let (s, r) ← clientSocksRecvSendOut s i io
    if r < 0 then return s
    else
      let c ← s.client i
      assertClient (decide (0 < c.socksRecvTcpPending))
      if c.socksRecvBufUsed = -1 ∧ c.socksClosed = false then clientSocksRecvInitiate s i
      else return s
  else
    let s := s.setClient i c
    if c.socksClosed = true ∧ c.socksRecvTcpPending = 0 then
      clientFreeClient closeOk callDepth s i
    else return s

/-- The events of `BSocksClient`; the handler ignores the last. -/
inductive SocksEvent
  | error
  | up
  | errorClosed
  | connected
  deriving DecidableEq, Repr

def clientSocksHandler (s : Clients) (i : Nat) (event : SocksEvent) (closeOk : Bool) :
    Except ClientFault Clients := do
  let c ← s.client i
  assertClient (!c.socksClosed)
  match event with
  | .error => clientFreeSocks closeOk callDepth s i
  | .up =>
    assertClient (!c.socksUp)
    let s ←
      (if c.clientClosed = false then
        s.tcpCallbacks i fun callbacks => { callbacks with sent := true }
      else pure s)
    let s := s.setClient i { c with
      socksRecvBufUsed := -1
      socksRecvTcpPending := 0
      socksUp := true }
    let s ← (if 0 < c.bufUsed then clientSendToSocks s i else pure s)
    if c.clientClosed = false then clientSocksRecvInitiate s i else return s
  | .errorClosed =>
    assertClient c.socksUp
    clientFreeSocks closeOk callDepth s i
  | .connected => return s

def clientSocksSendHandlerDone (s : Clients) (i : Nat) (dataLen : Int) :
    Except ClientFault Clients := do
  let c ← s.client i
  assertClient (!c.socksClosed)
  assertClient c.socksUp
  assertClient (decide (0 < c.bufUsed))
  assertClient (decide (0 < dataLen))
  assertClient (decide (dataLen ≤ c.bufUsed))
  let s := s.setClient i { c with bufUsed := c.bufUsed - dataLen }
  let s ← (if c.clientClosed = false then s.tcpRecved i else pure s)
  if 0 < c.bufUsed - dataLen then senderSend s i (c.bufUsed - dataLen)
  else if c.clientClosed = true then clientFreeSocks true callDepth s i
  else return s

def clientSocksRecvHandlerDone (s : Clients) (i : Nat) (dataLen : Int) (io : SendOut) :
    Except ClientFault Clients := do
  let c ← s.client i
  assertClient (decide (0 < dataLen))
  assertClient (decide (dataLen ≤ clientSocksRecvBufSize))
  assertClient (!c.socksClosed)
  assertClient c.socksUp
  assertClient (c.socksRecvBufUsed == -1)
  if c.clientClosed = true then return s
  else
    let s := s.setClient i { c with
      socksRecvBufUsed := dataLen
      socksRecvBufSent := 0
      socksRecvWaiting := false }
    let (s, r) ← clientSocksRecvSendOut s i io
    if r < 0 then return s
    else
      let c ← s.client i
      if c.socksRecvBufUsed = -1 then clientSocksRecvInitiate s i else return s

/-! ## Events -/

/-- What lwIP and the SOCKS clients do. `leave` is the end of a callback of lwIP. -/
inductive ClientEvent
  | accept (mallocOk socksOk : Bool)
  | err (i : Nat)
  | recv (i : Nat) (p : Option Int) (closeOk : Bool)
  | sent (i : Nat) (len : Int) (io : SendOut) (closeOk : Bool)
  | leave
  | socks (i : Nat) (event : SocksEvent) (closeOk : Bool)
  | sendDone (i : Nat) (dataLen : Int)
  | recvDone (i : Nat) (dataLen : Int) (io : SendOut)
  deriving DecidableEq, Repr

/-- lwIP calls the callbacks that are set, one at a time; a SOCKS client reports what can have
happened to it, also from a job in a callback of lwIP. -/
def ClientEvent.enabled (s : Clients) : ClientEvent → Bool
  | .accept _ _ => s.call.isNone
  | .err i => s.call.isNone && (s.ends i).callbacks.err
  | .recv i p _ => s.call.isNone && (s.ends i).callbacks.recv && p.all fun len => decide (0 < len)
  | .sent i len _ _ =>
    s.call.isNone && (s.ends i).callbacks.sent && decide (0 < len) &&
      decide (len ≤ (s.ends i).unacked)
  | .leave => s.call.isSome
  | .socks i event _ =>
    (s.ends i).socks &&
      match event with
      | .up => !(s.ends i).up
      | .errorClosed => (s.ends i).up
      | _ => true
  | .sendDone i dataLen =>
    match (s.ends i).sending with
    | some len => decide (0 < dataLen) && decide (dataLen ≤ len)
    | none => false
  | .recvDone i dataLen _ =>
    (s.ends i).receiving && decide (0 < dataLen) && decide (dataLen ≤ clientSocksRecvBufSize)

/-- What has happened by the time of the callback, and the callback. -/
def ClientEvent.exec (s : Clients) : ClientEvent → Except ClientFault Clients
  | .accept mallocOk socksOk => listenerAcceptFunc s mallocOk socksOk
  | .err i =>
    let freed := { s.ends i with pcbOpen := false, callbacks := .none }
    clientErrFunc ((s.setEnds i freed).write (.release (.pcb i))) i
  | .recv i p closeOk => clientRecvFunc s i p closeOk
  | .sent i len io closeOk =>
    clientSentFunc (s.setEnds i { s.ends i with unacked := (s.ends i).unacked - len }) i len io
      closeOk
  | .leave => deadLeave s
  | .socks i event closeOk =>
    clientSocksHandler (s.setEnds i { s.ends i with up := (s.ends i).up || event == .up }) i event
      closeOk
  | .sendDone i dataLen =>
    clientSocksSendHandlerDone (s.setEnds i { s.ends i with sending := none }) i dataLen
  | .recvDone i dataLen io =>
    clientSocksRecvHandlerDone (s.setEnds i { s.ends i with receiving := false }) i dataLen io

end Lightsocks.Tunnel
