import Lightsocks.Tunnel.Transfer

/-!
# The bytes of the connections

Of the buffers of a connection, `Tunnel.Clients` has the lengths. Here are the buffers, in the
functions that write into them or read from them; whatever else these functions do, and every
other function, is taken from there. A step without its bytes is therefore a step of
`Tunnel.Clients` (`Streams.exec_clients`), and does not fault either.

What came from one side of a connection and what was given to the other is recorded. The bytes
that a callback reports are those in the buffer at that moment.
-/

namespace Lightsocks.Tunnel

open Lightsocks.Lib

/-! ## State -/

/-- `buf` and `socks_recv_buf`. The rest is history: what lwIP passed on, what SOCKS sent, what
SOCKS received, what was given to `tcp_write`, and how much was confirmed with `tcp_recved`. -/
structure TcpBytes where
  buf : List UInt8
  socksRecvBuf : List UInt8
  fromClient : List UInt8
  toSocks : List UInt8
  fromSocks : List UInt8
  toClient : List UInt8
  recved : Int
  deriving DecidableEq, Repr

/-- The buffers in memory from `malloc`; their bytes are arbitrary. -/
structure TcpMemory where
  buf : List UInt8
  socksRecvBuf : List UInt8
  length_buf : (buf.length : Int) = tcpWnd
  length_socksRecvBuf : (socksRecvBuf.length : Int) = clientSocksRecvBufSize
  deriving DecidableEq, Repr

def TcpMemory.bytes (m : TcpMemory) : TcpBytes := ⟨m.buf, m.socksRecvBuf, [], [], [], [], 0⟩

structure Streams where
  clients : Clients
  bytes : Nat → TcpBytes

/-- A copy into a buffer. The buffer keeps its length only if the copy is inside of it. -/
def overwrite (buf : List UInt8) (offset : Nat) (src : List UInt8) : List UInt8 :=
  buf.take offset ++ src ++ buf.drop (offset + src.length)

namespace Streams

def setBytes (s : Streams) (i : Nat) (b : TcpBytes) : Streams :=
  { s with bytes := Function.update s.bytes i b }

/-- A function that leaves the buffers alone. -/
def on (s : Streams) (f : Clients → Except ClientFault Clients) : Except ClientFault Streams := do
  let clients ← f s.clients
  return { s with clients }

def setClient (s : Streams) (i : Nat) (c : TcpClient) : Streams :=
  { s with clients := s.clients.setClient i c }

def setEnds (s : Streams) (i : Nat) (e : Ends) : Streams :=
  { s with clients := s.clients.setEnds i e }

def deadEnter (s : Streams) (i : Nat) : Streams :=
  { s with clients := Tunnel.deadEnter s.clients i }

/-! ## Data -/

/-- The loop of `client_socks_recv_send_out`; true if a write has failed. -/
def sendOutLoop (i : Nat) : List (Nat × WriteErr) → Streams → Except ClientFault (Streams × Bool)
  | [], s => .ok (s, false)
  | (sndbuf, err) :: rest, s => do
    let c ← s.clients.client i
    let e ← s.clients.pcb i
    let toWrite := min (c.socksRecvBufUsed - c.socksRecvBufSent) sndbuf
    if toWrite = 0 then return (s, false)
    else
      match err with
      | .mem => return (s, false)
      | .other => return (s, true)
      | .ok =>
        let b := s.bytes i
        let s := s.setBytes i { b with
          toClient := b.toClient ++
            (b.socksRecvBuf.drop c.socksRecvBufSent.toNat).take toWrite.toNat }
        let s := (s.setEnds i { e with unacked := e.unacked + toWrite }).setClient i { c with
          socksRecvBufSent := c.socksRecvBufSent + toWrite
          socksRecvTcpPending := c.socksRecvTcpPending + toWrite }
        if c.socksRecvBufSent + toWrite < c.socksRecvBufUsed then sendOutLoop i rest s
        else return (s, false)

/-- `client_socks_recv_send_out`, with what it returns. -/
def clientSocksRecvSendOut (s : Streams) (i : Nat) (io : SendOut) :
    Except ClientFault (Streams × Int) := do
  let c ← s.clients.client i
  assertClient (!c.clientClosed)
  assertClient c.socksUp
  assertClient (decide (0 < c.socksRecvBufUsed))
  assertClient (decide (c.socksRecvBufSent < c.socksRecvBufUsed))
  assertClient (!c.socksRecvWaiting)
  let (s, failed) ← sendOutLoop i io.writes s
  if failed then
    let s ← s.on (clientAbortClient · i)
    return (s, -1)
  else
    -- `tcp_output`
    let _ ← s.clients.pcb i
    if !io.outputOk then
      let s ← s.on (clientAbortClient · i)
      return (s, -1)
    else
      let c ← s.clients.client i
      if c.socksRecvBufSent < c.socksRecvBufUsed then
        if c.socksRecvTcpPending = 0 then
          let s ← s.on (clientAbortClient · i)
          return (s, -1)
        else return (s.setClient i { c with socksRecvWaiting := true }, 0)
      else return (s.setClient i { c with socksRecvBufUsed := -1 }, 0)

/-! ## Callbacks -/

/-- `client_recv_func`, up to its end. -/
def clientRecvFunc (s : Streams) (i : Nat) (p : Option (List UInt8)) (closeOk : Bool) :
    Except ClientFault Streams := do
  let c ← s.clients.client i
  assertClient (!c.clientClosed)
  let s := s.deadEnter i
  match p with
  | none => s.on (clientFreeClient closeOk callDepth · i)
  | some data =>
    assertClient (decide ((0 : Int) < data.length))
    if data.length > tcpWnd - c.bufUsed then return s
    else
      let b := s.bytes i
      let s := s.setBytes i { b with
        buf := overwrite b.buf c.bufUsed.toNat data
        fromClient := b.fromClient ++ data }
      let s := s.setClient i { c with bufUsed := c.bufUsed + data.length }
      if c.bufUsed + data.length = data.length ∧ c.socksUp = true then
        assertClient (!c.socksClosed)
        s.on (clientSendToSocks · i)
      else return s

/-- `client_sent_func`, up to its end. -/
def clientSentFunc (s : Streams) (i : Nat) (len : Int) (io : SendOut) (closeOk : Bool) :
    Except ClientFault Streams := do
  let c ← s.clients.client i
  assertClient (!c.clientClosed)
  assertClient c.socksUp
  assertClient (decide (0 < len))
  assertClient (decide (len ≤ c.socksRecvTcpPending))
  let s := s.deadEnter i
  let c : TcpClient := { c with socksRecvTcpPending := c.socksRecvTcpPending - len }
  if 0 < c.socksRecvBufUsed then
    assertClient c.socksRecvWaiting
    assertClient (decide (c.socksRecvBufSent < c.socksRecvBufUsed))
    let s := s.setClient i { c with socksRecvWaiting := false }
    let (s, r) ← clientSocksRecvSendOut s i io
    if r < 0 then return s
    else
      let c ← s.clients.client i
      assertClient (decide (0 < c.socksRecvTcpPending))
      if c.socksRecvBufUsed = -1 ∧ c.socksClosed = false then s.on (clientSocksRecvInitiate · i)
      else return s
  else
    let s := s.setClient i c
    if c.socksClosed = true ∧ c.socksRecvTcpPending = 0 then
      s.on (clientFreeClient closeOk callDepth · i)
    else return s

/-- `client_socks_send_handler_done`. -/
def clientSocksSendHandlerDone (s : Streams) (i : Nat) (dataLen : Int) :
    Except ClientFault Streams := do
  let c ← s.clients.client i
  assertClient (!c.socksClosed)
  assertClient c.socksUp
  assertClient (decide (0 < c.bufUsed))
  assertClient (decide (0 < dataLen))
  assertClient (decide (dataLen ≤ c.bufUsed))
  -- `memmove`
  let b := s.bytes i
  let s := s.setBytes i { b with
    buf := overwrite b.buf 0 ((b.buf.drop dataLen.toNat).take (c.bufUsed - dataLen).toNat) }
  let s := s.setClient i { c with bufUsed := c.bufUsed - dataLen }
  let s ←
    (if c.clientClosed = false then do
      let s ← s.on (·.tcpRecved i)
      let b := s.bytes i
      return s.setBytes i { b with recved := b.recved + dataLen }
    else pure s)
  if 0 < c.bufUsed - dataLen then s.on (senderSend · i (c.bufUsed - dataLen))
  else if c.clientClosed = true then s.on (clientFreeSocks true callDepth · i)
  else return s

/-- `client_socks_recv_handler_done`. -/
def clientSocksRecvHandlerDone (s : Streams) (i : Nat) (dataLen : Int) (io : SendOut) :
    Except ClientFault Streams := do
  let c ← s.clients.client i
  assertClient (decide (0 < dataLen))
  assertClient (decide (dataLen ≤ clientSocksRecvBufSize))
  assertClient (!c.socksClosed)
  assertClient c.socksUp
  assertClient (c.socksRecvBufUsed == -1)
  if c.clientClosed = true then return s
  else
    let s := s.setClient i { c with
      socksRecvBufUsed := dataLen
      socksRecvBufSent := 0
      socksRecvWaiting := false }
    let (s, r) ← clientSocksRecvSendOut s i io
    if r < 0 then return s
    else
      let c ← s.clients.client i
      if c.socksRecvBufUsed = -1 then s.on (clientSocksRecvInitiate · i) else return s

end Streams

/-! ## The machine -/

/-- The events of `ClientEvent`, with their data. -/
inductive StreamEvent
  | accept (mallocOk socksOk : Bool) (memory : TcpMemory)
  | err (i : Nat)
  | recv (i : Nat) (p : Option (List UInt8)) (closeOk : Bool)
  | sent (i : Nat) (len : Int) (io : SendOut) (closeOk : Bool)
  | leave
  | socks (i : Nat) (event : SocksEvent) (closeOk : Bool)
  | sendDone (i : Nat) (dataLen : Int)
  | recvDone (i : Nat) (data : List UInt8) (io : SendOut)
  deriving DecidableEq, Repr

def StreamEvent.event : StreamEvent → ClientEvent
  | .accept mallocOk socksOk _ => .accept mallocOk socksOk
  | .err i => .err i
  | .recv i p closeOk => .recv i (p.map fun data => (data.length : Int)) closeOk
  | .sent i len io closeOk => .sent i len io closeOk
  | .leave => .leave
  | .socks i event closeOk => .socks i event closeOk
  | .sendDone i dataLen => .sendDone i dataLen
  | .recvDone i data io => .recvDone i data.length io

namespace Streams

/-- What has happened by the time of the callback, and the callback. SOCKS has sent bytes from
`buf`, or received bytes into `socks_recv_buf`. -/
def exec (s : Streams) : StreamEvent → Except ClientFault Streams
  | .accept mallocOk socksOk memory => do
    let i := s.clients.next
    let s ← s.on (listenerAcceptFunc · mallocOk socksOk)
    return s.setBytes i memory.bytes
  | .err i => s.on (ClientEvent.exec · (.err i))
  | .leave => s.on deadLeave
  | .socks i event closeOk => s.on (ClientEvent.exec · (.socks i event closeOk))
  | .recv i p closeOk => s.clientRecvFunc i p closeOk
  | .sent i len io closeOk =>
    let e := s.clients.ends i
    (s.setEnds i { e with unacked := e.unacked - len }).clientSentFunc i len io closeOk
  | .sendDone i dataLen =>
    let b := s.bytes i
    let s := s.setBytes i { b with toSocks := b.toSocks ++ b.buf.take dataLen.toNat }
    (s.setEnds i { s.clients.ends i with sending := none }).clientSocksSendHandlerDone i dataLen
  | .recvDone i data io =>
    let b := s.bytes i
    let s := s.setBytes i { b with
      socksRecvBuf := overwrite b.socksRecvBuf 0 data
      fromSocks := b.fromSocks ++ data }
    (s.setEnds i { s.clients.ends i with receiving := false }).clientSocksRecvHandlerDone i
      data.length io

end Streams

/-- What the connections use of a run. -/
def Clients.inLoop : Clients :=
  { Clients.initial with
    log := [.acquire .netif, .acquire (.setup .deviceWriteBuf), .acquire (.setup .device),
      .acquire (.setup .reactor)] }

/-- The connections of a run, in its loop. -/
def streams : Machine Streams StreamEvent ClientFault where
  init := ⟨.inLoop, fun _ => ⟨[], [], [], [], [], [], 0⟩⟩
  enabled s e := e.event.enabled s.clients
  exec := Streams.exec

/-! ## Without the bytes -/

namespace Streams

variable {s : Streams} {i : Nat}

theorem on_clients (f : Clients → Except ClientFault Clients) :
    (s.on f).map Streams.clients = f s.clients := by
  unfold on
  cases f s.clients with
  | error _ => rfl
  | ok _ => rfl

/-- A computation whose result comes with a value. -/
def fst {α : Type} (r : Streams × α) : Clients × α := (r.1.clients, r.2)

theorem giveUp_clients :
    (do let s ← s.on (clientAbortClient · i); return (s, (-1 : Int))).map fst
      = do let s ← clientAbortClient s.clients i; return (s, (-1 : Int)) :=
  map_bind_of_map (on_clients _) fun _ => rfl

theorem sendOutLoop_clients (writes : List (Nat × WriteErr)) (s : Streams) :
    (sendOutLoop i writes s).map fst = Tunnel.sendOutLoop i writes s.clients := by
  induction writes generalizing s with
  | nil => rfl
  | cons w writes ih =>
    obtain ⟨sndbuf, err⟩ := w
    rw [sendOutLoop, Tunnel.sendOutLoop]
    apply map_bind_same
    intro c
    apply map_bind_same
    intro e
    dsimp only
    split
    · rfl
    · cases err with
      | mem | other => rfl
      | ok =>
        dsimp only
        split
        · exact ih _
        · rfl

theorem clientSocksRecvSendOut_clients (io : SendOut) :
    (s.clientSocksRecvSendOut i io).map fst
      = Tunnel.clientSocksRecvSendOut s.clients i io := by
  unfold clientSocksRecvSendOut Tunnel.clientSocksRecvSendOut
  apply map_bind_same
  intro c
  iterate 5 (apply map_bind_same; intro _)
  apply map_bind_of_map (sendOutLoop_clients _ _)
  rintro ⟨s, failed⟩
  dsimp only [fst]
  split
  · exact giveUp_clients
  · apply map_bind_same
    intro e
    split
    · exact giveUp_clients
    · apply map_bind_same
      intro c
      split
      · split
        · exact giveUp_clients
        · rfl
      · rfl

theorem clientRecvFunc_clients (p : Option (List UInt8)) (closeOk : Bool) :
    (s.clientRecvFunc i p closeOk).map Streams.clients
      = Tunnel.clientRecvFunc s.clients i (p.map fun data => (data.length : Int)) closeOk := by
  unfold clientRecvFunc Tunnel.clientRecvFunc
  apply map_bind_same
  intro c
  apply map_bind_same
  intro _
  cases p with
  | none => exact on_clients _
  | some data =>
    dsimp only [Option.map_some]
    apply map_bind_same
    intro _
    split
    · rfl
    · split
      · apply map_bind_same
        intro _
        exact on_clients _
      · rfl

theorem clientSentFunc_clients (len : Int) (io : SendOut) (closeOk : Bool) :
    (s.clientSentFunc i len io closeOk).map Streams.clients
      = Tunnel.clientSentFunc s.clients i len io closeOk := by
  unfold clientSentFunc Tunnel.clientSentFunc
  apply map_bind_same
  intro c
  iterate 4 (apply map_bind_same; intro _)
  dsimp only
  split
  · iterate 2 (apply map_bind_same; intro _)
    apply map_bind_of_map (clientSocksRecvSendOut_clients _)
    rintro ⟨s, r⟩
    dsimp only [fst]
    split
    · rename_i hr
      exact (if_pos hr).symm
    · rename_i hr
      refine Eq.trans ?_ (if_neg hr).symm
      apply map_bind_same
      intro c
      apply map_bind_same
      intro _
      split
      · exact on_clients _
      · rfl
  · split
    · exact on_clients _
    · rfl

theorem clientSocksSendHandlerDone_clients (dataLen : Int) :
    (s.clientSocksSendHandlerDone i dataLen).map Streams.clients
      = Tunnel.clientSocksSendHandlerDone s.clients i dataLen := by
  unfold clientSocksSendHandlerDone Tunnel.clientSocksSendHandlerDone
  apply map_bind_same
  intro c
  iterate 5 (apply map_bind_same; intro _)
  apply map_bind_of_map (g := Streams.clients)
  · split
    · exact (map_bind_of_map (on_clients _) fun _ => rfl).trans (bind_pure _)
    · rfl
  · intro s
    split
    · exact on_clients _
    · split
      · exact on_clients _
      · rfl

theorem clientSocksRecvHandlerDone_clients (dataLen : Int) (io : SendOut) :
    (s.clientSocksRecvHandlerDone i dataLen io).map Streams.clients
      = Tunnel.clientSocksRecvHandlerDone s.clients i dataLen io := by
  unfold clientSocksRecvHandlerDone Tunnel.clientSocksRecvHandlerDone
  apply map_bind_same
  intro c
  iterate 5 (apply map_bind_same; intro _)
  split
  · rfl
  · apply map_bind_of_map (clientSocksRecvSendOut_clients _)
    rintro ⟨s, r⟩
    dsimp only [fst]
    split
    · rfl
    · apply map_bind_same
      intro c
      split
      · exact on_clients _
      · rfl

theorem exec_clients (s : Streams) (e : StreamEvent) :
    (s.exec e).map Streams.clients = e.event.exec s.clients := by
  cases e with
  | recv i p closeOk => exact clientRecvFunc_clients p closeOk
  | sent i len io closeOk => exact clientSentFunc_clients len io closeOk
  | sendDone i dataLen => exact clientSocksSendHandlerDone_clients dataLen
  | recvDone i data io => exact clientSocksRecvHandlerDone_clients _ io
  | accept mallocOk socksOk memory =>
    exact (map_bind_of_map (on_clients _) fun _ => rfl).trans (bind_pure _)
  | err i => exact on_clients (ClientEvent.exec · (.err i))
  | leave => exact on_clients _
  | socks i event closeOk => exact on_clients (ClientEvent.exec · (.socks i event closeOk))

end Streams

end Lightsocks.Tunnel
