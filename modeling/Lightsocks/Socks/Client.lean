import Lightsocks.Lib.Returns
import Lightsocks.Tunnel.Addr
import Lightsocks.Tunnel.Clients
import Lightsocks.Tunnel.Packet

/-!
# The SOCKS client

`BSocksClient` connects to a SOCKS server, offers its methods, sends a name and a password if the
server wants them, then its request, and reads the reply in two parts, as its length is known
from the first one only. It has one buffer for all of this, which is given the size of each message
in turn. What it sends is accepted, and what it reads arrives, in pieces of any size.

After an error the owner frees the client. `BRealloc` keeps what was in the buffer; nothing reads
that, so the contents are arbitrary here. No size is over 600, so no `bsize_t` overflows.
-/

namespace Lightsocks.Socks

open Lightsocks.Lib
open Lightsocks.Tunnel (AddrType SocksEvent UdpAddr readBe16 readBe32)

def socksVersion : UInt8 := 5
def socksMethodNoAuthenticationRequired : UInt8 := 0
def socksMethodUsernamePassword : UInt8 := 2
def socksCmdConnect : UInt8 := 1
def socksCmdUdpAssociate : UInt8 := 3
def socksAtypIpv4 : UInt8 := 1
def socksAtypIpv6 : UInt8 := 4
def socksRepSucceeded : UInt8 := 0

/-- The sizes of `struct socks_addr_ipv4` and `struct socks_addr_ipv6`. -/
def addrLen : AddrType → Nat
  | .ipv4 => 6
  | .ipv6 => 18

def atyp : AddrType → UInt8
  | .ipv4 => socksAtypIpv4
  | .ipv6 => socksAtypIpv6

def addrType : UdpAddr → AddrType
  | .ipv4 _ _ => .ipv4
  | .ipv6 _ _ => .ipv6

/-- `struct BSocksClient_auth_info`. -/
inductive AuthInfo
  | none
  | password (username password : List UInt8)
  deriving DecidableEq, Repr

def AuthInfo.authType : AuthInfo → UInt8
  | .none => socksMethodNoAuthenticationRequired
  | .password _ _ => socksMethodUsernamePassword

inductive ClientState
  | connecting
  | connectedHandler
  | sendingHello
  | sentHello
  | sendingPassword
  | sentPassword
  | sendingRequest
  | sentRequest
  | receivedReplyHeader
  | up
  deriving DecidableEq, Repr

/-- `BSocksClient`, with what its handler was called with. `receiving` and `sending` are the states
of its two interfaces, the second with how much of the buffer is written, and how much has to be. -/
structure BSocksClient where
  authInfo : List AuthInfo
  destAddr : Option UdpAddr
  udp : Bool
  bindType : Option AddrType := none
  bindAddr : Option UdpAddr := none
  state : ClientState := .connecting
  buffer : Option (List UInt8) := none
  continueJob : Bool := false
  recvDest : Nat := 0
  recvLen : Nat := 0
  recvTotal : Nat := 0
  receiving : Bool := false
  sending : Option (Nat × Nat) := none
  reported : List SocksEvent := []
  deriving DecidableEq, Repr

namespace BSocksClient

/-- The handler is called. -/
def report (o : BSocksClient) (event : SocksEvent) : BSocksClient :=
  { o with reported := o.reported ++ [event] }

/-- `reserve_buffer`. `memory` is what `BRealloc` returns. -/
def reserveBuffer (o : BSocksClient) (size : Nat) (memory : Option (Nat → UInt8)) :
    Option BSocksClient :=
  memory.map fun bytes => { o with buffer := some ((List.range size).map bytes) }

/-- `memcpy` into the buffer. -/
def write (o : BSocksClient) (offset : Nat) (src : List UInt8) : Except CFault BSocksClient := do
  match o.buffer with
  | none => throw (.outOfBounds offset 0)
  | some buffer => do
    let buffer ← copyTo buffer offset src
    return { o with buffer := some buffer }

/-- Writes behind each other. -/
def writeFrom (o : BSocksClient) (ptr : Nat) : List (List UInt8) → Except CFault BSocksClient
  | [] => return o
  | src :: rest => do
    let o ← o.write ptr src
    o.writeFrom (ptr + src.length) rest

def read (o : BSocksClient) (offset len : Nat) : Except CFault (List UInt8) :=
  match o.buffer with
  | none => throw (.outOfBounds offset 0)
  | some buffer => slice buffer offset len

/-- `PacketPassInterface_Sender_Send`, of the first bytes of the buffer. -/
def senderSend (o : BSocksClient) (len : Nat) : Except CFault BSocksClient := do
  assert o.sending.isNone
  return { o with sending := some (0, len) }

def doReceive (o : BSocksClient) : Except CFault BSocksClient := do
  assert (decide (o.recvLen < o.recvTotal))
  assert (!o.receiving)
  return { o with receiving := true }

def startReceive (o : BSocksClient) (dest total : Nat) : Except CFault BSocksClient := do
  assert (decide (0 < total))
  { o with recvDest := dest, recvLen := 0, recvTotal := total }.doReceive

/-- `connector_handler`; `ok` if there is a connection, and `BConnection_Init` succeeds. -/
def connectorHandler (o : BSocksClient) (ok : Bool) : Except CFault BSocksClient := do
  assert (o.state == .connecting)
  if !ok then return o.report .error
  else return { o with state := .connectedHandler, continueJob := true }.report .connected

/-- `connection_handler`; `closed` for `BCONNECTION_EVENT_RECVCLOSED`. -/
def connectionHandler (o : BSocksClient) (closed : Bool) : Except CFault BSocksClient := do
  assert (o.state != .connecting)
  if o.state == .up && closed then return o.report .errorClosed
  else return o.report .error

def continueJobHandler (o : BSocksClient) (memory : Option (Nat → UInt8)) :
    Except CFault BSocksClient := do
  assert (o.state == .connectedHandler)
  let numAuthInfo := o.authInfo.length
  if numAuthInfo = 0 ∨ 255 < numAuthInfo then return o.report .error
  else match o.reserveBuffer (2 + numAuthInfo) memory with
    | none => return o.report .error
    | some o => do
      let o ← o.write 0 [socksVersion, UInt8.ofNat numAuthInfo]
      let o ← o.writeFrom 2 (o.authInfo.map fun info => [info.authType])
      let o ← o.senderSend (2 + numAuthInfo)
      return { o with state := .sendingHello }

def authFinished (o : BSocksClient) (memory : Option (Nat → UInt8)) :
    Except CFault BSocksClient :=
  match o.destAddr with
  | none => return o.report .error
  | some addr =>
    match o.reserveBuffer (4 + addrLen (addrType addr)) memory with
    | none => return o.report .error
    | some o => do
      let o ← o.write 4 addr.bytes
      let cmd := if o.udp then socksCmdUdpAssociate else socksCmdConnect
      let o ← o.write 0 [socksVersion, cmd, 0, atyp (addrType addr)]
      let o ← o.senderSend (4 + addrLen (addrType addr))
      return { o with state := .sendingRequest }

/-- The server has answered the hello. -/
def receivedHello (o : BSocksClient) (memory : Option (Nat → UInt8)) :
    Except CFault BSocksClient := do
  let imsg ← o.read 0 2
  if imsg.getD 0 0 ≠ socksVersion then return o.report .error
  else match o.authInfo.find? (·.authType == imsg.getD 1 0) with
    | none => return o.report .error
    | some .none => o.authFinished memory
    | some (.password username password) =>
      if username.length = 0 ∨ 255 < username.length ∨
          password.length = 0 ∨ 255 < password.length then return o.report .error
      else
        let size := 1 + 1 + username.length + 1 + password.length
        match o.reserveBuffer size memory with
        | none => return o.report .error
        | some o => do
          let o ← o.writeFrom 0 [[1], [UInt8.ofNat username.length], username,
            [UInt8.ofNat password.length], password]
          let o ← o.senderSend size
          return { o with state := .sendingPassword }

def receivedPasswordReply (o : BSocksClient) (memory : Option (Nat → UInt8)) :
    Except CFault BSocksClient := do
  let imsg ← o.read 0 2
  if imsg.getD 0 0 ≠ 1 then return o.report .error
  else if imsg.getD 1 0 ≠ 0 then return o.report .error
  else o.authFinished memory

def receivedReplyHeader (o : BSocksClient) : Except CFault BSocksClient := do
  let imsg ← o.read 0 4
  if imsg.getD 0 0 ≠ socksVersion then return o.report .error
  else if imsg.getD 1 0 ≠ socksRepSucceeded then return o.report .error
  else if imsg.getD 3 0 = socksAtypIpv4 then do
    let o ← { o with bindType := some .ipv4 }.startReceive 4 (addrLen .ipv4)
    return { o with state := .receivedReplyHeader }
  else if imsg.getD 3 0 = socksAtypIpv6 then do
    let o ← { o with bindType := some .ipv6 }.startReceive 4 (addrLen .ipv6)
    return { o with state := .receivedReplyHeader }
  else return o.report .error

/-- An address of a type, at the start of these bytes. -/
def readAddr (type : AddrType) (data : List UInt8) : UdpAddr :=
  match type with
  | .ipv4 => .ipv4 (readBe32 data 0) (readBe16 data 4)
  | .ipv6 => .ipv6 (Vector.ofFn fun i => data.getD i 0) (readBe16 data 16)

def receivedReplyRest (o : BSocksClient) : Except CFault BSocksClient := do
  match o.bindType with
  | none => throw .assertion
  | some type => do
    let addr ← o.read 4 (addrLen type)
    return { o with
      bindAddr := some (readAddr type addr), buffer := none, state := .up }.report .up

/-- All that was asked for has arrived. -/
def received (o : BSocksClient) (memory : Option (Nat → UInt8)) : Except CFault BSocksClient :=
  match o.state with
  | .sentHello => o.receivedHello memory
  | .sentRequest => o.receivedReplyHeader
  | .sentPassword => o.receivedPasswordReply memory
  | .receivedReplyHeader => o.receivedReplyRest
  | _ => throw .assertion

/-- `recv_handler_done`. -/
def recvHandlerDone (o : BSocksClient) (dataLen : Nat) (memory : Option (Nat → UInt8)) :
    Except CFault BSocksClient := do
  assert (decide (o.recvLen + dataLen ≤ o.recvTotal))
  let o := { o with recvLen := o.recvLen + dataLen }
  if o.recvLen < o.recvTotal then o.doReceive else o.received memory

/-- The buffer for an answer, and the first bytes of it to read. -/
def awaitAnswer (o : BSocksClient) (size total : Nat) (memory : Option (Nat → UInt8))
    (state : ClientState) : Except CFault BSocksClient :=
  match o.reserveBuffer size memory with
  | none => return o.report .error
  | some o => do
    let o ← o.startReceive 0 total
    return { o with state }

/-- `send_handler_done`. -/
def sendHandlerDone (o : BSocksClient) (memory : Option (Nat → UInt8)) :
    Except CFault BSocksClient := do
  assert o.buffer.isSome
  match o.state with
  | .sendingHello => o.awaitAnswer 2 2 memory .sentHello
  | .sendingRequest =>
    o.awaitAnswer (4 + max (addrLen .ipv4) (addrLen .ipv6)) 4 memory .sentRequest
  | .sendingPassword => o.awaitAnswer 2 2 memory .sentPassword
  | _ => throw .assertion

/-- `BSocksClient_SetDestAddr`. -/
def setDestAddr (o : BSocksClient) (addr : Option UdpAddr) : Except CFault BSocksClient := do
  assert (o.state == .connecting || o.state == .connectedHandler)
  return { o with destAddr := addr }

/-- It has reported an error, and is freed. -/
def failed (o : BSocksClient) : Bool :=
  o.reported.contains .error || o.reported.contains .errorClosed

end BSocksClient

/-! ## Runs -/

/-- A client, with the bytes that its connection took and those that it gave. -/
structure ClientRun where
  client : BSocksClient
  sent : List UInt8 := []
  received : List UInt8 := []
  deriving DecidableEq, Repr

inductive ClientEvent
  | setDestAddr (addr : Option UdpAddr)
  | connector (ok : Bool)
  | connection (closed : Bool)
  | continueJob (memory : Option (Nat → UInt8))
  /-- The connection takes some of the bytes to send. -/
  | taken (len : Nat)
  | sendDone (memory : Option (Nat → UInt8))
  /-- Bytes arrive. -/
  | recvDone (data : List UInt8) (memory : Option (Nat → UInt8))

namespace ClientRun

def exec (r : ClientRun) : ClientEvent → Except CFault ClientRun
  | .setDestAddr addr => return { r with client := ← r.client.setDestAddr addr }
  | .connector ok => return { r with client := ← r.client.connectorHandler ok }
  | .connection closed => return { r with client := ← r.client.connectionHandler closed }
  | .continueJob memory => do
    let client ← { r.client with continueJob := false }.continueJobHandler memory
    return { r with client }
  | .taken len =>
    match r.client.sending with
    | none => throw .assertion
    | some (pos, total) => do
      let data ← r.client.read pos len
      return { r with
        client := { r.client with sending := some (pos + len, total) }, sent := r.sent ++ data }
  | .sendDone memory => do
    let client ← { r.client with sending := none }.sendHandlerDone memory
    return { r with client }
  | .recvDone data memory => do
    let client ← r.client.write (r.client.recvDest + r.client.recvLen) data
    let client ← { client with receiving := false }.recvHandlerDone data.length memory
    return { r with client, received := r.received ++ data }

def enabled (r : ClientRun) (e : ClientEvent) : Bool :=
  !r.client.failed &&
    match e with
    | .setDestAddr _ => r.client.state == .connecting || r.client.state == .connectedHandler
    | .connector _ => r.client.state == .connecting
    | .connection _ => r.client.state != .connecting
    | .continueJob _ => r.client.continueJob
    | .taken len => r.client.sending.any fun (pos, total) => decide (0 < len ∧ pos + len ≤ total)
    | .sendDone _ => r.client.sending.any fun (pos, total) => decide (pos = total)
    | .recvDone data _ =>
      r.client.receiving && decide (0 < data.length) &&
        decide (r.client.recvLen + data.length ≤ r.client.recvTotal)

end ClientRun

def socksClient (authInfo : List AuthInfo) (destAddr : Option UdpAddr) (udp : Bool) :
    Machine ClientRun ClientEvent CFault where
  init := { client := { authInfo, destAddr, udp } }
  enabled := ClientRun.enabled
  exec := ClientRun.exec

end Lightsocks.Socks
