import Lightsocks.Lib.Heap
import Lightsocks.Udpgw.Client

/-!
# udpgw

udpgw has clients, and a client has connections, each with a UDP socket. A connection is found by
its id, in a tree of its client. It is closed when its id gets new addresses, when it is the least
recently used one and there are too many, or when its local port is needed. As long as a packet of
it is on its way to the client it cannot be freed: it moves to a list of closing connections, and
its socket is gone.

A packet comes from the decoder of a client, and the connection it makes sends the data in a job.
Jobs run in the reverse order, so the decoder does not go on before that job is done, but sockets,
timers and other clients are not held up in the model.
-/

namespace Lightsocks.Udpgw

open Lightsocks.Lib
open Lightsocks.Tunnel (UdpAddr udpgwHeader udpgwHeaderSize addrSize udpgwClientFlagIpv6
  udpgwComputeMtuBsize)

/-- The command-line options that udpgw uses while it runs. There is a range of local ports for a
family of addresses if their number is not negative; it begins at the port of the local address,
which `process_arguments` has parsed and found to be of the family. -/
structure ServerOptions where
  udpMtu : Int
  maxClients : Nat
  maxConnectionsForClient : Nat
  localUdpNumPorts : Int
  localUdpAddr : UdpAddr
  localUdpIp6NumPorts : Int
  localUdpIp6Addr : UdpAddr
  uniqueLocalPorts : Bool
  deriving DecidableEq, Repr

/-- `udpgw_mtu`, as `main` computes it. -/
def ServerOptions.udpgwMtu (m : DataModel) (options : ServerOptions) : Int :=
  let mtu := udpgwComputeMtuBsize m options.udpMtu
  if mtu < 0 ∨ mtu > 65535 then 65535 else mtu

/-- `get_local_num_ports`. -/
def ServerOptions.getLocalNumPorts (options : ServerOptions) : UdpAddr → Int
  | .ipv4 _ _ => options.localUdpNumPorts
  | .ipv6 _ _ => options.localUdpIp6NumPorts

/-- `get_local_addr`. -/
def ServerOptions.getLocalAddr (options : ServerOptions) : UdpAddr → UdpAddr
  | .ipv4 _ _ => options.localUdpAddr
  | .ipv6 _ _ => options.localUdpIp6Addr

/-- `BAddr_GetPort`. -/
def getPort : UdpAddr → UInt16
  | .ipv4 _ port => port
  | .ipv6 _ port => port

/-- `BAddr_SetPort`. -/
def setPort : UdpAddr → UInt16 → UdpAddr
  | .ipv4 ip _, port => .ipv4 ip port
  | .ipv6 ip _, port => .ipv6 ip port

/-- `bind_addr` of the port with index `i`, for a connection to `addr`. The sum has 16 bits, so a
range that goes beyond port `65535` goes on at `0`, which the system takes for any port. -/
def ServerOptions.bindAddr (options : ServerOptions) (addr : UdpAddr) (i : Nat) : UdpAddr :=
  let localAddr := options.getLocalAddr addr
  setPort localAddr (getPort localAddr + UInt16.ofNat i)

/-- `BIPAddr_Compare`, of the addresses without the ports. -/
def sameIp : UdpAddr → UdpAddr → Bool
  | .ipv4 a _, .ipv4 b _ => a == b
  | .ipv6 a _, .ipv6 b _ => a == b
  | _, _ => false

/-- Whether two connections to these addresses need different local ports. -/
def ServerOptions.sameRemote (options : ServerOptions) (a b : UdpAddr) : Bool :=
  if options.uniqueLocalPorts then sameIp a b else a == b

/-- `struct connection`, without its buffers. Of its socket, `udp` says whether it is there, and
`bound` what address it was bound to, if any: the source has only the index of the port. -/
structure ServerConnection where
  client : Nat
  conid : UInt16
  addr : UdpAddr
  origAddr : UdpAddr
  firstData : List UInt8
  firstJob : Bool
  lastUseTime : Int
  closing : Bool
  handlerBusy : Bool
  udp : Bool
  localPortIndex : Int
  bound : Option UdpAddr
  deriving DecidableEq, Repr

/-- `struct client`; of its queue, the flow that is sending, and whether it is being freed. -/
structure ServerClient where
  sendingFlow : Option Nat
  freeing : Bool
  connectionsTree : Avl Nat
  connectionsList : List Nat
  numConnections : Nat
  closingConnectionsList : List Nat
  deriving DecidableEq, Repr

structure Server where
  options : ServerOptions
  udpgwMtu : Int
  connections : Heap ServerConnection
  clients : Heap ServerClient
  clientsList : List Nat
  numClients : Nat
  deriving DecidableEq, Repr

/-- What a connection sends to its address; nothing when its buffer is full. -/
structure Datagram where
  con : Nat
  addr : UdpAddr
  data : List UInt8
  deriving DecidableEq, Repr

/-- What `connection_init` gets: memory, flows, sockets, and the ports that it can bind to. -/
structure ServerResources where
  alloc : Bool
  flow : Bool
  dgram : Bool
  portUsage : Bool
  reuseAddr : Bool
  bind : List Bool
  bindAgain : Bool
  sendBuffer : Bool
  recvBuffer : Bool
  deriving DecidableEq, Repr

/-- `PacketPassFairQueueFlow_IsBusy`. -/
def ServerClient.isBusy (cl : ServerClient) (p : Nat) : Except CFault Bool := do
  assert !cl.freeing
  return cl.sendingFlow == some p

/-- A connection is not one of the client's any more. -/
def ServerClient.remove (cl : ServerClient) (p : Nat) : Except CFault ServerClient := do
  let list ← unlink cl.connectionsList p
  let tree ← cl.connectionsTree.remove p
  return { cl with
    numConnections := cl.numConnections - 1
    connectionsList := list
    connectionsTree := tree }

/-- `connection_free_udp`. -/
def ServerConnection.freeUdp (con : ServerConnection) : Except CFault ServerConnection := do
  assert con.udp
  return { con with udp := false }

namespace Server

/-- A server without clients. -/
def init (m : DataModel) (options : ServerOptions) : Server where
  options
  udpgwMtu := options.udpgwMtu m
  connections := .empty
  clients := .empty
  clientsList := []
  numClients := 0

def setConnection (s : Server) (p : Nat) (con : ServerConnection) : Except CFault Server := do
  let connections ← s.connections.write p con
  return { s with connections }

def setClient (s : Server) (c : Nat) (cl : ServerClient) : Except CFault Server := do
  let clients ← s.clients.write c cl
  return { s with clients }

def conidOf (s : Server) (p : Nat) : Option UInt16 :=
  (s.connections.get p).map ServerConnection.conid

/-- `find_connection`. -/
def findConnection (s : Server) (cl : ServerClient) (conid : UInt16) :
    Except CFault (Option Nat) :=
  match cl.connectionsTree.lookupExact uint16Comparator s.conidOf conid with
  | none => return none
  | some p => do
    let con ← s.connections.read p
    assert (con.conid == conid)
    assert !con.closing
    return some p

/-- `connection_free`. -/
def connectionFree (s : Server) (p : Nat) : Except CFault Server := do
  let con ← s.connections.read p
  let cl ← s.clients.read con.client
  assert (cl.freeing || cl.sendingFlow != some p)
  if con.closing then do
    let list ← unlink cl.closingConnectionsList p
    let s ← s.setClient con.client { cl with closingConnectionsList := list }
    let connections ← s.connections.free p
    return { s with connections }
  else do
    let cl ← cl.remove p
    let _ ← con.freeUdp
    let s ← s.setClient con.client cl
    let connections ← s.connections.free p
    return { s with connections }

/-- `connection_close`. -/
def connectionClose (s : Server) (p : Nat) : Except CFault Server := do
  let con ← s.connections.read p
  assert !con.closing
  let cl ← s.clients.read con.client
  if !(← cl.isBusy p) then s.connectionFree p
  else do
    let cl ← cl.remove p
    let con ← con.freeUdp
    let s ← s.setClient con.client
      { cl with closingConnectionsList := cl.closingConnectionsList ++ [p] }
    s.setConnection p { con with handlerBusy := true, firstJob := false, closing := true }

/-- `connection_send_qflow_busy_handler`. -/
def connectionSendQflowBusyHandler (s : Server) (p : Nat) : Except CFault Server := do
  let con ← s.connections.read p
  assert con.closing
  s.connectionFree p

/-- A connection is used: it moves to the end of the list ("the front", in the source's words). -/
def useConnection (s : Server) (p : Nat) (now : Int) : Except CFault Server := do
  let con ← s.connections.read p
  let s ← s.setConnection p { con with lastUseTime := now }
  let cl ← s.clients.read con.client
  let list ← unlink cl.connectionsList p
  s.setClient con.client { cl with connectionsList := list ++ [p] }

/-- `connection_send_to_udp`; `place` says whether there is a place in the buffer. -/
def connectionSendToUdp (s : Server) (p : Nat) (data : List UInt8) (now : Int) (place : Bool) :
    Except CFault (Server × Option Datagram) := do
  let con ← s.connections.read p
  assert !con.closing
  assert (decide ((data.length : Int) ≤ s.options.udpMtu))
  let s ← s.useConnection p now
  return (s, if place then some ⟨p, con.addr, data⟩ else none)

/-- `connection_send_to_client`: the packet for the client. `out` is the place in the buffer, if
there is one. -/
def connectionSendToClient (s : Server) (p : Nat) (flags : UInt8) (data : List UInt8)
    (out : Option (List UInt8)) : Except CFault (Option (List UInt8)) := do
  let con ← s.connections.read p
  assert (decide ((data.length : Int) ≤ s.options.udpMtu))
  let room ← asInt (s.udpgwMtu - (udpgwHeaderSize + con.origAddr.size : Nat))
  if (data.length : Int) > room then return none
  else match out with
    | none => return none
    | some out => do
      let out ← copyTo out 0 (udpgwHeader (con.origAddr.flags flags) con.conid)
      let outPos ← asInt udpgwHeaderSize
      let out ← copyTo out outPos.toNat con.origAddr.bytes
      let outPos ← asInt (outPos + con.origAddr.size)
      let out ← copyTo out outPos.toNat data
      let outPos ← asInt (outPos + data.length)
      assert (decide (outPos ≤ s.udpgwMtu))
      let packet ← slice out 0 outPos.toNat
      return some packet

/-- `connection_udp_recv_if_handler_send`. -/
def connectionUdpRecvIfHandlerSend (s : Server) (p : Nat) (data : List UInt8) (now : Int)
    (out : Option (List UInt8)) : Except CFault (Server × Option (List UInt8)) := do
  let con ← s.connections.read p
  assert !con.closing
  assert (decide ((data.length : Int) ≤ s.options.udpMtu))
  let s ← s.useConnection p now
  let packet ← s.connectionSendToClient p 0 data out
  return (s, packet)

/-! ## Local ports -/

/-- The usage of the ports, and the least recently used connection of those that use one. -/
structure PortUsage where
  usage : List Bool
  leastCon : Option Nat
  deriving DecidableEq, Repr

/-- A connection in the loops of `build_port_usage_array_and_find_least_used_connection`. -/
def flagPort (s : Server) (remoteAddr : UdpAddr) (numPorts : Int) (c : Nat) (acc : PortUsage)
    (p : Nat) : Except CFault PortUsage := do
  let con ← s.connections.read p
  assert (con.client == c)
  assert !con.closing
  if con.addr.isIpv6 != remoteAddr.isIpv6 || decide (con.localPortIndex < 0) then return acc
  else do
    assert (decide (con.localPortIndex < numPorts))
    if !s.options.sameRemote con.addr remoteAddr then return acc
    else do
      assert (decide (con.localPortIndex.toNat < acc.usage.length))
      let usage := acc.usage.set con.localPortIndex.toNat true
      let cl ← s.clients.read c
      if ← cl.isBusy p then return { acc with usage }
      else match acc.leastCon with
        | none => return ⟨usage, some p⟩
        | some least => do
          let leastCon ← s.connections.read least
          return ⟨usage, if con.lastUseTime < leastCon.lastUseTime then some p else some least⟩

/-- The connections of a client, in the loops. -/
def flagPorts (s : Server) (remoteAddr : UdpAddr) (numPorts : Int) (acc : PortUsage) (c : Nat) :
    Except CFault PortUsage := do
  let cl ← s.clients.read c
  cl.connectionsList.foldlM (s.flagPort remoteAddr numPorts c) acc

/-- `build_port_usage_array_and_find_least_used_connection`, when there is memory. -/
def buildPortUsage (s : Server) (remoteAddr : UdpAddr) : Except CFault PortUsage := do
  let numPorts := s.options.getLocalNumPorts remoteAddr
  assert (decide (0 ≤ numPorts))
  s.clientsList.foldlM (s.flagPorts remoteAddr numPorts)
    ⟨List.replicate numPorts.toNat false, none⟩

/-- The first port that is not in use and that can be bound to. -/
def firstPort (usage bind : List Bool) : Option Nat :=
  (List.range usage.length).find? fun i => !usage.getD i true && bind.getD i false

/-- What a search for a local port leaves: the index of the port, or -1, and what the socket is
bound to. -/
structure LocalPort where
  localPortIndex : Int
  bound : Option UdpAddr
  deriving DecidableEq, Repr

/-- "failed to bind to any local address; proceeding regardless". -/
def LocalPort.failed : LocalPort := ⟨-1, none⟩

/-- The search of `connection_init` for a local port. -/
def bindPort (s : Server) (addr : UdpAddr) (res : ServerResources) :
    Except CFault (Server × LocalPort) := do
  let numPorts := s.options.getLocalNumPorts addr
  if numPorts < 0 || !res.portUsage then return (s, .failed)
  else do
    let acc ← s.buildPortUsage addr
    if !res.reuseAddr then return (s, .failed)
    else match firstPort acc.usage res.bind, acc.leastCon with
      | some i, _ => return (s, ⟨i, some (s.options.bindAddr addr i)⟩)
      | none, none => return (s, .failed)
      | none, some least => do
        let con ← s.connections.read least
        assert (con.addr.isIpv6 == addr.isIpv6)
        assert (decide (0 ≤ con.localPortIndex))
        assert (decide (con.localPortIndex < numPorts))
        let cl ← s.clients.read con.client
        let busy ← cl.isBusy least
        assert !busy
        let i := con.localPortIndex
        let s ← s.connectionClose least
        if res.bindAgain then return (s, ⟨i, some (s.options.bindAddr addr i.toNat)⟩)
        else return (s, .failed)

/-! ## Packets from a client -/

/-- The insertions of `connection_init`. -/
def insert (s : Server) (c : Nat) (con : ServerConnection) : Except CFault (Server × Nat) := do
  let p := s.connections.next
  let s := { s with connections := s.connections.alloc con }
  let cl ← s.clients.read c
  let tree ← cl.connectionsTree.insert uint16Comparator s.conidOf p
  let s ← s.setClient c { cl with
    connectionsTree := tree
    connectionsList := cl.connectionsList ++ [p]
    numConnections := cl.numConnections + 1 }
  return (s, p)

/-- `connection_init`: the new connection, if there is one. -/
def connectionInit (s : Server) (c : Nat) (conid : UInt16) (addr origAddr : UdpAddr)
    (data : List UInt8) (now : Int) (res : ServerResources) :
    Except CFault (Server × Option Nat) := do
  let cl ← s.clients.read c
  assert (decide (cl.numConnections < s.options.maxConnectionsForClient))
  let found ← s.findConnection cl conid
  assert found.isNone
  assert (decide ((data.length : Int) ≤ s.options.udpMtu))
  if !res.alloc || !res.flow || !res.dgram then return (s, none)
  else do
    let (s, port) ← s.bindPort addr res
    if !res.sendBuffer || !res.recvBuffer then return (s, none)
    else do
      let (s, p) ← s.insert c {
        client := c
        conid
        addr
        origAddr
        firstData := data
        firstJob := true
        lastUseTime := now
        closing := false
        handlerBusy := false
        udp := true
        localPortIndex := port.localPortIndex
        bound := port.bound }
      return (s, some p)

/-- What a packet from a client did: nothing, a new connection if it could be made, or a datagram
over one that there is. -/
inductive Served
  | dropped
  | created (p : Option Nat)
  | sent (p : Nat) (datagram : Option Datagram)
  deriving DecidableEq, Repr

/-- The connection with the id of a packet is closed if the packet is for a new one. -/
def closeOld (s : Server) (con : Option Nat) (flags : UInt8) (origAddr : UdpAddr) :
    Except CFault (Server × Option Nat) :=
  match con with
  | none => return (s, none)
  | some p => do
    let con ← s.connections.read p
    if flags &&& udpgwClientFlagRebind ≠ 0 ∨ con.origAddr ≠ origAddr then do
      let s ← s.connectionClose p
      return (s, none)
    else return (s, some p)

/-- The least recently used connection is closed if there are as many as allowed. -/
def makeRoom (s : Server) (c : Nat) : Except CFault Server := do
  let cl ← s.clients.read c
  if cl.numConnections = s.options.maxConnectionsForClient then
    match cl.connectionsList with
    | [] => throw .assertion
    | p :: _ => s.connectionClose p
  else return s

/-- The address that a packet for `origAddr` goes to; `dns` is that of a DNS server, if one is
known. -/
def dnsAddr (flags : UInt8) (dns : Option UdpAddr) (origAddr : UdpAddr) : UdpAddr :=
  if flags &&& udpgwClientFlagDns ≠ 0 then dns.getD origAddr else origAddr

/-- The end of `client_recv_if_handler_send`, with what was parsed. -/
def serve (s : Server) (c : Nat) (flags : UInt8) (conid : UInt16) (origAddr : UdpAddr)
    (data : List UInt8) (dns : Option UdpAddr) (now : Int) (res : ServerResources)
    (place : Bool) : Except CFault (Server × Served) := do
  let cl ← s.clients.read c
  let con ← s.findConnection cl conid
  let (s, con) ← s.closeOld con flags origAddr
  match con with
  | some p => do
    let (s, datagram) ← s.connectionSendToUdp p data now place
    return (s, .sent p datagram)
  | none => do
    let s ← s.makeRoom c
    let (s, p) ← s.connectionInit c conid (dnsAddr flags dns origAddr) origAddr data now res
    return (s, .created p)

/-- `client_recv_if_handler_send`. -/
def clientRecvIfHandlerSend (m : DataModel) (s : Server) (c : Nat) (data : List UInt8)
    (dns : Option UdpAddr) (now : Int) (res : ServerResources) (place : Bool) :
    Except CFault (Server × Served) := do
  assert (decide ((data.length : Int) ≤ s.udpgwMtu))
  let size ← asSize m data.length
  if size < udpgwHeaderSize then return (s, .dropped)
  else do
    let flags := data.getD 0 0
    let dataLen ← asInt (data.length - udpgwHeaderSize)
    if flags &&& udpgwClientFlagKeepalive ≠ 0 then return (s, .dropped)
    else do
      let size ← asSize m dataLen
      if size < addrSize flags then return (s, .dropped)
      else do
        let addr ← slice data udpgwHeaderSize (addrSize flags)
        let dataLen ← asInt (dataLen - addrSize flags)
        let payload ← slice data (udpgwHeaderSize + addrSize flags) dataLen.toNat
        if dataLen > s.options.udpMtu then return (s, .dropped)
        else s.serve c flags (headerConid data) (readAddr flags addr) payload dns now res place

/-! ## Clients -/

/-- `listener_handler`; `res` says whether all that a client needs could be made. -/
def listenerHandler (s : Server) (res : Bool) : Except CFault (Server × Option Nat) :=
  if s.numClients = s.options.maxClients then return (s, none)
  else if !res then return (s, none)
  else
    let c := s.clients.next
    return ({ s with
      clients := s.clients.alloc {
        sendingFlow := none
        freeing := false
        connectionsTree := .nil
        connectionsList := []
        numConnections := 0
        closingConnectionsList := [] }
      clientsList := s.clientsList ++ [c]
      numClients := s.numClients + 1 }, some c)

/-- The first loop of `client_free`; a round for each connection is enough. -/
def freeConnections (s : Server) (c : Nat) : Nat → Except CFault Server
  | 0 => return s
  | rounds + 1 => do
    let cl ← s.clients.read c
    match cl.connectionsList with
    | [] => return s
    | p :: _ => do
      let s ← s.connectionFree p
      s.freeConnections c rounds

/-- The second loop of `client_free`. -/
def freeClosingConnections (s : Server) (c : Nat) : Nat → Except CFault Server
  | 0 => return s
  | rounds + 1 => do
    let cl ← s.clients.read c
    match cl.closingConnectionsList with
    | [] => return s
    | p :: _ => do
      let s ← s.connectionFree p
      s.freeClosingConnections c rounds

/-- `client_free`. The queue and the rest of the client are freed when no connection is left. -/
def clientFree (s : Server) (c : Nat) : Except CFault Server := do
  let cl ← s.clients.read c
  let s ← s.setClient c { cl with freeing := true }
  let s ← s.freeConnections c cl.connectionsList.length
  let s ← s.freeClosingConnections c cl.closingConnectionsList.length
  let cl ← s.clients.read c
  assert (cl.connectionsList.isEmpty && cl.closingConnectionsList.isEmpty)
  let list ← unlink s.clientsList c
  let clients ← s.clients.free c
  return { s with clients, clientsList := list, numClients := s.numClients - 1 }

end Server

end Lightsocks.Udpgw
