import Lightsocks.Lib.Keyed
import Lightsocks.Udpgw.Binding
import Lightsocks.Udpgw.ServerRuns

/-!
# `UdpGwClient` and udpgw

A `UdpGwClient` and udpgw take turns in any order, with packets on their way between them. The
packets of a connection of `UdpGwClient` keep their order, and those of two connections may
overtake each other. When the connection between the two ends, what the other side has not read
is lost, and `UdpGwClient` goes on with its connections over the next one; udpgw has a new client
then, and may still read from the old connection. udpgw has other clients besides, which send
anything.

What udpgw sends and what comes back is followed by records: which packets a socket was used for,
what was sent from it, and what came to it.
-/

namespace Lightsocks.Udpgw

open Lightsocks.Lib
open Lightsocks.Tunnel (UdpAddr Submission addrSize length_udpgwHeader udpgwHeaderSize
  udpgwClientFlagIpv6)

/-- A datagram that came to a socket, in a packet on its way back. -/
structure Reply where
  client : Nat
  con : Nat
  data : List UInt8
  packet : List UInt8
  deriving DecidableEq, Repr

/-- `link` is the client that udpgw has for the connection that there is, and `links` are those
for all connections so far. -/
structure GatewayRun where
  client : ClientRun
  server : Server
  link : Option Nat
  links : List Nat
  buffered : List Transmission
  up : List (Nat × Transmission)
  down : List Reply
  served : List (Nat × Transmission)
  datagrams : List Datagram
  answers : List (Nat × List UInt8)
  deriving DecidableEq, Repr

inductive GatewayEvent
  /-- A step of `UdpGwClient`, but not the arrival of a packet. -/
  | client (e : ClientEvent)
  /-- udpgw accepts a connection of `UdpGwClient`. -/
  | connect (res : Bool)
  | disconnect
  /-- A packet leaves its buffer for the connection. -/
  | transmit (i : Nat)
  /-- udpgw reads a packet of `UdpGwClient`. -/
  | receive (i : Nat) (dns : Option UdpAddr) (now : Int) (res : ServerResources) (place : Bool)
  /-- Any other step of udpgw. -/
  | server (e : ServerEvent)
  /-- `UdpGwClient` reads a packet. -/
  | deliver (i : Nat)
  deriving DecidableEq, Repr

namespace GatewayRun

/-- What `UdpGwClient` sent, if it found a place, is in the buffer of its connection. -/
def buffer (r : GatewayRun) (client : ClientRun) : GatewayRun :=
  { r with
    client
    buffered := r.buffered ++
      (client.sent.drop r.client.sent.length).filter fun t => t.packet.isSome }

/-- A packet was served by a connection of udpgw, or by none. -/
def taken (r : GatewayRun) (i : Nat) (t : Transmission) (server : Server) :
    ServerOutcome → GatewayRun
  | .served (.created (some p)) =>
    { r with server, up := r.up.eraseIdx i, served := r.served ++ [(p, t)] }
  | .served (.sent p datagram) =>
    { r with
      server
      up := r.up.eraseIdx i
      served := r.served ++ [(p, t)]
      datagrams := r.datagrams ++ datagram.toList }
  | _ => { r with server, up := r.up.eraseIdx i }

/-- Whether a connection of udpgw is one for `UdpGwClient`. -/
def ours (r : GatewayRun) (p : Nat) : Option Nat :=
  ((r.server.connections.get p).map ServerConnection.client).filter fun c => r.links.contains c

/-- What another step of udpgw did for `UdpGwClient`. -/
def record (r : GatewayRun) (server : Server) : ServerEvent → ServerOutcome → GatewayRun
  | .firstJob p _ _, .sent datagram =>
    match r.ours p with
    | none => { r with server }
    | some _ => { r with server, datagrams := r.datagrams ++ datagram.toList }
  | .datagram p data _ _, .answered (some packet) =>
    match r.ours p with
    | none => { r with server }
    | some c =>
      { r with
        server
        answers := r.answers ++ [(p, data)]
        down := r.down ++ [⟨c, p, data, packet⟩] }
  | _, _ => { r with server }

def exec (m : DataModel) (r : GatewayRun) : GatewayEvent → Except CFault GatewayRun
  | .client e => do
    let client ← r.client.exec m e
    return r.buffer client
  | .connect res => do
    let (server, outcome) ← r.server.exec m (.accept res)
    match outcome with
    | .accepted (some c) => return { r with server, link := some c, links := r.links ++ [c] }
    | _ => return { r with server }
  | .disconnect => return { r with link := none }
  | .transmit i =>
    match r.link, pick Transmission.conid r.buffered i with
    | some c, some t =>
      return { r with buffered := r.buffered.eraseIdx i, up := r.up ++ [(c, t)] }
    | _, _ => throw .assertion
  | .receive i dns now res place =>
    match pick Prod.fst r.up i with
    | none => throw .assertion
    | some (c, t) => do
      let (server, outcome) ← r.server.exec m (.packet c (t.packet.getD []) dns now res place)
      return r.taken i t server outcome
  | .server e => do
    let (server, outcome) ← r.server.exec m e
    return r.record server e outcome
  | .deliver i =>
    match r.down[i]? with
    | none => throw .assertion
    | some reply => do
      let client ← r.client.exec m (.receive reply.packet)
      return { r with client, down := r.down.eraseIdx i }

/-- Both sides do what they can. Packets of `UdpGwClient` are read in the order in which they are
on a connection, and packets for it only from the connection that there is. -/
def enabled (r : GatewayRun) : GatewayEvent → Bool
  | .client (.receive _) => false
  | .client e => r.client.enabled e
  | .connect _ => r.link.isNone
  | .disconnect => r.link.isSome
  | .transmit i => r.link.isSome && (pick Transmission.conid r.buffered i).isSome
  | .receive i dns now res place =>
    (pick Prod.fst r.up i).any fun (c, t) =>
      r.server.enabled (.packet c (t.packet.getD []) dns now res place)
  | .server (.packet c data dns now res place) =>
    !r.links.contains c && r.server.enabled (.packet c data dns now res place)
  | .server e => r.server.enabled e
  | .deliver i => r.down[i]?.any fun reply =>
    r.link == some reply.client && r.client.enabled (.receive reply.packet)

end GatewayRun

/-- A `UdpGwClient` and udpgw, each from its start on. -/
def gateway (m : DataModel) (udpMtu : Int) (maxConnections : Nat) (options : ServerOptions) :
    Machine GatewayRun GatewayEvent CFault where
  init := {
    client := (udpGwClient m udpMtu maxConnections).init
    server := .init m options
    link := none
    links := []
    buffered := []
    up := []
    down := []
    served := []
    datagrams := []
    answers := [] }
  enabled := GatewayRun.enabled
  exec := GatewayRun.exec m

/-! ## The steps of `UdpGwClient` -/

namespace ClientRun

variable {r r' : ClientRun} {mtu : Int} {max : Nat} {m : DataModel}

/-- What was sent stays, and only the arrival of a packet passes one on. -/
theorem exec_sent {e : ClientEvent} (h : r.exec m e = .ok r') :
    r.sent <+: r'.sent ∧ ((∀ data, e ≠ .receive data) → r'.received = r.received) := by
  cases e with
  | submit s res out =>
    change (r.client.submitPacket s res out >>= fun res => pure (r.submitted res)) = _ at h
    obtain ⟨⟨client, sub⟩, -, h⟩ := bind_ok h
    cases h
    cases sub with
    | created p => cases p <;> exact ⟨List.prefix_rfl, fun _ => rfl⟩
    | sent p t => exact ⟨List.prefix_append _ _, fun _ => rfl⟩
  | firstJob out =>
    cases hjob : r.firstJob with
    | none =>
      simp only [exec, hjob] at h
      cases h
    | some p =>
      simp only [exec, hjob] at h
      obtain ⟨con, -, h⟩ := bind_ok h
      obtain ⟨t, -, h⟩ := bind_ok h
      cases h
      exact ⟨List.prefix_append _ _, fun _ => rfl⟩
  | receive data =>
    change (r.client.recvInterfaceHandlerSend m data >>= fun res => pure (r.receivedPacket res))
      = _ at h
    obtain ⟨⟨client, res⟩, -, h⟩ := bind_ok h
    cases h
    cases res <;> exact ⟨List.prefix_rfl, fun hne => absurd rfl (hne data)⟩

/-- A packet that udpgw wrote for an id and an address is passed on for a connection that has this
id and this remote address, or not at all. -/
theorem Inv.reads (h : r.Inv mtu max) {flags : UInt8}
    (hipv6 : flags &&& udpgwClientFlagIpv6 = 0) {conid : UInt16} {addr : UdpAddr}
    {data : List UInt8} (he : r.enabled (.receive (udpPacket flags conid addr data)) = true)
    (m : DataModel) :
    Returns (r.exec m (.receive (udpPacket flags conid addr data))) fun r' => r'.Inv mtu max ∧
      r'.sent = r.sent ∧ (r'.received = r.received ∨ ∃ d, r'.received = r.received ++ [d] ∧
        d.conid = conid ∧ d.conaddr.remoteAddr = addr ∧ d.data = data) := by
  obtain ⟨r', hexec, hinv⟩ := h.exec he m
  refine ⟨r', hexec, hinv, ?_⟩
  simp only [enabled, Bool.and_eq_true, decide_eq_true_eq] at he
  obtain ⟨⟨client, res⟩, hrecv, hres⟩ := h.client.recvInterfaceHandlerSend m he.2
  change (r.client.recvInterfaceHandlerSend m _ >>= fun res => pure (r.receivedPacket res)) = _
    at hexec
  rw [hrecv] at hexec
  cases hexec
  cases res with
  | none => exact ⟨rfl, Or.inl rfl⟩
  | some passed =>
    obtain ⟨p, d⟩ := passed
    obtain ⟨-, -, hconid, hsize, hbytes, -⟩ := hres
    refine ⟨rfl, Or.inr ⟨d, rfl, hconid.trans (headerConid_udpgwHeader _ _ _), ?_⟩⟩
    have hflags : (udpPacket flags conid addr data).getD 0 0 = addr.flags flags := rfl
    have hdrop : (udpPacket flags conid addr data).drop udpgwHeaderSize = addr.bytes ++ data :=
      List.drop_left' (length_udpgwHeader _ _)
    have hlen : ((udpPacket flags conid addr data).take udpgwHeaderSize).length
        = udpgwHeaderSize :=
      congrArg List.length (List.take_left' (length_udpgwHeader _ _))
    rw [hflags, addrSize_flags hipv6] at hsize
    have hrest : addr.bytes ++ data = d.conaddr.remoteAddr.bytes ++ d.data := by
      rw [← hdrop]
      conv_lhs => rw [hbytes]
      exact List.drop_left' hlen
    obtain ⟨haddr, hdata⟩ := bytes_inj hsize hrest
    exact ⟨haddr.symm, hdata.symm⟩

end ClientRun

end Lightsocks.Udpgw
