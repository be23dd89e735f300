import Lightsocks.Lib.Avl
import Lightsocks.Lib.Intrusive
import Lightsocks.Udpgw.Wire

/-!
# The connections of `UdpGwClient`

A connection of `UdpGwClient` stands for a pair of addresses, under an id that the packets to
udpgw and back carry. It is in a tree by its addresses, in a tree by its id, and in a list in the
order of use. When there are as many as allowed, the least recently used one is given new
addresses under its old id, and the next packet tells udpgw with a flag.

A pointer to a connection is an index into those that were allocated; none is freed before the
client is. The job that sends the first packet of a new connection is set while a packet from the
device is processed, and jobs run in the reverse order, so it runs before the next packet comes.
-/

namespace Lightsocks.Udpgw

open Lightsocks.Lib
open Lightsocks.Tunnel (UdpAddr Submission addrSize udpgwHeaderSize udpgwClientFlagIpv6
  udpgwComputeMtuBsize)

/-- `UDPGW_CLIENT_FLAG_KEEPALIVE`. -/
def udpgwClientFlagKeepalive : UInt8 := 1

/-- `UDPGW_CLIENT_FLAG_REBIND`. -/
def udpgwClientFlagRebind : UInt8 := 2

/-- `UDPGW_CLIENT_FLAG_DNS`. -/
def udpgwClientFlagDns : UInt8 := 4

/-- `struct UdpGwClient_conaddr`. -/
structure ConAddr where
  localAddr : UdpAddr
  remoteAddr : UdpAddr
  deriving DecidableEq, Repr

/-- `BAddr_CompareOrder`. -/
def compareOrder : UdpAddr → UdpAddr → Ordering
  | .ipv4 ip1 port1, .ipv4 ip2 port2 => (compare ip1 ip2).then (compare port1 port2)
  | .ipv4 .., .ipv6 .. => .lt
  | .ipv6 .., .ipv4 .. => .gt
  | .ipv6 ip1 port1, .ipv6 ip2 port2 =>
    (compare ip1.toList ip2.toList).then (compare port1 port2)

/-- `conaddr_comparator`. -/
def conaddrComparator (v1 v2 : ConAddr) : Ordering :=
  (compareOrder v1.remoteAddr v2.remoteAddr).then (compareOrder v1.localAddr v2.localAddr)

/-- The addresses of a submitted packet. -/
def ConAddr.of (s : Submission) : ConAddr := ⟨s.localAddr, s.remoteAddr⟩

/-- The flags of a submitted packet. -/
def submitFlags (s : Submission) : UInt8 := if s.isDns then udpgwClientFlagDns else 0

/-- `struct UdpGwClient_connection`. -/
structure Connection where
  conaddr : ConAddr
  firstFlags : UInt8
  firstData : List UInt8
  conid : UInt16
  deriving DecidableEq, Repr

/-- `UdpGwClient`. -/
structure Client where
  udpMtu : Int
  udpgwMtu : Int
  maxConnections : Nat
  connections : List Connection
  connectionsTreeByConaddr : Avl Nat
  connectionsTreeByConid : Avl Nat
  connectionsList : List Nat
  numConnections : Nat
  nextConid : Nat
  deriving DecidableEq, Repr

/-- What `connection_send` puts into the buffer of a connection; there is no packet when the
buffer is full. -/
structure Transmission where
  conid : UInt16
  conaddr : ConAddr
  flags : UInt8
  data : List UInt8
  packet : Option (List UInt8)
  deriving DecidableEq, Repr

/-- What is passed to `handler_received`, over the connection with this id. -/
structure Delivery where
  conid : UInt16
  conaddr : ConAddr
  data : List UInt8
  deriving DecidableEq, Repr

/-- Whether `malloc` and `PacketProtoFlow_Init` succeed. -/
structure Resources where
  alloc : Bool
  flow : Bool
  deriving DecidableEq, Repr

namespace Client

/-- `UdpGwClient_Init`. There are no more connections than ids. -/
def init (m : DataModel) (udpMtu : Int) (maxConnections : Nat) : Client where
  udpMtu
  udpgwMtu := udpgwComputeMtuBsize m udpMtu
  maxConnections := if maxConnections > 65535 + 1 then 65535 + 1 else maxConnections
  connections := []
  connectionsTreeByConaddr := .nil
  connectionsTreeByConid := .nil
  connectionsList := []
  numConnections := 0
  nextConid := 0

def conaddrOf (o : Client) (p : Nat) : Option ConAddr := o.connections[p]?.map Connection.conaddr

def conidOf (o : Client) (p : Nat) : Option UInt16 := o.connections[p]?.map Connection.conid

/-- What a pointer points to. -/
def con (o : Client) (p : Nat) : Except CFault Connection :=
  match o.connections[p]? with
  | none => throw (.outOfBounds p o.connections.length)
  | some con => return con

/-- `find_connection_by_conaddr`. -/
def findConnectionByConaddr (o : Client) (conaddr : ConAddr) : Option Nat :=
  o.connectionsTreeByConaddr.lookupExact conaddrComparator o.conaddrOf conaddr

/-- `find_connection_by_conid`. -/
def findConnectionByConid (o : Client) (conid : UInt16) : Option Nat :=
  o.connectionsTreeByConid.lookupExact uint16Comparator o.conidOf conid

/-- `find_unused_conid`. The loop of the source is not bounded; a round for each id is enough,
see `findUnusedConid_spec`. -/
def findUnusedConid (o : Client) : Except CFault Nat := do
  assert (decide (o.numConnections < o.maxConnections))
  match findUnused (fun i => (o.findConnectionByConid (UInt16.ofNat i)).isSome)
      o.maxConnections o.maxConnections o.nextConid with
  | none => throw .assertion
  | some i => return i

/-- The insertions of `connection_init`, of the connection that was allocated last. -/
def insert (o : Client) (con : Connection) : Except CFault Client := do
  let p := o.connections.length
  let o := { o with connections := o.connections ++ [con] }
  let byConaddr ← o.connectionsTreeByConaddr.insert conaddrComparator o.conaddrOf p
  let byConid ← o.connectionsTreeByConid.insert uint16Comparator o.conidOf p
  return { o with
    connectionsTreeByConaddr := byConaddr
    connectionsTreeByConid := byConid
    connectionsList := o.connectionsList ++ [p]
    numConnections := o.numConnections + 1 }

/-- `connection_init`: the new connection, if there is one. -/
def connectionInit (o : Client) (conaddr : ConAddr) (flags : UInt8) (data : List UInt8)
    (res : Resources) : Except CFault (Client × Option Nat) := do
  assert (decide (o.numConnections < o.maxConnections))
  assert (o.findConnectionByConaddr conaddr).isNone
  assert (decide ((data.length : Int) ≤ o.udpMtu))
  if !res.alloc then return (o, none)
  else do
    let conid ← o.findUnusedConid
    let o := { o with nextConid := conid }
    if !res.flow then return (o, none)
    else do
      let p := o.connections.length
      let o ← o.insert
        { conaddr, firstFlags := flags, firstData := data, conid := UInt16.ofNat conid }
      return (o, some p)

/-- `connection_send`. `out` is the place in the connection's buffer, if there is one. -/
def connectionSend (o : Client) (p : Nat) (flags : UInt8) (data : List UInt8)
    (out : Option (List UInt8)) : Except CFault Transmission := do
  let con ← o.con p
  assert (decide ((data.length : Int) ≤ o.udpMtu))
  match out with
  | none => return { conid := con.conid, conaddr := con.conaddr, flags, data, packet := none }
  | some out => do
    let packet ←
      Tunnel.connectionSend o.udpMtu out flags con.conid con.conaddr.remoteAddr data
    return { conid := con.conid, conaddr := con.conaddr, flags, data, packet := some packet }

/-- A connection gets new addresses. -/
def setConaddr (o : Client) (p : Nat) (conaddr : ConAddr) : Except CFault Client := do
  let con ← o.con p
  let byConaddr ← o.connectionsTreeByConaddr.remove p
  let o := { o with connections := o.connections.set p { con with conaddr } }
  let byConaddr ← byConaddr.insert conaddrComparator o.conaddrOf p
  return { o with connectionsTreeByConaddr := byConaddr }

/-- `reuse_connection`: the least recently used connection gets new addresses. -/
def reuseConnection (o : Client) (conaddr : ConAddr) : Except CFault (Client × Nat) := do
  assert (o.findConnectionByConaddr conaddr).isNone
  assert (decide (0 < o.numConnections))
  match o.connectionsList with
  | [] => throw .assertion
  | p :: _ => do
    let o ← o.setConaddr p conaddr
    return (o, p)

/-- A connection moves to the end of the list ("the front", in the source's words). -/
def moveToFront (o : Client) (p : Nat) : Except CFault Client := do
  let list ← unlink o.connectionsList p
  return { o with connectionsList := list ++ [p] }

/-- What `UdpGwClient_SubmitPacket` did: a new connection if it could be made, or a transmission
over one that there is. -/
inductive Submitted
  | created (p : Option Nat)
  | sent (p : Nat) (t : Transmission)
  deriving DecidableEq, Repr

/-- The end of `UdpGwClient_SubmitPacket`, with a connection. -/
def submitTo (o : Client) (p : Nat) (flags : UInt8) (data : List UInt8)
    (out : Option (List UInt8)) : Except CFault (Client × Submitted) := do
  let o ← o.moveToFront p
  let t ← o.connectionSend p flags data out
  return (o, .sent p t)

/-- `UdpGwClient_SubmitPacket`. -/
def submitPacket (o : Client) (s : Submission) (res : Resources) (out : Option (List UInt8)) :
    Except CFault (Client × Submitted) := do
  assert (decide ((s.data.length : Int) ≤ o.udpMtu))
  match o.findConnectionByConaddr (.of s) with
  | some p => o.submitTo p (submitFlags s) s.data out
  | none =>
    if o.numConnections = o.maxConnections then do
      let (o, p) ← o.reuseConnection (.of s)
      o.submitTo p (submitFlags s ||| udpgwClientFlagRebind) s.data out
    else do
      let (o, p) ← o.connectionInit (.of s) (submitFlags s) s.data res
      return (o, .created p)

/-- The addresses of the connection with an id. -/
def addrsOf (o : Client) (conid : UInt16) : Option (UdpAddr × UdpAddr) := do
  let p ← o.findConnectionByConid conid
  let conaddr ← o.conaddrOf p
  return (conaddr.localAddr, conaddr.remoteAddr)

/-- `recv_interface_handler_send`: the connection that was used, and what is passed on. -/
def recvInterfaceHandlerSend (m : DataModel) (o : Client) (data : List UInt8) :
    Except CFault (Client × Option (Nat × Delivery)) := do
  match ← Tunnel.recvInterfaceHandlerSend m o.udpMtu o.udpgwMtu o.addrsOf data with
  | none => return (o, none)
  | some (localAddr, remoteAddr, payload) =>
    match o.findConnectionByConid (headerConid data) with
    | none => throw .assertion
    | some p => do
      let o ← o.moveToFront p
      return (o, some (p, ⟨headerConid data, ⟨localAddr, remoteAddr⟩, payload⟩))

end Client

/-! ## Runs -/

/-- The client, with the new connection whose first packet is not sent yet, the uses of its
connections, and what it sent and passed on. -/
structure ClientRun where
  client : Client
  firstJob : Option Nat
  uses : List Nat
  sent : List Transmission
  received : List Delivery
  deriving DecidableEq, Repr

inductive ClientEvent
  /-- `UdpGwClient_SubmitPacket` is called. -/
  | submit (s : Submission) (res : Resources) (out : Option (List UInt8))
  /-- `connection_first_job_handler`. -/
  | firstJob (out : Option (List UInt8))
  /-- The decoder passes a packet on. -/
  | receive (data : List UInt8)
  deriving DecidableEq, Repr

namespace ClientRun

/-- What a call of `UdpGwClient_SubmitPacket` leaves. -/
def submitted (r : ClientRun) (res : Client × Client.Submitted) : ClientRun :=
  match res.2 with
  | .created none => { r with client := res.1 }
  | .created (some p) =>
    { r with client := res.1, firstJob := some p, uses := r.uses ++ [p] }
  | .sent p t => { r with client := res.1, uses := r.uses ++ [p], sent := r.sent ++ [t] }

/-- What a received packet leaves. -/
def receivedPacket (r : ClientRun) (res : Client × Option (Nat × Delivery)) : ClientRun :=
  match res.2 with
  | none => { r with client := res.1 }
  | some (p, d) =>
    { r with client := res.1, uses := r.uses ++ [p], received := r.received ++ [d] }

def exec (m : DataModel) (r : ClientRun) : ClientEvent → Except CFault ClientRun
  | .submit s res out => do
    let res ← r.client.submitPacket s res out
    return r.submitted res
  | .firstJob out =>
    match r.firstJob with
    | none => throw .assertion
    | some p => do
      let con ← r.client.con p
      let t ← r.client.connectionSend p (udpgwClientFlagRebind ||| con.firstFlags) con.firstData out
      return { r with firstJob := none, sent := r.sent ++ [t] }
  | .receive data => do
    let res ← r.client.recvInterfaceHandlerSend m data
    return r.receivedPacket res

/-- A place for a packet is as large as the largest packet. -/
def fits (r : ClientRun) (out : Option (List UInt8)) : Bool :=
  out.all fun out => decide (r.client.udpgwMtu ≤ out.length)

/-- The callers keep to the sizes; the first packet of a new connection is sent before anything
else happens. -/
def enabled (r : ClientRun) : ClientEvent → Bool
  | .submit s _ out =>
    r.firstJob.isNone && decide ((s.data.length : Int) ≤ r.client.udpMtu) && r.fits out
  | .firstJob out => r.firstJob.isSome && r.fits out
  | .receive data => r.firstJob.isNone && decide ((data.length : Int) ≤ r.client.udpgwMtu)

end ClientRun

/-- A client from its initialization on. -/
def udpGwClient (m : DataModel) (udpMtu : Int) (maxConnections : Nat) :
    Machine ClientRun ClientEvent CFault where
  init := {
    client := .init m udpMtu maxConnections
    firstJob := none
    uses := []
    sent := []
    received := [] }
  enabled := ClientRun.enabled
  exec := ClientRun.exec m

/-! ## The orders of the trees -/

instance : Ord UdpAddr := ⟨compareOrder⟩

/-- An address and then a port are compared. -/
private theorem isLE_trans_then {α : Type} [Ord α] [Std.TransOrd α] {a b c : α}
    {p q r : UInt16} (h : ((compare a b).then (compare p q)).isLE = true)
    (h' : ((compare b c).then (compare q r)).isLE = true) :
    ((compare a c).then (compare p r)).isLE = true := by
  have hlex : Std.TransCmp
      (compareLex (compareOn Prod.fst) (compareOn Prod.snd) : α × UInt16 → α × UInt16 → Ordering) :=
    inferInstance
  exact @hlex.isLE_trans (a, p) (b, q) (c, r) h h'

instance : Std.TransOrd UdpAddr where
  eq_swap {a b} := by
    cases a <;> cases b
    · show (compare _ _).then (compare _ _) = ((compare _ _).then (compare _ _)).swap
      rw [Ordering.swap_then, ← Std.OrientedCmp.eq_swap, ← Std.OrientedCmp.eq_swap]
    · rfl
    · rfl
    · show (compare _ _).then (compare _ _) = ((compare _ _).then (compare _ _)).swap
      rw [Ordering.swap_then, ← Std.OrientedCmp.eq_swap, ← Std.OrientedCmp.eq_swap]
  isLE_trans {a b c} h h' := by
    cases a with
    | ipv4 ip port =>
      cases c with
      | ipv6 _ _ => rfl
      | ipv4 _ _ =>
        cases b with
        | ipv4 _ _ => exact isLE_trans_then h h'
        | ipv6 _ _ => cases h'
    | ipv6 ip port =>
      cases b with
      | ipv4 _ _ => cases h
      | ipv6 _ _ =>
        cases c with
        | ipv4 _ _ => cases h'
        | ipv6 _ _ => exact isLE_trans_then h h'

instance : Std.LawfulEqOrd UdpAddr where
  compare_self {a} := by
    cases a
    · exact Ordering.then_eq_eq.mpr ⟨Std.ReflCmp.compare_self, Std.ReflCmp.compare_self⟩
    · exact Ordering.then_eq_eq.mpr ⟨Std.ReflCmp.compare_self, Std.ReflCmp.compare_self⟩
  eq_of_compare {a b} h := by
    cases a <;> cases b
    · obtain ⟨hip, hport⟩ := Ordering.then_eq_eq.mp h
      rw [Std.LawfulEqCmp.eq_of_compare hip, Std.LawfulEqCmp.eq_of_compare hport]
    · cases h
    · cases h
    · obtain ⟨hip, hport⟩ := Ordering.then_eq_eq.mp h
      rw [Vector.toList_inj.mp (Std.LawfulEqCmp.eq_of_compare hip),
        Std.LawfulEqCmp.eq_of_compare hport]

instance : Std.TransCmp conaddrComparator :=
  inferInstanceAs (Std.TransCmp
    (compareLex (compareOn ConAddr.remoteAddr) (compareOn ConAddr.localAddr)))

instance : Std.LawfulEqCmp conaddrComparator where
  compare_self {a} := by
    have hself : ∀ addr : UdpAddr, compare addr addr = .eq := fun _ => Std.ReflOrd.compare_self
    exact Ordering.then_eq_eq.mpr ⟨hself _, hself _⟩
  eq_of_compare {a b} h := by
    obtain ⟨hremote, hlocal⟩ := Ordering.then_eq_eq.mp h
    cases a
    cases b
    rw [ConAddr.mk.injEq]
    exact ⟨Std.LawfulEqOrd.eq_of_compare hlocal, Std.LawfulEqOrd.eq_of_compare hremote⟩

/-! ## The tables -/

/-- The trees, the list and the number are those of the connections that were allocated. -/
structure Client.Inv (o : Client) (mtu : Int) (max : Nat) (uses : List Nat) : Prop where
  num : o.numConnections = o.connections.length
  le : o.numConnections ≤ o.maxConnections
  max_eq : o.maxConnections = min max 65536
  udpMtu : o.udpMtu = mtu
  udpgwMtu : o.udpgwMtu = mtu + 21
  mtu_le : mtu + 21 ≤ 65535
  byConaddr : Index conaddrComparator o.conaddrOf o.connectionsTreeByConaddr
  byConid : Index uint16Comparator o.conidOf o.connectionsTreeByConid
  mem_byConaddr : ∀ p, p ∈ o.connectionsTreeByConaddr ↔ p < o.connections.length
  mem_byConid : ∀ p, p ∈ o.connectionsTreeByConid ↔ p < o.connections.length
  mem_list : ∀ p, p ∈ o.connectionsList ↔ p < o.connections.length
  list : o.connectionsList = uses.dedup
  next : o.nextConid < o.maxConnections
  conid_lt : ∀ c ∈ o.connections, c.conid.toNat < o.maxConnections

namespace Client

variable {o : Client} {mtu : Int} {max : Nat} {uses : List Nat} {p : Nat} {con : Connection}
  {conaddr : ConAddr} {conid : UInt16}

theorem lt_of_get (h : o.connections[p]? = some con) : p < o.connections.length :=
  (List.getElem?_eq_some_iff.mp h).1

theorem conaddrOf_eq_some :
    o.conaddrOf p = some conaddr ↔ ∃ con, o.connections[p]? = some con ∧ con.conaddr = conaddr :=
  Option.map_eq_some_iff

theorem conidOf_eq_some :
    o.conidOf p = some conid ↔ ∃ con, o.connections[p]? = some con ∧ con.conid = conid :=
  Option.map_eq_some_iff

theorem con_ok (h : o.connections[p]? = some con) : o.con p = .ok con := by
  unfold Client.con
  rw [h]
  rfl

theorem Inv.findByConaddr (h : o.Inv mtu max uses) :
    o.findConnectionByConaddr conaddr = some p ↔ o.conaddrOf p = some conaddr := by
  rw [findConnectionByConaddr, h.byConaddr.lookup_eq_some, h.mem_byConaddr]
  constructor
  · exact And.right
  · intro hp
    obtain ⟨con, hcon, -⟩ := conaddrOf_eq_some.mp hp
    exact ⟨lt_of_get hcon, hp⟩

theorem Inv.findByConid (h : o.Inv mtu max uses) :
    o.findConnectionByConid conid = some p ↔ o.conidOf p = some conid := by
  rw [findConnectionByConid, h.byConid.lookup_eq_some, h.mem_byConid]
  constructor
  · exact And.right
  · intro hp
    obtain ⟨con, hcon, -⟩ := conidOf_eq_some.mp hp
    exact ⟨lt_of_get hcon, hp⟩

/-- The list moves on with the uses. -/
theorem Inv.moveToFront (h : o.Inv mtu max uses) (hp : p < o.connections.length) :
    Returns (o.moveToFront p) fun o' =>
      o' = { o with connectionsList := touch o.connectionsList p } ∧
        o'.Inv mtu max (uses ++ [p]) := by
  have hmem := (h.mem_list p).mpr hp
  apply Returns.bind_eq (unlink_ok hmem)
  refine Returns.pure ⟨rfl, ?_⟩
  exact { h with
    mem_list := by
      intro q
      rw [← h.mem_list q]
      exact mem_touch hmem
    list := by
      rw [dedup_concat, ← h.list]
      rfl }

/-- The loop of `find_unused_conid` ends, with an id that no connection has. -/
theorem Inv.findUnusedConid (h : o.Inv mtu max uses) (hlt : o.numConnections < o.maxConnections) :
    Returns o.findUnusedConid fun i =>
      i < o.maxConnections ∧ o.findConnectionByConid (UInt16.ofNat i) = none := by
  have hmax := h.max_eq
  have hids : ∀ j < o.maxConnections,
      (o.findConnectionByConid (UInt16.ofNat j)).isSome = true →
      j ∈ o.connections.map (fun c => c.conid.toNat) := by
    intro j hj hused
    obtain ⟨p, hp⟩ := Option.isSome_iff_exists.mp hused
    obtain ⟨con, hcon, hconid⟩ := conidOf_eq_some.mp (h.findByConid.mp hp)
    apply List.mem_map.mpr
    refine ⟨con, List.mem_of_getElem? hcon, ?_⟩
    rw [hconid, UInt16.toNat_ofNat']
    omega
  obtain ⟨i, hi, hlti, hunused⟩ := findUnused_of_lt h.next hids
    (by rw [List.length_map, ← h.num]; exact hlt)
  apply Returns.bind_eq (assert_ok (decide_eq_true hlt))
  rw [hi]
  exact Returns.pure ⟨hlti, Option.not_isSome_iff_eq_none.mp (by rw [hunused]; decide)⟩

/-- A new connection is behind those that there are, which do not change. -/
theorem conaddrOf_append (h : p < o.connections.length) :
    conaddrOf { o with connections := o.connections ++ [con] } p = o.conaddrOf p := by
  unfold conaddrOf
  rw [List.getElem?_append_left h]

theorem conidOf_append (h : p < o.connections.length) :
    conidOf { o with connections := o.connections ++ [con] } p = o.conidOf p := by
  unfold conidOf
  rw [List.getElem?_append_left h]

/-- A new connection, with addresses and an id that no other has. -/
theorem Inv.insert (h : o.Inv mtu max uses) (con : Connection)
    (hlt : o.numConnections < o.maxConnections)
    (haddr : o.findConnectionByConaddr con.conaddr = none)
    (hid : o.findConnectionByConid con.conid = none)
    (hconid : con.conid.toNat < o.maxConnections) :
    Returns (o.insert con) fun o' =>
      o'.connections = o.connections ++ [con] ∧
        o'.Inv mtu max (uses ++ [o.connections.length]) := by
  have hfresh : o.connections.length ∉ o.connectionsList := fun hp =>
    absurd ((h.mem_list _).mp hp) (Nat.lt_irrefl _)
  have hlast : ∀ p, (p = o.connections.length ∨ p < o.connections.length) ↔
      p < (o.connections ++ [con]).length := by
    intro p
    rw [List.length_append, List.length_singleton]
    omega
  have hkeyAddr : conaddrOf { o with connections := o.connections ++ [con] } o.connections.length
      = some con.conaddr := by
    unfold conaddrOf
    rw [List.getElem?_concat_length]
    rfl
  have hkeyId : conidOf { o with connections := o.connections ++ [con] } o.connections.length
      = some con.conid := by
    unfold conidOf
    rw [List.getElem?_concat_length]
    rfl
  have hinsertAddr := h.byConaddr.insert_new
    (fun p hp => conaddrOf_append ((h.mem_byConaddr p).mp hp)) hkeyAddr
    (h.byConaddr.lookup_eq_none.mp haddr)
  have hinsertId := h.byConid.insert_new
    (fun p hp => conidOf_append ((h.mem_byConid p).mp hp)) hkeyId
    (h.byConid.lookup_eq_none.mp hid)
  apply Returns.bind hinsertAddr
  rintro byConaddr ⟨hbyConaddr, hmemAddr⟩
  apply Returns.bind hinsertId
  rintro byConid ⟨hbyConid, hmemId⟩
  refine Returns.pure ⟨rfl, ?_⟩
  exact {
    num := by
      show o.numConnections + 1 = (o.connections ++ [con]).length
      rw [h.num, List.length_append, List.length_singleton]
    le := hlt
    max_eq := h.max_eq
    udpMtu := h.udpMtu
    udpgwMtu := h.udpgwMtu
    mtu_le := h.mtu_le
    byConaddr := hbyConaddr
    byConid := hbyConid
    mem_byConaddr p := by rw [hmemAddr, h.mem_byConaddr, hlast]
    mem_byConid p := by rw [hmemId, h.mem_byConid, hlast]
    mem_list p := by rw [List.mem_append, List.mem_singleton, or_comm, h.mem_list, hlast]
    list := by
      show o.connectionsList ++ [o.connections.length] = _
      rw [dedup_concat, ← h.list, touch, List.erase_of_not_mem hfresh]
    next := h.next
    conid_lt := by
      intro c hc
      rcases List.mem_append.mp hc with hc | hc
      · exact h.conid_lt c hc
      · rw [List.mem_singleton.mp hc]
        exact hconid }

/-- A connection is made, or there are the same ones as before. -/
theorem Inv.connectionInit {flags : UInt8} {data : List UInt8} (res : Resources)
    (h : o.Inv mtu max uses) (hlt : o.numConnections < o.maxConnections)
    (haddr : o.findConnectionByConaddr conaddr = none)
    (hdata : (data.length : Int) ≤ o.udpMtu) :
    Returns (o.connectionInit conaddr flags data res) fun r =>
      (r.2 = none ∧ r.1.connections = o.connections ∧ r.1.Inv mtu max uses) ∨
      (∃ conid, o.findConnectionByConid conid = none ∧ r.2 = some o.connections.length ∧
        r.1.connections = o.connections ++ [⟨conaddr, flags, data, conid⟩] ∧
        r.1.Inv mtu max (uses ++ [o.connections.length])) := by
  apply Returns.bind_eq (assert_ok (decide_eq_true hlt))
  apply Returns.bind_eq (assert_ok (by rw [haddr]; rfl))
  apply Returns.bind_eq (assert_ok (decide_eq_true hdata))
  split
  · exact Returns.pure (Or.inl ⟨rfl, rfl, h⟩)
  apply Returns.bind (h.findUnusedConid hlt)
  rintro i ⟨hi, hunused⟩
  have hI : Inv { o with nextConid := i } mtu max uses := { h with next := hi }
  dsimp only
  split
  · exact Returns.pure (Or.inl ⟨rfl, rfl, hI⟩)
  have hmax := h.max_eq
  have hconid : (UInt16.ofNat i).toNat = i := by
    rw [UInt16.toNat_ofNat']
    omega
  have hinsert := hI.insert ⟨conaddr, flags, data, UInt16.ofNat i⟩ hlt haddr hunused
    (by rw [hconid]; exact hi)
  apply Returns.bind hinsert
  rintro o' ⟨hconnections, hinv⟩
  exact Returns.pure (Or.inr ⟨_, hunused, rfl, hconnections, hinv⟩)

/-- A connection is bound to addresses that no other has. -/
theorem Inv.setConaddr (h : o.Inv mtu max uses) (hcon : o.connections[p]? = some con)
    (haddr : o.findConnectionByConaddr conaddr = none) :
    Returns (o.setConaddr p conaddr) fun o' =>
      o'.connections = o.connections.set p { con with conaddr } ∧ o'.Inv mtu max uses := by
  have hp := lt_of_get hcon
  have hmem := (h.mem_byConaddr p).mpr hp
  -- the other connections keep their addresses, and those are not the new ones
  have hsame : ∀ q, q ≠ p → conaddrOf
      { o with connections := o.connections.set p { con with conaddr } } q = o.conaddrOf q := by
    intro q hq
    unfold conaddrOf
    rw [List.getElem?_set_ne (Ne.symm hq)]
  have hkey : conaddrOf { o with connections := o.connections.set p { con with conaddr } } p
      = some conaddr := by
    unfold conaddrOf
    rw [List.getElem?_set_self hp]
    rfl
  have hids : ∀ q, conidOf { o with connections := o.connections.set p { con with conaddr } } q
      = o.conidOf q := by
    intro q
    unfold conidOf
    by_cases hq : q = p
    · rw [hq, List.getElem?_set_self hp, hcon]
      rfl
    · rw [List.getElem?_set_ne (Ne.symm hq)]
  apply Returns.bind_eq (con_ok hcon)
  apply Returns.bind (h.byConaddr.remove hmem)
  rintro rest ⟨hrest, hmemRest⟩
  have hnone : ∀ q ∈ rest, o.conaddrOf q ≠ some conaddr := fun q hq =>
    h.byConaddr.lookup_eq_none.mp haddr q ((hmemRest q).mp hq).2
  apply Returns.bind (hrest.insert_new (fun q hq => hsame q ((hmemRest q).mp hq).1) hkey hnone)
  rintro byConaddr ⟨hbyConaddr, hmemAddr⟩
  refine Returns.pure ⟨rfl, ?_⟩
  exact { h with
    num := h.num.trans List.length_set.symm
    byConaddr := hbyConaddr
    byConid := h.byConid.congr fun q _ => hids q
    mem_byConaddr := by
      intro q
      rw [List.length_set, hmemAddr, hmemRest, h.mem_byConaddr]
      by_cases hq : q = p
      · rw [hq]
        exact iff_of_true (.inl rfl) hp
      · simp only [hq, false_or, ne_eq, not_false_eq_true, true_and]
    mem_byConid := by
      intro q
      rw [List.length_set]
      exact h.mem_byConid q
    mem_list := by
      intro q
      rw [List.length_set]
      exact h.mem_list q
    conid_lt := by
      intro c hc
      rcases List.mem_or_eq_of_mem_set hc with hc | rfl
      · exact h.conid_lt c hc
      · exact h.conid_lt con (List.mem_of_getElem? hcon) }

/-- The least recently used connection is bound to the new addresses, and no other changes. -/
theorem Inv.reuseConnection (h : o.Inv mtu max uses) (hpos : 0 < o.numConnections)
    (haddr : o.findConnectionByConaddr conaddr = none) :
    Returns (o.reuseConnection conaddr) fun r =>
      ∃ rest con, uses.dedup = r.2 :: rest ∧ o.connections[r.2]? = some con ∧
        r.1.connections = o.connections.set r.2 { con with conaddr } ∧ r.1.Inv mtu max uses := by
  apply Returns.bind_eq (assert_ok (by rw [haddr]; rfl))
  apply Returns.bind_eq (assert_ok (decide_eq_true hpos))
  cases hlist : o.connectionsList with
  | nil =>
    have hzero := (h.mem_list 0).mpr (h.num ▸ hpos)
    rw [hlist] at hzero
    cases hzero
  | cons p rest =>
    have hp : p < o.connections.length := (h.mem_list p).mp (by rw [hlist]; simp)
    have hcon := List.getElem?_eq_getElem hp
    apply Returns.bind (h.setConaddr hcon haddr)
    rintro o' ⟨hconnections, hinv⟩
    exact Returns.pure ⟨rest, _, h.list.symm.trans hlist, hcon, hconnections, hinv⟩

end Client

/-- What `connection_send` puts into a place `out` of the buffer, if there is one. -/
def Connection.transmission (con : Connection) (flags : UInt8) (data : List UInt8)
    (out : Option (List UInt8)) : Transmission where
  conid := con.conid
  conaddr := con.conaddr
  flags
  data
  packet := out.map fun _ => udpPacket flags con.conid con.conaddr.remoteAddr data

/-- What `UdpGwClient_SubmitPacket` can do. -/
inductive Client.Submits (o : Client) (mtu : Int) (max : Nat) (uses : List Nat) (s : Submission)
    (out : Option (List UInt8)) (o' : Client) : Client.Submitted → Prop
  | failed (hlt : o.numConnections < o.maxConnections) (hconns : o'.connections = o.connections)
      (hinv : o'.Inv mtu max uses) :
      Submits o mtu max uses s out o' (.created none)
  | created {conid : UInt16} (hlt : o.numConnections < o.maxConnections)
      (hunused : o.findConnectionByConid conid = none)
      (hconns : o'.connections = o.connections ++ [⟨.of s, submitFlags s, s.data, conid⟩])
      (hinv : o'.Inv mtu max (uses ++ [o.connections.length])) :
      Submits o mtu max uses s out o' (.created (some o.connections.length))
  | known {p : Nat} {con : Connection} (hcon : o.connections[p]? = some con)
      (haddr : con.conaddr = .of s) (hconns : o'.connections = o.connections)
      (hinv : o'.Inv mtu max (uses ++ [p])) :
      Submits o mtu max uses s out o' (.sent p (con.transmission (submitFlags s) s.data out))
  | reused {p : Nat} {rest : List Nat} {con : Connection} (huses : uses.dedup = p :: rest)
      (hcon : o.connections[p]? = some con)
      (hconns : o'.connections = o.connections.set p { con with conaddr := .of s })
      (hinv : o'.Inv mtu max (uses ++ [p])) :
      Submits o mtu max uses s out o' (.sent p (Connection.transmission
        { con with conaddr := .of s } (submitFlags s ||| udpgwClientFlagRebind) s.data out))

namespace Client

variable {o : Client} {mtu : Int} {max : Nat} {uses : List Nat} {p : Nat} {con : Connection}
  {data : List UInt8} {out : Option (List UInt8)}

theorem Inv.connectionSend (flags : UInt8) (h : o.Inv mtu max uses)
    (hcon : o.connections[p]? = some con) (hdata : (data.length : Int) ≤ o.udpMtu)
    (hout : out.all (fun out => decide (o.udpgwMtu ≤ out.length)) = true) :
    o.connectionSend p flags data out = .ok (con.transmission flags data out) := by
  have hmtu := h.udpMtu
  have hudpgw := h.udpgwMtu
  have hle := h.mtu_le
  unfold Client.connectionSend
  rw [con_ok hcon, ok_bind, assert_ok (decide_eq_true hdata), ok_bind]
  cases out with
  | none => rfl
  | some out =>
    have hfit : o.udpgwMtu ≤ out.length := of_decide_eq_true hout
    dsimp only
    rw [connectionSend_eq (by omega) (by omega) flags con.conid con.conaddr.remoteAddr hdata,
      ok_bind]
    rfl

theorem Inv.submitTo (flags : UInt8) (h : o.Inv mtu max uses) (hcon : o.connections[p]? = some con)
    (hdata : (data.length : Int) ≤ o.udpMtu)
    (hout : out.all (fun out => decide (o.udpgwMtu ≤ out.length)) = true) :
    Returns (o.submitTo p flags data out) fun r =>
      r.1.connections = o.connections ∧ r.1.Inv mtu max (uses ++ [p]) ∧
      r.2 = .sent p (con.transmission flags data out) := by
  apply Returns.bind (h.moveToFront (lt_of_get hcon))
  rintro o' ⟨ho', hinv⟩
  rw [ho'] at hinv ⊢
  apply Returns.bind_eq (hinv.connectionSend flags hcon hdata hout)
  exact Returns.pure ⟨rfl, hinv, rfl⟩

theorem Inv.submitPacket {s : Submission} (res : Resources) (h : o.Inv mtu max uses)
    (hdata : (s.data.length : Int) ≤ o.udpMtu)
    (hout : out.all (fun out => decide (o.udpgwMtu ≤ out.length)) = true) :
    Returns (o.submitPacket s res out) fun r => o.Submits mtu max uses s out r.1 r.2 := by
  apply Returns.bind_eq (assert_ok (decide_eq_true hdata))
  cases hfind : o.findConnectionByConaddr (.of s) with
  | some p =>
    obtain ⟨con, hcon, haddr⟩ := conaddrOf_eq_some.mp (h.findByConaddr.mp hfind)
    apply Returns.mono (h.submitTo (submitFlags s) hcon hdata hout)
    rintro ⟨o', sub⟩ ⟨hconns, hinv, rfl⟩
    exact .known hcon haddr hconns hinv
  | none =>
    dsimp only
    split
    · rename_i hfull
      have hnext := h.next
      apply Returns.bind (h.reuseConnection (by omega) hfind)
      rintro ⟨o₁, p⟩ ⟨rest, con, huses, hcon, hconns, hinv⟩
      have hcon' : o₁.connections[p]? = some { con with conaddr := .of s } := by
        rw [hconns, List.getElem?_set_self (lt_of_get hcon)]
      have hmtu : o₁.udpMtu = o.udpMtu := hinv.udpMtu.trans h.udpMtu.symm
      have hudpgw : o₁.udpgwMtu = o.udpgwMtu := hinv.udpgwMtu.trans h.udpgwMtu.symm
      rw [← hmtu] at hdata
      rw [← hudpgw] at hout
      apply Returns.mono (hinv.submitTo (submitFlags s ||| udpgwClientFlagRebind) hcon' hdata hout)
      rintro ⟨o', sub⟩ ⟨hconns', hinv', rfl⟩
      exact .reused huses hcon (hconns'.trans hconns) hinv'
    · rename_i hfull
      have hlt : o.numConnections < o.maxConnections := Nat.lt_of_le_of_ne h.le hfull
      apply Returns.bind (h.connectionInit res hlt hfind hdata)
      rintro ⟨o', created⟩ hinit
      apply Returns.pure
      rcases hinit with ⟨hnone, hconns, hinv⟩ | ⟨conid, hunused, hsome, hconns, hinv⟩
      · cases hnone
        exact .failed hlt hconns hinv
      · cases hsome
        exact .created hlt hunused hconns hinv

/-- What is passed on came over a connection, with its id in the header and its remote address
behind it. -/
theorem Inv.recvInterfaceHandlerSend (m : DataModel) (h : o.Inv mtu max uses)
    (hdata : (data.length : Int) ≤ o.udpgwMtu) :
    Returns (o.recvInterfaceHandlerSend m data) fun r =>
      r.1.connections = o.connections ∧
      match r.2 with
      | none => r.1.Inv mtu max uses
      | some (p, d) => r.1.Inv mtu max (uses ++ [p]) ∧ d.conid = headerConid data ∧
        addrSize (data.getD 0 0) = d.conaddr.remoteAddr.size ∧
        data = data.take udpgwHeaderSize ++ (d.conaddr.remoteAddr.bytes ++ d.data) ∧
        ∃ con, o.connections[p]? = some con ∧ con.conid = d.conid ∧ con.conaddr = d.conaddr := by
  have hint : o.udpgwMtu ≤ 65535 := by
    rw [h.udpgwMtu]
    exact h.mtu_le
  apply Returns.bind (recvInterfaceHandlerSend_eq m hint o.addrsOf hdata)
  intro res hres
  match res with
  | none => exact Returns.pure ⟨rfl, h⟩
  | some (localAddr, remoteAddr, payload) =>
    obtain ⟨haddrs, hsize, hbytes⟩ := hres _ _ _ rfl
    unfold addrsOf at haddrs
    obtain ⟨p, hp, haddrs⟩ := Option.bind_eq_some_iff.mp haddrs
    obtain ⟨conaddr, hconaddr, haddrs⟩ := Option.bind_eq_some_iff.mp haddrs
    cases haddrs
    obtain ⟨con, hcon, hcona⟩ := conaddrOf_eq_some.mp hconaddr
    obtain ⟨con', hcon', hconid⟩ := conidOf_eq_some.mp (h.findByConid.mp hp)
    cases hcon.symm.trans hcon'
    dsimp only
    rw [hp]
    apply Returns.bind (h.moveToFront (lt_of_get hcon))
    rintro o' ⟨ho', hinv⟩
    refine Returns.pure ⟨by rw [ho'], hinv, rfl, hsize, hbytes, con, hcon, hconid, hcona⟩

end Client

end Lightsocks.Udpgw
