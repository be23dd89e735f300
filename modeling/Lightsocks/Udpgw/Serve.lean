import Lightsocks.Udpgw.Sockets

/-!
# What udpgw does with a packet

A packet is sent over the connection that has its id, if that one is for the same address and the
packet does not ask for a new one; otherwise a connection is made. A new connection gets a local
port that no open one needs, or none.
-/

namespace Lightsocks.Udpgw

open Lightsocks.Lib
open Lightsocks.Tunnel (UdpAddr addrSize udpgwHeaderSize udpgwClientFlagIpv6)

/-- One connection was opened. -/
structure Server.Opens (s s' : Server) (p : Nat) (con : ServerConnection) : Prop where
  fresh : p = s.connections.next
  opened : s'.Open p con
  con : ∀ q con', s'.Open q con' → q ≠ p → ∃ con, s.Open q con ∧ con'.Same con
  next : s'.connections.next = p + 1
  clientsNext : s.clients.next ≤ s'.clients.next
  options : s'.options = s.options
  udpgwMtu : s'.udpgwMtu = s.udpgwMtu

/-- What is done with the data for an address. -/
inductive Server.Serves (s : Server) (c : Nat) (flags : UInt8) (conid : UInt16) (origAddr : UdpAddr)
    (dns : Option UdpAddr) (data : List UInt8) : Server → Server.Served → Prop
  | failed {s' : Server} (hstays : s.Stays s')
      (hnone : ∀ q con, s'.Open q con → con.client = c → con.conid ≠ conid) :
      Serves s c flags conid origAddr dns data s' (.created none)
  | created {s' : Server} {p : Nat} {con : ServerConnection} (hopens : s.Opens s' p con)
      (hclient : con.client = c) (hconid : con.conid = conid) (horig : con.origAddr = origAddr)
      (haddr : con.addr = dnsAddr flags dns origAddr) (hdata : con.firstData = data) :
      Serves s c flags conid origAddr dns data s' (.created (some p))
  | sent {s' : Server} {p : Nat} {con : ServerConnection} {datagram : Option Datagram}
      (hopen : s.Open p con) (hclient : con.client = c) (hconid : con.conid = conid)
      (horig : con.origAddr = origAddr) (hrebind : flags &&& udpgwClientFlagRebind = 0)
      (hstays : s.Stays s') (hdatagram : ∀ d, datagram = some d → d = ⟨p, con.addr, data⟩) :
      Serves s c flags conid origAddr dns data s' (.sent p datagram)

namespace Server

variable {s s' s'' : Server} {p q c : Nat} {con con' : ServerConnection} {cl : ServerClient}
  {addr origAddr : UdpAddr} {conid : UInt16} {flags : UInt8} {data : List UInt8}
  {dns : Option UdpAddr}

theorem Stays.opens (h : s.Stays s') (h' : s'.Opens s'' p con) : s.Opens s'' p con where
  fresh := h'.fresh.trans h.next
  opened := h'.opened
  con q con'' hq hne := by
    obtain ⟨con', hcon', hsame'⟩ := h'.con q con'' hq hne
    obtain ⟨con, hcon, hsame⟩ := h.con q con' hcon'
    exact ⟨con, hcon, hsame'.trans hsame⟩
  next := h'.next
  clientsNext := Nat.le_trans h.clientsNext h'.clientsNext
  options := h'.options.trans h.options
  udpgwMtu := h'.udpgwMtu.trans h.udpgwMtu

/-! ## The port of a new connection -/

theorem firstPort_spec {usage bind : List Bool} {i : Nat} (h : firstPort usage bind = some i) :
    i < usage.length ∧ usage.getD i true = false := by
  have hmem := List.mem_of_find?_eq_some h
  have hfree := List.find?_some (p := fun i => !usage.getD i true && bind.getD i false) h
  rw [Bool.and_eq_true, Bool.not_eq_true'] at hfree
  exact ⟨List.mem_range.mp hmem, hfree.1⟩

/-- No open connection needs the port. -/
def PortFree (s : Server) (addr : UdpAddr) (i : Int) : Prop :=
  0 ≤ i → i < s.options.getLocalNumPorts addr ∧
    ∀ q con, s.Open q con → con.localPortIndex = i → s.options.sameRemote con.addr addr = false

theorem portFree_none (s : Server) (addr : UdpAddr) : s.PortFree addr (-1) := by
  intro h
  exact absurd h (by decide)

/-- A port that is not flagged. -/
theorem PortUsage.Of.portFree {acc : PortUsage} {res : ServerResources} {i : Nat}
    (hacc : acc.Of s addr fun p => ∃ con, s.Open p con)
    (h : firstPort acc.usage res.bind = some i) : s.PortFree addr i := by
  intro _
  obtain ⟨hlt, hfree⟩ := firstPort_spec h
  rw [hacc.length] at hlt
  refine ⟨by omega, ?_⟩
  intro q con hq hport
  cases hsame : s.options.sameRemote con.addr addr with
  | false => rfl
  | true =>
    have hflagged := hacc.flagged q con ⟨con, hq⟩ hq (by omega) hsame
    rw [hport, Int.toNat_natCast] at hflagged
    cases hfree.symm.trans hflagged

/-- The port of a connection that was closed: those that need another one than it are those that
need another one than the new connection. -/
theorem Inv.portFree_of_closed (h : s.Inv none) (hp : s.Open p con)
    (hle : 0 ≤ con.localPortIndex) (hsame : s.options.sameRemote con.addr addr = true)
    (hstays : s.Stays s') (hclosed : ∀ con', ¬ s'.Open p con') :
    s'.PortFree addr con.localPortIndex := by
  intro _
  rw [hstays.options, ← getLocalNumPorts_eq (sameRemote_family hsame)]
  refine ⟨h.port_lt p con hp hle, ?_⟩
  intro q con'' hq hport
  obtain ⟨con', hq', hsame'⟩ := hstays.con q con'' hq
  rw [hsame'.port] at hport
  rw [hsame'.addr]
  cases hremote : s.options.sameRemote con'.addr addr with
  | false => rfl
  | true =>
    have hboth := sameRemote_trans hsame (sameRemote_symm hremote)
    have heq := h.ports p q con con' hp hq' hle hport hboth
    exact absurd (heq ▸ hq) (hclosed con'')

/-- The search gives a port that no open connection needs, to which the socket is bound, or
none. -/
structure Fits (s : Server) (addr : UdpAddr) (port : LocalPort) : Prop where
  free : s.PortFree addr port.localPortIndex
  bound : port.bound = s.options.boundAt addr port.localPortIndex

theorem fits_failed (s : Server) (addr : UdpAddr) : s.Fits addr .failed :=
  ⟨portFree_none s addr, rfl⟩

theorem PortFree.fits {i : Int} (h : s.PortFree addr i) (hle : 0 ≤ i) :
    s.Fits addr ⟨i, some (s.options.bindAddr addr i.toNat)⟩ :=
  ⟨h, (if_neg (Int.not_lt.mpr hle)).symm⟩

theorem Inv.bindPort (h : s.Inv none) (addr : UdpAddr) (res : ServerResources) :
    Returns (s.bindPort addr res) fun r => r.1.Inv none ∧ s.Keeps r.1 ∧ r.1.Fits addr r.2 := by
  have hnone : Returns (pure (s, .failed) : Except CFault (Server × LocalPort)) fun r =>
      r.1.Inv none ∧ s.Keeps r.1 ∧ r.1.Fits addr r.2 :=
    Returns.pure ⟨h, .refl s, fits_failed s addr⟩
  unfold Server.bindPort
  dsimp only
  split
  · exact hnone
  rename_i hports
  rw [Bool.or_eq_true, not_or, decide_eq_true_eq, Int.not_lt] at hports
  apply Returns.bind (h.buildPortUsage hports.1)
  intro acc hacc
  split
  · exact hnone
  split
  · rename_i i hfirst
    exact Returns.pure ⟨h, .refl s, (hacc.portFree hfirst).fits (Int.natCast_nonneg i)⟩
  · exact hnone
  rename_i least _ hleast
  obtain ⟨con, cl, hp, hle, hsame, hc, hbusy⟩ := hacc.least least hleast
  have hfamily := sameRemote_family hsame
  have hflows := h.flows _ cl hc (by simp)
  have hlt := h.port_lt least con hp hle
  rw [getLocalNumPorts_eq hfamily] at hlt
  apply Returns.bind_eq (Heap.read_ok hp.1)
  apply Returns.bind_eq (assert_ok (beq_iff_eq.mpr hfamily))
  apply Returns.bind_eq (assert_ok (decide_eq_true hle))
  apply Returns.bind_eq (assert_ok (decide_eq_true hlt))
  apply Returns.bind_eq (Heap.read_ok hc)
  apply Returns.bind_eq (isBusy_ok hflows.freeing)
  apply Returns.bind_eq (assert_ok (by rw [beq_eq_false_iff_ne.mpr hbusy]; rfl))
  apply Returns.bind (h.connectionClose hp)
  rintro s' ⟨hinv, hkeeps, hclosed, -⟩
  split
  · have hfree := h.portFree_of_closed hp hle hsame hkeeps.toStays hclosed
    exact Returns.pure ⟨hinv, hkeeps, hfree.fits hle⟩
  · exact Returns.pure ⟨hinv, hkeeps, fits_failed s' addr⟩

/-! ## The connection with an id -/

/-- `find_connection` finds the open connection of the client with the id. -/
theorem Inv.findConnection (h : s.Inv none) (hc : s.clients.get c = some cl) (conid : UInt16) :
    Returns (s.findConnection cl conid) fun r => ∀ p, r = some p ↔
      ∃ con, s.Open p con ∧ con.client = c ∧ con.conid = conid := by
  have htables := h.tables c cl hc
  have hmem : ∀ p, p ∈ cl.connectionsTree ↔ ∃ con, s.Open p con ∧ con.client = c := by
    intro p
    rw [htables.mem_tree, htables.mem_list]
    constructor
    · rintro ⟨con, hcon, hopen⟩
      obtain ⟨hget, hclient⟩ := owned_eq_some.mp hcon
      exact ⟨con, ⟨hget, hopen⟩, hclient⟩
    · rintro ⟨con, hopen, rfl⟩
      exact ⟨con, hopen.owned, hopen.2⟩
  have hindex : Index uint16Comparator s.conidOf cl.connectionsTree := by
    apply htables.tree.congr
    intro p hp
    obtain ⟨con, hopen, rfl⟩ := (hmem p).mp hp
    rw [hopen.owned, Server.conidOf, hopen.1]
  have hfind : ∀ p, cl.connectionsTree.lookupExact uint16Comparator s.conidOf conid = some p ↔
      ∃ con, s.Open p con ∧ con.client = c ∧ con.conid = conid := by
    intro p
    rw [hindex.lookup_eq_some, hmem]
    constructor
    · rintro ⟨⟨con, hopen, hclient⟩, hconid⟩
      rw [Server.conidOf, hopen.1] at hconid
      exact ⟨con, hopen, hclient, Option.some.inj hconid⟩
    · rintro ⟨con, hopen, hclient, hconid⟩
      refine ⟨⟨con, hopen, hclient⟩, ?_⟩
      rw [Server.conidOf, hopen.1]
      exact congrArg some hconid
  unfold Server.findConnection
  split
  · rename_i hlookup
    apply Returns.pure
    intro p
    rw [← hfind, hlookup]
  · rename_i p hlookup
    obtain ⟨con, hopen, -, hconid⟩ := (hfind p).mp hlookup
    apply Returns.bind_eq (Heap.read_ok hopen.1)
    apply Returns.bind_eq (assert_ok (beq_iff_eq.mpr hconid))
    apply Returns.bind_eq (assert_ok (by rw [hopen.2]; rfl))
    apply Returns.pure
    intro q
    rw [← hfind, hlookup]

/-- What is needed of a new connection. -/
structure New (s : Server) (c : Nat) (con : ServerConnection) : Prop where
  client : con.client = c
  closing : con.closing = false
  handlerBusy : con.handlerBusy = false
  udp : con.udp = true
  data : (con.firstData.length : Int) ≤ s.options.udpMtu
  port : s.Fits con.addr ⟨con.localPortIndex, con.bound⟩
  conid : ∀ q con', s.Open q con' → con'.client = c → con'.conid ≠ con.conid

theorem Inv.insert (h : s.Inv none) (hc : s.clients.get c = some cl)
    (hlt : cl.numConnections < s.options.maxConnectionsForClient) (hnew : s.New c con) :
    Returns (s.insert c con) fun r => r.1.Inv none ∧ s.Opens r.1 r.2 con := by
  have htables := h.tables c cl hc
  have hflows := h.flows c cl hc (by simp)
  have hfree : s.owned c s.connections.next = none := by
    unfold owned
    rw [Heap.get_next]
    rfl
  have hcons := Heap.get_alloc (h := s.connections) (a := con)
  have hother : ∀ q ∈ cl.connectionsTree, q ≠ s.connections.next := by
    intro q hq
    obtain ⟨con', hopen, -⟩ := h.open_of_mem hc ((htables.mem_tree q).mp hq)
    exact Nat.ne_of_lt (Heap.lt_next hopen.1)
  have hkey : conidOf { s with connections := s.connections.alloc con } s.connections.next
      = some con.conid := by
    unfold Server.conidOf
    rw [hcons, Function.update_self]
    rfl
  -- the ids that the insertion compares are those of the connections that the client owns
  have hkeys : ∀ q, q = s.connections.next ∨ q ∈ cl.connectionsTree →
      conidOf { s with connections := s.connections.alloc con } q
        = (Function.update (s.owned c) s.connections.next (some con) q).map
            ServerConnection.conid := by
    intro q hq
    unfold Server.conidOf
    rw [hcons]
    rcases hq with rfl | hq
    · rw [Function.update_self, Function.update_self]
    · obtain ⟨con', hopen, rfl⟩ := h.open_of_mem hc ((htables.mem_tree q).mp hq)
      rw [Function.update_of_ne (hother q hq), Function.update_of_ne (hother q hq), hopen.owned,
        hopen.1]
  have hsame : ∀ q ∈ cl.connectionsTree,
      conidOf { s with connections := s.connections.alloc con } q
        = (s.owned c q).map ServerConnection.conid := by
    intro q hq
    rw [hkeys q (.inr hq), Function.update_of_ne (hother q hq)]
  have hnone : ∀ q ∈ cl.connectionsTree,
      (s.owned c q).map ServerConnection.conid ≠ some con.conid := by
    intro q hq
    obtain ⟨con', hopen, rfl⟩ := h.open_of_mem hc ((htables.mem_tree q).mp hq)
    rw [hopen.owned]
    exact fun heq => hnew.conid q con' hopen rfl (Option.some.inj heq)
  apply Returns.bind_eq (Heap.read_ok hc)
  apply Returns.bind (htables.tree.insert_new hsame hkey hnone)
  rintro tree ⟨htree, hmem⟩
  apply Returns.bind_eq (setClient_ok (by exact hc) _)
  apply Returns.pure
  constructor
  · refine h.update (c := c) ?_ (fun _ _ => Iff.rfl) (by exact hcons)
      (by exact Heap.get_set (Heap.lt_next hc)) rfl rfl rfl rfl
    constructor
    case client => exact ⟨cl, hc⟩
    case old =>
      intro con' hcon'
      cases Heap.get_next.symm.trans hcon'
    case tables =>
      exact htables.insert hfree hnew.closing hnew.udp
        (htree.congr fun q hq => (hkeys q ((hmem q).mp hq)).symm) hmem
    case flows =>
      intro _
      refine (hflows.update (some con) (fun _ => ⟨con, rfl⟩) ?_).congr rfl rfl
      intro con' hcon'
      cases hcon'
      rw [hnew.handlerBusy, hnew.closing]
      exact ⟨rfl, fun hclosing => by cases hclosing⟩
    case freeing =>
      intro hdying
      cases hdying
    case conns_le => exact hlt
    case new =>
      intro con' hcon'
      cases hcon'
      exact ⟨hnew.client, hnew.data⟩
    case ports =>
      intro con' hcon' _ hle
      cases hcon'
      obtain ⟨hport, hapart⟩ := hnew.port.free hle
      refine ⟨hport, fun q con' _ hq heq => ?_⟩
      cases hsame : s.options.sameRemote con.addr con'.addr with
      | false => rfl
      | true => cases (sameRemote_symm hsame).symm.trans (hapart q con' hq heq)
    case bound =>
      intro con' hcon' _
      cases hcon'
      exact hnew.port.bound
  · constructor
    case fresh => rfl
    case opened =>
      refine ⟨?_, hnew.closing⟩
      show (s.connections.alloc con).get s.connections.next = some con
      rw [hcons, Function.update_self]
    case con =>
      rintro q con' ⟨hget, hopen⟩ hne
      change (s.connections.alloc con).get q = some con' at hget
      rw [hcons, Function.update_of_ne hne] at hget
      exact ⟨con', ⟨hget, hopen⟩, .refl con'⟩
    case next => exact Heap.next_alloc
    case clientsNext => exact Nat.le_of_eq Heap.next_set.symm
    case options => rfl
    case udpgwMtu => rfl

/-- `connection_init`, of a connection for an id that is not in use. -/
theorem Inv.connectionInit (h : s.Inv none) (hc : s.clients.get c = some cl)
    (hlt : cl.numConnections < s.options.maxConnectionsForClient)
    (hunused : ∀ q con, s.Open q con → con.client = c → con.conid ≠ conid)
    (hdata : (data.length : Int) ≤ s.options.udpMtu) (addr origAddr : UdpAddr) (now : Int)
    (res : ServerResources) :
    Returns (s.connectionInit c conid addr origAddr data now res) fun r => r.1.Inv none ∧
      ((r.2 = none ∧ s.Stays r.1) ∨ ∃ p con, r.2 = some p ∧ s.Opens r.1 p con ∧
        con.client = c ∧ con.conid = conid ∧ con.origAddr = origAddr ∧ con.addr = addr ∧
        con.firstData = data) := by
  apply Returns.bind_eq (Heap.read_ok hc)
  apply Returns.bind_eq (assert_ok (decide_eq_true hlt))
  apply Returns.bind (h.findConnection hc conid)
  intro found hfound
  cases found with
  | some p =>
    obtain ⟨con, hopen, hclient, hconid⟩ := (hfound p).mp rfl
    exact absurd hconid (hunused p con hopen hclient)
  | none =>
    apply Returns.bind_eq (assert_ok rfl)
    apply Returns.bind_eq (assert_ok (decide_eq_true hdata))
    split
    · exact Returns.pure ⟨h, Or.inl ⟨rfl, .refl s⟩⟩
    apply Returns.bind (h.bindPort addr res)
    rintro ⟨s', port⟩ ⟨hinv, hkeeps, hport⟩
    dsimp only
    split
    · exact Returns.pure ⟨hinv, Or.inl ⟨rfl, hkeeps.toStays⟩⟩
    obtain ⟨cl', hc', hle⟩ := hkeeps.num c cl hc
    have hlt' : cl'.numConnections < s'.options.maxConnectionsForClient := by
      rw [hkeeps.options]
      omega
    have hnew : s'.New c ⟨c, conid, addr, origAddr, data, true, now, false, false, true,
        port.localPortIndex, port.bound⟩ := {
      client := rfl
      closing := rfl
      handlerBusy := rfl
      udp := rfl
      data := by
        rw [hkeeps.options]
        exact hdata
      port := hport
      conid := by
        intro q con'' hq hclient
        obtain ⟨con', hq', hsame⟩ := hkeeps.con q con'' hq
        rw [hsame.conid]
        exact hunused q con' hq' (hsame.client.symm.trans hclient) }
    apply Returns.bind (hinv.insert hc' hlt' hnew)
    rintro ⟨s'', p⟩ ⟨hinv', hopens⟩
    exact Returns.pure ⟨hinv', Or.inr ⟨p, _, rfl, hkeeps.toStays.opens hopens, rfl, rfl, rfl, rfl,
      rfl⟩⟩

/-- Afterwards the client has fewer connections than allowed. -/
theorem Inv.makeRoom (h : s.Inv none) (hc : s.clients.get c = some cl) :
    Returns (s.makeRoom c) fun s' => s'.Inv none ∧ s.Keeps s' ∧ ∃ cl',
      s'.clients.get c = some cl' ∧
      cl'.numConnections < s'.options.maxConnectionsForClient := by
  have hle := h.conns_le c cl hc
  have hmax := h.accepted.maxConnections
  have hnum := (h.tables c cl hc).num
  apply Returns.bind_eq (Heap.read_ok hc)
  split
  · rename_i hfull
    split
    · rename_i hnil
      rw [hnil] at hnum
      rw [hnum] at hfull
      exact absurd hmax (by rw [← hfull]; exact Nat.lt_irrefl 0)
    · rename_i p rest hlist
      obtain ⟨con, hopen, rfl⟩ := h.open_of_mem hc (hlist ▸ List.mem_cons_self)
      apply (h.connectionClose hopen).mono
      rintro s' ⟨hinv, hkeeps, -, hfewer⟩
      obtain ⟨cl', hc', hnum'⟩ := hfewer cl hc
      refine ⟨hinv, hkeeps, cl', hc', ?_⟩
      rw [hkeeps.options]
      omega
  · rename_i hfull
    exact Returns.pure ⟨h, .refl s, cl, hc, by omega⟩

/-- What is left of the connection with the id. -/
theorem Inv.closeOld {found : Option Nat} (h : s.Inv none)
    (hfound : ∀ p, found = some p ↔ ∃ con, s.Open p con ∧ con.client = c ∧ con.conid = conid)
    (flags : UInt8) (origAddr : UdpAddr) :
    Returns (s.closeOld found flags origAddr) fun r => r.1.Inv none ∧ s.Keeps r.1 ∧
      ((r.2 = none ∧ ∀ q con, r.1.Open q con → con.client = c → con.conid ≠ conid) ∨
        ∃ p con, r.2 = some p ∧ r.1 = s ∧ s.Open p con ∧ con.client = c ∧ con.conid = conid ∧
          con.origAddr = origAddr ∧ flags &&& udpgwClientFlagRebind = 0) := by
  cases found with
  | none =>
    refine Returns.pure ⟨h, .refl s, Or.inl ⟨rfl, fun q con hq hclient hconid => ?_⟩⟩
    cases (hfound q).mpr ⟨con, hq, hclient, hconid⟩
  | some p =>
    obtain ⟨con, hopen, hclient, hconid⟩ := (hfound p).mp rfl
    apply Returns.bind_eq (Heap.read_ok hopen.1)
    split
    · apply Returns.bind (h.connectionClose hopen)
      rintro s' ⟨hinv, hkeeps, hclosed, -⟩
      refine Returns.pure ⟨hinv, hkeeps, Or.inl ⟨rfl, fun q con'' hq hclient' hconid' => ?_⟩⟩
      obtain ⟨con', hq', hsame⟩ := hkeeps.con q con'' hq
      have heq := (hfound q).mpr ⟨con', hq', hsame.client.symm.trans hclient',
        hsame.conid.symm.trans hconid'⟩
      cases heq
      exact hclosed con'' hq
    · rename_i hkeep
      rw [not_or, not_not, not_not] at hkeep
      exact Returns.pure ⟨h, .refl s,
        Or.inr ⟨p, con, rfl, rfl, hopen, hclient, hconid, hkeep.2, hkeep.1⟩⟩

/-- The end of `client_recv_if_handler_send`. -/
theorem Inv.serve (h : s.Inv none) (hc : s.clients.get c = some cl)
    (hdata : (data.length : Int) ≤ s.options.udpMtu) (flags : UInt8) (conid : UInt16)
    (origAddr : UdpAddr) (dns : Option UdpAddr) (now : Int) (res : ServerResources)
    (place : Bool) :
    Returns (s.serve c flags conid origAddr data dns now res place) fun r => r.1.Inv none ∧
      s.Serves c flags conid origAddr dns data r.1 r.2 := by
  apply Returns.bind_eq (Heap.read_ok hc)
  apply Returns.bind (h.findConnection hc conid)
  intro found hfound
  apply Returns.bind (h.closeOld hfound flags origAddr)
  rintro ⟨s₁, con⟩ ⟨hinv₁, hkeeps₁, hcon⟩
  dsimp only at hinv₁ hkeeps₁ hcon ⊢
  rcases hcon with ⟨rfl, hunused⟩ | ⟨p, con, rfl, rfl, hopen, hclient, hconid, horig, hrebind⟩
  · obtain ⟨cl₁, hc₁, -⟩ := hkeeps₁.num c cl hc
    apply Returns.bind (hinv₁.makeRoom hc₁)
    rintro s₂ ⟨hinv₂, hkeeps₂, cl₂, hc₂, hlt⟩
    have hstays := hkeeps₁.toStays.trans hkeeps₂.toStays
    have hunused₂ : ∀ q con, s₂.Open q con → con.client = c → con.conid ≠ conid := by
      intro q con'' hq hclient
      obtain ⟨con', hq', hsame⟩ := hkeeps₂.con q con'' hq
      rw [hsame.conid]
      exact hunused q con' hq' (hsame.client.symm.trans hclient)
    apply Returns.bind (hinv₂.connectionInit hc₂ hlt hunused₂ (by rw [hstays.options]; exact hdata)
      (dnsAddr flags dns origAddr) origAddr now res)
    rintro ⟨s₃, p⟩ ⟨hinv₃, hp⟩
    apply Returns.pure
    refine ⟨hinv₃, ?_⟩
    rcases hp with ⟨rfl, hstays₃⟩ | ⟨p, con, rfl, hopens, hclient, hconid, horig, haddr, hfirst⟩
    · refine .failed (hstays.trans hstays₃) fun q con'' hq hclient => ?_
      obtain ⟨con', hq', hsame⟩ := hstays₃.con q con'' hq
      rw [hsame.conid]
      exact hunused₂ q con' hq' (hsame.client.symm.trans hclient)
    · exact .created (hstays.opens hopens) hclient hconid horig haddr hfirst
  · apply Returns.bind (h.connectionSendToUdp hopen hdata now place)
    rintro ⟨s', datagram⟩ ⟨hinv, hkeeps, -, hdatagram⟩
    exact Returns.pure
      ⟨hinv, .sent hopen hclient hconid horig hrebind hkeeps.toStays hdatagram⟩

end Server

end Lightsocks.Udpgw
