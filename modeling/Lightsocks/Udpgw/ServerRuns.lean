import Lightsocks.Udpgw.Serve

/-!
# Runs of udpgw

Sockets, jobs, the queues and the clients of udpgw take turns in any order. No run faults, so no
connection is used after it was freed; the tables of every client are exact; and open connections
for which the local port matters keep different ones.
-/

namespace Lightsocks.Udpgw

open Lightsocks.Lib
open Lightsocks.Tunnel (UdpAddr addrSize addrSize_le length_udpgwHeader udpgwHeaderSize
  udpgwClientFlagIpv6 udpgwComputeMtuBsize)

namespace Server

/-- The job that `connection_init` sets, `connection_first_job_handler`. -/
def connectionFirstJobHandler (s : Server) (p : Nat) (now : Int) (place : Bool) :
    Except CFault (Server × Option Datagram) := do
  let con ← s.connections.read p
  assert !con.closing
  let s ← s.setConnection p { con with firstJob := false }
  s.connectionSendToUdp p con.firstData now place

/-- `connection_dgram_handler_event`. -/
def connectionDgramHandlerEvent (s : Server) (p : Nat) : Except CFault Server := do
  let con ← s.connections.read p
  assert !con.closing
  s.connectionClose p

/-- The queue of a client starts to send a packet of a connection. -/
def schedule (s : Server) (c p : Nat) : Except CFault Server := do
  let cl ← s.clients.read c
  assert cl.sendingFlow.isNone
  s.setClient c { cl with sendingFlow := some p }

/-- The packet was sent: `output_handler_done` of the queue, with its busy handler. -/
def outputHandlerDone (s : Server) (c : Nat) : Except CFault Server := do
  let cl ← s.clients.read c
  match cl.sendingFlow with
  | none => throw .assertion
  | some p => do
    let s ← s.setClient c { cl with sendingFlow := none }
    let con ← s.connections.read p
    if con.handlerBusy then do
      let s ← s.setConnection p { con with handlerBusy := false }
      s.connectionSendQflowBusyHandler p
    else return s

end Server

inductive ServerEvent
  /-- `listener_handler`. -/
  | accept (res : Bool)
  /-- The timer of a client, or an error of its connection or its decoder. -/
  | gone (c : Nat)
  /-- `client_recv_if_handler_send`. -/
  | packet (c : Nat) (data : List UInt8) (dns : Option UdpAddr) (now : Int)
      (res : ServerResources) (place : Bool)
  | firstJob (p : Nat) (now : Int) (place : Bool)
  /-- `connection_udp_recv_if_handler_send`. -/
  | datagram (p : Nat) (data : List UInt8) (now : Int) (out : Option (List UInt8))
  | dgramError (p : Nat)
  | schedule (c p : Nat)
  | outputDone (c : Nat)
  deriving DecidableEq, Repr

/-- What an event did besides. -/
inductive ServerOutcome
  | nothing
  | accepted (c : Option Nat)
  | served (r : Server.Served)
  | sent (datagram : Option Datagram)
  | answered (packet : Option (List UInt8))
  deriving DecidableEq, Repr

namespace Server

def exec (m : DataModel) (s : Server) : ServerEvent → Except CFault (Server × ServerOutcome)
  | .accept res => do
    let (s, c) ← s.listenerHandler res
    return (s, .accepted c)
  | .gone c => do
    let s ← s.clientFree c
    return (s, .nothing)
  | .packet c data dns now res place => do
    let (s, r) ← s.clientRecvIfHandlerSend m c data dns now res place
    return (s, .served r)
  | .firstJob p now place => do
    let (s, d) ← s.connectionFirstJobHandler p now place
    return (s, .sent d)
  | .datagram p data now out => do
    let (s, packet) ← s.connectionUdpRecvIfHandlerSend p data now out
    return (s, .answered packet)
  | .dgramError p => do
    let s ← s.connectionDgramHandlerEvent p
    return (s, .nothing)
  | .schedule c p => do
    let s ← s.schedule c p
    return (s, .nothing)
  | .outputDone c => do
    let s ← s.outputHandlerDone c
    return (s, .nothing)

/-- Whether the first packet of a connection of the client waits for its job. -/
def firstJobs (s : Server) (c : Nat) : Bool :=
  (List.range s.connections.next).any fun p => (s.owned c p).any ServerConnection.firstJob

/-- What is not freed is called. The decoder of a client waits for the jobs, sizes are kept, and
a queue sends one packet at a time. -/
def enabled (s : Server) : ServerEvent → Bool
  | .accept _ => true
  | .gone c => (s.clients.get c).isSome
  | .packet c data _ _ _ _ =>
    (s.clients.get c).isSome && decide ((data.length : Int) ≤ s.udpgwMtu) && !s.firstJobs c
  | .firstJob p _ _ => (s.connections.get p).any ServerConnection.firstJob
  | .datagram p data _ out =>
    (s.connections.get p).any ServerConnection.udp &&
      decide ((data.length : Int) ≤ s.options.udpMtu) &&
      out.all fun out => decide (s.udpgwMtu ≤ out.length)
  | .dgramError p => (s.connections.get p).any ServerConnection.udp
  | .schedule c p =>
    (s.clients.get c).any (fun cl => cl.sendingFlow.isNone) && (s.owned c p).isSome
  | .outputDone c => (s.clients.get c).any fun cl => cl.sendingFlow.isSome

end Server

/-- udpgw, from its start on. -/
def udpgw (m : DataModel) (options : ServerOptions) : Machine Server ServerEvent CFault where
  init := .init m options
  enabled := Server.enabled
  exec s e := do
    let (s, _) ← s.exec m e
    return s

namespace Server

variable {s s' : Server} {p q c : Nat} {con con' : ServerConnection} {cl : ServerClient}
  {data : List UInt8} {dns : Option UdpAddr}

/-- What an event does to the connections. -/
inductive Effect (s : Server) : ServerEvent → Server → ServerOutcome → Prop
  | accept {s' : Server} {res : Bool} {oc : Option Nat} (hstays : s.Stays s')
      (hc : ∀ c, oc = some c → c = s.clients.next ∧ c < s'.clients.next) :
      Effect s (.accept res) s' (.accepted oc)
  | dropped {c : Nat} {data : List UInt8} {dns : Option UdpAddr} {now : Int}
      {res : ServerResources} {place : Bool} :
      Effect s (.packet c data dns now res place) s (.served .dropped)
  | served {s' : Server} {c : Nat} {data payload : List UInt8} {dns : Option UdpAddr} {now : Int}
      {res : ServerResources} {place : Bool} {origAddr : UdpAddr} {r : Served}
      (hserves : s.Serves c (data.getD 0 0) (headerConid data) origAddr dns payload s' r) :
      Effect s (.packet c data dns now res place) s' (.served r)
  | firstJob {s' : Server} {p : Nat} {con : ServerConnection} {now : Int} {place : Bool}
      {od : Option Datagram} (hstays : s.Stays s') (hopen : s.Open p con)
      (hjob : con.firstJob = true) (hd : ∀ d, od = some d → d = ⟨p, con.addr, con.firstData⟩) :
      Effect s (.firstJob p now place) s' (.sent od)
  | answered {s' : Server} {p : Nat} {con : ServerConnection} {data : List UInt8} {now : Int}
      {out : Option (List UInt8)} {packet : Option (List UInt8)} (hstays : s.Stays s')
      (hopen : s.Open p con)
      (hpacket : ∀ bytes, packet = some bytes → bytes = udpPacket 0 con.conid con.origAddr data) :
      Effect s (.datagram p data now out) s' (.answered packet)
  | other {s' : Server} {e : ServerEvent} (hstays : s.Stays s') : Effect s e s' .nothing

theorem Effect.options {e : ServerEvent} {outcome : ServerOutcome}
    (h : s.Effect e s' outcome) : s'.options = s.options := by
  cases h with
  | accept hstays => exact hstays.options
  | dropped => rfl
  | served hserves =>
    cases hserves with
    | failed hstays => exact hstays.options
    | created hopens => exact hopens.options
    | sent _ _ _ _ _ hstays => exact hstays.options
  | firstJob hstays => exact hstays.options
  | answered hstays => exact hstays.options
  | other hstays => exact hstays.options

/-! ## Packets -/

/-- A packet as a client writes it is taken apart, and dropped if there is too much data. -/
theorem clientRecvIfHandlerSend_udpPacket (m : DataModel) {flags : UInt8}
    (hipv6 : flags &&& udpgwClientFlagIpv6 = 0)
    (hkeepalive : flags &&& udpgwClientFlagKeepalive = 0)
    (conid : UInt16) (addr : UdpAddr) (hmtu : s.udpgwMtu ≤ 65535)
    (hsize : ((udpPacket flags conid addr data).length : Int) ≤ s.udpgwMtu) (now : Int)
    (res : ServerResources) (place : Bool) :
    s.clientRecvIfHandlerSend m c (udpPacket flags conid addr data) dns now res place
      = if (data.length : Int) > s.options.udpMtu then .ok (s, .dropped)
        else s.serve c (addr.flags flags) conid addr data dns now res place := by
  have hheader : udpgwHeaderSize = 3 := rfl
  have haddr := addrSize_flags hipv6 addr
  have hle := addr.size_le
  have hlen : (udpPacket flags conid addr data).length = 3 + addr.size + data.length := by
    rw [udpPacket, List.length_append, List.length_append, length_udpgwHeader,
      UdpAddr.length_bytes]
    omega
  have hflags : (udpPacket flags conid addr data).getD 0 0 = addr.flags flags := rfl
  have hconid : headerConid (udpPacket flags conid addr data) = conid :=
    headerConid_udpgwHeader _ _ _
  have hdrop : (udpPacket flags conid addr data).drop 3 = addr.bytes ++ data :=
    List.drop_left' (length_udpgwHeader _ _)
  have hkeep : ¬ addr.flags flags &&& udpgwClientFlagKeepalive ≠ 0 := by
    rw [not_not]
    cases addr with
    | ipv4 ip port => exact hkeepalive
    | ipv6 ip port => exact or_and_eq_zero hkeepalive (by decide)
  have haddrs : ((udpPacket flags conid addr data).drop udpgwHeaderSize).take
      (addrSize (addr.flags flags)) = addr.bytes ++ [] := by
    rw [hheader, hdrop, haddr, ← UdpAddr.length_bytes, List.take_left, List.append_nil]
  have hpayload : ((udpPacket flags conid addr data).drop
      (udpgwHeaderSize + addrSize (addr.flags flags))).take data.length = data := by
    rw [← List.drop_drop, hheader, hdrop, haddr, ← UdpAddr.length_bytes, List.drop_left,
      List.take_length]
  have hrest : ((udpPacket flags conid addr data).length : Int) - udpgwHeaderSize
      - addrSize (addr.flags flags) = data.length := by
    rw [hlen, haddr]
    omega
  unfold clientRecvIfHandlerSend
  rw [assert_ok (decide_eq_true hsize), ok_bind, asSize_ok m (by omega) (by omega), ok_bind,
    if_neg (by omega), hflags, asInt_ok (by omega) (by omega), ok_bind, if_neg hkeep,
    asSize_ok m (by omega) (by omega), ok_bind, if_neg (by omega), slice_ok (by omega), ok_bind,
    asInt_ok (by omega) (by omega), ok_bind, hrest, Int.toNat_natCast, slice_ok (by omega),
    ok_bind, hconid, haddrs, readAddr_bytes hipv6, hpayload]
  rfl

/-- Any packet is dropped or served. -/
theorem Inv.clientRecvIfHandlerSend (h : s.Inv none) (hc : s.clients.get c = some cl)
    (hsize : (data.length : Int) ≤ s.udpgwMtu) (m : DataModel) (dns : Option UdpAddr) (now : Int)
    (res : ServerResources) (place : Bool) :
    Returns (s.clientRecvIfHandlerSend m c data dns now res place) fun r => r.1.Inv none ∧
      (r = (s, .dropped) ∨ ∃ origAddr payload,
        s.Serves c (data.getD 0 0) (headerConid data) origAddr dns payload r.1 r.2) := by
  have hmtu := h.udpgwMtu
  have hheader : udpgwHeaderSize = 3 := rfl
  have hle := addrSize_le (data.getD 0 0)
  unfold Server.clientRecvIfHandlerSend
  apply Returns.bind_eq (assert_ok (decide_eq_true hsize))
  apply Returns.bind_eq (asSize_ok m (by omega) (by omega))
  split
  · exact Returns.pure ⟨h, Or.inl rfl⟩
  apply Returns.bind_eq (asInt_ok (by omega) (by omega))
  split
  · exact Returns.pure ⟨h, Or.inl rfl⟩
  apply Returns.bind_eq (asSize_ok m (by omega) (by omega))
  split
  · exact Returns.pure ⟨h, Or.inl rfl⟩
  apply Returns.bind_eq (slice_ok (by omega))
  apply Returns.bind_eq (asInt_ok (by omega) (by omega))
  apply Returns.bind_eq (slice_ok (by omega))
  split
  · exact Returns.pure ⟨h, Or.inl rfl⟩
  rename_i hpayload
  apply (h.serve hc _ _ _ _ dns now res place).mono
  · rintro r ⟨hinv, hserves⟩
    exact ⟨hinv, Or.inr ⟨_, _, hserves⟩⟩
  · rw [List.length_take]
    omega

/-! ## Clients -/

/-- Only the queue of a client changes. -/
theorem Inv.setClient {dying dying' : Option Nat} (h : s.Inv dying)
    (hc : s.clients.get c = some cl) (flow : Option Nat) (freeing : Bool)
    (hflows : dying' ≠ some c → Flows (s.owned c) { cl with sendingFlow := flow, freeing })
    (hfreeing : dying' = some c → freeing = true)
    (hdying : ∀ c', c' ≠ c → (dying' = some c' ↔ dying = some c')) :
    Returns (s.setClient c { cl with sendingFlow := flow, freeing }) fun s' => s'.Inv dying' ∧
      s.Stays s' ∧ s'.clients.get c = some { cl with sendingFlow := flow, freeing } ∧
      s'.connections = s.connections := by
  have hclients := Heap.get_set (x := some { cl with sendingFlow := flow, freeing })
    (Heap.lt_next hc)
  have hsame : s.connections.get
      = Function.update s.connections.get s.connections.next none := by
    rw [← Heap.get_next (h := s.connections), Function.update_eq_self]
  have hown : Function.update (s.owned c) s.connections.next none = s.owned c := by
    rw [← owned_update hsame (by simp)]
  refine ⟨_, setClient_ok hc _, ?_,
    { Stays.refl s with clientsNext := Nat.le_of_eq Heap.next_set.symm }, ?_, rfl⟩
  · refine h.update ?_ hdying (by exact hsame) (by exact hclients) rfl rfl rfl rfl
    constructor
    case client => exact ⟨cl, hc⟩
    case old =>
      intro con hcon
      cases Heap.get_next.symm.trans hcon
    case tables =>
      rw [hown]
      exact { h.tables c cl hc with }
    case flows =>
      rw [hown]
      exact hflows
    case freeing => exact hfreeing
    case conns_le => exact h.conns_le c cl hc
    case new =>
      intro con hcon
      cases hcon
    case ports =>
      intro con hcon
      cases hcon
    case bound =>
      intro con hcon
      cases hcon
  · show (s.clients.set c _).get c = _
    rw [hclients, Function.update_self]

/-- A loop of `client_free`, with the list it empties and the one it leaves. -/
theorem Inv.freeConnections {rounds : Nat} (h : s.Inv (some c)) (hc : s.clients.get c = some cl)
    (hlen : cl.connectionsList.length ≤ rounds) :
    Returns (s.freeConnections c rounds) fun s' => s'.Inv (some c) ∧ s.Stays s' ∧
      ∃ cl', s'.clients.get c = some cl' ∧ cl'.connectionsList = [] ∧
        cl'.closingConnectionsList = cl.closingConnectionsList := by
  induction rounds generalizing s cl with
  | zero =>
    have hnil := List.eq_nil_of_length_eq_zero (Nat.le_zero.mp hlen)
    exact Returns.pure ⟨h, .refl s, cl, hc, hnil, rfl⟩
  | succ rounds ih =>
    apply Returns.bind_eq (Heap.read_ok hc)
    split
    · rename_i hnil
      exact Returns.pure ⟨h, .refl s, cl, hc, hnil, rfl⟩
    rename_i p rest hlist
    obtain ⟨con, hopen, rfl⟩ := h.open_of_mem hc (hlist ▸ List.mem_cons_self)
    apply Returns.bind (h.freeOpen hopen hc (Or.inl (h.freeing _ cl hc rfl)))
    rintro s' ⟨⟨tree, rfl⟩, hinv, hkeeps⟩
    apply (ih hinv (updated_client hc) _).mono
    · rintro s'' ⟨hinv', hstays, cl', hcl', hnil, hclosing⟩
      exact ⟨hinv', hkeeps.toStays.trans hstays, cl', hcl', hnil, hclosing⟩
    · show (cl.connectionsList.erase p).length ≤ rounds
      rw [hlist, List.erase_cons_head]
      rw [hlist, List.length_cons] at hlen
      omega

theorem Inv.freeClosingConnections {rounds : Nat} (h : s.Inv (some c))
    (hc : s.clients.get c = some cl) (hlist : cl.connectionsList = [])
    (hlen : cl.closingConnectionsList.length ≤ rounds) :
    Returns (s.freeClosingConnections c rounds) fun s' => s'.Inv (some c) ∧ s.Stays s' ∧
      ∃ cl', s'.clients.get c = some cl' ∧ cl'.connectionsList = [] ∧
        cl'.closingConnectionsList = [] := by
  induction rounds generalizing s cl with
  | zero =>
    have hnil := List.eq_nil_of_length_eq_zero (Nat.le_zero.mp hlen)
    exact Returns.pure ⟨h, .refl s, cl, hc, hlist, hnil⟩
  | succ rounds ih =>
    apply Returns.bind_eq (Heap.read_ok hc)
    split
    · rename_i hnil
      exact Returns.pure ⟨h, .refl s, cl, hc, hlist, hnil⟩
    rename_i p rest hclosing
    obtain ⟨con, hcon, hclose⟩ := ((h.tables c cl hc).mem_closing p).mp
      (hclosing ▸ List.mem_cons_self)
    obtain ⟨hget, rfl⟩ := owned_eq_some.mp hcon
    apply Returns.bind (h.freeClosing hget hclose hc (Or.inl (h.freeing _ cl hc rfl)))
    rintro s' ⟨rfl, hinv, hkeeps⟩
    apply (ih hinv (updated_client hc) hlist _).mono
    · rintro s'' ⟨hinv', hstays, hcl'⟩
      exact ⟨hinv', hkeeps.toStays.trans hstays, hcl'⟩
    · show (cl.closingConnectionsList.erase p).length ≤ rounds
      rw [hclosing, List.erase_cons_head]
      rw [hclosing, List.length_cons] at hlen
      omega

/-- A client without connections goes. -/
theorem Inv.drop (h : s.Inv (some c)) (hc : s.clients.get c = some cl)
    (hlist : cl.connectionsList = []) (hclosing : cl.closingConnectionsList = []) :
    Inv { s with
      clients := s.clients.set c none
      clientsList := s.clientsList.erase c
      numClients := s.numClients - 1 } none := by
  have hclients := Heap.get_set (x := none) (Heap.lt_next hc)
  have hmem := (h.mem_list c).mpr ⟨cl, hc⟩
  have htables := h.tables c cl hc
  have hget : ∀ {c' cl'}, (s.clients.set c none).get c' = some cl' →
      c' ≠ c ∧ s.clients.get c' = some cl' := by
    intro c' cl' hc'
    rw [hclients] at hc'
    by_cases hne : c' = c
    · rw [hne, Function.update_self] at hc'
      cases hc'
    · rw [Function.update_of_ne hne] at hc'
      exact ⟨hne, hc'⟩
  have hempty : ∀ p con, s.connections.get p = some con → con.client ≠ c := by
    rintro p con hcon rfl
    have hown := owned_eq_some.mpr ⟨hcon, rfl⟩
    cases hclose : con.closing with
    | false =>
      have hp := (htables.mem_list p).mpr ⟨con, hown, hclose⟩
      rw [hlist] at hp
      cases hp
    | true =>
      have hp := (htables.mem_closing p).mpr ⟨con, hown, hclose⟩
      rw [hclosing] at hp
      cases hp
  exact {
    tables := fun c' cl' hc' => h.tables c' cl' (hget hc').2
    flows := fun c' cl' hc' _ =>
      h.flows c' cl' (hget hc').2 fun heq => (hget hc').1 (Option.some.inj heq).symm
    freeing := fun c' cl' hc' hdying => by cases hdying
    conns_le := fun c' cl' hc' => h.conns_le c' cl' (hget hc').2
    owner := by
      intro p con hcon
      obtain ⟨cl', hc'⟩ := h.owner p con hcon
      refine ⟨cl', ?_⟩
      show (s.clients.set c none).get con.client = some cl'
      rw [hclients, Function.update_of_ne (hempty p con hcon)]
      exact hc'
    nodup := h.nodup.erase c
    mem_list := by
      intro c'
      show c' ∈ s.clientsList.erase c ↔ ∃ cl', (s.clients.set c none).get c' = some cl'
      rw [h.nodup.mem_erase_iff, h.mem_list, hclients]
      by_cases hne : c' = c
      · rw [hne, Function.update_self]
        simp
      · rw [Function.update_of_ne hne]
        exact and_iff_right hne
    num := by
      show s.numClients - 1 = (s.clientsList.erase c).length
      rw [List.length_erase_of_mem hmem, h.num]
    le := Nat.le_trans (Nat.sub_le _ _) h.le
    ports := h.ports
    port_lt := h.port_lt
    bound := h.bound
    data := h.data
    accepted := h.accepted
    udpgwMtu := h.udpgwMtu }

/-- `client_free`. -/
theorem Inv.clientFree (h : s.Inv none) (hc : s.clients.get c = some cl) :
    Returns (s.clientFree c) fun s' => s'.Inv none ∧ s.Stays s' := by
  have hdying : ∀ c', c' ≠ c → (some c = some c' ↔ none = some c') := by
    intro c' hne
    simp [hne.symm]
  apply Returns.bind_eq (Heap.read_ok hc)
  apply Returns.bind (h.setClient hc cl.sendingFlow true (fun hne => absurd rfl hne)
    (fun _ => rfl) hdying)
  rintro s₁ ⟨hinv₁, hstays₁, hc₁, -⟩
  apply Returns.bind (hinv₁.freeConnections hc₁ (Nat.le_refl _))
  rintro s₂ ⟨hinv₂, hstays₂, cl₂, hc₂, hlist₂, hclosing₂⟩
  apply Returns.bind (hinv₂.freeClosingConnections hc₂ hlist₂
    (Nat.le_of_eq (congrArg List.length hclosing₂)))
  rintro s₃ ⟨hinv₃, hstays₃, cl₃, hc₃, hlist₃, hclosing₃⟩
  apply Returns.bind_eq (Heap.read_ok hc₃)
  apply Returns.bind_eq (assert_ok (by rw [hlist₃, hclosing₃]; rfl))
  apply Returns.bind_eq (unlink_ok ((hinv₃.mem_list c).mpr ⟨cl₃, hc₃⟩))
  apply Returns.bind_eq (Heap.free_ok hc₃)
  apply Returns.pure
  refine ⟨hinv₃.drop hc₃ hlist₃ hclosing₃, ?_⟩
  have hstays := hstays₁.trans (hstays₂.trans hstays₃)
  exact { hstays with
    clientsNext := Nat.le_trans hstays.clientsNext (Nat.le_of_eq Heap.next_set.symm) }

/-- `listener_handler`: a new client has no connections. -/
theorem Inv.listenerHandler (h : s.Inv none) (res : Bool) :
    Returns (s.listenerHandler res) fun r => r.1.Inv none ∧ s.Stays r.1 ∧
      ∀ c, r.2 = some c → c = s.clients.next ∧ c < r.1.clients.next := by
  unfold Server.listenerHandler
  split
  · exact Returns.pure ⟨h, .refl s, fun c hc => by cases hc⟩
  split
  · exact Returns.pure ⟨h, .refl s, fun c hc => by cases hc⟩
  rename_i hfull _
  apply Returns.pure
  have hnext : s.clients.next < (s.clients.alloc ⟨none, false, .nil, [], 0, []⟩).next := by
    rw [Heap.next_alloc]
    exact Nat.lt_succ_self _
  refine ⟨?_, { Stays.refl s with clientsNext := Nat.le_of_lt hnext }, ?_⟩
  rotate_left
  · rintro c hc
    cases hc
    exact ⟨rfl, hnext⟩
  have hclients := Heap.get_alloc (h := s.clients) (a := ⟨none, false, .nil, [], 0, []⟩)
  have hnone : ∀ p, s.owned s.clients.next p = none := by
    intro p
    cases hp : s.owned s.clients.next p with
    | none => rfl
    | some con =>
      obtain ⟨hget, hclient⟩ := owned_eq_some.mp hp
      obtain ⟨cl, hc⟩ := h.owner p con hget
      rw [hclient, Heap.get_next] at hc
      cases hc
  have hget : ∀ {c cl}, (s.clients.alloc ⟨none, false, .nil, [], 0, []⟩).get c = some cl →
      (c = s.clients.next ∧ cl = ⟨none, false, .nil, [], 0, []⟩) ∨ s.clients.get c = some cl := by
    intro c cl hc
    rw [hclients] at hc
    by_cases hne : c = s.clients.next
    · rw [hne, Function.update_self] at hc
      exact Or.inl ⟨hne, (Option.some.inj hc).symm⟩
    · rw [Function.update_of_ne hne] at hc
      exact Or.inr hc
  have hlive : ∀ {c}, (∃ cl, (s.clients.alloc ⟨none, false, .nil, [], 0, []⟩).get c = some cl) ↔
      c = s.clients.next ∨ ∃ cl, s.clients.get c = some cl := by
    intro c
    rw [hclients]
    by_cases hne : c = s.clients.next
    · rw [hne, Function.update_self]
      exact iff_of_true ⟨_, rfl⟩ (Or.inl rfl)
    · rw [Function.update_of_ne hne]
      exact (or_iff_right hne).symm
  have hfresh : s.clients.next ∉ s.clientsList := by
    intro hmem
    obtain ⟨cl, hc⟩ := (h.mem_list _).mp hmem
    cases Heap.get_next.symm.trans hc
  exact {
    tables := by
      intro c cl hc
      rcases hget hc with ⟨rfl, rfl⟩ | hc
      · exact .empty hnone
      · exact h.tables c cl hc
    flows := by
      intro c cl hc _
      rcases hget hc with ⟨rfl, rfl⟩ | hc
      · exact .empty hnone
      · exact h.flows c cl hc (by simp)
    freeing := fun c cl hc hdying => by cases hdying
    conns_le := by
      intro c cl hc
      rcases hget hc with ⟨rfl, rfl⟩ | hc
      · exact Nat.zero_le _
      · exact h.conns_le c cl hc
    owner := fun p con hp => hlive.mpr (Or.inr (h.owner p con hp))
    nodup := List.nodup_append.mpr ⟨h.nodup, List.nodup_singleton _, by
      rintro c hc c' hc' rfl
      exact hfresh (List.mem_singleton.mp hc' ▸ hc)⟩
    mem_list := by
      intro c
      rw [List.mem_append, List.mem_singleton, h.mem_list]
      exact or_comm.trans hlive.symm
    num := by
      rw [List.length_append, List.length_singleton, h.num]
    le := by
      have hle := h.le
      show s.numClients + 1 ≤ s.options.maxClients
      omega
    ports := h.ports
    port_lt := h.port_lt
    bound := h.bound
    data := h.data
    accepted := h.accepted
    udpgwMtu := h.udpgwMtu }

/-! ## Connections -/

/-- A connection with its socket is open. -/
theorem Inv.open_of_udp (h : s.Inv none) (hp : s.connections.get p = some con)
    (hudp : con.udp = true) : s.Open p con := by
  obtain ⟨cl, -, htables, hown⟩ := h.owner_of hp
  rw [htables.udp p con hown, Bool.not_eq_true'] at hudp
  exact ⟨hp, hudp⟩

theorem Inv.open_of_firstJob (h : s.Inv none) (hp : s.connections.get p = some con)
    (hjob : con.firstJob = true) : s.Open p con := by
  obtain ⟨cl, hc, -, hown⟩ := h.owner_of hp
  have hflows := h.flows _ cl hc (by simp)
  refine ⟨hp, ?_⟩
  cases hclosing : con.closing with
  | false => rfl
  | true => cases hjob.symm.trans (hflows.job p con hown hclosing)

/-- `connection_first_job_handler`. -/
theorem Inv.connectionFirstJobHandler (h : s.Inv none) (hp : s.connections.get p = some con)
    (hjob : con.firstJob = true) (now : Int) (place : Bool) :
    Returns (s.connectionFirstJobHandler p now place) fun r => r.1.Inv none ∧ s.Stays r.1 ∧
      s.Open p con ∧ ∀ d, r.2 = some d → d = ⟨p, con.addr, con.firstData⟩ := by
  have hopen := h.open_of_firstJob hp hjob
  apply Returns.bind_eq (Heap.read_ok hp)
  apply Returns.bind_eq (assert_ok (by rw [hopen.2]; rfl))
  have hsame : ServerConnection.Same { con with firstJob := false } con :=
    ⟨rfl, rfl, rfl, rfl, rfl, rfl, rfl, fun hfalse => by cases hfalse⟩
  apply Returns.bind (h.modify hopen hsame hopen.2 rfl rfl)
  rintro s₁ ⟨hinv₁, hkeeps₁, hopen₁⟩
  have hdata : (con.firstData.length : Int) ≤ s₁.options.udpMtu := by
    rw [hkeeps₁.options]
    exact h.data p con hp
  apply (hinv₁.connectionSendToUdp hopen₁ hdata now place).mono
  rintro ⟨s₂, d⟩ ⟨hinv₂, hkeeps₂, -, hd⟩
  exact ⟨hinv₂, hkeeps₁.toStays.trans hkeeps₂.toStays, hopen, hd⟩

/-- `connection_udp_recv_if_handler_send`: the packet has the id and the address of the
connection. -/
theorem Inv.connectionUdpRecvIfHandlerSend {out : Option (List UInt8)} (h : s.Inv none)
    (hp : s.Open p con) (hdata : (data.length : Int) ≤ s.options.udpMtu)
    (hout : ∀ buf, out = some buf → s.udpgwMtu ≤ buf.length) (now : Int) :
    Returns (s.connectionUdpRecvIfHandlerSend p data now out) fun r => r.1.Inv none ∧
      s.Stays r.1 ∧
      ∀ packet, r.2 = some packet → packet = udpPacket 0 con.conid con.origAddr data := by
  apply Returns.bind_eq (Heap.read_ok hp.1)
  apply Returns.bind_eq (assert_ok (by rw [hp.2]; rfl))
  apply Returns.bind_eq (assert_ok (decide_eq_true hdata))
  apply Returns.bind (h.useConnection hp now)
  rintro s₁ ⟨hinv₁, hkeeps₁, hopen₁⟩
  apply Returns.bind (hinv₁.connectionSendToClient hopen₁ 0
    (by rw [hkeeps₁.options]; exact hdata) (by rw [hkeeps₁.udpgwMtu]; exact hout))
  intro packet hpacket
  exact Returns.pure ⟨hinv₁, hkeeps₁.toStays, hpacket⟩

/-- `connection_dgram_handler_event`. -/
theorem Inv.connectionDgramHandlerEvent (h : s.Inv none) (hp : s.Open p con) :
    Returns (s.connectionDgramHandlerEvent p) fun s' => s'.Inv none ∧ s.Stays s' := by
  apply Returns.bind_eq (Heap.read_ok hp.1)
  apply Returns.bind_eq (assert_ok (by rw [hp.2]; rfl))
  apply (h.connectionClose hp).mono
  rintro s' ⟨hinv, hkeeps, -⟩
  exact ⟨hinv, hkeeps.toStays⟩

/-! ## The queue -/

theorem eq_of_update_none {own : Nat → Option ServerConnection}
    (h : Function.update own p none q = some con) : q ≠ p ∧ own q = some con := by
  by_cases hq : q = p
  · rw [hq, Function.update_self] at h
    cases h
  · rw [Function.update_of_ne hq] at h
    exact ⟨hq, h⟩

/-- The queue starts to send a packet of a connection of its client. -/
theorem Inv.schedule (h : s.Inv none) (hc : s.clients.get c = some cl)
    (hidle : cl.sendingFlow = none) (hp : s.owned c p = some con) :
    Returns (s.schedule c p) fun s' => s'.Inv none ∧ s.Stays s' := by
  have hflows := h.flows c cl hc (by simp)
  have hflows' : Flows (s.owned c) { cl with sendingFlow := some p } := {
    freeing := hflows.freeing
    sending := by
      intro q hq
      cases hq
      exact ⟨con, hp⟩
    closing := by
      intro q con' hq hclosing
      cases hidle.symm.trans (hflows.closing q con' hq hclosing)
    handler := hflows.handler
    job := hflows.job }
  apply Returns.bind_eq (Heap.read_ok hc)
  apply Returns.bind_eq (assert_ok (by rw [hidle]; rfl))
  apply (h.setClient hc (some p) cl.freeing (fun _ => hflows') (fun hdying => by cases hdying)
    (fun _ _ => Iff.rfl)).mono
  rintro s' ⟨hinv, hstays, -⟩
  exact ⟨hinv, hstays⟩

/-- A packet was sent; a connection that waited for it is freed. -/
theorem Inv.outputHandlerDone (h : s.Inv none) (hc : s.clients.get c = some cl)
    (hp : cl.sendingFlow = some p) :
    Returns (s.outputHandlerDone c) fun s' => s'.Inv none ∧ s.Stays s' := by
  have htables := h.tables c cl hc
  have hflows := h.flows c cl hc (by simp)
  obtain ⟨con, hown⟩ := hflows.sending p hp
  obtain ⟨hget, rfl⟩ := owned_eq_some.mp hown
  have hhandler := hflows.handler p con hown
  -- without the flow, no other connection is closing
  have hone : ∀ q con', s.owned con.client q = some con' → con'.closing = true → q = p := by
    intro q con' hq hclosing
    have hsending := hflows.closing q con' hq hclosing
    rw [hp] at hsending
    exact (Option.some.inj hsending).symm
  apply Returns.bind_eq (Heap.read_ok hc)
  rw [hp]
  cases hclosing : con.closing with
  | false =>
    have hflows' : Flows (s.owned con.client) { cl with sendingFlow := none } := {
      freeing := hflows.freeing
      sending := fun q hq => by cases hq
      closing := by
        intro q con' hq hclose
        obtain rfl := hone q con' hq hclose
        cases hown.symm.trans hq
        cases hclosing.symm.trans hclose
      handler := hflows.handler
      job := hflows.job }
    apply Returns.bind (h.setClient hc none cl.freeing (fun _ => hflows')
      (fun hdying => by cases hdying) (fun _ _ => Iff.rfl))
    rintro s' ⟨hinv, hstays, -, hcons⟩
    apply Returns.bind_eq (Heap.read_ok (by rw [hcons]; exact hget))
    rw [hhandler, hclosing, if_neg Bool.false_ne_true]
    exact Returns.pure ⟨hinv, hstays⟩
  | true =>
    have hclients := Heap.get_set (x := some { cl with sendingFlow := none }) (Heap.lt_next hc)
    have hcons := Heap.get_set (x := some { con with handlerBusy := false }) (Heap.lt_next hget)
    have hget' : (s.connections.set p (some { con with handlerBusy := false })).get p
        = some { con with handlerBusy := false } := by
      rw [hcons, Function.update_self]
    have hc' : (s.clients.set con.client (some { cl with sendingFlow := none })).get con.client
        = some { cl with sendingFlow := none } := by
      rw [hclients, Function.update_self]
    have hmem := (htables.mem_closing p).mpr ⟨con, hown, hclosing⟩
    apply Returns.bind_eq (setClient_ok hc _)
    apply Returns.bind_eq (Heap.read_ok hget)
    rw [if_pos (hhandler.trans hclosing)]
    apply Returns.bind_eq (setConnection_ok (by exact hget) _)
    apply Returns.bind_eq (Heap.read_ok (by exact hget'))
    apply Returns.bind_eq (assert_ok hclosing)
    apply Returns.bind_eq (Heap.read_ok (by exact hget'))
    apply Returns.bind_eq (Heap.read_ok (by exact hc'))
    apply Returns.bind_eq (assert_ok (assertFree (Or.inr (by simp))))
    rw [if_pos hclosing]
    apply Returns.bind_eq (unlink_ok hmem)
    apply Returns.bind_eq (setClient_ok (by exact hc') _)
    apply Returns.bind_eq (Heap.free_ok (by exact hget'))
    apply Returns.pure
    have hcons₂ : ((s.connections.set p (some { con with handlerBusy := false })).set p none).get
        = Function.update s.connections.get p none := by
      rw [Heap.get_set (by rw [Heap.next_set]; exact Heap.lt_next hget), hcons,
        Function.update_idem]
    have hclients₂ : ∀ cl₂, ((s.clients.set con.client (some { cl with sendingFlow := none })).set
        con.client (some cl₂)).get = Function.update s.clients.get con.client (some cl₂) := by
      intro cl₂
      rw [Heap.get_set (by rw [Heap.next_set]; exact Heap.lt_next hc), hclients,
        Function.update_idem]
    have htables₂ := htables.freeClosing hown hclosing
    constructor
    · refine h.update (x := none) ?_ (fun _ _ => Iff.rfl) (by exact hcons₂)
        (by exact hclients₂ _) rfl rfl rfl rfl
      constructor
      case client => exact ⟨cl, hc⟩
      case old =>
        intro con' hcon'
        cases hget.symm.trans hcon'
        rfl
      case tables => exact { htables₂ with }
      case flows =>
        intro _
        refine ⟨hflows.freeing, fun q hq => (by cases hq), fun q con' hq hclose => ?_,
          fun q con' hq => ?_, fun q con' hq hclose => ?_⟩
        all_goals
          obtain ⟨hne, hq'⟩ := eq_of_update_none hq
        · exact absurd (hone q con' hq' hclose) hne
        · exact hflows.handler q con' hq'
        · exact hflows.job q con' hq' hclose
      case freeing =>
        intro hdying
        cases hdying
      case conns_le => exact h.conns_le _ cl hc
      case new =>
        intro con' hcon'
        cases hcon'
      case ports =>
        intro con' hcon'
        cases hcon'
      case bound =>
        intro con' hcon'
        cases hcon'
    · refine stays_update (by exact hcons₂) ?_ ?_ rfl rfl (fun con' hcon' => by cases hcon')
      · rw [Heap.next_set, Heap.next_set]
      · exact Nat.le_of_eq (by rw [Heap.next_set, Heap.next_set])

/-! ## Every run -/

/-- A step of udpgw. -/
theorem Inv.exec {e : ServerEvent} (h : s.Inv none) (he : s.enabled e = true) (m : DataModel) :
    Returns (s.exec m e) fun r => r.1.Inv none ∧ s.Effect e r.1 r.2 := by
  cases e with
  | accept res =>
    apply Returns.bind (h.listenerHandler res)
    rintro ⟨s', c⟩ ⟨hinv, hstays, hc⟩
    exact Returns.pure ⟨hinv, .accept hstays hc⟩
  | gone c =>
    obtain ⟨cl, hc⟩ := Option.isSome_iff_exists.mp he
    apply Returns.bind (h.clientFree hc)
    rintro s' ⟨hinv, hstays⟩
    exact Returns.pure ⟨hinv, .other hstays⟩
  | packet c data dns now res place =>
    simp only [enabled, Bool.and_eq_true, decide_eq_true_eq] at he
    obtain ⟨⟨hc, hsize⟩, -⟩ := he
    obtain ⟨cl, hc⟩ := Option.isSome_iff_exists.mp hc
    apply Returns.bind (h.clientRecvIfHandlerSend hc hsize m dns now res place)
    rintro ⟨s', r⟩ ⟨hinv, hr⟩
    apply Returns.pure
    refine ⟨hinv, ?_⟩
    rcases hr with heq | ⟨origAddr, payload, hserves⟩
    · cases heq
      exact .dropped
    · exact .served hserves
  | firstJob p now place =>
    obtain ⟨con, hp, hjob⟩ := (Option.any_eq_true _ _).mp he
    apply Returns.bind (h.connectionFirstJobHandler hp hjob now place)
    rintro ⟨s', d⟩ ⟨hinv, hstays, hopen, hd⟩
    exact Returns.pure ⟨hinv, .firstJob hstays hopen hjob hd⟩
  | datagram p data now out =>
    simp only [enabled, Bool.and_eq_true, decide_eq_true_eq] at he
    obtain ⟨⟨hudp, hdata⟩, hout⟩ := he
    obtain ⟨con, hp, hudp⟩ := (Option.any_eq_true _ _).mp hudp
    have hopen := h.open_of_udp hp hudp
    have hbuf : ∀ buf, out = some buf → s.udpgwMtu ≤ buf.length := by
      rintro buf rfl
      exact of_decide_eq_true hout
    apply Returns.bind (h.connectionUdpRecvIfHandlerSend hopen hdata hbuf now)
    rintro ⟨s', packet⟩ ⟨hinv, hstays, hpacket⟩
    exact Returns.pure ⟨hinv, .answered hstays hopen hpacket⟩
  | dgramError p =>
    obtain ⟨con, hp, hudp⟩ := (Option.any_eq_true _ _).mp he
    apply Returns.bind (h.connectionDgramHandlerEvent (h.open_of_udp hp hudp))
    rintro s' ⟨hinv, hstays⟩
    exact Returns.pure ⟨hinv, .other hstays⟩
  | schedule c p =>
    obtain ⟨hidle, hown⟩ := Bool.and_eq_true_iff.mp he
    obtain ⟨cl, hc, hidle⟩ := (Option.any_eq_true _ _).mp hidle
    obtain ⟨con, hown⟩ := Option.isSome_iff_exists.mp hown
    apply Returns.bind (h.schedule hc (Option.isNone_iff_eq_none.mp hidle) hown)
    rintro s' ⟨hinv, hstays⟩
    exact Returns.pure ⟨hinv, .other hstays⟩
  | outputDone c =>
    obtain ⟨cl, hc, hsending⟩ := (Option.any_eq_true _ _).mp he
    obtain ⟨p, hp⟩ := Option.isSome_iff_exists.mp hsending
    apply Returns.bind (h.outputHandlerDone hc hp)
    rintro s' ⟨hinv, hstays⟩
    exact Returns.pure ⟨hinv, .other hstays⟩

theorem init_inv (m : DataModel) {options : ServerOptions} (h : options.Accepted) :
    (init m options).Inv none where
  tables c cl hc := by cases hc
  flows c cl hc := by cases hc
  freeing c cl hc := by cases hc
  conns_le c cl hc := by cases hc
  owner p con hp := by cases hp
  nodup := List.nodup_nil
  mem_list c := by
    show c ∈ [] ↔ ∃ cl, (none : Option ServerClient) = some cl
    simp
  num := rfl
  le := Nat.zero_le _
  ports p q con con' hp := by cases hp.1
  port_lt p con hp := by cases hp.1
  bound p con hp := by cases hp.1
  data p con hp := by cases hp
  accepted := h
  udpgwMtu := by
    have h0 := h.udpMtu
    show 0 ≤ options.udpgwMtu m ∧ options.udpgwMtu m ≤ 65535
    unfold ServerOptions.udpgwMtu
    dsimp only
    split
    · decide
    · omega

end Server

section

variable {m : DataModel} {options : ServerOptions} {es : List ServerEvent}
  {res : Except CFault Server}

theorem udpgw_inv (hoptions : options.Accepted) (h : (udpgw m options).Runs es res) :
    Returns res fun s => s.options = options ∧ s.Inv none := by
  apply h.returns (I := fun _ s => s.options = options ∧ s.Inv none)
  · exact ⟨rfl, Server.init_inv m hoptions⟩
  · rintro es s e ⟨heq, hinv⟩ he
    apply Returns.bind (hinv.exec he m)
    rintro ⟨s', outcome⟩ ⟨hinv', heffect⟩
    exact Returns.pure ⟨heffect.options.trans heq, hinv'⟩

/-- In every run, udpgw uses no connection and no client that was freed. The list of clients has
each of them once, and there are as many as counted. The list and the number of a client are those
of its open connections, no more than allowed, each of which is found by its id; a connection that
is closing, of which there is one at most, is the one whose packet is being sent; and every
connection that was not freed is one of a client that was not. -/
theorem udpgw_tables (hoptions : options.Accepted) (h : (udpgw m options).Runs es res) :
    ∃ s, res = .ok s ∧ s.numClients = s.clientsList.length ∧ s.numClients ≤ options.maxClients ∧
      s.clientsList.Nodup ∧ (∀ c, c ∈ s.clientsList ↔ ∃ cl, s.clients.get c = some cl) ∧
      (∀ p con, s.connections.get p = some con → ∃ cl, s.clients.get con.client = some cl) ∧
      ∀ c cl, s.clients.get c = some cl →
        cl.numConnections = cl.connectionsList.length ∧
        cl.numConnections ≤ options.maxConnectionsForClient ∧ cl.connectionsList.Nodup ∧
        (∀ p, p ∈ cl.connectionsList ↔ ∃ con, s.Open p con ∧ con.client = c) ∧
        (∀ conid, Returns (s.findConnection cl conid) fun r => ∀ p, r = some p ↔
          ∃ con, s.Open p con ∧ con.client = c ∧ con.conid = conid) ∧
        ∀ p ∈ cl.closingConnectionsList, cl.sendingFlow = some p := by
  obtain ⟨s, rfl, rfl, hinv⟩ := udpgw_inv hoptions h
  refine ⟨s, rfl, hinv.num, hinv.le, hinv.nodup, hinv.mem_list, hinv.owner, ?_⟩
  intro c cl hc
  have htables := hinv.tables c cl hc
  refine ⟨htables.num, hinv.conns_le c cl hc, htables.nodup, fun p => ?_,
    hinv.findConnection hc, fun p hp => ?_⟩
  · constructor
    · exact hinv.open_of_mem hc
    · rintro ⟨con, hopen, rfl⟩
      exact htables.mem_list_of hopen.owned hopen.2
  · obtain ⟨con, hown, hclosing⟩ := (htables.mem_closing p).mp hp
    exact (hinv.flows c cl hc (by simp)).closing p con hown hclosing

/-- Options for two clients, with a range of two local ports. -/
private def twoPorts : ServerOptions :=
  ⟨1, 2, 2, 2, .ipv4 9 1000, -1, .ipv6 (.replicate 16 0) 0, false⟩

/-- Two clients send to one address, under one id. -/
private def twoClients : List ServerEvent :=
  let plenty : ServerResources := ⟨true, true, true, true, true, [true, true], true, true, true⟩
  [.accept true, .accept true,
    .packet 0 (udpPacket 0 7 (.ipv4 1 53) [5]) none 0 plenty true, .firstJob 0 1 true,
    .packet 1 (udpPacket 0 7 (.ipv4 1 53) [6]) none 2 plenty true, .firstJob 1 3 true]

private theorem twoPorts_accepted : twoPorts.Accepted := ⟨by decide, by decide, by decide⟩

/-- Both are served, and the id stands for a connection of its own in each of them. -/
theorem udpgw_tables_two :
    ∃ (s : Server) (cl cl' : ServerClient), s.clients.get 0 = some cl ∧
      s.clients.get 1 = some cl' ∧ s.clientsList.Nodup ∧ s.numClients = 2 ∧
      s.findConnection cl 7 = .ok (some 0) ∧ s.findConnection cl' 7 = .ok (some 1) := by
  have hends : (udpgw ⟨32, Nat.le_refl _⟩ twoPorts).ends twoClients
      (fun s => s.numClients == 2 && (s.clients.get 0).isSome && (s.clients.get 1).isSome &&
        (s.connections.get 0).any (fun con => !con.closing && con.client == 0 && con.conid == 7) &&
        (s.connections.get 1).any fun con => !con.closing && con.client == 1 && con.conid == 7)
        = true := by
    decide
  obtain ⟨s, hruns, hs⟩ := Machine.runs_of_ends hends
  simp only [Bool.and_eq_true, Option.any_eq_true, Bool.not_eq_true', beq_iff_eq,
    Option.isSome_iff_exists] at hs
  obtain ⟨⟨⟨⟨hnum, cl, hcl⟩, cl', hcl'⟩, con, hcon, ⟨hopen, hclient⟩, hconid⟩,
    con', hcon', ⟨hopen', hclient'⟩, hconid'⟩ := hs
  obtain ⟨s', hs', -, -, hnodup, -, -, hall⟩ := udpgw_tables twoPorts_accepted hruns
  cases hs'
  obtain ⟨r, hr, hfind⟩ := (hall 0 cl hcl).2.2.2.2.1 7
  obtain ⟨r', hr', hfind'⟩ := (hall 1 cl' hcl').2.2.2.2.1 7
  refine ⟨s, cl, cl', hcl, hcl', hnodup, hnum, ?_, ?_⟩
  · rw [hr, (hfind 0).mpr ⟨con, ⟨hcon, hopen⟩, hclient, hconid⟩]
  · rw [hr', (hfind' 1).mpr ⟨con', ⟨hcon', hopen'⟩, hclient', hconid'⟩]

/-! ## Local ports -/

/-- Two indices are one port if they differ by a multiple of `65536`. -/
theorem bindAddr_eq_iff {a b : UdpAddr} (h : a.isIpv6 = b.isIpv6) {i j : Nat} :
    options.bindAddr a i = options.bindAddr b j ↔ i % 65536 = j % 65536 := by
  have hlocal : options.getLocalAddr a = options.getLocalAddr b := by
    cases a <;> cases b <;> first | rfl | cases h
  have hport : ∀ {addr : UdpAddr} {x y : UInt16}, setPort addr x = setPort addr y ↔ x = y := by
    intro addr x y
    cases addr <;> simp [setPort]
  unfold ServerOptions.bindAddr
  rw [hlocal, hport, UInt16.add_right_inj, ← UInt16.toNat_inj, UInt16.toNat_ofNat',
    UInt16.toNat_ofNat']

/-- The socket of an open connection is bound to the address of its index, which is one of the
range, or to none. In every run, two open connections to one remote address (to one remote IP
address, with `--unique-local-ports`) do not share an index, whichever clients they are of; and if
the range has no more than `65536` ports, their sockets are not bound to one address. In a longer
range two indices can be one port. -/
theorem udpgw_ports (hoptions : options.Accepted) (h : (udpgw m options).Runs es res) :
    ∃ s, res = .ok s ∧
      (∀ p con, s.Open p con → con.udp = true ∧
        con.bound = options.boundAt con.addr con.localPortIndex ∧
        (0 ≤ con.localPortIndex → con.localPortIndex < options.getLocalNumPorts con.addr)) ∧
      ∀ p q con con', s.Open p con → s.Open q con' → p ≠ q →
        options.sameRemote con.addr con'.addr = true →
        (0 ≤ con.localPortIndex → con'.localPortIndex ≠ con.localPortIndex) ∧
        (options.getLocalNumPorts con.addr ≤ 65536 →
          ∀ addr, con.bound = some addr → con'.bound ≠ some addr) := by
  obtain ⟨s, rfl, rfl, hinv⟩ := udpgw_inv hoptions h
  refine ⟨s, rfl, ?_, ?_⟩
  · intro p con hp
    obtain ⟨cl, -, htables, hown⟩ := hinv.owner_of hp.1
    refine ⟨?_, hinv.bound p con hp, hinv.port_lt p con hp⟩
    rw [htables.udp p con hown, hp.2]
    rfl
  · intro p q con con' hp hq hne hsame
    have hapart : 0 ≤ con.localPortIndex → con'.localPortIndex ≠ con.localPortIndex :=
      fun hle heq => hne (hinv.ports p q con con' hp hq hle heq hsame)
    refine ⟨hapart, fun hrange addr hbound hbound' => ?_⟩
    obtain ⟨hle, haddr⟩ := boundAt_eq_some.mp ((hinv.bound p con hp).symm.trans hbound)
    obtain ⟨hle', haddr'⟩ :=
      boundAt_eq_some.mp ((hinv.bound q con' hq).symm.trans hbound')
    have hfamily := Server.sameRemote_family hsame
    have hlt := hinv.port_lt p con hp hle
    have hlt' := hinv.port_lt q con' hq hle'
    rw [← Server.getLocalNumPorts_eq hfamily] at hlt'
    have hmod := (bindAddr_eq_iff hfamily).mp (haddr.trans haddr'.symm)
    exact hapart hle (by omega)

/-- A range that is too long. -/
example : ServerOptions.bindAddr ⟨1, 2, 2, 65537, .ipv4 9 1000, -1, .ipv4 0 0, false⟩
    (.ipv4 1 53) 65536 = .ipv4 9 1000 := by decide

/-- The two connections have the two ports. -/
theorem udpgw_ports_two :
    ∃ (s : Server) (con con' : ServerConnection), s.Open 0 con ∧ s.Open 1 con' ∧
      con.bound = some (.ipv4 9 1000) ∧ con'.bound ≠ some (.ipv4 9 1000) := by
  have hends : (udpgw ⟨32, Nat.le_refl _⟩ twoPorts).ends twoClients
      (fun s => (s.connections.get 0).any (fun con => !con.closing && con.addr == .ipv4 1 53 &&
          con.localPortIndex == 0) &&
        (s.connections.get 1).any fun con => !con.closing && con.addr == .ipv4 1 53) = true := by
    decide
  obtain ⟨s, hruns, hs⟩ := Machine.runs_of_ends hends
  simp only [Bool.and_eq_true, Option.any_eq_true, Bool.not_eq_true', beq_iff_eq] at hs
  obtain ⟨⟨con, hcon, ⟨hopen, haddr⟩, hindex⟩, con', hcon', hopen', haddr'⟩ := hs
  obtain ⟨s', hs', hbound, hports⟩ := udpgw_ports twoPorts_accepted hruns
  cases hs'
  have hcon₀ : con.bound = some (.ipv4 9 1000) := by
    rw [(hbound 0 con ⟨hcon, hopen⟩).2.1, haddr, hindex]
    decide
  have hsame : twoPorts.sameRemote con.addr con'.addr = true := by
    rw [haddr, haddr']
    decide
  have hapart := hports 0 1 con con' ⟨hcon, hopen⟩ ⟨hcon', hopen'⟩ (by decide) hsame
  exact ⟨s, con, con', ⟨hcon, hopen⟩, ⟨hcon', hopen'⟩, hcon₀,
    hapart.2 (by rw [haddr]; decide) _ hcon₀⟩

end

end Lightsocks.Udpgw
