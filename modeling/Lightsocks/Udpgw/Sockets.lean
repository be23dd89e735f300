import Lightsocks.Udpgw.Tables

/-!
# The connections and the local ports of udpgw

`Server.Inv` is kept by every handler. An open connection is in the tables of its client and has
a socket; of two open connections for which the local port matters, each has its own. While a
client is being freed nothing is known of its queue, hence the argument of the invariant.
-/

namespace Lightsocks.Udpgw

open Lightsocks.Lib
open Lightsocks.Tunnel (UdpAddr addrSize udpgwHeaderSize udpgwComputeMtuBsize)

/-- What `parse_arguments` accepts, as far as it matters; `atoi` gives an `int`. -/
structure ServerOptions.Accepted (options : ServerOptions) : Prop where
  udpMtu : 0 ≤ options.udpMtu
  udpMtu_le : options.udpMtu ≤ 2147483647
  maxConnections : 0 < options.maxConnectionsForClient

/-- The connection at `p` is not closing. -/
def Server.Open (s : Server) (p : Nat) (con : ServerConnection) : Prop :=
  s.connections.get p = some con ∧ con.closing = false

/-- What the socket of a connection to `addr` is bound to, by the index of its port. -/
def ServerOptions.boundAt (options : ServerOptions) (addr : UdpAddr) (i : Int) : Option UdpAddr :=
  if i < 0 then none else some (options.bindAddr addr i.toNat)

theorem boundAt_eq_some {options : ServerOptions} {addr a : UdpAddr} {i : Int} :
    options.boundAt addr i = some a ↔ 0 ≤ i ∧ options.bindAddr addr i.toNat = a := by
  unfold ServerOptions.boundAt
  split
  · constructor
    · intro h
      cases h
    · intro h
      omega
  · rw [Option.some.injEq, and_iff_right (by omega)]

/-- Two open connections that need different local ports have different ones. -/
def Server.Apart (s : Server) (p q : Nat) (con con' : ServerConnection) : Prop :=
  0 ≤ con.localPortIndex → con'.localPortIndex = con.localPortIndex →
    s.options.sameRemote con.addr con'.addr = true → p = q

structure Server.Inv (s : Server) (dying : Option Nat) : Prop where
  tables : ∀ c cl, s.clients.get c = some cl → Tables (s.owned c) cl
  flows : ∀ c cl, s.clients.get c = some cl → dying ≠ some c → Flows (s.owned c) cl
  freeing : ∀ c cl, s.clients.get c = some cl → dying = some c → cl.freeing = true
  conns_le : ∀ c cl, s.clients.get c = some cl →
    cl.numConnections ≤ s.options.maxConnectionsForClient
  owner : ∀ p con, s.connections.get p = some con → ∃ cl, s.clients.get con.client = some cl
  nodup : s.clientsList.Nodup
  mem_list : ∀ c, c ∈ s.clientsList ↔ ∃ cl, s.clients.get c = some cl
  num : s.numClients = s.clientsList.length
  le : s.numClients ≤ s.options.maxClients
  ports : ∀ p q con con', s.Open p con → s.Open q con' → s.Apart p q con con'
  port_lt : ∀ p con, s.Open p con → 0 ≤ con.localPortIndex →
    con.localPortIndex < s.options.getLocalNumPorts con.addr
  bound : ∀ p con, s.Open p con →
    con.bound = s.options.boundAt con.addr con.localPortIndex
  data : ∀ p con, s.connections.get p = some con → (con.firstData.length : Int) ≤ s.options.udpMtu
  accepted : s.options.Accepted
  udpgwMtu : 0 ≤ s.udpgwMtu ∧ s.udpgwMtu ≤ 65535

/-- A connection that was used, or whose first packet was sent. -/
structure ServerConnection.Same (con' con : ServerConnection) : Prop where
  client : con'.client = con.client
  conid : con'.conid = con.conid
  addr : con'.addr = con.addr
  origAddr : con'.origAddr = con.origAddr
  firstData : con'.firstData = con.firstData
  port : con'.localPortIndex = con.localPortIndex
  bound : con'.bound = con.bound
  job : con'.firstJob = true → con.firstJob = true

/-- No connection was opened. -/
structure Server.Stays (s s' : Server) : Prop where
  con : ∀ p con', s'.Open p con' → ∃ con, s.Open p con ∧ con'.Same con
  next : s'.connections.next = s.connections.next
  clientsNext : s.clients.next ≤ s'.clients.next
  options : s'.options = s.options
  udpgwMtu : s'.udpgwMtu = s.udpgwMtu

/-- No connection was opened, and no client came or went. -/
structure Server.Keeps (s s' : Server) : Prop extends s.Stays s' where
  num : ∀ c cl, s.clients.get c = some cl →
    ∃ cl', s'.clients.get c = some cl' ∧ cl'.numConnections ≤ cl.numConnections
  clients : ∀ c, s.clients.get c = none → s'.clients.get c = none

theorem ServerConnection.Same.refl (con : ServerConnection) : con.Same con :=
  ⟨rfl, rfl, rfl, rfl, rfl, rfl, rfl, id⟩

theorem ServerConnection.Same.trans {con con' con'' : ServerConnection} (h : con''.Same con')
    (h' : con'.Same con) : con''.Same con where
  client := h.client.trans h'.client
  conid := h.conid.trans h'.conid
  addr := h.addr.trans h'.addr
  origAddr := h.origAddr.trans h'.origAddr
  firstData := h.firstData.trans h'.firstData
  port := h.port.trans h'.port
  bound := h.bound.trans h'.bound
  job hjob := h'.job (h.job hjob)

namespace Server

variable {s s' s'' : Server} {dying dying' : Option Nat} {p q c : Nat} {con con' : ServerConnection}
  {cl cl' : ServerClient} {x : Option ServerConnection} {addr : UdpAddr}

theorem Stays.refl (s : Server) : s.Stays s where
  con _ con hp := ⟨con, hp, .refl con⟩
  next := rfl
  clientsNext := Nat.le_refl _
  options := rfl
  udpgwMtu := rfl

theorem Stays.trans (h : s.Stays s') (h' : s'.Stays s'') : s.Stays s'' where
  con p con'' hp := by
    obtain ⟨con', hcon', hsame'⟩ := h'.con p con'' hp
    obtain ⟨con, hcon, hsame⟩ := h.con p con' hcon'
    exact ⟨con, hcon, hsame'.trans hsame⟩
  next := h'.next.trans h.next
  clientsNext := Nat.le_trans h.clientsNext h'.clientsNext
  options := h'.options.trans h.options
  udpgwMtu := h'.udpgwMtu.trans h.udpgwMtu

theorem Keeps.refl (s : Server) : s.Keeps s where
  toStays := .refl s
  num _ cl hc := ⟨cl, hc, Nat.le_refl _⟩
  clients _ hc := hc

theorem owned_eq_some :
    s.owned c p = some con ↔ s.connections.get p = some con ∧ con.client = c := by
  unfold owned
  rw [Option.filter_eq_some_iff, beq_iff_eq]

theorem Open.owned (h : s.Open p con) : s.owned con.client p = some con :=
  owned_eq_some.mpr ⟨h.1, rfl⟩

theorem Open.inj (h : s.Open p con) (h' : s.Open p con') : con = con' :=
  Option.some.inj (h.1.symm.trans h'.1)

/-! ## The remote address of a port -/

/-- An address without its port. -/
def host : UdpAddr → UdpAddr
  | .ipv4 ip _ => .ipv4 ip 0
  | .ipv6 ip _ => .ipv6 ip 0

/-- The part of an address in which two connections with one local port differ. -/
def remote (options : ServerOptions) (a : UdpAddr) : UdpAddr :=
  if options.uniqueLocalPorts then host a else a

theorem sameIp_iff {a b : UdpAddr} : sameIp a b = true ↔ host a = host b := by
  cases a <;> cases b <;> simp [sameIp, host]

theorem sameRemote_iff {options : ServerOptions} {a b : UdpAddr} :
    options.sameRemote a b = true ↔ remote options a = remote options b := by
  unfold ServerOptions.sameRemote remote
  split
  · exact sameIp_iff
  · exact beq_iff_eq

theorem sameRemote_symm {options : ServerOptions} {a b : UdpAddr}
    (h : options.sameRemote a b = true) : options.sameRemote b a = true :=
  sameRemote_iff.mpr (sameRemote_iff.mp h).symm

theorem sameRemote_trans {options : ServerOptions} {a b d : UdpAddr}
    (h : options.sameRemote a b = true) (h' : options.sameRemote b d = true) :
    options.sameRemote a d = true :=
  sameRemote_iff.mpr ((sameRemote_iff.mp h).trans (sameRemote_iff.mp h'))

theorem sameRemote_family {options : ServerOptions} {a b : UdpAddr}
    (h : options.sameRemote a b = true) : a.isIpv6 = b.isIpv6 := by
  have hhost : host a = host b := by
    have hremote := sameRemote_iff.mp h
    unfold remote at hremote
    split at hremote
    · exact hremote
    · rw [hremote]
  cases a <;> cases b <;> first | rfl | cases hhost

/-- Addresses of one family have as many local ports. -/
theorem getLocalNumPorts_eq {options : ServerOptions} {a b : UdpAddr} (h : a.isIpv6 = b.isIpv6) :
    options.getLocalNumPorts a = options.getLocalNumPorts b := by
  cases a <;> cases b <;> first | rfl | cases h

/-! ## One connection and its client change -/

/-- The server with another connection at `p` and other tables of its client. -/
def updated (s : Server) (p : Nat) (x : Option ServerConnection) (c : Nat) (cl : ServerClient) :
    Server :=
  { s with connections := s.connections.set p x, clients := s.clients.set c (some cl) }

theorem owned_update (hcons : s'.connections.get = Function.update s.connections.get p x)
    (hx : ∀ con, x = some con → con.client = c) :
    s'.owned c = Function.update (s.owned c) p x := by
  ext q : 1
  unfold owned
  rw [hcons]
  by_cases hq : q = p
  · rw [hq, Function.update_self, Function.update_self]
    cases x with
    | none => rfl
    | some con => exact Option.filter_some_pos (beq_iff_eq.mpr (hx con rfl))
  · rw [Function.update_of_ne hq, Function.update_of_ne hq]

theorem owned_update_ne {c' : Nat}
    (hcons : s'.connections.get = Function.update s.connections.get p x)
    (hx : ∀ con, x = some con → con.client = c)
    (hp : ∀ con, s.connections.get p = some con → con.client = c) (hne : c' ≠ c) :
    s'.owned c' = s.owned c' := by
  have hnone : ∀ y : Option ServerConnection, (∀ con, y = some con → con.client = c) →
      y.filter (fun con => con.client == c') = none := by
    intro y hy
    cases y with
    | none => rfl
    | some con =>
      apply Option.filter_some_neg
      rw [hy con rfl]
      simpa using hne.symm
  ext q : 1
  unfold owned
  rw [hcons]
  by_cases hq : q = p
  · rw [hq, Function.update_self, hnone x hx, hnone _ hp]
  · rw [Function.update_of_ne hq]

/-- The conditions under which one connection and its client may change. -/
structure Change (s : Server) (dying : Option Nat) (p : Nat) (x : Option ServerConnection)
    (c : Nat) (cl' : ServerClient) : Prop where
  client : ∃ cl, s.clients.get c = some cl
  old : ∀ con, s.connections.get p = some con → con.client = c
  tables : Tables (Function.update (s.owned c) p x) cl'
  flows : dying ≠ some c → Flows (Function.update (s.owned c) p x) cl'
  freeing : dying = some c → cl'.freeing = true
  conns_le : cl'.numConnections ≤ s.options.maxConnectionsForClient
  new : ∀ con, x = some con → con.client = c ∧ (con.firstData.length : Int) ≤ s.options.udpMtu
  ports : ∀ con, x = some con → con.closing = false → 0 ≤ con.localPortIndex →
    con.localPortIndex < s.options.getLocalNumPorts con.addr ∧
    ∀ q con', q ≠ p → s.Open q con' → con'.localPortIndex = con.localPortIndex →
      s.options.sameRemote con.addr con'.addr = false
  bound : ∀ con, x = some con → con.closing = false →
    con.bound = s.options.boundAt con.addr con.localPortIndex

/-- The rule for every operation on one connection. -/
theorem Inv.update (h : s.Inv dying) (hchange : s.Change dying' p x c cl')
    (hdying : ∀ c', c' ≠ c → (dying' = some c' ↔ dying = some c'))
    (hcons : s'.connections.get = Function.update s.connections.get p x)
    (hclients : s'.clients.get = Function.update s.clients.get c (some cl'))
    (hlist : s'.clientsList = s.clientsList) (hnum : s'.numClients = s.numClients)
    (hoptions : s'.options = s.options) (hmtu : s'.udpgwMtu = s.udpgwMtu) :
    s'.Inv dying' := by
  have hx := fun con hcon => (hchange.new con hcon).1
  have hown := owned_update hcons hx
  have hother := fun {c'} (hne : c' ≠ c) => owned_update_ne hcons hx hchange.old hne
  obtain ⟨cl, hc⟩ := hchange.client
  have hget : ∀ {c' cl''}, s'.clients.get c' = some cl'' →
      (c' = c ∧ cl'' = cl') ∨ (c' ≠ c ∧ s.clients.get c' = some cl'') := by
    intro c' cl'' hc'
    rw [hclients] at hc'
    by_cases hne : c' = c
    · rw [hne, Function.update_self] at hc'
      exact Or.inl ⟨hne, (Option.some.inj hc').symm⟩
    · rw [Function.update_of_ne hne] at hc'
      exact Or.inr ⟨hne, hc'⟩
  have hlive : ∀ {c'}, (∃ cl, s.clients.get c' = some cl) ↔ ∃ cl, s'.clients.get c' = some cl := by
    intro c'
    rw [hclients]
    by_cases hne : c' = c
    · rw [hne, Function.update_self]
      exact iff_of_true ⟨cl, hc⟩ ⟨cl', rfl⟩
    · rw [Function.update_of_ne hne]
  have hcon : ∀ {q con}, s'.connections.get q = some con →
      (q = p ∧ x = some con) ∨ (q ≠ p ∧ s.connections.get q = some con) := by
    intro q con hq
    rw [hcons] at hq
    by_cases hne : q = p
    · rw [hne, Function.update_self] at hq
      exact Or.inl ⟨hne, hq⟩
    · rw [Function.update_of_ne hne] at hq
      exact Or.inr ⟨hne, hq⟩
  constructor
  case tables =>
    intro c' cl'' hc'
    rcases hget hc' with ⟨rfl, rfl⟩ | ⟨hne, hc'⟩
    · rw [hown]
      exact hchange.tables
    · rw [hother hne]
      exact h.tables c' cl'' hc'
  case flows =>
    intro c' cl'' hc' hd
    rcases hget hc' with ⟨rfl, rfl⟩ | ⟨hne, hc'⟩
    · rw [hown]
      exact hchange.flows hd
    · rw [hother hne]
      exact h.flows c' cl'' hc' fun heq => hd ((hdying c' hne).mpr heq)
  case freeing =>
    intro c' cl'' hc' hd
    rcases hget hc' with ⟨rfl, rfl⟩ | ⟨hne, hc'⟩
    · exact hchange.freeing hd
    · exact h.freeing c' cl'' hc' ((hdying c' hne).mp hd)
  case conns_le =>
    intro c' cl'' hc'
    rw [hoptions]
    rcases hget hc' with ⟨rfl, rfl⟩ | ⟨hne, hc'⟩
    · exact hchange.conns_le
    · exact h.conns_le c' cl'' hc'
  case owner =>
    intro q con hq
    rcases hcon hq with ⟨-, hq⟩ | ⟨-, hq⟩
    · rw [hx con hq]
      exact hlive.mp ⟨cl, hc⟩
    · exact hlive.mp (h.owner q con hq)
  case nodup => exact hlist ▸ h.nodup
  case mem_list =>
    intro c'
    rw [hlist, h.mem_list]
    exact hlive
  case num => rw [hnum, hlist, h.num]
  case le =>
    rw [hnum, hoptions]
    exact h.le
  case ports =>
    intro p₁ p₂ con₁ con₂ h₁ h₂ hle heq hsame
    rw [hoptions] at hsame
    rcases hcon h₁.1 with ⟨rfl, hx₁⟩ | ⟨hne₁, hp₁⟩
    · rcases hcon h₂.1 with ⟨rfl, hx₂⟩ | ⟨hne₂, hp₂⟩
      · rfl
      · have hfalse := (hchange.ports con₁ hx₁ h₁.2 hle).2 p₂ con₂ hne₂ ⟨hp₂, h₂.2⟩ heq
        cases hsame.symm.trans hfalse
    · rcases hcon h₂.1 with ⟨rfl, hx₂⟩ | ⟨hne₂, hp₂⟩
      · have hfalse := (hchange.ports con₂ hx₂ h₂.2 (heq ▸ hle)).2 p₁ con₁ hne₁ ⟨hp₁, h₁.2⟩ heq.symm
        cases (sameRemote_symm hsame).symm.trans hfalse
      · exact h.ports p₁ p₂ con₁ con₂ ⟨hp₁, h₁.2⟩ ⟨hp₂, h₂.2⟩ hle heq hsame
  case port_lt =>
    intro q con hq hle
    rw [hoptions]
    rcases hcon hq.1 with ⟨-, hx'⟩ | ⟨-, hq'⟩
    · exact (hchange.ports con hx' hq.2 hle).1
    · exact h.port_lt q con ⟨hq', hq.2⟩ hle
  case bound =>
    intro q con hq
    rw [hoptions]
    rcases hcon hq.1 with ⟨-, hx'⟩ | ⟨-, hq'⟩
    · exact hchange.bound con hx' hq.2
    · exact h.bound q con ⟨hq', hq.2⟩
  case data =>
    intro q con hq
    rw [hoptions]
    rcases hcon hq with ⟨-, hx'⟩ | ⟨-, hq'⟩
    · exact (hchange.new con hx').2
    · exact h.data q con hq'
  case accepted => exact hoptions ▸ h.accepted
  case udpgwMtu => exact hmtu ▸ h.udpgwMtu

/-- No connection is opened by an operation on one. -/
theorem stays_update (hcons : s'.connections.get = Function.update s.connections.get p x)
    (hnext : s'.connections.next = s.connections.next)
    (hclients : s.clients.next ≤ s'.clients.next)
    (hoptions : s'.options = s.options) (hmtu : s'.udpgwMtu = s.udpgwMtu)
    (hx : ∀ con', x = some con' → con'.closing = false → ∃ con, s.Open p con ∧ con'.Same con) :
    s.Stays s' where
  con q con' hq := by
    obtain ⟨hget, hopen⟩ := hq
    rw [hcons] at hget
    by_cases hne : q = p
    · rw [hne, Function.update_self] at hget
      rw [hne]
      exact hx con' hget hopen
    · rw [Function.update_of_ne hne] at hget
      exact ⟨con', ⟨hget, hopen⟩, .refl con'⟩
  next := hnext
  clientsNext := hclients
  options := hoptions
  udpgwMtu := hmtu

theorem updated_connections (hp : s.connections.get p = some con) :
    (s.updated p x c cl).connections.get = Function.update s.connections.get p x :=
  Heap.get_set (Heap.lt_next hp)

theorem updated_clients (hc : s.clients.get c = some cl) :
    (s.updated p x c cl').clients.get = Function.update s.clients.get c (some cl') :=
  Heap.get_set (Heap.lt_next hc)

theorem updated_client (hc : s.clients.get c = some cl) :
    (s.updated p x c cl').clients.get c = some cl' := by
  rw [updated_clients hc, Function.update_self]

/-- The rule for the operations that write both records. -/
theorem Inv.updated (h : s.Inv dying) (hp : s.connections.get p = some con)
    (hc : s.clients.get c = some cl) (hchange : s.Change dying p x c cl')
    (hnum : cl'.numConnections ≤ cl.numConnections)
    (hx : ∀ con', x = some con' → con'.closing = false → ∃ con, s.Open p con ∧ con'.Same con) :
    (s.updated p x c cl').Inv dying ∧ s.Keeps (s.updated p x c cl') := by
  have hcons : (s.updated p x c cl').connections.get = _ := updated_connections hp
  have hclients : (s.updated p x c cl').clients.get = _ := updated_clients hc
  refine ⟨h.update hchange (fun _ _ => Iff.rfl) hcons hclients rfl rfl rfl rfl,
    stays_update hcons Heap.next_set (Nat.le_of_eq Heap.next_set.symm) rfl rfl hx, ?_, ?_⟩
  · intro c' cl'' hc'
    rw [hclients]
    by_cases hne : c' = c
    · rw [hne] at hc'
      cases hc.symm.trans hc'
      rw [hne, Function.update_self]
      exact ⟨cl', rfl, hnum⟩
    · rw [Function.update_of_ne hne]
      exact ⟨cl'', hc', Nat.le_refl _⟩
  · intro c' hc'
    have hne : c' ≠ c := by
      rintro rfl
      cases hc'.symm.trans hc
    rw [hclients, Function.update_of_ne hne]
    exact hc'

/-- What a change that leaves no open connection behind needs. -/
theorem Inv.change (h : s.Inv dying) (hp : s.connections.get p = some con)
    (hc : s.clients.get con.client = some cl)
    (htables : Tables (Function.update (s.owned con.client) p x) cl')
    (hnum : cl'.numConnections ≤ cl.numConnections)
    (hfreeing : cl'.freeing = cl.freeing) (hsending : cl'.sendingFlow = cl.sendingFlow)
    (hx : ∀ con', x = some con' → con'.Same con ∧ con'.handlerBusy = con'.closing ∧
      (con'.closing = true → dying ≠ some con.client →
        cl.sendingFlow = some p ∧ con'.firstJob = false) ∧
      (con'.closing = false → s.Open p con))
    (hnone : x = none → cl.freeing = true ∨ cl.sendingFlow ≠ some p) :
    (s.updated p x con.client cl').Inv dying ∧ s.Keeps (s.updated p x con.client cl') := by
  apply h.updated hp hc _ hnum
  · intro con' hcon' hopen
    exact ⟨con, (hx con' hcon').2.2.2 hopen, (hx con' hcon').1⟩
  · constructor
    case client => exact ⟨cl, hc⟩
    case old =>
      intro con' hcon'
      cases hp.symm.trans hcon'
      rfl
    case tables => exact htables
    case flows =>
      intro hdying
      have hflows := h.flows _ cl hc hdying
      refine (hflows.update x ?_ ?_).congr hfreeing hsending
      · intro hself
        cases x with
        | some con' => exact ⟨con', rfl⟩
        | none =>
          rcases hnone rfl with hfree | hne
          · cases hfree.symm.trans hflows.freeing
          · exact absurd hself hne
      · intro con' hcon'
        exact ⟨(hx con' hcon').2.1, fun hclosing => (hx con' hcon').2.2.1 hclosing hdying⟩
    case freeing =>
      intro hdying
      exact hfreeing.trans (h.freeing _ cl hc hdying)
    case conns_le => exact Nat.le_trans hnum (h.conns_le _ cl hc)
    case new =>
      intro con' hcon'
      have hsame := (hx con' hcon').1
      refine ⟨hsame.client, ?_⟩
      rw [hsame.firstData]
      exact h.data p con hp
    case ports =>
      intro con' hcon' hopen hle
      have hp' := (hx con' hcon').2.2.2 hopen
      rw [(hx con' hcon').1.port] at hle ⊢
      rw [(hx con' hcon').1.addr]
      refine ⟨h.port_lt p con hp' hle, ?_⟩
      intro q con₂ hq hq' heq
      cases hsame : s.options.sameRemote con.addr con₂.addr with
      | false => rfl
      | true => exact absurd (h.ports p q con con₂ hp' hq' hle heq hsame).symm hq
    case bound =>
      intro con' hcon' hopen
      obtain ⟨hsame, -, -, hp'⟩ := hx con' hcon'
      rw [hsame.bound, hsame.addr, hsame.port]
      exact h.bound p con (hp' hopen)

theorem Inv.owner_of (h : s.Inv dying) (hp : s.connections.get p = some con) :
    ∃ cl, s.clients.get con.client = some cl ∧ Tables (s.owned con.client) cl ∧
      s.owned con.client p = some con := by
  obtain ⟨cl, hc⟩ := h.owner p con hp
  exact ⟨cl, hc, h.tables _ cl hc, owned_eq_some.mpr ⟨hp, rfl⟩⟩

/-! ## Freeing and closing -/

theorem setClient_ok (hc : s.clients.get c = some cl) (cl' : ServerClient) :
    s.setClient c cl' = .ok { s with clients := s.clients.set c (some cl') } := by
  unfold setClient
  rw [Heap.write_ok hc]
  rfl

theorem setConnection_ok (hp : s.connections.get p = some con) (con' : ServerConnection) :
    s.setConnection p con' = .ok { s with connections := s.connections.set p (some con') } := by
  unfold setConnection
  rw [Heap.write_ok hp]
  rfl

/-- `PacketPassFairQueueFlow_AssertFree`. -/
theorem assertFree (hok : cl.freeing = true ∨ cl.sendingFlow ≠ some p) :
    (cl.freeing || cl.sendingFlow != some p) = true := by
  rcases hok with hfree | hne
  · rw [hfree]
    rfl
  · rw [bne_iff_ne.mpr hne, Bool.or_true]

theorem isBusy_ok (h : cl.freeing = false) : cl.isBusy p = .ok (cl.sendingFlow == some p) := by
  unfold ServerClient.isBusy
  rw [h]
  rfl

/-- An open connection has its socket. -/
theorem Inv.freeUdp_ok (h : s.Inv dying) (hp : s.Open p con) :
    con.freeUdp = .ok { con with udp := false } := by
  obtain ⟨cl, -, htables, hown⟩ := h.owner_of hp.1
  have hudp : con.udp = true := by
    rw [htables.udp p con hown, hp.2]
    rfl
  unfold ServerConnection.freeUdp
  rw [hudp]
  rfl

/-- `connection_free`, of a connection that is not closing. -/
theorem Inv.freeOpen (h : s.Inv dying) (hp : s.Open p con)
    (hc : s.clients.get con.client = some cl)
    (hok : cl.freeing = true ∨ cl.sendingFlow ≠ some p) :
    Returns (s.connectionFree p) fun s' =>
      (∃ tree, s' = s.updated p none con.client { cl with
        numConnections := cl.numConnections - 1
        connectionsList := cl.connectionsList.erase p
        connectionsTree := tree }) ∧ s'.Inv dying ∧ s.Keeps s' := by
  have htables := h.tables _ cl hc
  apply Returns.bind_eq (Heap.read_ok hp.1)
  apply Returns.bind_eq (Heap.read_ok hc)
  apply Returns.bind_eq (assert_ok (assertFree hok))
  rw [hp.2, if_neg Bool.false_ne_true]
  apply Returns.bind (htables.remove_ok hp.owned hp.2)
  rintro _ ⟨tree, htree, rfl⟩
  apply Returns.bind_eq (h.freeUdp_ok hp)
  apply Returns.bind_eq (setClient_ok hc _)
  apply Returns.bind_eq (Heap.free_ok hp.1)
  apply Returns.pure
  exact ⟨⟨tree, rfl⟩, h.change hp.1 hc (htables.freeOpen hp.owned hp.2 htree) (Nat.sub_le _ _)
    rfl rfl (fun con' hcon' => by cases hcon') fun _ => hok⟩

/-- `connection_free`, of a closing connection. -/
theorem Inv.freeClosing (h : s.Inv dying) (hp : s.connections.get p = some con)
    (hclosing : con.closing = true) (hc : s.clients.get con.client = some cl)
    (hok : cl.freeing = true ∨ cl.sendingFlow ≠ some p) :
    Returns (s.connectionFree p) fun s' => s' = s.updated p none con.client
        { cl with closingConnectionsList := cl.closingConnectionsList.erase p } ∧
      s'.Inv dying ∧ s.Keeps s' := by
  have htables := h.tables _ cl hc
  have hown := owned_eq_some.mpr ⟨hp, rfl⟩
  apply Returns.bind_eq (Heap.read_ok hp)
  apply Returns.bind_eq (Heap.read_ok hc)
  apply Returns.bind_eq (assert_ok (assertFree hok))
  rw [if_pos hclosing]
  apply Returns.bind_eq (unlink_ok ((htables.mem_closing p).mpr ⟨con, hown, hclosing⟩))
  apply Returns.bind_eq (setClient_ok hc _)
  apply Returns.bind_eq (Heap.free_ok hp)
  apply Returns.pure
  exact ⟨rfl, h.change hp hc (htables.freeClosing hown hclosing) (Nat.le_refl _) rfl rfl
    (fun con' hcon' => by cases hcon') fun _ => hok⟩

/-- `connection_close`: the connection is not open any more, and there is one connection fewer. -/
theorem Inv.connectionClose (h : s.Inv none) (hp : s.Open p con) :
    Returns (s.connectionClose p) fun s' => s'.Inv none ∧ s.Keeps s' ∧
      (∀ con', ¬ s'.Open p con') ∧
      ∀ cl, s.clients.get con.client = some cl → ∃ cl',
        s'.clients.get con.client = some cl' ∧ cl'.numConnections + 1 = cl.numConnections := by
  obtain ⟨cl, hc, htables, hown⟩ := h.owner_of hp.1
  have hflows := h.flows _ cl hc (by simp)
  have hpos : cl.numConnections - 1 + 1 = cl.numConnections := by
    have hmem := List.length_pos_of_mem (htables.mem_list_of hown hp.2)
    rw [← htables.num] at hmem
    omega
  have hafter : ∀ {x : Option ServerConnection} {cl' : ServerClient},
      (∀ con', x = some con' → con'.closing = true) →
      cl'.numConnections = cl.numConnections - 1 →
      (∀ con', ¬ (s.updated p x con.client cl').Open p con') ∧
      ∀ cl₂, s.clients.get con.client = some cl₂ → ∃ cl'',
        (s.updated p x con.client cl').clients.get con.client = some cl'' ∧
        cl''.numConnections + 1 = cl₂.numConnections := by
    intro x cl' hx hnum
    constructor
    · rintro con' ⟨hget, hopen⟩
      rw [updated_connections hp.1, Function.update_self] at hget
      cases (hx con' hget).symm.trans hopen
    · intro cl₂ hc₂
      cases hc.symm.trans hc₂
      exact ⟨cl', updated_client hc, by rw [hnum, hpos]⟩
  apply Returns.bind_eq (Heap.read_ok hp.1)
  apply Returns.bind_eq (assert_ok (by rw [hp.2]; rfl))
  apply Returns.bind_eq (Heap.read_ok hc)
  apply Returns.bind_eq (isBusy_ok hflows.freeing)
  by_cases hbusy : cl.sendingFlow = some p
  · rw [hbusy, beq_self_eq_true, Bool.not_true, if_neg Bool.false_ne_true]
    apply Returns.bind (htables.remove_ok hown hp.2)
    rintro _ ⟨tree, htree, rfl⟩
    apply Returns.bind_eq (h.freeUdp_ok hp)
    apply Returns.bind_eq (setClient_ok hc _)
    refine ⟨_, setConnection_ok (by exact hp.1) _, ?_⟩
    obtain ⟨hinv, hkeeps⟩ := h.change hp.1 hc
      (x := some { con with udp := false, handlerBusy := true, firstJob := false, closing := true })
      (htables.closeLater hown hp.2 htree rfl rfl) (Nat.sub_le _ _) rfl rfl
      (fun con' hcon' => by
        cases hcon'
        exact ⟨⟨rfl, rfl, rfl, rfl, rfl, rfl, rfl, fun hjob => by cases hjob⟩, rfl,
          fun _ _ => ⟨hbusy, rfl⟩, fun hopen => by cases hopen⟩)
      (fun hnone => by cases hnone)
    exact ⟨hinv, hkeeps, hafter (fun con' hcon' => by cases hcon'; rfl) rfl⟩
  · rw [beq_eq_false_iff_ne.mpr hbusy, Bool.not_false, if_pos rfl]
    apply (h.freeOpen hp hc (Or.inr hbusy)).mono
    rintro s' ⟨⟨tree, rfl⟩, hinv, hkeeps⟩
    exact ⟨hinv, hkeeps, hafter (fun con' hcon' => by cases hcon') rfl⟩

/-- An open connection changes, but neither its addresses nor its port. -/
theorem Inv.modify (h : s.Inv none) (hp : s.Open p con) (hsame : con'.Same con)
    (hopen : con'.closing = false) (hbusy : con'.handlerBusy = con.handlerBusy)
    (hudp : con'.udp = con.udp) :
    Returns (s.setConnection p con') fun s' => s'.Inv none ∧ s.Keeps s' ∧ s'.Open p con' := by
  obtain ⟨cl, hc, htables, hown⟩ := h.owner_of hp.1
  have hflows := h.flows _ cl hc (by simp)
  have hclosing : con'.closing = con.closing := hopen.trans hp.2.symm
  have hchange := h.change hp.1 hc (x := some con')
    (htables.modify hown hsame.conid hclosing hudp) (Nat.le_refl _) rfl rfl
    (fun con'' hcon'' => by
      cases hcon''
      refine ⟨hsame, ?_, fun hclose => (by cases hopen.symm.trans hclose), fun _ => hp⟩
      rw [hbusy, hclosing]
      exact hflows.handler p con hown)
    (fun hnone => by cases hnone)
  have heq : s.updated p (some con') con.client cl
      = { s with connections := s.connections.set p (some con') } := by
    unfold Server.updated
    rw [Heap.set_self hc]
  rw [heq] at hchange
  refine ⟨_, setConnection_ok hp.1 con', hchange.1, hchange.2, ?_, hopen⟩
  show (Heap.set s.connections p _).get p = _
  rw [Heap.get_set (Heap.lt_next hp.1), Function.update_self]

/-- A connection is used. -/
theorem Inv.useConnection (h : s.Inv none) (hp : s.Open p con) (now : Int) :
    Returns (s.useConnection p now) fun s' => s'.Inv none ∧ s.Keeps s' ∧
      s'.Open p { con with lastUseTime := now } := by
  obtain ⟨cl, hc, htables, hown⟩ := h.owner_of hp.1
  have hmem := htables.mem_list_of hown hp.2
  have hflows := h.flows _ cl hc (by simp)
  have htables' : Tables
      (Function.update (s.owned con.client) p (some { con with lastUseTime := now })) cl :=
    htables.modify hown rfl rfl rfl
  obtain ⟨hinv, hkeeps⟩ := h.change hp.1 hc (htables'.use hmem) (Nat.le_refl _) rfl rfl
    (fun con' hcon' => by
      cases hcon'
      exact ⟨⟨rfl, rfl, rfl, rfl, rfl, rfl, rfl, id⟩, hflows.handler p con hown,
        fun hclosing => (by cases hp.2.symm.trans hclosing), fun _ => hp⟩)
    (fun hnone => by cases hnone)
  apply Returns.bind_eq (Heap.read_ok hp.1)
  apply Returns.bind_eq (setConnection_ok hp.1 _)
  apply Returns.bind_eq (Heap.read_ok hc)
  apply Returns.bind_eq (unlink_ok hmem)
  refine ⟨_, setClient_ok (by exact hc) _, hinv, hkeeps, ?_, hp.2⟩
  show (Heap.set s.connections p _).get p = _
  rw [Heap.get_set (Heap.lt_next hp.1), Function.update_self]

/-- `connection_send_to_udp`. -/
theorem Inv.connectionSendToUdp {data : List UInt8} (h : s.Inv none) (hp : s.Open p con)
    (hdata : (data.length : Int) ≤ s.options.udpMtu) (now : Int) (place : Bool) :
    Returns (s.connectionSendToUdp p data now place) fun r => r.1.Inv none ∧ s.Keeps r.1 ∧
      (∃ con', r.1.Open p con' ∧ con'.Same con) ∧
      ∀ d, r.2 = some d → d = ⟨p, con.addr, data⟩ := by
  apply Returns.bind_eq (Heap.read_ok hp.1)
  apply Returns.bind_eq (assert_ok (by rw [hp.2]; rfl))
  apply Returns.bind_eq (assert_ok (decide_eq_true hdata))
  apply Returns.bind (h.useConnection hp now)
  rintro s' ⟨hinv, hkeeps, hopen⟩
  refine Returns.pure ⟨hinv, hkeeps, ⟨_, hopen, ⟨rfl, rfl, rfl, rfl, rfl, rfl, rfl, id⟩⟩, ?_⟩
  intro d hd
  split at hd
  · exact (Option.some.inj hd).symm
  · cases hd

/-- `connection_send_to_client` writes the packet of the connection. -/
theorem Inv.connectionSendToClient {data : List UInt8} {out : Option (List UInt8)}
    (h : s.Inv none) (hp : s.Open p con) (flags : UInt8)
    (hdata : (data.length : Int) ≤ s.options.udpMtu)
    (hout : ∀ buf, out = some buf → s.udpgwMtu ≤ buf.length) :
    Returns (s.connectionSendToClient p flags data out) fun r =>
      ∀ packet, r = some packet → packet = udpPacket flags con.conid con.origAddr data := by
  have hsize := con.origAddr.size_le
  have hmtu := h.udpgwMtu
  have hheader : udpgwHeaderSize = 3 := rfl
  apply Returns.bind_eq (Heap.read_ok hp.1)
  apply Returns.bind_eq (assert_ok (decide_eq_true hdata))
  apply Returns.bind_eq (asInt_ok (by omega) (by omega))
  split
  · exact Returns.pure (by simp)
  rename_i hroom
  cases out with
  | none => exact Returns.pure (by simp)
  | some buf =>
    have hbuf := hout buf rfl
    have hfits : 3 + con.origAddr.size + data.length ≤ buf.length := by omega
    obtain ⟨b₁, b₂, b₃, hb₁, hb₂, hb₃, hlen, htake⟩ := copyTo_udpPacket hfits flags con.conid
    apply Returns.bind_eq hb₁
    apply Returns.bind_eq (asInt_ok (by omega) (by omega))
    apply Returns.bind_eq hb₂
    apply Returns.bind_eq (asInt_ok (by omega) (by omega))
    rw [show ((udpgwHeaderSize : Int) + con.origAddr.size).toNat = 3 + con.origAddr.size by omega]
    apply Returns.bind_eq hb₃
    apply Returns.bind_eq (asInt_ok (by omega) (by omega))
    apply Returns.bind_eq (assert_ok (decide_eq_true (by omega)))
    rw [show ((udpgwHeaderSize : Int) + con.origAddr.size + data.length).toNat
      = 3 + con.origAddr.size + data.length by omega]
    apply Returns.bind_eq (slice_ok (by omega))
    rw [List.drop_zero, htake]
    exact Returns.pure fun packet hpacket => (Option.some.inj hpacket).symm

/-! ## The search for a local port -/

/-- What is known after some connections: their ports are flagged, if an address needs them to
differ, and the least recently used one of them has such a port and is not busy. -/
structure PortUsage.Of (acc : PortUsage) (s : Server) (addr : UdpAddr)
    (seen : Nat → Prop) : Prop where
  length : acc.usage.length = (s.options.getLocalNumPorts addr).toNat
  flagged : ∀ p con, seen p → s.Open p con → 0 ≤ con.localPortIndex →
    s.options.sameRemote con.addr addr = true → acc.usage.getD con.localPortIndex.toNat true = true
  least : ∀ p, acc.leastCon = some p → ∃ con cl, s.Open p con ∧ 0 ≤ con.localPortIndex ∧
    s.options.sameRemote con.addr addr = true ∧ s.clients.get con.client = some cl ∧
    cl.sendingFlow ≠ some p

theorem Inv.open_of_mem (h : s.Inv dying) (hc : s.clients.get c = some cl)
    (hp : p ∈ cl.connectionsList) : ∃ con, s.Open p con ∧ con.client = c := by
  obtain ⟨con, hcon, hopen⟩ := ((h.tables c cl hc).mem_list p).mp hp
  obtain ⟨hget, hclient⟩ := owned_eq_some.mp hcon
  exact ⟨con, ⟨hget, hopen⟩, hclient⟩

theorem Inv.mem_of_open (h : s.Inv dying) (hp : s.Open p con) :
    ∃ cl, s.clients.get con.client = some cl ∧ p ∈ cl.connectionsList := by
  obtain ⟨cl, hc, htables, hown⟩ := h.owner_of hp.1
  exact ⟨cl, hc, htables.mem_list_of hown hp.2⟩

theorem getD_set_true {usage : List Bool} {i j : Nat} (h : usage.getD j true = true) :
    (usage.set i true).getD j true = true := by
  rw [List.getD_eq_getElem?_getD] at h ⊢
  rw [List.getElem?_set]
  split
  · split <;> rfl
  · exact h

/-- A connection that does not need a port other than that of the new one. -/
theorem PortUsage.Of.skip {acc : PortUsage} {seen : Nat → Prop} (hacc : acc.Of s addr seen)
    (hp : s.Open p con) (hskip : 0 ≤ con.localPortIndex →
      s.options.sameRemote con.addr addr = false) :
    acc.Of s addr (fun q => seen q ∨ q = p) where
  length := hacc.length
  flagged q con' hq hopen hle hsame := by
    rcases hq with hq | rfl
    · exact hacc.flagged q con' hq hopen hle hsame
    · cases hopen.inj hp
      cases hsame.symm.trans (hskip hle)
  least := hacc.least

/-- A connection whose port is in use. -/
theorem PortUsage.Of.flag {acc : PortUsage} {seen : Nat → Prop} {leastCon : Option Nat}
    (hacc : acc.Of s addr seen) (hp : s.Open p con) (hle : 0 ≤ con.localPortIndex)
    (hsame : s.options.sameRemote con.addr addr = true)
    (hc : s.clients.get con.client = some cl)
    (hleast : leastCon = acc.leastCon ∨ (leastCon = some p ∧ cl.sendingFlow ≠ some p)) :
    PortUsage.Of ⟨acc.usage.set con.localPortIndex.toNat true, leastCon⟩ s addr
      (fun q => seen q ∨ q = p) where
  length := List.length_set.trans hacc.length
  flagged q con' hq hopen hle' hsame' := by
    rcases hq with hq | rfl
    · exact getD_set_true (hacc.flagged q con' hq hopen hle' hsame')
    · cases hopen.inj hp
      dsimp only
      rw [List.getD_eq_getElem?_getD, List.getElem?_set_self']
      cases acc.usage[con.localPortIndex.toNat]? <;> rfl
  least q hq := by
    rcases hleast with heq | ⟨heq, hbusy⟩
    · exact hacc.least q (heq ▸ hq)
    · cases heq.symm.trans hq
      exact ⟨con, cl, hp, hle, hsame, hc, hbusy⟩

theorem Inv.flagPort {acc : PortUsage} {seen : Nat → Prop} (h : s.Inv none)
    (hc : s.clients.get c = some cl) (hp : p ∈ cl.connectionsList) (hacc : acc.Of s addr seen) :
    Returns (s.flagPort addr (s.options.getLocalNumPorts addr) c acc p) fun acc' =>
      acc'.Of s addr (fun q => seen q ∨ q = p) := by
  obtain ⟨con, hopen, rfl⟩ := h.open_of_mem hc hp
  have hflows := h.flows _ cl hc (by simp)
  apply Returns.bind_eq (Heap.read_ok hopen.1)
  apply Returns.bind_eq (assert_ok (beq_self_eq_true _))
  apply Returns.bind_eq (assert_ok (by rw [hopen.2]; rfl))
  split
  · rename_i hskip
    apply Returns.pure
    apply hacc.skip hopen
    intro hle
    cases hsame : s.options.sameRemote con.addr addr with
    | false => rfl
    | true =>
      rw [sameRemote_family hsame, bne_self_eq_false, Bool.false_or] at hskip
      have hlt := of_decide_eq_true hskip
      omega
  rename_i hnot
  rw [Bool.or_eq_true, not_or, decide_eq_true_eq, bne_iff_ne, not_not] at hnot
  have hle : 0 ≤ con.localPortIndex := by omega
  have hlt := h.port_lt p con hopen hle
  rw [getLocalNumPorts_eq hnot.1] at hlt
  apply Returns.bind_eq (assert_ok (decide_eq_true hlt))
  cases hsame : s.options.sameRemote con.addr addr with
  | false => exact Returns.pure (hacc.skip hopen fun _ => hsame)
  | true =>
    rw [Bool.not_true, if_neg Bool.false_ne_true]
    apply Returns.bind_eq (assert_ok (decide_eq_true (by rw [hacc.length]; omega)))
    apply Returns.bind_eq (Heap.read_ok hc)
    apply Returns.bind_eq (isBusy_ok hflows.freeing)
    split
    · exact Returns.pure (hacc.flag hopen hle hsame hc (Or.inl rfl))
    rename_i hbusy
    have hbusy : cl.sendingFlow ≠ some p := fun heq => hbusy (beq_iff_eq.mpr heq)
    split
    · exact Returns.pure (hacc.flag hopen hle hsame hc (Or.inr ⟨rfl, hbusy⟩))
    · rename_i least hleast
      obtain ⟨leastCon, -, hleastCon, -⟩ := hacc.least least hleast
      apply Returns.bind_eq (Heap.read_ok hleastCon.1)
      apply Returns.pure
      split
      · exact hacc.flag hopen hle hsame hc (Or.inr ⟨rfl, hbusy⟩)
      · exact hacc.flag hopen hle hsame hc (Or.inl hleast.symm)

/-- All connections were seen. -/
theorem Inv.buildPortUsage (h : s.Inv none) (hports : 0 ≤ s.options.getLocalNumPorts addr) :
    Returns (s.buildPortUsage addr) fun acc => acc.Of s addr fun p => ∃ con, s.Open p con := by
  apply Returns.bind_eq (assert_ok (decide_eq_true hports))
  have hloop := Returns.foldlM (f := s.flagPorts addr (s.options.getLocalNumPorts addr))
    (J := fun cs acc => acc.Of s addr fun p =>
      ∃ c ∈ cs, ∃ cl, s.clients.get c = some cl ∧ p ∈ cl.connectionsList)
    (l := s.clientsList)
    (b := ⟨List.replicate (s.options.getLocalNumPorts addr).toNat false, none⟩)
    { length := List.length_replicate
      flagged := fun p con hp => by
        obtain ⟨c, hc, -⟩ := hp
        cases hc
      least := fun p hp => by cases hp }
    (by
      intro pre c acc hc hacc
      obtain ⟨cl, hcl⟩ := (h.mem_list c).mp hc
      apply Returns.bind_eq (Heap.read_ok hcl)
      apply (Returns.foldlM (f := s.flagPort addr (s.options.getLocalNumPorts addr) c)
        (J := fun ps acc => acc.Of s addr fun p => (∃ c ∈ pre, ∃ cl, s.clients.get c = some cl ∧
          p ∈ cl.connectionsList) ∨ p ∈ ps) (l := cl.connectionsList) (b := acc)
        (by simpa using hacc) _).mono
      · intro acc' hacc'
        refine { hacc' with flagged := ?_ }
        rintro p con ⟨c', hc', cl', hcl', hp⟩ hopen
        apply hacc'.flagged p con _ hopen
        rcases List.mem_append.mp hc' with hc' | hc'
        · exact Or.inl ⟨c', hc', cl', hcl', hp⟩
        · rw [List.mem_singleton.mp hc'] at hcl'
          cases hcl.symm.trans hcl'
          exact Or.inr hp
      · intro ps p acc' hp hacc'
        apply (h.flagPort hcl hp hacc').mono
        intro acc'' hacc''
        refine { hacc'' with flagged := ?_ }
        intro q con hq hopen
        apply hacc''.flagged q con _ hopen
        rcases hq with hq | hq
        · exact Or.inl (Or.inl hq)
        · rcases List.mem_append.mp hq with hq | hq
          · exact Or.inl (Or.inr hq)
          · exact Or.inr (List.mem_singleton.mp hq))
  apply hloop.mono
  intro acc hacc
  refine { hacc with flagged := ?_ }
  rintro p con - hopen
  obtain ⟨cl, hc, hmem⟩ := h.mem_of_open hopen
  exact hacc.flagged p con ⟨con.client, (h.mem_list _).mpr ⟨cl, hc⟩, cl, hc, hmem⟩ hopen

end Server

end Lightsocks.Udpgw
