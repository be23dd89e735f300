import Lightsocks.Udpgw.Client

/-!
# What udpgw is told, and what comes back

The packets of a connection go to udpgw under its id. When the id gets new addresses, the next
packet under it says so. What comes back under an id is passed on for the addresses that the id
has then, and only if the remote one is in the packet.
-/

namespace Lightsocks.Udpgw

open Lightsocks.Lib
open Lightsocks.Tunnel (UdpAddr Submission udpgwClientFlagIpv6 udpgwComputeMtuBsize)

/-! ## What was sent -/

/-- The last transmission under an id. -/
def lastUnder (conid : UInt16) (sent : List Transmission) : Option Transmission :=
  (sent.filter fun t => t.conid == conid).getLast?

/-- The packet tells udpgw that the id has new addresses. -/
def Transmission.Rebinds (t : Transmission) : Prop := t.flags &&& udpgwClientFlagRebind ≠ 0

/-- Every transmission rebinds its id, or has the addresses of the last one under it. -/
def Marked (sent : List Transmission) : Prop :=
  ∀ before t after, sent = before ++ t :: after →
    t.Rebinds ∨ ∃ t', lastUnder t.conid before = some t' ∧ t'.conaddr = t.conaddr

/-- A packet is that of its transmission; the flags that are set elsewhere are not set in it. -/
structure Transmission.Formed (t : Transmission) : Prop where
  ipv6 : t.flags &&& udpgwClientFlagIpv6 = 0
  keepalive : t.flags &&& udpgwClientFlagKeepalive = 0
  packet : ∀ packet, t.packet = some packet →
    packet = udpPacket t.flags t.conid t.conaddr.remoteAddr t.data

section

variable {sent : List Transmission} {t : Transmission} {conid : UInt16}

theorem lastUnder_concat_self : lastUnder t.conid (sent ++ [t]) = some t := by
  unfold lastUnder
  rw [List.filter_append, List.filter_cons_of_pos (by simp)]
  exact List.getLast?_concat

theorem lastUnder_concat_ne (h : t.conid ≠ conid) :
    lastUnder conid (sent ++ [t]) = lastUnder conid sent := by
  unfold lastUnder
  rw [List.filter_append, List.filter_cons_of_neg (by simpa using h), List.filter_nil,
    List.append_nil]

theorem mem_of_lastUnder (h : lastUnder conid sent = some t) : t ∈ sent ∧ t.conid = conid := by
  have hmem := List.mem_of_getLast? h
  exact ⟨(List.mem_filter.mp hmem).1, eq_of_beq (List.mem_filter.mp hmem).2⟩

theorem marked_nil : Marked [] := by
  intro before t after h
  cases before <;> cases h

theorem Marked.concat (h : Marked sent) (ht : t.Rebinds ∨
    ∃ t', lastUnder t.conid sent = some t' ∧ t'.conaddr = t.conaddr) : Marked (sent ++ [t]) := by
  intro before t₁ after heq
  rcases List.eq_nil_or_concat after with rfl | ⟨after', t₂, rfl⟩
  · obtain ⟨rfl, ht₁⟩ := List.append_inj' heq rfl
    cases ht₁
    exact ht
  · rw [List.concat_eq_append, ← List.cons_append, ← List.append_assoc] at heq
    obtain ⟨heq, -⟩ := List.append_inj' heq rfl
    exact h before t₁ after' heq

end

/-- The flags with which a packet is submitted are neither of those that are set elsewhere. -/
theorem submitFlags_and (s : Submission) :
    submitFlags s &&& udpgwClientFlagIpv6 = 0 ∧ submitFlags s &&& udpgwClientFlagKeepalive = 0 := by
  unfold submitFlags
  split <;> decide

theorem Connection.transmission_formed (con : Connection) {flags : UInt8} (data : List UInt8)
    (out : Option (List UInt8)) (hipv6 : flags &&& udpgwClientFlagIpv6 = 0)
    (hkeepalive : flags &&& udpgwClientFlagKeepalive = 0) :
    (con.transmission flags data out).Formed where
  ipv6 := hipv6
  keepalive := hkeepalive
  packet packet hpacket := by
    obtain ⟨_, -, rfl⟩ := Option.map_eq_some_iff.mp hpacket
    rfl

/-! ## The invariant of a run -/

structure ClientRun.Inv (r : ClientRun) (mtu : Int) (max : Nat) : Prop where
  client : r.client.Inv mtu max r.uses
  /-- The first packet of a new connection is the first under its id. -/
  first : ∀ p, r.firstJob = some p → ∃ con, r.client.connections[p]? = some con ∧
    (con.firstData.length : Int) ≤ mtu ∧ ∀ t ∈ r.sent, t.conid ≠ con.conid
  flags : ∀ con ∈ r.client.connections, con.firstFlags &&& udpgwClientFlagIpv6 = 0 ∧
    con.firstFlags &&& udpgwClientFlagKeepalive = 0
  /-- No id is sent before it is that of a connection. -/
  conids : ∀ t ∈ r.sent, ∃ p, r.client.conidOf p = some t.conid
  /-- The last transmission under the id of a connection has its addresses. -/
  bound : ∀ p con, r.client.connections[p]? = some con → r.firstJob ≠ some p →
    ∃ t, lastUnder con.conid r.sent = some t ∧ t.conaddr = con.conaddr
  marked : Marked r.sent
  formed : ∀ t ∈ r.sent, t.Formed
  data : ∀ t ∈ r.sent, (t.data.length : Int) ≤ mtu
  /-- What is passed on is for addresses under whose id something was sent. -/
  received : ∀ d ∈ r.received, ∃ t ∈ r.sent, t.conid = d.conid ∧ t.conaddr = d.conaddr

namespace ClientRun

variable {r : ClientRun} {mtu : Int} {max : Nat} {uses : List Nat} {client : Client} {p : Nat}
  {con con' : Connection} {t : Transmission} {out : Option (List UInt8)}

/-- Connections are told apart by their ids. -/
theorem Inv.conid_ne (h : r.Inv mtu max) {q : Nat} {con₂ : Connection}
    (hcon : r.client.connections[p]? = some con) (hcon₂ : r.client.connections[q]? = some con₂)
    (hq : q ≠ p) : con₂.conid ≠ con.conid := by
  intro heq
  apply hq
  have hmem := fun p => (h.client.mem_byConid p).mpr
  apply h.client.byConid.inj (hmem q (Client.lt_of_get hcon₂)) (hmem p (Client.lt_of_get hcon))
  rw [Client.conidOf, hcon₂, Client.conidOf, hcon]
  exact congrArg some heq

/-- A packet of the connection at `p`, which may have got new addresses. -/
theorem Inv.transmit (h : r.Inv mtu max) (hclient : client.Inv mtu max uses)
    (hcon : r.client.connections[p]? = some con) (hcon' : client.connections[p]? = some con')
    (hother : ∀ q, q ≠ p → client.connections[q]? = r.client.connections[q]?)
    (hconid : con'.conid = con.conid) (hflags : con'.firstFlags = con.firstFlags)
    (hjob : r.firstJob = none ∨ r.firstJob = some p) (ht : t.Formed)
    (htdata : (t.data.length : Int) ≤ mtu)
    (htid : t.conid = con'.conid) (htaddr : t.conaddr = con'.conaddr)
    (hmark : t.Rebinds ∨ (con'.conaddr = con.conaddr ∧ r.firstJob = none)) :
    Inv { r with client, firstJob := none, uses, sent := r.sent ++ [t] } mtu max where
  client := hclient
  first p' hp' := by cases hp'
  flags c hc := by
    obtain ⟨q, hq⟩ := List.mem_iff_getElem?.mp hc
    by_cases hqp : q = p
    · subst hqp
      cases hcon'.symm.trans hq
      rw [hflags]
      exact h.flags con (List.mem_of_getElem? hcon)
    · rw [hother q hqp] at hq
      exact h.flags c (List.mem_of_getElem? hq)
  conids t' ht' := by
    rcases List.mem_append.mp ht' with ht' | ht'
    · obtain ⟨q, hq⟩ := h.conids t' ht'
      obtain ⟨c, hc, hcid⟩ := Client.conidOf_eq_some.mp hq
      by_cases hqp : q = p
      · subst hqp
        cases hcon.symm.trans hc
        exact ⟨q, Client.conidOf_eq_some.mpr ⟨con', hcon', hconid.trans hcid⟩⟩
      · exact ⟨q, Client.conidOf_eq_some.mpr ⟨c, (hother q hqp).trans hc, hcid⟩⟩
    · rw [List.mem_singleton.mp ht']
      exact ⟨p, Client.conidOf_eq_some.mpr ⟨con', hcon', htid.symm⟩⟩
  bound q c hq _ := by
    by_cases hqp : q = p
    · subst hqp
      cases hcon'.symm.trans hq
      rw [← htid]
      exact ⟨t, lastUnder_concat_self, htaddr⟩
    · rw [hother q hqp] at hq
      have hne : t.conid ≠ c.conid := by
        rw [htid, hconid]
        exact (h.conid_ne hcon hq hqp).symm
      have hnotJob : r.firstJob ≠ some q := by
        intro hjobq
        rcases hjob with hjob | hjob
        · cases hjob.symm.trans hjobq
        · cases hjob.symm.trans hjobq
          exact hqp rfl
      obtain ⟨t', ht', haddr⟩ := h.bound q c hq hnotJob
      exact ⟨t', (lastUnder_concat_ne hne).trans ht', haddr⟩
  marked := by
    apply h.marked.concat
    rcases hmark with hrebinds | ⟨haddr, hnone⟩
    · exact Or.inl hrebinds
    · obtain ⟨t', ht', haddr'⟩ := h.bound p con hcon (by rw [hnone]; simp)
      rw [htid, hconid, htaddr, haddr]
      exact Or.inr ⟨t', ht', haddr'⟩
  formed t' ht' := by
    rcases List.mem_append.mp ht' with ht' | ht'
    · exact h.formed t' ht'
    · rw [List.mem_singleton.mp ht']
      exact ht
  data t' ht' := by
    rcases List.mem_append.mp ht' with ht' | ht'
    · exact h.data t' ht'
    · rw [List.mem_singleton.mp ht']
      exact htdata
  received d hd := by
    obtain ⟨t', ht', hd'⟩ := h.received d hd
    exact ⟨t', List.mem_append_left _ ht', hd'⟩

/-- A new connection, whose first packet is not sent yet. -/
theorem Inv.create (h : r.Inv mtu max) (hjob : r.firstJob = none)
    (hclient : client.Inv mtu max uses)
    (hunused : r.client.findConnectionByConid con.conid = none)
    (hconns : client.connections = r.client.connections ++ [con])
    (hdata : (con.firstData.length : Int) ≤ mtu)
    (hflags : con.firstFlags &&& udpgwClientFlagIpv6 = 0 ∧
      con.firstFlags &&& udpgwClientFlagKeepalive = 0) :
    Inv { r with client, firstJob := some r.client.connections.length, uses } mtu max where
  client := hclient
  first p' hp' := by
    cases hp'
    refine ⟨con, by rw [hconns]; exact List.getElem?_concat_length, hdata, ?_⟩
    intro t ht heq
    obtain ⟨p, hp⟩ := h.conids t ht
    rw [heq] at hp
    cases (h.client.findByConid.mpr hp).symm.trans hunused
  flags c hc := by
    rw [hconns] at hc
    rcases List.mem_append.mp hc with hc | hc
    · exact h.flags c hc
    · rw [List.mem_singleton.mp hc]
      exact hflags
  conids t ht := by
    obtain ⟨p, hp⟩ := h.conids t ht
    obtain ⟨c, hc, hcid⟩ := Client.conidOf_eq_some.mp hp
    refine ⟨p, Client.conidOf_eq_some.mpr ⟨c, ?_, hcid⟩⟩
    rw [hconns, List.getElem?_append_left (Client.lt_of_get hc)]
    exact hc
  bound p c hp hnot := by
    have hlt := Client.lt_of_get hp
    rw [hconns, List.length_append, List.length_singleton] at hlt
    have hne : p ≠ r.client.connections.length := fun heq => hnot (heq ▸ rfl)
    rw [hconns, List.getElem?_append_left (by omega)] at hp
    exact h.bound p c hp (by rw [hjob]; simp)
  marked := h.marked
  formed := h.formed
  data := h.data
  received := h.received

/-- The connections are the same ones. -/
theorem Inv.keep (h : r.Inv mtu max) (hclient : client.Inv mtu max uses)
    (hconns : client.connections = r.client.connections) :
    Inv { r with client, uses } mtu max where
  client := hclient
  first := by
    rw [hconns]
    exact h.first
  flags := by
    rw [hconns]
    exact h.flags
  conids := by
    show ∀ t ∈ r.sent, ∃ p, (client.connections[p]?.map Connection.conid) = some t.conid
    rw [hconns]
    exact h.conids
  bound := by
    rw [hconns]
    exact h.bound
  marked := h.marked
  formed := h.formed
  data := h.data
  received := h.received

theorem Inv.submits {s : Submission} {sub : Client.Submitted} (h : r.Inv mtu max)
    (hjob : r.firstJob = none) (hdata : (s.data.length : Int) ≤ r.client.udpMtu)
    (hsub : r.client.Submits mtu max r.uses s out client sub) :
    (r.submitted (client, sub)).Inv mtu max := by
  have hflags := submitFlags_and s
  rw [h.client.udpMtu] at hdata
  cases hsub with
  | failed hlt hconns hinv => exact h.keep hinv hconns
  | created hlt hunused hconns hinv =>
    exact h.create hjob hinv hunused hconns hdata hflags
  | @known p con hcon haddr hconns hinv =>
    have hinv' := h.transmit hinv hcon (by rw [hconns]; exact hcon) (fun q _ => by rw [hconns]) rfl
      rfl (Or.inl hjob) (con.transmission_formed s.data out hflags.1 hflags.2) hdata rfl rfl
      (Or.inr ⟨rfl, hjob⟩)
    rw [← hjob] at hinv'
    exact hinv'
  | @reused p rest con huses hcon hconns hinv =>
    have hipv6 : (submitFlags s ||| udpgwClientFlagRebind) &&& udpgwClientFlagIpv6 = 0 :=
      or_and_eq_zero hflags.1 (by decide)
    have hkeepalive : (submitFlags s ||| udpgwClientFlagRebind) &&& udpgwClientFlagKeepalive = 0 :=
      or_and_eq_zero hflags.2 (by decide)
    have hrebinds : (submitFlags s ||| udpgwClientFlagRebind) &&& udpgwClientFlagRebind ≠ 0 := by
      rw [or_and_self]
      decide
    have hcon' : client.connections[p]? = some { con with conaddr := .of s } := by
      rw [hconns, List.getElem?_set_self (Client.lt_of_get hcon)]
    have hinv' := h.transmit hinv hcon hcon'
      (fun q hq => by rw [hconns]; exact List.getElem?_set_ne (Ne.symm hq)) rfl rfl (Or.inl hjob)
      (Connection.transmission_formed { con with conaddr := .of s } s.data out hipv6 hkeepalive)
      hdata rfl rfl (Or.inl hrebinds)
    rw [← hjob] at hinv'
    exact hinv'

theorem Inv.firstJob (h : r.Inv mtu max) (hjob : r.firstJob = some p) (hfits : r.fits out = true)
    (m : DataModel) : Returns (r.exec m (.firstJob out)) fun r' => r'.Inv mtu max := by
  obtain ⟨con, hcon, hdata, hnone⟩ := h.first p hjob
  obtain ⟨hipv6, hkeepalive⟩ := h.flags con (List.mem_of_getElem? hcon)
  have hdata' := hdata
  rw [← h.client.udpMtu] at hdata'
  unfold exec
  rw [hjob]
  apply Returns.bind_eq (Client.con_ok hcon)
  apply Returns.bind_eq (h.client.connectionSend _ hcon hdata' hfits)
  apply Returns.pure
  have hrebinds : (udpgwClientFlagRebind ||| con.firstFlags) &&& udpgwClientFlagRebind ≠ 0 := by
    rw [UInt8.or_comm, or_and_self]
    decide
  exact h.transmit h.client hcon hcon (fun q _ => rfl) rfl rfl (Or.inr hjob)
    (con.transmission_formed con.firstData out (or_and_eq_zero (by decide) hipv6)
      (or_and_eq_zero (by decide) hkeepalive)) hdata rfl rfl (Or.inl hrebinds)

theorem Inv.receive {data : List UInt8} (h : r.Inv mtu max) (hjob : r.firstJob = none)
    (hdata : (data.length : Int) ≤ r.client.udpgwMtu) (m : DataModel) :
    Returns (r.exec m (.receive data)) fun r' => r'.Inv mtu max := by
  apply Returns.bind (h.client.recvInterfaceHandlerSend m hdata)
  rintro ⟨client, res⟩ ⟨hconns, hres⟩
  apply Returns.pure
  match res with
  | none => exact h.keep hres hconns
  | some (p, d) =>
    obtain ⟨hinv, -, -, -, con, hcon, hconid, hconaddr⟩ := hres
    obtain ⟨t, ht, haddr⟩ := h.bound p con hcon (by rw [hjob]; simp)
    obtain ⟨hmem, htid⟩ := mem_of_lastUnder ht
    have hkeep := h.keep hinv hconns
    exact { hkeep with
      received := by
        intro d' hd'
        rcases List.mem_append.mp hd' with hd' | hd'
        · exact h.received d' hd'
        · rw [List.mem_singleton.mp hd']
          exact ⟨t, hmem, htid.trans hconid, haddr.trans hconaddr⟩ }

/-- A step of the client. -/
theorem Inv.exec {e : ClientEvent} (h : r.Inv mtu max) (he : r.enabled e = true) (m : DataModel) :
    Returns (r.exec m e) fun r' => r'.Inv mtu max := by
  cases e with
  | submit s res out =>
    simp only [enabled, Bool.and_eq_true, decide_eq_true_eq, Option.isNone_iff_eq_none] at he
    obtain ⟨⟨hjob, hdata⟩, hfits⟩ := he
    apply Returns.bind (h.client.submitPacket res hdata hfits)
    rintro ⟨client, sub⟩ hsub
    exact Returns.pure (h.submits hjob hdata hsub)
  | firstJob out =>
    obtain ⟨hjob, hfits⟩ := Bool.and_eq_true_iff.mp he
    obtain ⟨p, hp⟩ := Option.isSome_iff_exists.mp hjob
    exact h.firstJob hp hfits m
  | receive data =>
    simp only [enabled, Bool.and_eq_true, decide_eq_true_eq, Option.isNone_iff_eq_none] at he
    exact h.receive he.1 he.2 m

end ClientRun

/-! ## Every run -/

section

variable {m : DataModel} {mtu : Int} {max : Nat} {es : List ClientEvent}
  {res : Except CFault ClientRun}

/-- What `UdpGwClient_Init` asserts. -/
structure Startable (mtu : Int) (max : Nat) : Prop where
  udpMtu : 0 ≤ mtu
  pp : mtu + 21 ≤ 65535
  max : 0 < max

theorem Client.init_inv (m : DataModel) (h : Startable mtu max) :
    (Client.init m mtu max).Inv mtu max [] where
  num := rfl
  le := Nat.zero_le _
  max_eq := by
    show (if max > 65535 + 1 then 65535 + 1 else max) = min max 65536
    split
    · omega
    · omega
  udpMtu := rfl
  udpgwMtu := by
    have h0 := h.udpMtu
    have hle := h.pp
    show udpgwComputeMtuBsize m mtu = mtu + 21
    rw [Tunnel.udpgwComputeMtuBsize_eq m h0 (by unfold Tunnel.intMax; omega)]
    show (if 3 + (18 + mtu) ≤ 2147483647 then 3 + (18 + mtu) else -1) = mtu + 21
    rw [if_pos (by omega)]
    omega
  mtu_le := h.pp
  byConaddr := .nil
  byConid := .nil
  mem_byConaddr p := by simp [Client.init]
  mem_byConid p := by simp [Client.init]
  mem_list p := by simp [Client.init]
  list := rfl
  next := by
    have hmax := h.max
    show 0 < if max > 65535 + 1 then 65535 + 1 else max
    split
    · omega
    · exact hmax
  conid_lt c hc := by cases hc

theorem client_inv (hstart : Startable mtu max) (h : (udpGwClient m mtu max).Runs es res) :
    Returns res fun r => r.Inv mtu max := by
  apply h.returns
  · exact {
      client := Client.init_inv m hstart
      first := fun p hp => by cases hp
      flags := fun c hc => by cases hc
      conids := fun t ht => by cases ht
      bound := fun p c hc => by cases hc
      marked := marked_nil
      formed := fun t ht => by cases ht
      data := fun t ht => by cases ht
      received := fun d hd => by cases hd }
  · intro es r e hinv he
    exact hinv.exec he m

/-- The trees find a connection exactly by its addresses and by its id; the list has each of them
once, in the order of use; and there are as many as counted, and no more than allowed. -/
theorem client_tables (hstart : Startable mtu max) (h : (udpGwClient m mtu max).Runs es res) :
    ∃ r, res = .ok r ∧ r.client.numConnections = r.client.connections.length ∧
      r.client.numConnections ≤ min max 65536 ∧
      (∀ conaddr p, r.client.findConnectionByConaddr conaddr = some p ↔
        r.client.connections[p]?.map Connection.conaddr = some conaddr) ∧
      (∀ conid p, r.client.findConnectionByConid conid = some p ↔
        r.client.connections[p]?.map Connection.conid = some conid) ∧
      r.client.connectionsList = r.uses.dedup ∧
      ∀ p, p ∈ r.client.connectionsList ↔ p < r.client.connections.length := by
  obtain ⟨r, rfl, hinv⟩ := client_inv hstart h
  have hle := hinv.client.le
  rw [hinv.client.max_eq] at hle
  exact ⟨r, rfl, hinv.client.num, hle, fun _ _ => hinv.client.findByConaddr,
    fun _ _ => hinv.client.findByConid, hinv.client.list, hinv.client.mem_list⟩

/-- The addresses of a packet, with a device and a server that have one address each. -/
private def toPort (port : UInt16) (data : List UInt8) : Submission :=
  ⟨.ipv4 1 1, .ipv4 2 port, false, data⟩

private def addrTo (port : UInt16) : ConAddr := ⟨.ipv4 1 1, .ipv4 2 port⟩

/-- Packets for four addresses, with three connections allowed. The last one takes the first
connection, whose addresses were the smallest and are now the largest: it is found by these, and
by the others no more. -/
theorem client_tables_three :
    ∃ r : ClientRun, r.client.findConnectionByConaddr (addrTo 56) = some 0 ∧
      r.client.findConnectionByConaddr (addrTo 55) = some 2 ∧
      r.client.findConnectionByConaddr (addrTo 53) = none ∧
      r.client.findConnectionByConid 0 = some 0 ∧ r.client.connectionsList = [1, 2, 0] := by
  have hends : (udpGwClient ⟨32, Nat.le_refl _⟩ 2 3).ends
      [.submit (toPort 53 [7]) ⟨true, true⟩ none, .firstJob none,
        .submit (toPort 54 [8]) ⟨true, true⟩ none, .firstJob none,
        .submit (toPort 55 [9]) ⟨true, true⟩ none, .firstJob none,
        .submit (toPort 56 [10]) ⟨true, true⟩ none]
      (fun r => decide (
        r.client.connections.map Connection.conaddr = [addrTo 56, addrTo 54, addrTo 55] ∧
        r.client.connections.map Connection.conid = [0, 1, 2] ∧ r.uses = [0, 1, 2, 0])) = true := by
    decide
  obtain ⟨r, hruns, hr⟩ := Machine.runs_of_ends hends
  obtain ⟨hconaddrs, hconids, huses⟩ := of_decide_eq_true hr
  obtain ⟨r', hr', -, -, hfindAddr, hfindId, hlist, -⟩ :=
    client_tables ⟨by decide, by decide, by decide⟩ hruns
  cases hr'
  have haddrs : ∀ p : Nat, r.client.connections[p]?.map Connection.conaddr =
      ([addrTo 56, addrTo 54, addrTo 55] : List ConAddr)[p]? := by
    intro p
    rw [← hconaddrs, List.getElem?_map]
  refine ⟨r, ?_, ?_, ?_, ?_, ?_⟩
  · rw [hfindAddr, haddrs]
    rfl
  · rw [hfindAddr, haddrs]
    rfl
  · rw [Option.eq_none_iff_forall_ne_some]
    intro p hp
    rw [hfindAddr, haddrs] at hp
    have hmem := List.mem_of_getElem? hp
    exact absurd hmem (by decide)
  · rw [hfindId, ← List.getElem?_map, hconids]
    rfl
  · rw [hlist, huses]
    decide

/-- udpgw is told of new addresses: a packet under an id carries the flag, or has the addresses
of the packet before it under this id, also if that one found no place in the buffer. -/
theorem client_marks (hstart : Startable mtu max) (h : (udpGwClient m mtu max).Runs es res) :
    ∃ r, res = .ok r ∧ Marked r.sent ∧ ∀ t ∈ r.sent, t.Formed := by
  obtain ⟨r, rfl, hinv⟩ := client_inv hstart h
  exact ⟨r, rfl, hinv.marked, hinv.formed⟩

/-- The second packet, over the connection of the first, carries the flag. -/
theorem client_marks_one :
    ∃ r : ClientRun, r.sent.map Transmission.flags = [2, 2] ∧ Marked r.sent := by
  have hends : (udpGwClient ⟨32, Nat.le_refl _⟩ 2 1).ends
      [.submit (toPort 53 [7]) ⟨true, true⟩ none, .firstJob (some (List.replicate 23 0)),
        .submit (toPort 54 [8]) ⟨true, true⟩ none]
      (fun r => r.sent.map Transmission.flags == [2, 2]) = true := by
    decide
  obtain ⟨r, hruns, hr⟩ := Machine.runs_of_ends hends
  obtain ⟨r', hr', hmarked, -⟩ := client_marks ⟨by decide, by decide, by decide⟩ hruns
  cases hr'
  exact ⟨r, eq_of_beq hr, hmarked⟩

/-- When there are as many connections as allowed, a packet for new addresses takes the
connection that was not used for the longest time: every other one was used after it. It keeps
its id, the others keep their addresses, and the packet carries the flag. -/
theorem client_reuses {r : ClientRun} {s : Submission} {out : Option (List UInt8)}
    (hstart : Startable mtu max) (h : (udpGwClient m mtu max).Runs es (.ok r)) (init : Resources)
    (he : r.enabled (.submit s init out) = true)
    (hnew : r.client.findConnectionByConaddr (.of s) = none)
    (hfull : r.client.numConnections = r.client.maxConnections) :
    ∃ r' p before after t, r.exec m (.submit s init out) = .ok r' ∧
      r.uses = before ++ p :: after ∧ p ∉ after ∧
      (∀ q, q < r.client.connections.length → q ≠ p → q ∈ after) ∧
      (∀ q, r'.client.conidOf q = r.client.conidOf q) ∧
      r'.client.conaddrOf p = some (.of s) ∧
      (∀ q, q ≠ p → r'.client.conaddrOf q = r.client.conaddrOf q) ∧
      r'.sent = r.sent ++ [t] ∧ r.client.conidOf p = some t.conid ∧ t.conaddr = .of s ∧
      t.Rebinds := by
  obtain ⟨_, heq, hinv⟩ := client_inv hstart h
  cases heq
  simp only [ClientRun.enabled, Bool.and_eq_true, decide_eq_true_eq,
    Option.isNone_iff_eq_none] at he
  obtain ⟨⟨hjob, hdata⟩, hfits⟩ := he
  obtain ⟨⟨client, sub⟩, hexec, hsub⟩ := hinv.client.submitPacket init hdata hfits
  have hrun : r.exec m (.submit s init out) = .ok (r.submitted (client, sub)) := by
    show (r.client.submitPacket s init out >>= fun res => pure (r.submitted res)) = _
    rw [hexec]
    rfl
  dsimp only at hsub
  generalize hsub' : sub = sub' at hsub
  cases hsub with
  | failed hlt => omega
  | created hlt => omega
  | @known p con hcon haddr =>
    have hfind := hinv.client.findByConaddr.mpr (Client.conaddrOf_eq_some.mpr ⟨con, hcon, haddr⟩)
    cases hnew.symm.trans hfind
  | @reused p rest con huses hcon hconns hinv' =>
    obtain ⟨before, after, hbefore, hafter, hrest⟩ := dedup_cons huses
    subst hsub'
    have hlt := Client.lt_of_get hcon
    refine ⟨_, p, before, after, _, hrun, hbefore, hafter, fun q hq hqp => ?_, fun q => ?_, ?_,
      fun q hqp => ?_, rfl, ?_, rfl, ?_⟩
    · have hmem := (hinv.client.mem_list q).mpr hq
      rw [hinv.client.list, huses] at hmem
      rcases List.mem_cons.mp hmem with hmem | hmem
      · exact absurd hmem hqp
      · exact hrest q hmem
    · show client.connections[q]?.map Connection.conid = _
      rw [hconns]
      by_cases hqp : q = p
      · rw [hqp, List.getElem?_set_self hlt, Client.conidOf, hcon]
        rfl
      · rw [List.getElem?_set_ne (Ne.symm hqp), Client.conidOf]
    · show client.connections[p]?.map Connection.conaddr = _
      rw [hconns, List.getElem?_set_self hlt]
      rfl
    · show client.connections[q]?.map Connection.conaddr = _
      rw [hconns, List.getElem?_set_ne (Ne.symm hqp), Client.conaddrOf]
    · exact Client.conidOf_eq_some.mpr ⟨con, hcon, rfl⟩
    · show (submitFlags s ||| udpgwClientFlagRebind) &&& udpgwClientFlagRebind ≠ 0
      rw [or_and_self]
      decide

/-- Two connections are allowed, and a third one is asked for. -/
theorem client_reuses_two :
    ∃ (r r' : ClientRun) (p : Nat), r'.client.conaddrOf p = some (.of (toPort 55 [])) ∧
      ∀ q, q ≠ p → r'.client.conaddrOf q = r.client.conaddrOf q := by
  have hends : (udpGwClient ⟨32, Nat.le_refl _⟩ 2 2).ends
      [.submit (toPort 53 []) ⟨true, true⟩ none, .firstJob none,
        .submit (toPort 54 []) ⟨true, true⟩ none, .firstJob none,
        .submit (toPort 53 []) ⟨true, true⟩ none]
      (fun r => r.enabled (.submit (toPort 55 []) ⟨true, true⟩ none) &&
        r.client.findConnectionByConaddr (.of (toPort 55 [])) == none &&
        r.client.numConnections == r.client.maxConnections) = true := by
    decide
  obtain ⟨r, hruns, hr⟩ := Machine.runs_of_ends hends
  simp only [Bool.and_eq_true, beq_iff_eq] at hr
  obtain ⟨⟨he, hnew⟩, hfull⟩ := hr
  obtain ⟨r', p, -, -, -, -, -, -, -, -, haddr, hother, -⟩ :=
    client_reuses ⟨by decide, by decide, by decide⟩ hruns ⟨true, true⟩ he hnew hfull
  exact ⟨r, r', p, haddr, hother⟩

end

end Lightsocks.Udpgw
