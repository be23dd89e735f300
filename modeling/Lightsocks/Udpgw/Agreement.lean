import Lightsocks.Udpgw.Gateway

/-!
# What a socket of udpgw is used for

A socket serves packets under one id for one remote address, so what is sent from it is what was
submitted for this address, and what comes to it is passed on for this address, over the
connection that has the id then. This holds in every run, whatever is lost, however often the
two connect again, and whatever other clients of udpgw do.
-/

namespace Lightsocks.Udpgw

open Lightsocks.Lib
open Lightsocks.Tunnel (UdpAddr udpgwClientFlagIpv6)

/-! ## One packet in udpgw -/

theorem flags_and {flags flag : UInt8} (h : udpgwClientFlagIpv6 &&& flag = 0) (addr : UdpAddr) :
    addr.flags flags &&& flag = flags &&& flag := by
  cases addr with
  | ipv4 ip port => rfl
  | ipv6 ip port =>
    show (flags ||| udpgwClientFlagIpv6) &&& flag = flags &&& flag
    apply UInt8.toBitVec_inj.mp
    have hbits := congrArg UInt8.toBitVec h
    simp only [UInt8.toBitVec_and, UInt8.toBitVec_or] at hbits ⊢
    ext i hi
    have hbit := congrArg (fun x : BitVec 8 => x[i]) hbits
    simp only [BitVec.getElem_and] at hbit
    simp only [BitVec.getElem_and, BitVec.getElem_or, Bool.and_or_distrib_right]
    rw [hbit]
    simp

theorem dnsAddr_flags (flags : UInt8) (addr : UdpAddr) (dns : Option UdpAddr)
    (origAddr : UdpAddr) :
    Server.dnsAddr (addr.flags flags) dns origAddr = Server.dnsAddr flags dns origAddr := by
  unfold Server.dnsAddr
  rw [flags_and (by decide)]

/-- udpgw serves a packet of `UdpGwClient`, or drops it if there is too much data for it. -/
theorem Server.Inv.receives {s : Server} {c : Nat} {t : Transmission} {dns : Option UdpAddr}
    {now : Int} {res : ServerResources} {place : Bool} (h : s.Inv none) (ht : t.Formed)
    (hsome : t.packet.isSome = true)
    (he : s.enabled (.packet c (t.packet.getD []) dns now res place) = true) (m : DataModel) :
    Returns (s.exec m (.packet c (t.packet.getD []) dns now res place)) fun r => r.1.Inv none ∧
      ((r = (s, .served .dropped) ∧ (t.data.length : Int) > s.options.udpMtu) ∨ ∃ o,
        r.2 = .served o ∧ s.Serves c (t.conaddr.remoteAddr.flags t.flags) t.conid
          t.conaddr.remoteAddr dns t.data r.1 o) := by
  obtain ⟨packet, hpacket⟩ := Option.isSome_iff_exists.mp hsome
  have hbytes := ht.packet packet hpacket
  rw [hpacket, Option.getD_some, hbytes] at he ⊢
  simp only [enabled, Bool.and_eq_true, decide_eq_true_eq] at he
  obtain ⟨⟨hc, hsize⟩, -⟩ := he
  obtain ⟨cl, hc⟩ := Option.isSome_iff_exists.mp hc
  have hparse : Server.clientRecvIfHandlerSend m s c
      (udpPacket t.flags t.conid t.conaddr.remoteAddr t.data) dns now res place = _ :=
    clientRecvIfHandlerSend_udpPacket m ht.ipv6 ht.keepalive t.conid t.conaddr.remoteAddr
      h.udpgwMtu.2 hsize now res place
  unfold Server.exec
  dsimp only
  rw [hparse]
  split
  · rename_i hdata
    exact Returns.bind_eq rfl (Returns.pure ⟨h, Or.inl ⟨rfl, hdata⟩⟩)
  · rename_i hdata
    apply Returns.bind (h.serve hc (by omega) _ _ _ dns now res place)
    rintro ⟨s', o⟩ ⟨hinv, hserves⟩
    exact Returns.pure ⟨hinv, Or.inr ⟨o, rfl, hserves⟩⟩

/-! ## The invariant -/

structure GatewayRun.Inv (r : GatewayRun) (mtu : Int) (max : Nat) (options : ServerOptions) :
    Prop where
  client : r.client.Inv mtu max
  server : r.server.Inv none
  options : r.server.options = options
  links : ∀ c ∈ r.links, c < r.server.clients.next
  link : ∀ c, r.link = some c → c ∈ r.links
  buffered : ∀ t ∈ r.buffered, t ∈ r.client.sent ∧ t.packet.isSome = true
  up : ∀ c t, (c, t) ∈ r.up → c ∈ r.links ∧ t ∈ r.client.sent ∧ t.packet.isSome = true
  served : ∀ p t, (p, t) ∈ r.served → t ∈ r.client.sent ∧ p < r.server.connections.next
  /-- A connection for `UdpGwClient` was opened for a packet. -/
  opener : ∀ p con, r.server.Open p con → con.client ∈ r.links → ∃ t dns, (p, t) ∈ r.served ∧
    con.firstData = t.data ∧ con.addr = Server.dnsAddr t.flags dns con.origAddr
  /-- It serves packets under its id and for its address. -/
  agree : ∀ p con t, r.server.Open p con → (p, t) ∈ r.served →
    con.client ∈ r.links ∧ t.conid = con.conid ∧ t.conaddr.remoteAddr = con.origAddr
  pairs : ∀ p t t', (p, t) ∈ r.served → (p, t') ∈ r.served →
    t'.conid = t.conid ∧ t'.conaddr.remoteAddr = t.conaddr.remoteAddr
  datagrams : ∀ d ∈ r.datagrams, ∃ t t₁ dns, (d.con, t) ∈ r.served ∧ (d.con, t₁) ∈ r.served ∧
    d.data = t.data ∧ d.addr = Server.dnsAddr t₁.flags dns t.conaddr.remoteAddr
  down : ∀ reply ∈ r.down, (reply.con, reply.data) ∈ r.answers ∧ ∃ t, (reply.con, t) ∈ r.served ∧
    reply.packet = udpPacket 0 t.conid t.conaddr.remoteAddr reply.data
  received : ∀ d ∈ r.client.received, ∃ p t, (p, d.data) ∈ r.answers ∧ (p, t) ∈ r.served ∧
    t.conid = d.conid ∧ t.conaddr.remoteAddr = d.conaddr.remoteAddr

namespace GatewayRun

variable {r r' : GatewayRun} {mtu : Int} {max : Nat} {options : ServerOptions} {m : DataModel}
  {server : Server} {t : Transmission} {p c i : Nat} {con : ServerConnection}

/-- A step of udpgw in which no connection is opened. -/
theorem Inv.stays (h : r.Inv mtu max options) (hinv : server.Inv none)
    (hstays : r.server.Stays server) : Inv { r with server } mtu max options :=
  { h with
    server := hinv
    options := hstays.options.trans h.options
    links := fun c hc => Nat.lt_of_lt_of_le (h.links c hc) hstays.clientsNext
    served := by
      intro p t hp
      obtain ⟨ht, hlt⟩ := h.served p t hp
      exact ⟨ht, hstays.next ▸ hlt⟩
    opener := by
      intro p con' hp hlink
      obtain ⟨con, hcon, hsame⟩ := hstays.con p con' hp
      rw [hsame.firstData, hsame.addr, hsame.origAddr]
      exact h.opener p con hcon (hsame.client ▸ hlink)
    agree := by
      intro p con' t hp ht
      obtain ⟨con, hcon, hsame⟩ := hstays.con p con' hp
      rw [hsame.client, hsame.conid, hsame.origAddr]
      exact h.agree p con t hcon ht }

/-- A connection of another client is opened. -/
theorem Inv.opens (h : r.Inv mtu max options) (hinv : server.Inv none)
    (hopens : r.server.Opens server p con) (hother : con.client ∉ r.links) :
    Inv { r with server } mtu max options := by
  have hne : ∀ {q con'}, server.Open q con' → con'.client ∈ r.links → q ≠ p := by
    rintro q con' hq hlink rfl
    exact hother (hq.inj hopens.opened ▸ hlink)
  have hserved : ∀ {q t}, (q, t) ∈ r.served → q ≠ p := by
    rintro q t hq rfl
    have hlt := (h.served q t hq).2
    rw [hopens.fresh] at hlt
    exact Nat.lt_irrefl _ hlt
  exact { h with
    server := hinv
    options := hopens.options.trans h.options
    links := fun c hc => Nat.lt_of_lt_of_le (h.links c hc) hopens.clientsNext
    served := by
      intro q t hq
      obtain ⟨ht, hlt⟩ := h.served q t hq
      show t ∈ r.client.sent ∧ q < server.connections.next
      rw [hopens.next, hopens.fresh]
      exact ⟨ht, Nat.lt_succ_of_lt hlt⟩
    opener := by
      intro q con' hq hlink
      obtain ⟨con, hcon, hsame⟩ := hopens.con q con' hq (hne hq hlink)
      rw [hsame.firstData, hsame.addr, hsame.origAddr]
      exact h.opener q con hcon (hsame.client ▸ hlink)
    agree := by
      intro q con' t hq ht
      obtain ⟨con, hcon, hsame⟩ := hopens.con q con' hq (hserved ht)
      rw [hsame.client, hsame.conid, hsame.origAddr]
      exact h.agree q con t hcon ht }

/-- More is served, over a connection that is or was one for it. -/
theorem Inv.serve (h : r.Inv mtu max options) (ht : t ∈ r.client.sent)
    (hlt : p < r.server.connections.next)
    (hpair : ∀ t', (p, t') ∈ r.served → t'.conid = t.conid ∧
      t'.conaddr.remoteAddr = t.conaddr.remoteAddr)
    (hopen : ∀ con, r.server.Open p con →
      con.client ∈ r.links ∧ t.conid = con.conid ∧ t.conaddr.remoteAddr = con.origAddr) :
    Inv { r with served := r.served ++ [(p, t)] } mtu max options := by
  have hold : ∀ {x}, x ∈ r.served → x ∈ r.served ++ [(p, t)] := List.mem_append_left _
  have hcases : ∀ {q t'}, (q, t') ∈ r.served ++ [(p, t)] →
      (q, t') ∈ r.served ∨ (q = p ∧ t' = t) := by
    intro q t' hq
    rcases List.mem_append.mp hq with hq | hq
    · exact Or.inl hq
    · cases List.mem_singleton.mp hq
      exact Or.inr ⟨rfl, rfl⟩
  exact { h with
    served := by
      intro q t' hq
      rcases hcases hq with hq | ⟨rfl, rfl⟩
      · exact h.served q t' hq
      · exact ⟨ht, hlt⟩
    opener := by
      intro q con' hq hlink
      obtain ⟨t', dns, ht', hopener⟩ := h.opener q con' hq hlink
      exact ⟨t', dns, hold ht', hopener⟩
    agree := by
      intro q con' t' hq ht'
      rcases hcases ht' with ht' | ⟨rfl, rfl⟩
      · exact h.agree q con' t' hq ht'
      · exact hopen con' hq
    pairs := by
      intro q t₁ t₂ h₁ h₂
      rcases hcases h₁ with hs₁ | ⟨rfl, rfl⟩
      · rcases hcases h₂ with hs₂ | ⟨rfl, rfl⟩
        · exact h.pairs q t₁ t₂ hs₁ hs₂
        · obtain ⟨hconid, haddr⟩ := hpair t₁ hs₁
          exact ⟨hconid.symm, haddr.symm⟩
      · rcases hcases h₂ with hs₂ | ⟨-, rfl⟩
        · exact hpair t₂ hs₂
        · exact ⟨rfl, rfl⟩
    datagrams := by
      intro d hd
      obtain ⟨t', t₁, dns, ht', ht₁, hdatagram⟩ := h.datagrams d hd
      exact ⟨t', t₁, dns, hold ht', hold ht₁, hdatagram⟩
    down := by
      intro reply hreply
      obtain ⟨hanswer, t', ht', hpacket⟩ := h.down reply hreply
      exact ⟨hanswer, t', hold ht', hpacket⟩
    received := by
      intro d hd
      obtain ⟨q, t', hanswer, ht', hagree⟩ := h.received d hd
      exact ⟨q, t', hanswer, hold ht', hagree⟩ }

/-- A connection is opened for a packet. -/
theorem Inv.created (h : r.Inv mtu max options) (hinv : server.Inv none)
    (hopens : r.server.Opens server p con) (hlink : con.client ∈ r.links)
    (ht : t ∈ r.client.sent) (hconid : con.conid = t.conid)
    (horig : con.origAddr = t.conaddr.remoteAddr) (hdata : con.firstData = t.data)
    {dns : Option UdpAddr} (haddr : con.addr = Server.dnsAddr t.flags dns t.conaddr.remoteAddr) :
    Inv { r with server, served := r.served ++ [(p, t)] } mtu max options := by
  have hold : ∀ {x}, x ∈ r.served → x ∈ r.served ++ [(p, t)] := List.mem_append_left _
  have hnew : (p, t) ∈ r.served ++ [(p, t)] := by simp
  have hfresh : ∀ {t'}, (p, t') ∉ r.served := by
    intro t' hp
    have hlt := (h.served p t' hp).2
    rw [hopens.fresh] at hlt
    exact Nat.lt_irrefl _ hlt
  have hcases : ∀ {q t'}, (q, t') ∈ r.served ++ [(p, t)] →
      ((q, t') ∈ r.served ∧ q ≠ p) ∨ (q = p ∧ t' = t) := by
    intro q t' hq
    rcases List.mem_append.mp hq with hq | hq
    · exact Or.inl ⟨hq, fun heq => hfresh (heq ▸ hq)⟩
    · cases List.mem_singleton.mp hq
      exact Or.inr ⟨rfl, rfl⟩
  exact { h with
    server := hinv
    options := hopens.options.trans h.options
    links := fun c hc => Nat.lt_of_lt_of_le (h.links c hc) hopens.clientsNext
    served := by
      intro q t' hq
      show t' ∈ r.client.sent ∧ q < server.connections.next
      rw [hopens.next]
      rcases hcases hq with ⟨hq, -⟩ | ⟨rfl, rfl⟩
      · obtain ⟨ht', hlt⟩ := h.served q t' hq
        rw [hopens.fresh]
        exact ⟨ht', Nat.lt_succ_of_lt hlt⟩
      · exact ⟨ht, Nat.lt_succ_self _⟩
    opener := by
      intro q con' hq hlink'
      by_cases hqp : q = p
      · subst hqp
        cases hq.inj hopens.opened
        rw [horig]
        exact ⟨t, dns, hnew, hdata, haddr⟩
      · obtain ⟨con₀, hcon, hsame⟩ := hopens.con q con' hq hqp
        rw [hsame.firstData, hsame.addr, hsame.origAddr]
        obtain ⟨t', dns', ht', hopener⟩ := h.opener q con₀ hcon (hsame.client ▸ hlink')
        exact ⟨t', dns', hold ht', hopener⟩
    agree := by
      intro q con' t' hq ht'
      rcases hcases ht' with ⟨ht', hqp⟩ | ⟨rfl, rfl⟩
      · obtain ⟨con₀, hcon, hsame⟩ := hopens.con q con' hq hqp
        rw [hsame.client, hsame.conid, hsame.origAddr]
        exact h.agree q con₀ t' hcon ht'
      · cases hq.inj hopens.opened
        exact ⟨hlink, hconid.symm, horig.symm⟩
    pairs := by
      intro q t₁ t₂ h₁ h₂
      rcases hcases h₁ with ⟨hs₁, hqp⟩ | ⟨rfl, rfl⟩
      · rcases hcases h₂ with ⟨hs₂, -⟩ | ⟨rfl, -⟩
        · exact h.pairs q t₁ t₂ hs₁ hs₂
        · exact absurd rfl hqp
      · rcases hcases h₂ with ⟨-, hqp⟩ | ⟨-, rfl⟩
        · exact absurd rfl hqp
        · exact ⟨rfl, rfl⟩
    datagrams := by
      intro d hd
      obtain ⟨t', t₁, dns', ht', ht₁, hdatagram⟩ := h.datagrams d hd
      exact ⟨t', t₁, dns', hold ht', hold ht₁, hdatagram⟩
    down := by
      intro reply hreply
      obtain ⟨hanswer, t', ht', hpacket⟩ := h.down reply hreply
      exact ⟨hanswer, t', hold ht', hpacket⟩
    received := by
      intro d hd
      obtain ⟨q, t', hanswer, ht', hagree⟩ := h.received d hd
      exact ⟨q, t', hanswer, hold ht', hagree⟩ }

/-- A datagram is sent from a socket. -/
theorem Inv.sends (h : r.Inv mtu max options) {datagram : Option Datagram}
    (hd : ∀ d, datagram = some d → ∃ t t₁ dns, (d.con, t) ∈ r.served ∧ (d.con, t₁) ∈ r.served ∧
      d.data = t.data ∧ d.addr = Server.dnsAddr t₁.flags dns t.conaddr.remoteAddr) :
    Inv { r with datagrams := r.datagrams ++ datagram.toList } mtu max options :=
  { h with
    datagrams := by
      intro d hmem
      rcases List.mem_append.mp hmem with hmem | hmem
      · exact h.datagrams d hmem
      · exact hd d (Option.mem_toList.mp hmem) }

/-- udpgw reads a packet of `UdpGwClient`. -/
theorem Inv.receive {dns : Option UdpAddr} {now : Int} {res : ServerResources} {place : Bool}
    (h : r.Inv mtu max options)
    (he : r.enabled (.receive i dns now res place) = true) (m : DataModel) :
    Returns (r.exec m (.receive i dns now res place)) fun r' => r'.Inv mtu max options := by
  obtain ⟨⟨c, t⟩, hpick, he⟩ := (Option.any_eq_true _ _).mp he
  obtain ⟨hlink, ht, hsome⟩ := h.up c t (mem_of_pick hpick)
  have hup : ∀ c' t', (c', t') ∈ r.up.eraseIdx i →
      c' ∈ r.links ∧ t' ∈ r.client.sent ∧ t'.packet.isSome = true :=
    fun c' t' hmem => h.up c' t' (List.mem_of_mem_eraseIdx hmem)
  unfold GatewayRun.exec
  dsimp only
  rw [hpick]
  apply Returns.bind (h.server.receives (h.client.formed t ht) hsome he m)
  rintro ⟨server, outcome⟩ ⟨hinv, hout⟩
  apply Returns.pure
  rcases hout with ⟨heq, -⟩ | ⟨o, rfl, hserves⟩
  · cases heq
    exact { h with up := hup }
  · cases hserves with
    | failed hstays => exact { h.stays hinv hstays with up := hup }
    | created hopens hclient hconid horig haddr hdata =>
      rw [dnsAddr_flags] at haddr
      exact { h.created hinv hopens (hclient ▸ hlink) ht hconid horig hdata haddr with up := hup }
    | @sent p con datagram hopen hclient hconid horig _ hstays hdatagram =>
      have hclient' : con.client ∈ r.links := hclient ▸ hlink
      obtain ⟨t₁, dns₁, ht₁, -, haddr⟩ := h.opener p con hopen hclient'
      have hserved : Inv { r with served := r.served ++ [(p, t)] } mtu max options := by
        apply h.serve ht (Heap.lt_next hopen.1)
        · intro t' ht'
          obtain ⟨-, hconid', horig'⟩ := h.agree p con t' hopen ht'
          exact ⟨hconid'.trans hconid, horig'.trans horig⟩
        · intro con' hcon'
          cases hcon'.inj hopen
          exact ⟨hclient', hconid.symm, horig.symm⟩
      have hd : ∀ d, datagram = some d → ∃ t' t₁ dns, (d.con, t') ∈ r.served ++ [(p, t)] ∧
          (d.con, t₁) ∈ r.served ++ [(p, t)] ∧ d.data = t'.data ∧
          d.addr = Server.dnsAddr t₁.flags dns t'.conaddr.remoteAddr := by
        intro d hd
        rw [hdatagram d hd, haddr, horig]
        exact ⟨t, t₁, dns₁, by simp, List.mem_append_left _ ht₁, rfl, rfl⟩
      exact { (hserved.stays hinv hstays).sends hd with up := hup }

theorem ours_eq_some (h : r.ours p = some c) :
    ∃ con, r.server.connections.get p = some con ∧ con.client = c ∧ c ∈ r.links := by
  obtain ⟨hmap, hlink⟩ := Option.filter_eq_some_iff.mp h
  obtain ⟨con, hcon, hclient⟩ := Option.map_eq_some_iff.mp hmap
  exact ⟨con, hcon, hclient, List.contains_iff_mem.mp hlink⟩

/-- Any other step of udpgw. -/
theorem Inv.other {e : ServerEvent} (h : r.Inv mtu max options) (he : r.server.enabled e = true)
    (hpacket : ∀ c data dns now res place, e = .packet c data dns now res place → c ∉ r.links)
    (m : DataModel) :
    Returns (r.exec m (.server e)) fun r' => r'.Inv mtu max options := by
  apply Returns.bind (h.server.exec he m)
  rintro ⟨server, outcome⟩ ⟨hinv, heffect⟩
  apply Returns.pure
  cases heffect with
  | accept hstays => exact h.stays hinv hstays
  | dropped => exact h
  | served hserves =>
    have hother := hpacket _ _ _ _ _ _ rfl
    cases hserves with
    | failed hstays => exact h.stays hinv hstays
    | created hopens hclient => exact h.opens hinv hopens (hclient ▸ hother)
    | sent _ _ _ _ _ hstays => exact h.stays hinv hstays
  | @firstJob _ p con now place datagram hstays hopen hjob hd =>
    have hstay := h.stays hinv hstays
    show (r.record server (.firstJob p now place) (.sent datagram)).Inv mtu max options
    cases hours : r.ours p with
    | none =>
      simp only [record, hours]
      exact hstay
    | some c =>
      simp only [record, hours]
      obtain ⟨con', hcon', rfl, hlink⟩ := ours_eq_some hours
      cases hopen.1.symm.trans hcon'
      obtain ⟨t, dns, ht, hdata, haddr⟩ := h.opener p con hopen hlink
      obtain ⟨-, -, horig⟩ := h.agree p con t hopen ht
      apply hstay.sends
      intro d hd'
      rw [hd d hd', hdata, haddr, ← horig]
      exact ⟨t, t, dns, ht, ht, rfl, rfl⟩
  | @answered _ p con data now out packet hstays hopen hbytes =>
    have hstay := h.stays hinv hstays
    show (r.record server (.datagram p data now out) (.answered packet)).Inv mtu max options
    cases packet with
    | none => exact hstay
    | some bytes =>
      cases hours : r.ours p with
      | none =>
        simp only [record, hours]
        exact hstay
      | some c =>
        simp only [record, hours]
        obtain ⟨con', hcon', rfl, hlink⟩ := ours_eq_some hours
        cases hopen.1.symm.trans hcon'
        obtain ⟨t, -, ht, -⟩ := h.opener p con hopen hlink
        obtain ⟨-, hconid, horig⟩ := h.agree p con t hopen ht
        exact { hstay with
          down := by
            intro reply hreply
            rcases List.mem_append.mp hreply with hreply | hreply
            · obtain ⟨hanswer, hpacket⟩ := h.down reply hreply
              exact ⟨List.mem_append_left _ hanswer, hpacket⟩
            · rw [List.mem_singleton.mp hreply]
              refine ⟨by simp, t, ht, ?_⟩
              rw [hconid, horig]
              exact hbytes bytes rfl
          received := by
            intro d hd
            obtain ⟨q, t', hanswer, ht', hagree⟩ := h.received d hd
            exact ⟨q, t', List.mem_append_left _ hanswer, ht', hagree⟩ }
  | other hstays =>
    have hrecord : r.record server e .nothing = { r with server } := by
      cases e <;> rfl
    rw [hrecord]
    exact h.stays hinv hstays

/-- `UdpGwClient` sends. -/
theorem Inv.clientStep {e : ClientEvent} (h : r.Inv mtu max options)
    (he : r.client.enabled e = true) (hreceive : ∀ data, e ≠ .receive data) (m : DataModel) :
    Returns (r.exec m (.client e)) fun r' => r'.Inv mtu max options := by
  obtain ⟨client, hexec, hinv⟩ := h.client.exec he m
  obtain ⟨hsent, hreceived⟩ := ClientRun.exec_sent hexec
  apply Returns.bind_eq hexec
  apply Returns.pure
  have hold : ∀ {t}, t ∈ r.client.sent → t ∈ client.sent := fun ht => hsent.subset ht
  exact { h with
    client := hinv
    buffered := by
      intro t ht
      rcases List.mem_append.mp ht with ht | ht
      · obtain ⟨ht', hsome⟩ := h.buffered t ht
        exact ⟨hold ht', hsome⟩
      · obtain ⟨ht', hsome⟩ := List.mem_filter.mp ht
        exact ⟨List.mem_of_mem_drop ht', hsome⟩
    up := by
      intro c t ht
      obtain ⟨hlink, ht', hsome⟩ := h.up c t ht
      exact ⟨hlink, hold ht', hsome⟩
    served := by
      intro p t ht
      obtain ⟨ht', hlt⟩ := h.served p t ht
      exact ⟨hold ht', hlt⟩
    received := by
      show ∀ d ∈ client.received, _
      rw [hreceived hreceive]
      exact h.received }

/-- A packet leaves its buffer. -/
theorem Inv.transmit (h : r.Inv mtu max options) (hlink : r.link = some c)
    (hpick : pick Transmission.conid r.buffered i = some t) :
    Inv { r with buffered := r.buffered.eraseIdx i, up := r.up ++ [(c, t)] } mtu max options :=
  { h with
    buffered := fun t' ht' => h.buffered t' (List.mem_of_mem_eraseIdx ht')
    up := by
      intro c' t' ht'
      rcases List.mem_append.mp ht' with ht' | ht'
      · exact h.up c' t' ht'
      · cases List.mem_singleton.mp ht'
        obtain ⟨hsent, hsome⟩ := h.buffered t (mem_of_pick hpick)
        exact ⟨h.link c hlink, hsent, hsome⟩ }

/-- The client that udpgw makes for a new connection has no connections yet. -/
theorem Inv.link_fresh (h : r.Inv mtu max options) (hinv : server.Inv none)
    (hstays : r.server.Stays server) (hnext : r.server.clients.next < server.clients.next) :
    Inv { r with
      server
      link := some r.server.clients.next
      links := r.links ++ [r.server.clients.next] } mtu max options := by
  have hstay := h.stays hinv hstays
  have hempty : ∀ {p con}, server.Open p con → con.client ≠ r.server.clients.next := by
    intro p con' hp heq
    obtain ⟨con, hcon, hsame⟩ := hstays.con p con' hp
    obtain ⟨cl, hc⟩ := h.server.owner p con hcon.1
    rw [← hsame.client, heq, Heap.get_next] at hc
    cases hc
  exact { hstay with
    links := by
      intro c hc
      rcases List.mem_append.mp hc with hc | hc
      · exact hstay.links c hc
      · rw [List.mem_singleton.mp hc]
        exact hnext
    link := by
      intro c hc
      cases hc
      simp
    up := by
      intro c t ht
      obtain ⟨hlink, ht'⟩ := h.up c t ht
      exact ⟨List.mem_append_left _ hlink, ht'⟩
    opener := by
      intro p con hp hlink
      rcases List.mem_append.mp hlink with hlink | hlink
      · exact hstay.opener p con hp hlink
      · exact absurd (List.mem_singleton.mp hlink) (hempty hp)
    agree := by
      intro p con t hp ht
      obtain ⟨hlink, hagree⟩ := hstay.agree p con t hp ht
      exact ⟨List.mem_append_left _ hlink, hagree⟩ }

/-- udpgw accepts a connection, or does not. -/
theorem Inv.connect (h : r.Inv mtu max options) (res : Bool) (m : DataModel) :
    Returns (r.exec m (.connect res)) fun r' => r'.Inv mtu max options := by
  have haccept : r.server.enabled (.accept res) = true := rfl
  apply Returns.bind (h.server.exec haccept m)
  rintro ⟨server, outcome⟩ ⟨hinv, heffect⟩
  cases heffect with
  | @accept _ _ oc hstays hc =>
    cases oc with
    | none => exact Returns.pure (h.stays hinv hstays)
    | some c =>
      obtain ⟨rfl, hnext⟩ := hc c rfl
      exact Returns.pure (h.link_fresh hinv hstays hnext)
  | other hstays => exact Returns.pure (h.stays hinv hstays)

/-- `UdpGwClient` reads a packet. -/
theorem Inv.deliver (h : r.Inv mtu max options) (he : r.enabled (.deliver i) = true)
    (m : DataModel) : Returns (r.exec m (.deliver i)) fun r' => r'.Inv mtu max options := by
  obtain ⟨reply, hreply, he⟩ := (Option.any_eq_true _ _).mp he
  obtain ⟨-, he⟩ := Bool.and_eq_true_iff.mp he
  obtain ⟨hanswer, t, ht, hpacket⟩ := h.down reply (List.mem_of_getElem? hreply)
  rw [hpacket] at he
  unfold GatewayRun.exec
  dsimp only
  rw [hreply]
  dsimp only
  rw [hpacket]
  apply Returns.bind (h.client.reads (by decide) he m)
  rintro client ⟨hinv, hsent, hreceived⟩
  apply Returns.pure
  exact { h with
    client := hinv
    buffered := by
      show ∀ t ∈ r.buffered, t ∈ client.sent ∧ _
      rw [hsent]
      exact h.buffered
    up := by
      show ∀ c t, (c, t) ∈ r.up → c ∈ r.links ∧ t ∈ client.sent ∧ _
      rw [hsent]
      exact h.up
    served := by
      show ∀ p t, (p, t) ∈ r.served → t ∈ client.sent ∧ _
      rw [hsent]
      exact h.served
    down := fun reply' hreply' => h.down reply' (List.mem_of_mem_eraseIdx hreply')
    received := by
      intro d hd
      change d ∈ client.received at hd
      rcases hreceived with heq | ⟨d', heq, hconid, haddr, hdata⟩
      · exact h.received d (heq ▸ hd)
      · rw [heq] at hd
        rcases List.mem_append.mp hd with hd | hd
        · exact h.received d hd
        · rw [List.mem_singleton.mp hd, hconid, haddr, hdata]
          exact ⟨reply.con, t, hanswer, ht, rfl, rfl⟩ }

theorem enabled_client {e : ClientEvent} (he : r.enabled (.client e) = true) :
    r.client.enabled e = true ∧ ∀ data, e ≠ .receive data := by
  cases e with
  | receive data => cases he
  | submit s res out => exact ⟨he, fun data heq => by cases heq⟩
  | firstJob out => exact ⟨he, fun data heq => by cases heq⟩

theorem enabled_server {e : ServerEvent} (he : r.enabled (.server e) = true) :
    r.server.enabled e = true ∧
      ∀ c data dns now res place, e = .packet c data dns now res place → c ∉ r.links := by
  cases e with
  | packet c data dns now res place =>
    obtain ⟨hother, he⟩ := Bool.and_eq_true_iff.mp he
    refine ⟨he, fun c' data' dns' now' res' place' heq => ?_⟩
    cases heq
    rw [Bool.not_eq_true'] at hother
    intro hmem
    cases hother.symm.trans (List.contains_iff_mem.mpr hmem)
  | _ => exact ⟨he, fun c data dns now res place heq => by cases heq⟩

/-- A step of the two. -/
theorem Inv.exec {e : GatewayEvent} (h : r.Inv mtu max options) (he : r.enabled e = true)
    (m : DataModel) : Returns (r.exec m e) fun r' => r'.Inv mtu max options := by
  cases e with
  | client e =>
    obtain ⟨he, hreceive⟩ := enabled_client he
    exact h.clientStep he hreceive m
  | connect res => exact h.connect res m
  | disconnect => exact Returns.pure { h with link := fun c hc => by cases hc }
  | transmit i =>
    obtain ⟨hlink, hpick⟩ := Bool.and_eq_true_iff.mp he
    obtain ⟨c, hc⟩ := Option.isSome_iff_exists.mp hlink
    obtain ⟨t, ht⟩ := Option.isSome_iff_exists.mp hpick
    unfold GatewayRun.exec
    dsimp only
    split
    · rename_i hc' ht'
      exact Returns.pure (h.transmit hc' ht')
    · rename_i hno
      exact (hno c t hc ht).elim
  | receive i dns now res place => exact h.receive he m
  | server e =>
    obtain ⟨he, hpacket⟩ := enabled_server he
    exact h.other he hpacket m
  | deliver i => exact h.deliver he m

end GatewayRun

/-! ## Every run -/

section

variable {m : DataModel} {mtu : Int} {max : Nat} {options : ServerOptions}
  {es : List GatewayEvent} {res : Except CFault GatewayRun}

theorem gateway_inv (hstart : Startable mtu max) (hoptions : options.Accepted)
    (h : (gateway m mtu max options).Runs es res) : Returns res fun r => r.Inv mtu max options := by
  apply h.returns (I := fun _ r => r.Inv mtu max options)
  · obtain ⟨r, heq, hinv⟩ := client_inv hstart (.nil : (udpGwClient m mtu max).Runs [] _)
    cases heq
    exact {
      client := hinv
      server := Server.init_inv m hoptions
      options := rfl
      links := fun c hc => by cases hc
      link := fun c hc => by cases hc
      buffered := fun t ht => by cases ht
      up := fun c t ht => by cases ht
      served := fun p t ht => by cases ht
      opener := fun p con hp => by cases hp.1
      agree := fun p con t hp => by cases hp.1
      pairs := fun p t t' ht => by cases ht
      datagrams := fun d hd => by cases hd
      down := fun reply hreply => by cases hreply
      received := fun d hd => by cases hd }
  · intro es r e hinv he
    exact hinv.exec he m

/-- What is passed on to a program came in a datagram to a socket of udpgw that was used for
packets under the same id to the same remote address. It is for the program that sent those, as
long as no two programs sent to this address under this id. -/
theorem gateway_agreement (hstart : Startable mtu max) (hoptions : options.Accepted)
    (h : (gateway m mtu max options).Runs es res) :
    ∃ r, res = .ok r ∧ ∀ d ∈ r.client.received, ∃ p t, (p, d.data) ∈ r.answers ∧
      (p, t) ∈ r.served ∧ t ∈ r.client.sent ∧ t.conid = d.conid ∧
      t.conaddr.remoteAddr = d.conaddr.remoteAddr ∧
      ((∀ t' ∈ r.client.sent, t'.conid = t.conid →
          t'.conaddr.remoteAddr = t.conaddr.remoteAddr → t'.conaddr = t.conaddr) →
        d.conaddr = t.conaddr) := by
  obtain ⟨r, rfl, hinv⟩ := gateway_inv hstart hoptions h
  refine ⟨r, rfl, fun d hd => ?_⟩
  obtain ⟨p, t, hanswer, ht, hconid, haddr⟩ := hinv.received d hd
  refine ⟨p, t, hanswer, ht, (hinv.served p t ht).1, hconid, haddr, fun hone => ?_⟩
  obtain ⟨t', ht', hconid', hconaddr⟩ := hinv.client.received d hd
  rw [← hconaddr]
  exact hone t' ht' (hconid'.trans hconid.symm) (by rw [hconaddr, haddr])

/-- A datagram is sent, answered and passed on. -/
private def oneAnswer : List GatewayEvent :=
  let plenty : ServerResources := ⟨true, true, true, true, true, [], true, true, true⟩
  let buffer : Option (List UInt8) := some (List.replicate 22 0)
  [.client (.submit ⟨.ipv4 1 1, .ipv4 2 53, false, [7]⟩ ⟨true, true⟩ buffer),
    .client (.firstJob buffer), .connect true, .transmit 0, .receive 0 none 0 plenty true,
    .server (.firstJob 0 1 true), .server (.datagram 0 [9] 2 buffer), .deliver 0]

private def noPorts : ServerOptions :=
  ⟨1, 1, 1, -1, .ipv4 0 0, -1, .ipv6 (.replicate 16 0) 0, false⟩

private theorem noPorts_accepted : noPorts.Accepted := ⟨by decide, by decide, by decide⟩

theorem gateway_agreement_one :
    ∃ (r : GatewayRun) (d : Delivery) (p : Nat), d ∈ r.client.received ∧
      (p, d.data) ∈ r.answers := by
  have hends : (gateway ⟨32, Nat.le_refl _⟩ 1 1 noPorts).ends oneAnswer
      (fun r => r.client.received != []) = true := by
    decide
  obtain ⟨r, hruns, hr⟩ := Machine.runs_of_ends hends
  obtain ⟨r', hr', hagree⟩ := gateway_agreement ⟨by decide, by decide, by decide⟩
    noPorts_accepted hruns
  cases hr'
  obtain ⟨d, hd⟩ := List.exists_mem_of_ne_nil _ (bne_iff_ne.mp hr)
  obtain ⟨p, t, hanswer, -⟩ := hagree d hd
  exact ⟨r, d, p, hd, hanswer⟩

/-- What udpgw sends for `UdpGwClient` is what was submitted for the address that it goes to. It
goes to a DNS server instead only if the packet for which the socket was opened says so. -/
theorem gateway_datagrams (hstart : Startable mtu max) (hoptions : options.Accepted)
    (h : (gateway m mtu max options).Runs es res) :
    ∃ r, res = .ok r ∧ ∀ d ∈ r.datagrams, ∃ t ∈ r.client.sent, d.data = t.data ∧
      (d.addr = t.conaddr.remoteAddr ∨ ∃ t₁ ∈ r.client.sent, t₁.conid = t.conid ∧
        t₁.conaddr.remoteAddr = t.conaddr.remoteAddr ∧ t₁.flags &&& udpgwClientFlagDns ≠ 0) := by
  obtain ⟨r, rfl, hinv⟩ := gateway_inv hstart hoptions h
  refine ⟨r, rfl, fun d hd => ?_⟩
  obtain ⟨t, t₁, dns, ht, ht₁, hdata, haddr⟩ := hinv.datagrams d hd
  refine ⟨t, (hinv.served _ t ht).1, hdata, ?_⟩
  unfold Server.dnsAddr at haddr
  split at haddr
  · rename_i hdns
    obtain ⟨hconid, horig⟩ := hinv.pairs _ t t₁ ht ht₁
    exact Or.inr ⟨t₁, (hinv.served _ t₁ ht₁).1, hconid, horig, hdns⟩
  · exact Or.inl haddr

theorem gateway_datagrams_one :
    ∃ (r : GatewayRun) (d : Datagram) (t : Transmission), d ∈ r.datagrams ∧ t ∈ r.client.sent ∧
      d.data = t.data := by
  have hends : (gateway ⟨32, Nat.le_refl _⟩ 1 1 noPorts).ends oneAnswer
      (fun r => r.datagrams != []) = true := by
    decide
  obtain ⟨r, hruns, hr⟩ := Machine.runs_of_ends hends
  obtain ⟨r', hr', hsubmitted⟩ := gateway_datagrams ⟨by decide, by decide, by decide⟩
    noPorts_accepted hruns
  cases hr'
  obtain ⟨d, hd⟩ := List.exists_mem_of_ne_nil _ (bne_iff_ne.mp hr)
  obtain ⟨t, ht, hdata, -⟩ := hsubmitted d hd
  exact ⟨r, d, t, hd, ht, hdata⟩

end

end Lightsocks.Udpgw
