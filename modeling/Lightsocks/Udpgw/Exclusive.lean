import Lightsocks.Udpgw.Agreement

/-!
# One socket for one pair of addresses

The address in a packet tells udpgw when an id is used for another remote address, and the flag
when it is used for another local one. The flag is in one packet only, so it is lost when that
packet finds no place in its buffer. As long as this does not happen, udpgw sees every change
before it sees a packet after it, because the packets under an id stay in order and a new
connection between the two starts without sockets; so programs do not share a socket of udpgw.
-/

namespace Lightsocks.Udpgw

open Lightsocks.Lib
open Lightsocks.Tunnel (UdpAddr udpgwClientFlagIpv6)

/-- The packets under an id that udpgw is still to read from a connection. -/
def coming (up : List (Nat × Transmission)) (c : Nat) (conid : UInt16) : List Transmission :=
  under Transmission.conid conid ((under Prod.fst c up).map Prod.snd)

section

variable {up : List (Nat × Transmission)} {c c' i : Nat} {t tl : Transmission} {conid : UInt16}

theorem coming_pick (h : pick Prod.fst up i = some (c, t)) :
    coming up c t.conid = t :: coming (up.eraseIdx i) c t.conid := by
  have hup : under Prod.fst c up = (c, t) :: under Prod.fst c (up.eraseIdx i) := under_pick h
  unfold coming
  rw [hup, List.map_cons]
  exact List.filter_cons_of_pos (beq_self_eq_true _)

theorem coming_pick_ne (h : pick Prod.fst up i = some (c, t)) (hne : c' = c → t.conid ≠ conid) :
    coming (up.eraseIdx i) c' conid = coming up c' conid := by
  unfold coming
  by_cases hc : c' = c
  · have hup : under Prod.fst c up = (c, t) :: under Prod.fst c (up.eraseIdx i) := under_pick h
    rw [hc, hup, List.map_cons]
    exact (List.filter_cons_of_neg (by simpa using hne hc)).symm
  · rw [under_pick_ne h (Ne.symm hc)]

theorem coming_concat (up : List (Nat × Transmission)) (c : Nat) (t : Transmission) :
    coming (up ++ [(c, t)]) c t.conid = coming up c t.conid ++ [t] := by
  have hself : under Prod.fst c [(c, t)] = [(c, t)] := under_self rfl
  unfold coming
  rw [under_append, hself, List.map_append, under_append]
  exact congrArg _ (under_self rfl)

theorem coming_concat_ne (hne : c' = c → t.conid ≠ conid) :
    coming (up ++ [(c, t)]) c' conid = coming up c' conid := by
  unfold coming
  by_cases hc : c' = c
  · have hself : under Prod.fst c [(c, t)] = [(c, t)] := under_self rfl
    rw [hc, under_append, hself, List.map_append, under_append]
    exact (congrArg _ (under_ne (hne hc))).trans (List.append_nil _)
  · have hnil : under Prod.fst c' [(c, t)] = [] := under_ne (Ne.symm hc)
    rw [under_append, hnil, List.append_nil]

theorem coming_fresh (h : ∀ t, (c, t) ∉ up) : coming up c conid = [] := by
  have hnil : under Prod.fst c up = [] := by
    unfold under
    rw [List.filter_eq_nil_iff]
    rintro ⟨c', t⟩ hmem hc
    exact h t ((eq_of_beq hc : c' = c) ▸ hmem)
  unfold coming
  rw [hnil]
  rfl

/-- A packet that follows another one under its id rebinds the id, or has the same addresses. -/
theorem Marked.next {sent before after : List Transmission} (h : Marked sent)
    (heq : under Transmission.conid conid sent = before ++ t :: after)
    (hlast : before.getLast? = some tl) : t.Rebinds ∨ tl.conaddr = t.conaddr := by
  obtain ⟨l₁, l₂, rfl, hbefore, rfl⟩ := under_eq_append heq
  rcases h l₁ t l₂ rfl with hrebinds | ⟨t', ht', haddr⟩
  · exact Or.inl hrebinds
  · have hunder : lastUnder t.conid l₁ = before.getLast? := congrArg List.getLast? hbefore
    rw [hunder, hlast] at ht'
    cases ht'
    exact Or.inr haddr

end

/-- Open connections of a client are told apart by their ids. -/
theorem Server.Inv.conid_inj {s : Server} {p q : Nat} {con con' : ServerConnection}
    (h : s.Inv none) (hp : s.Open p con) (hq : s.Open q con') (hclient : con'.client = con.client)
    (hconid : con'.conid = con.conid) : p = q := by
  obtain ⟨cl, hc, -⟩ := h.owner_of hp.1
  obtain ⟨found, -, hfound⟩ := h.findConnection hc con.conid
  have hfp := (hfound p).mpr ⟨con, hp, rfl, rfl⟩
  have hfq := (hfound q).mpr ⟨con', hq, hclient, hconid⟩
  exact Option.some.inj (hfp.symm.trans hfq)

/-! ## The order of the packets under an id -/

/-- Every packet found a place in a buffer. -/
def GatewayRun.NoneLost (r : GatewayRun) : Prop := ∀ t ∈ r.client.sent, t.packet.isSome = true

/-- What was served by the open connection with an id has the addresses of the last packet before
those that are still to come. -/
def LastServed (server : Server) (served : List (Nat × Transmission)) (c : Nat) (conid : UInt16)
    (before : List Transmission) : Prop :=
  ∀ p con t, server.Open p con → con.client = c → con.conid = conid → (p, t) ∈ served →
    ∃ tl, before.getLast? = some tl ∧ tl.conaddr = t.conaddr

/-- What is on the connection with a client of udpgw, under an id, is a segment of what was sent,
and if the connection is still there the rest is in the buffer. -/
structure Segment (r : GatewayRun) (c : Nat) (conid : UInt16)
    (before after : List Transmission) : Prop where
  sent : under Transmission.conid conid r.client.sent = before ++ (coming r.up c conid ++ after)
  rest : r.link = some c → after = under Transmission.conid conid r.buffered
  last : LastServed r.server r.served c conid before

structure GatewayRun.Order (r : GatewayRun) : Prop where
  buffered : ∀ conid, ∃ before, under Transmission.conid conid r.client.sent
    = before ++ under Transmission.conid conid r.buffered
  segment : ∀ c ∈ r.links, ∀ conid, ∃ before after, Segment r c conid before after
  pairs : ∀ p t t', (p, t) ∈ r.served → (p, t') ∈ r.served → t'.conaddr = t.conaddr

namespace GatewayRun

variable {r r' : GatewayRun} {mtu : Int} {max : Nat} {options : ServerOptions} {m : DataModel}
  {server : Server} {t : Transmission} {p c i : Nat} {con : ServerConnection}

theorem LastServed.stays {served : List (Nat × Transmission)} {conid : UInt16}
    {before : List Transmission} {s : Server} (h : LastServed s served c conid before)
    (hstays : s.Stays server) : LastServed server served c conid before := by
  intro p con' t hp hclient hconid ht
  obtain ⟨con, hcon, hsame⟩ := hstays.con p con' hp
  exact h p con t hcon (hsame.client.symm.trans hclient) (hsame.conid.symm.trans hconid) ht

/-- A step of udpgw in which no connection is opened. -/
theorem Order.stays (h : r.Order) (hstays : r.server.Stays server) : Order { r with server } where
  buffered := h.buffered
  segment c hc conid := by
    obtain ⟨before, after, hseg⟩ := h.segment c hc conid
    exact ⟨before, after, hseg.sent, hseg.rest, LastServed.stays hseg.last hstays⟩
  pairs := h.pairs

/-- A connection of another client is opened. -/
theorem Order.opens (h : r.Order) (hopens : r.server.Opens server p con)
    (hother : con.client ∉ r.links) : Order { r with server } where
  buffered := h.buffered
  segment c hc conid := by
    obtain ⟨before, after, hseg⟩ := h.segment c hc conid
    refine ⟨before, after, hseg.sent, hseg.rest, ?_⟩
    intro q con' t hq hclient hconid ht
    have hne : q ≠ p := by
      rintro rfl
      cases hq.inj hopens.opened
      exact hother (hclient ▸ hc)
    obtain ⟨con₀, hcon, hsame⟩ := hopens.con q con' hq hne
    exact hseg.last q con₀ t hcon (hsame.client.symm.trans hclient)
      (hsame.conid.symm.trans hconid) ht
  pairs := h.pairs

/-- udpgw reads a packet; what is left is about the connections with its id. -/
theorem Order.read {served : List (Nat × Transmission)} {datagrams : List Datagram} (h : r.Order)
    (hpick : pick Prod.fst r.up i = some (c, t))
    (hother : ∀ c' conid before, (c' = c → t.conid ≠ conid) →
      LastServed r.server r.served c' conid before → LastServed server served c' conid before)
    (hself : ∀ before after,
      under Transmission.conid t.conid r.client.sent = before ++ t :: after →
      LastServed r.server r.served c t.conid before →
      LastServed server served c t.conid (before ++ [t]))
    (hpairs : ∀ p t t', (p, t) ∈ served → (p, t') ∈ served → t'.conaddr = t.conaddr) :
    Order { r with server, up := r.up.eraseIdx i, served, datagrams } where
  buffered := h.buffered
  segment c' hc' conid := by
    obtain ⟨before, after, hseg⟩ := h.segment c' hc' conid
    by_cases hself' : c' = c ∧ t.conid = conid
    · obtain ⟨rfl, rfl⟩ := hself'
      have hsent := hseg.sent
      rw [coming_pick hpick, List.cons_append] at hsent
      refine ⟨before ++ [t], after, ?_, hseg.rest, hself before _ hsent hseg.last⟩
      rw [List.append_assoc]
      exact hsent
    · have hne : c' = c → t.conid ≠ conid := fun hc heq => hself' ⟨hc, heq⟩
      refine ⟨before, after, ?_, hseg.rest, hother c' conid before hne hseg.last⟩
      show _ = before ++ (coming (r.up.eraseIdx i) c' conid ++ after)
      rw [coming_pick_ne hpick hne]
      exact hseg.sent
  pairs := hpairs

/-- No connection with the id of the packet is left. -/
theorem Order.read_failed (h : r.Order) (hpick : pick Prod.fst r.up i = some (c, t))
    (hstays : r.server.Stays server)
    (hnone : ∀ q con, server.Open q con → con.client = c → con.conid ≠ t.conid) :
    Order { r with server, up := r.up.eraseIdx i } := by
  apply h.read hpick
  · intro c' conid before _ hlast
    exact LastServed.stays hlast hstays
  · intro before after _ _ q con t' hq hclient hconid
    exact absurd hconid (hnone q con hq hclient)
  · exact h.pairs

/-- A connection is opened for the packet. -/
theorem Order.read_created (h : r.Order) (hI : r.Inv mtu max options)
    (hpick : pick Prod.fst r.up i = some (c, t)) (hinv : server.Inv none)
    (hopens : r.server.Opens server p con) (hclient : con.client = c)
    (hconid : con.conid = t.conid) :
    Order { r with server, up := r.up.eraseIdx i, served := r.served ++ [(p, t)] } := by
  have hfresh : ∀ {t'}, (p, t') ∉ r.served := by
    intro t' hp
    have hlt := (hI.served p t' hp).2
    rw [hopens.fresh] at hlt
    exact Nat.lt_irrefl _ hlt
  have hcases : ∀ {q t'}, (q, t') ∈ r.served ++ [(p, t)] →
      ((q, t') ∈ r.served ∧ q ≠ p) ∨ (q = p ∧ t' = t) := by
    intro q t' hq
    rcases List.mem_append.mp hq with hq | hq
    · exact Or.inl ⟨hq, fun heq => hfresh (heq ▸ hq)⟩
    · cases List.mem_singleton.mp hq
      exact Or.inr ⟨rfl, rfl⟩
  apply h.read hpick
  · intro c' conid before hne hlast q con' t' hq hclient' hconid' ht'
    rcases hcases ht' with ⟨ht', hqp⟩ | ⟨rfl, -⟩
    · obtain ⟨con₀, hcon, hsame⟩ := hopens.con q con' hq hqp
      exact hlast q con₀ t' hcon (hsame.client.symm.trans hclient')
        (hsame.conid.symm.trans hconid') ht'
    · cases hq.inj hopens.opened
      exact absurd (hconid.symm.trans hconid') (hne (hclient'.symm.trans hclient))
  · intro before after _ _ q con' t' hq hclient' hconid' ht'
    obtain rfl := hinv.conid_inj hopens.opened hq (hclient'.trans hclient.symm)
      (hconid'.trans hconid.symm)
    rcases hcases ht' with ⟨-, hqp⟩ | ⟨-, rfl⟩
    · exact absurd rfl hqp
    · exact ⟨t', List.getLast?_concat, rfl⟩
  · intro q t₁ t₂ h₁ h₂
    rcases hcases h₁ with ⟨hs₁, hqp⟩ | ⟨rfl, rfl⟩
    · rcases hcases h₂ with ⟨hs₂, -⟩ | ⟨rfl, -⟩
      · exact h.pairs q t₁ t₂ hs₁ hs₂
      · exact absurd rfl hqp
    · rcases hcases h₂ with ⟨-, hqp⟩ | ⟨-, rfl⟩
      · exact absurd rfl hqp
      · rfl

/-- The packet goes over the open connection with its id: it has the addresses of the one before
it, because it does not rebind the id. -/
theorem Order.read_sent {datagrams : List Datagram} (h : r.Order) (hI : r.Inv mtu max options)
    (hpick : pick Prod.fst r.up i = some (c, t)) (hstays : r.server.Stays server)
    (hopen : r.server.Open p con) (hclient : con.client = c) (hconid : con.conid = t.conid)
    (hrebind : ¬ t.Rebinds) :
    Order { r with server, up := r.up.eraseIdx i, served := r.served ++ [(p, t)], datagrams } := by
  have hlink : c ∈ r.links := (hI.up c t (mem_of_pick hpick)).1
  -- the addresses of everything served there
  have hsame : ∀ before after,
      under Transmission.conid t.conid r.client.sent = before ++ t :: after →
      LastServed r.server r.served c t.conid before →
      ∀ t', (p, t') ∈ r.served → t.conaddr = t'.conaddr := by
    intro before after heq hlast t' ht'
    obtain ⟨tl, htl, haddr⟩ := hlast p con t' hopen hclient hconid ht'
    rcases hI.client.marked.next heq htl with hrebinds | hnext
    · exact absurd hrebinds hrebind
    · exact hnext.symm.trans haddr
  have hserved : ∀ t', (p, t') ∈ r.served → t.conaddr = t'.conaddr := by
    obtain ⟨before, after, hseg⟩ := h.segment c hlink t.conid
    have hsent := hseg.sent
    rw [coming_pick hpick, List.cons_append] at hsent
    exact hsame before _ hsent hseg.last
  have hcases : ∀ {q t'}, (q, t') ∈ r.served ++ [(p, t)] →
      (q, t') ∈ r.served ∨ (q = p ∧ t' = t) := by
    intro q t' hq
    rcases List.mem_append.mp hq with hq | hq
    · exact Or.inl hq
    · cases List.mem_singleton.mp hq
      exact Or.inr ⟨rfl, rfl⟩
  apply h.read hpick
  · intro c' conid before hne hlast q con' t' hq hclient' hconid' ht'
    rcases hcases ht' with ht' | ⟨rfl, -⟩
    · exact LastServed.stays hlast hstays q con' t' hq hclient' hconid' ht'
    · obtain ⟨con₀, hcon, hkept⟩ := hstays.con q con' hq
      cases hcon.inj hopen
      rw [hkept.client, hclient] at hclient'
      rw [hkept.conid, hconid] at hconid'
      exact absurd hconid' (hne hclient'.symm)
  · intro before after heq hlast q con' t' hq hclient' hconid' ht'
    refine ⟨t, List.getLast?_concat, ?_⟩
    rcases hcases ht' with ht' | ⟨-, rfl⟩
    · obtain ⟨con₀, hcon, hkept⟩ := hstays.con q con' hq
      obtain rfl := hI.server.conid_inj hopen hcon
        ((hkept.client.symm.trans hclient').trans hclient.symm)
        ((hkept.conid.symm.trans hconid').trans hconid.symm)
      exact hserved t' ht'
    · rfl
  · intro q t₁ t₂ h₁ h₂
    rcases hcases h₁ with hs₁ | ⟨rfl, rfl⟩
    · rcases hcases h₂ with hs₂ | ⟨rfl, rfl⟩
      · exact h.pairs q t₁ t₂ hs₁ hs₂
      · exact hserved t₁ hs₁
    · rcases hcases h₂ with hs₂ | ⟨-, rfl⟩
      · exact (hserved t₂ hs₂).symm
      · rfl

/-- udpgw reads a packet of `UdpGwClient`, of a size that it takes. -/
theorem Order.receive {dns : Option UdpAddr} {now : Int} {res : ServerResources} {place : Bool}
    (h : r.Order) (hI : r.Inv mtu max options) (hmtu : mtu ≤ options.udpMtu)
    (he : r.enabled (.receive i dns now res place) = true) (m : DataModel) :
    Returns (r.exec m (.receive i dns now res place)) fun r' => r'.Order := by
  obtain ⟨⟨c, t⟩, hpick, he⟩ := (Option.any_eq_true _ _).mp he
  obtain ⟨-, ht, hsome⟩ := hI.up c t (mem_of_pick hpick)
  unfold GatewayRun.exec
  dsimp only
  rw [hpick]
  apply Returns.bind (hI.server.receives (hI.client.formed t ht) hsome he m)
  rintro ⟨server, outcome⟩ ⟨hinv, hout⟩
  apply Returns.pure
  rcases hout with ⟨-, hlarge⟩ | ⟨o, rfl, hserves⟩
  · have hdata := hI.client.data t ht
    rw [hI.options] at hlarge
    omega
  · cases hserves with
    | failed hstays hnone => exact h.read_failed hpick hstays hnone
    | created hopens hclient hconid => exact h.read_created hI hpick hinv hopens hclient hconid
    | sent hopen hclient hconid _ hrebind hstays =>
      rw [flags_and (by decide)] at hrebind
      exact h.read_sent hI hpick hstays hopen hclient hconid (fun hne => hne hrebind)

/-! ## The other steps -/

/-- A packet leaves its buffer: it is the next one under its id. -/
theorem Order.transmit (h : r.Order) (hlink : r.link = some c)
    (hpick : pick Transmission.conid r.buffered i = some t) :
    Order { r with buffered := r.buffered.eraseIdx i, up := r.up ++ [(c, t)] } where
  buffered conid := by
    obtain ⟨before, hbefore⟩ := h.buffered conid
    by_cases hconid : t.conid = conid
    · subst hconid
      rw [under_pick hpick] at hbefore
      exact ⟨before ++ [t], by rw [hbefore, List.append_assoc]; rfl⟩
    · exact ⟨before, by rw [under_pick_ne hpick hconid]; exact hbefore⟩
  segment c' hc' conid := by
    obtain ⟨before, after, hseg⟩ := h.segment c' hc' conid
    by_cases hself : c' = c ∧ t.conid = conid
    · obtain ⟨rfl, rfl⟩ := hself
      have hafter := hseg.rest hlink
      rw [under_pick hpick] at hafter
      subst hafter
      refine ⟨before, under Transmission.conid t.conid (r.buffered.eraseIdx i), ?_,
        fun _ => rfl, hseg.last⟩
      show _ = before ++ (coming (r.up ++ [(c', t)]) c' t.conid ++ _)
      rw [coming_concat, List.append_assoc]
      exact hseg.sent
    · have hne : c' = c → t.conid ≠ conid := fun hc heq => hself ⟨hc, heq⟩
      refine ⟨before, after, ?_, ?_, hseg.last⟩
      · show _ = before ++ (coming (r.up ++ [(c, t)]) c' conid ++ after)
        rw [coming_concat_ne hne]
        exact hseg.sent
      · intro hlink'
        cases hlink.symm.trans hlink'
        show after = under Transmission.conid conid (r.buffered.eraseIdx i)
        rw [under_pick_ne hpick (hne rfl)]
        exact hseg.rest hlink
  pairs := h.pairs

/-- `UdpGwClient` sends, and every packet finds a place. -/
theorem Order.clientStep {e : ClientEvent} {client : ClientRun} (h : r.Order)
    (hexec : r.client.exec m e = .ok client) (hlost : (r.buffer client).NoneLost) :
    (r.buffer client).Order := by
  obtain ⟨new, hnew⟩ := (ClientRun.exec_sent hexec).1
  have hdrop : client.sent.drop r.client.sent.length = new := by
    rw [← hnew, List.drop_left]
  have hfilter : new.filter (fun t => t.packet.isSome) = new := by
    rw [List.filter_eq_self]
    intro t ht
    apply hlost t
    show t ∈ client.sent
    rw [← hnew]
    exact List.mem_append_right _ ht
  have hbuffer : r.buffer client = { r with client, buffered := r.buffered ++ new } := by
    unfold GatewayRun.buffer
    rw [hdrop, hfilter]
  have hsent : ∀ conid, under Transmission.conid conid client.sent
      = under Transmission.conid conid r.client.sent ++ under Transmission.conid conid new := by
    intro conid
    rw [← hnew, under_append]
  rw [hbuffer]
  constructor
  case buffered =>
    intro conid
    obtain ⟨before, hbefore⟩ := h.buffered conid
    refine ⟨before, ?_⟩
    show under Transmission.conid conid client.sent
      = before ++ under Transmission.conid conid (r.buffered ++ new)
    rw [hsent, hbefore, under_append, List.append_assoc]
  case segment =>
    intro c hc conid
    obtain ⟨before, after, hseg⟩ := h.segment c hc conid
    refine ⟨before, after ++ under Transmission.conid conid new, ?_, ?_, hseg.last⟩
    · show under Transmission.conid conid client.sent = _
      rw [hsent, hseg.sent]
      simp only [List.append_assoc]
    · intro hlink
      show _ = under Transmission.conid conid (r.buffered ++ new)
      rw [under_append, hseg.rest hlink]
  case pairs => exact h.pairs

/-- A new connection starts with what is in the buffer, and without sockets. -/
theorem Order.link_fresh (h : r.Order) (hI : r.Inv mtu max options)
    (hstays : r.server.Stays server) :
    Order { r with
      server
      link := some r.server.clients.next
      links := r.links ++ [r.server.clients.next] } where
  buffered := h.buffered
  segment c hc conid := by
    have hnot : r.server.clients.next ∉ r.links :=
      fun hmem => Nat.lt_irrefl _ (hI.links _ hmem)
    rcases List.mem_append.mp hc with hc | hc
    · obtain ⟨before, after, hseg⟩ := h.segment c hc conid
      refine ⟨before, after, hseg.sent, ?_, LastServed.stays hseg.last hstays⟩
      intro heq
      cases heq
      exact absurd hc hnot
    · obtain rfl := List.mem_singleton.mp hc
      obtain ⟨before, hbefore⟩ := h.buffered conid
      refine ⟨before, _, ?_, fun _ => rfl, ?_⟩
      · rw [coming_fresh fun t ht => hnot (hI.up _ t ht).1]
        exact hbefore
      · intro p con' t hp hclient
        obtain ⟨con, hcon, hsame⟩ := hstays.con p con' hp
        obtain ⟨cl, hcl⟩ := hI.server.owner p con hcon.1
        rw [← hsame.client, hclient, Heap.get_next] at hcl
        cases hcl
  pairs := h.pairs

/-- The other records do not matter. -/
theorem Order.records {down : List Reply} {datagrams : List Datagram}
    {answers : List (Nat × List UInt8)} (h : r.Order) :
    Order { r with down, datagrams, answers } where
  buffered := h.buffered
  segment c hc conid := by
    obtain ⟨before, after, hseg⟩ := h.segment c hc conid
    exact ⟨before, after, hseg.sent, hseg.rest, hseg.last⟩
  pairs := h.pairs

theorem Order.record {e : ServerEvent} {outcome : ServerOutcome} (h : Order { r with server }) :
    (r.record server e outcome).Order := by
  unfold GatewayRun.record
  split
  · split
    · exact h
    · exact h.records
  · split
    · exact h
    · exact h.records
  · exact h

/-- Any other step of udpgw. -/
theorem Order.other {e : ServerEvent} (h : r.Order) (hI : r.Inv mtu max options)
    (he : r.server.enabled e = true)
    (hpacket : ∀ c data dns now res place, e = .packet c data dns now res place → c ∉ r.links)
    (m : DataModel) : Returns (r.exec m (.server e)) fun r' => r'.Order := by
  apply Returns.bind (hI.server.exec he m)
  rintro ⟨server, outcome⟩ ⟨-, heffect⟩
  apply Returns.pure
  apply Order.record
  cases heffect with
  | accept hstays => exact h.stays hstays
  | dropped => exact h
  | served hserves =>
    have hother := hpacket _ _ _ _ _ _ rfl
    cases hserves with
    | failed hstays => exact h.stays hstays
    | created hopens hclient => exact h.opens hopens (hclient ▸ hother)
    | sent _ _ _ _ _ hstays => exact h.stays hstays
  | firstJob hstays => exact h.stays hstays
  | answered hstays => exact h.stays hstays
  | other hstays => exact h.stays hstays

/-- udpgw accepts a connection, or does not. -/
theorem Order.connect (h : r.Order) (hI : r.Inv mtu max options) (res : Bool) (m : DataModel) :
    Returns (r.exec m (.connect res)) fun r' => r'.Order := by
  have haccept : r.server.enabled (.accept res) = true := rfl
  apply Returns.bind (hI.server.exec haccept m)
  rintro ⟨server, outcome⟩ ⟨-, heffect⟩
  cases heffect with
  | @accept _ _ oc hstays hc =>
    cases oc with
    | none => exact Returns.pure (h.stays hstays)
    | some c =>
      obtain ⟨rfl, -⟩ := hc c rfl
      exact Returns.pure (h.link_fresh hI hstays)
  | other hstays => exact Returns.pure (h.stays hstays)

theorem Order.disconnect (h : r.Order) : Order { r with link := none } where
  buffered := h.buffered
  segment c hc conid := by
    obtain ⟨before, after, hseg⟩ := h.segment c hc conid
    exact ⟨before, after, hseg.sent, fun hlink => (by cases hlink), hseg.last⟩
  pairs := h.pairs

/-- `UdpGwClient` reads a packet, and sends nothing for it. -/
theorem Order.delivered {client : ClientRun} {down : List Reply} (h : r.Order)
    (hsent : client.sent = r.client.sent) : Order { r with client, down } where
  buffered conid := by
    obtain ⟨before, hbefore⟩ := h.buffered conid
    exact ⟨before, by rw [hsent]; exact hbefore⟩
  segment c hc conid := by
    obtain ⟨before, after, hseg⟩ := h.segment c hc conid
    exact ⟨before, after, by rw [hsent]; exact hseg.sent, hseg.rest, hseg.last⟩
  pairs := h.pairs

theorem Order.deliver (h : r.Order) (hI : r.Inv mtu max options)
    (he : r.enabled (.deliver i) = true) (m : DataModel) :
    Returns (r.exec m (.deliver i)) fun r' => r'.Order := by
  obtain ⟨reply, hreply, he⟩ := (Option.any_eq_true _ _).mp he
  obtain ⟨-, he⟩ := Bool.and_eq_true_iff.mp he
  obtain ⟨-, t, -, hpacket⟩ := hI.down reply (List.mem_of_getElem? hreply)
  rw [hpacket] at he
  unfold GatewayRun.exec
  dsimp only
  rw [hreply]
  dsimp only
  rw [hpacket]
  apply Returns.bind (hI.client.reads (by decide) he m)
  rintro client ⟨-, hsent, -⟩
  exact Returns.pure (h.delivered hsent)

/-! ## Every run -/

theorem taken_client {o : ServerOutcome} : (r.taken i t server o).client = r.client := by
  unfold taken
  split <;> rfl

theorem record_client {e : ServerEvent} {o : ServerOutcome} :
    (r.record server e o).client = r.client := by
  unfold record
  split
  · split <;> rfl
  · split <;> rfl
  · rfl

/-- What was sent stays. -/
theorem exec_sent {e : GatewayEvent} (h : r.exec m e = .ok r') :
    r.client.sent <+: r'.client.sent := by
  cases e with
  | client e =>
    obtain ⟨client, hclient, h⟩ := bind_ok h
    cases h
    exact (ClientRun.exec_sent hclient).1
  | connect res =>
    obtain ⟨⟨server, outcome⟩, -, h⟩ := bind_ok h
    dsimp only at h
    split at h <;> cases h <;> exact List.prefix_rfl
  | disconnect =>
    cases h
    exact List.prefix_rfl
  | transmit i =>
    unfold GatewayRun.exec at h
    dsimp only at h
    split at h <;> cases h
    exact List.prefix_rfl
  | receive i dns now res place =>
    unfold GatewayRun.exec at h
    dsimp only at h
    split at h
    · cases h
    · obtain ⟨⟨server, outcome⟩, -, h⟩ := bind_ok h
      cases h
      exact taken_client.symm ▸ List.prefix_rfl
  | server e =>
    obtain ⟨⟨server, outcome⟩, -, h⟩ := bind_ok h
    cases h
    exact record_client.symm ▸ List.prefix_rfl
  | deliver i =>
    unfold GatewayRun.exec at h
    dsimp only at h
    split at h
    · cases h
    · obtain ⟨client, hclient, h⟩ := bind_ok h
      cases h
      exact (ClientRun.exec_sent hclient).1

/-- A step of the two after which still every packet has found a place. -/
theorem Order.exec {e : GatewayEvent} (h : r.Order) (hI : r.Inv mtu max options)
    (hmtu : mtu ≤ options.udpMtu) (he : r.enabled e = true) (hexec : r.exec m e = .ok r')
    (hlost : r'.NoneLost) : r'.Order := by
  have hreturns : ∀ {P : GatewayRun → Prop}, Returns (r.exec m e) P → P r' := by
    rintro P ⟨r'', hr'', hP⟩
    cases hexec.symm.trans hr''
    exact hP
  cases e with
  | client e =>
    obtain ⟨client, hclient, hr'⟩ := bind_ok hexec
    cases hr'
    exact h.clientStep hclient hlost
  | connect res => exact hreturns (h.connect hI res m)
  | disconnect =>
    cases hexec
    exact h.disconnect
  | transmit i =>
    unfold GatewayRun.exec at hexec
    dsimp only at hexec
    split at hexec <;> cases hexec
    rename_i hlink hpick
    exact h.transmit hlink hpick
  | receive i dns now res place => exact hreturns (h.receive hI hmtu he m)
  | server e =>
    obtain ⟨he, hpacket⟩ := enabled_server he
    exact hreturns (h.other hI he hpacket m)
  | deliver i => exact hreturns (h.deliver hI he m)

end GatewayRun

section

variable {m : DataModel} {mtu : Int} {max : Nat} {options : ServerOptions}
  {es : List GatewayEvent} {res : Except CFault GatewayRun}

theorem gateway_order (hstart : Startable mtu max) (hoptions : options.Accepted)
    (hmtu : mtu ≤ options.udpMtu) (h : (gateway m mtu max options).Runs es res) :
    Returns res fun r => r.Inv mtu max options ∧ (r.NoneLost → r.Order) := by
  apply h.returns (I := fun _ r => r.Inv mtu max options ∧ (r.NoneLost → r.Order))
  · obtain ⟨r, hr, hinv⟩ := gateway_inv hstart hoptions
      (.nil : (gateway m mtu max options).Runs [] _)
    cases hr
    refine ⟨hinv, fun _ => ?_⟩
    exact {
      buffered := fun conid => ⟨_, (List.append_nil _).symm⟩
      segment := fun c hc => by cases hc
      pairs := fun p t t' ht => by cases ht }
  · intro es r e ⟨hinv, horder⟩ he
    obtain ⟨r', hexec, hinv'⟩ := hinv.exec he m
    refine ⟨r', hexec, hinv', fun hlost => ?_⟩
    have hlost₀ : r.NoneLost :=
      fun t ht => hlost t ((GatewayRun.exec_sent hexec).subset ht)
    exact (horder hlost₀).exec hinv hmtu he hexec hlost

/-- As long as every packet finds a place in a buffer, and udpgw takes packets of the size that
`UdpGwClient` sends, a socket of udpgw is used for one local address and one remote address. -/
theorem gateway_sockets (hstart : Startable mtu max) (hoptions : options.Accepted)
    (hmtu : mtu ≤ options.udpMtu) (h : (gateway m mtu max options).Runs es res) :
    ∃ r, res = .ok r ∧ (r.NoneLost → ∀ p t t', (p, t) ∈ r.served → (p, t') ∈ r.served →
      t'.conaddr = t.conaddr) := by
  obtain ⟨r, rfl, -, horder⟩ := gateway_order hstart hoptions hmtu h
  exact ⟨r, rfl, fun hlost => (horder hlost).pairs⟩

private def plenty : ServerResources := ⟨true, true, true, true, true, [], true, true, true⟩

private def buffer : Option (List UInt8) := some (List.replicate 22 0)

/-- A program sends to an address over the only connection. -/
private def program (port : UInt16) (out : Option (List UInt8)) : GatewayEvent :=
  .client (.submit ⟨.ipv4 1 port, .ipv4 2 53, false, [7]⟩ ⟨true, true⟩ out)

private def firstProgram : List GatewayEvent :=
  [.connect true, program 1 buffer, .client (.firstJob buffer), .transmit 0,
    .receive 0 none 0 plenty true, .server (.firstJob 0 0 true)]

/-- Both programs are served, under one id and for one remote address. -/
private def bothServed (r : GatewayRun) (same : Bool) : Bool :=
  r.served.any fun (p, t) => r.served.any fun (q, t') =>
    t.conaddr != t'.conaddr && t.conaddr.remoteAddr == t'.conaddr.remoteAddr && (p == q) == same

private def oneConnection : ServerOptions :=
  ⟨1, 1, 1, -1, .ipv4 0 0, -1, .ipv6 (.replicate 16 0) 0, false⟩

private theorem oneConnection_accepted : oneConnection.Accepted :=
  ⟨by decide, by decide, by decide⟩

theorem gateway_sockets_two :
    ∃ (r : GatewayRun) (p q : Nat) (t t' : Transmission), (p, t) ∈ r.served ∧
      (q, t') ∈ r.served ∧ t.conaddr.remoteAddr = t'.conaddr.remoteAddr ∧ p ≠ q := by
  have hends : (gateway ⟨32, Nat.le_refl _⟩ 1 1 oneConnection).ends
      (firstProgram ++ [program 2 buffer, .transmit 0, .receive 0 none 0 plenty true])
      (fun r => r.client.sent.all (fun t => t.packet.isSome) && bothServed r false) = true := by
    decide
  obtain ⟨r, hruns, hr⟩ := Machine.runs_of_ends hends
  obtain ⟨r', hr', hpairs⟩ := gateway_sockets ⟨by decide, by decide, by decide⟩
    oneConnection_accepted (by decide) hruns
  cases hr'
  obtain ⟨hlost, hr⟩ := Bool.and_eq_true_iff.mp hr
  obtain ⟨⟨p, t⟩, ht, hr⟩ := List.any_eq_true.mp hr
  obtain ⟨⟨q, t'⟩, ht', hr⟩ := List.any_eq_true.mp hr
  obtain ⟨hr, -⟩ := Bool.and_eq_true_iff.mp hr
  obtain ⟨hne, hremote⟩ := Bool.and_eq_true_iff.mp hr
  refine ⟨r, p, q, t, t', ht, ht', eq_of_beq hremote, ?_⟩
  rintro rfl
  exact bne_iff_ne.mp hne (hpairs (List.all_eq_true.mp hlost) p t' t ht' ht)

/-- When the packet with the flag is lost, the next one of the second program goes from the socket
of the first. -/
example : (gateway ⟨32, Nat.le_refl _⟩ 1 1 oneConnection).ends
    (firstProgram ++ [program 2 none, program 2 buffer, .transmit 0,
      .receive 0 none 0 plenty true]) (bothServed · true) = true := by
  decide

end

end Lightsocks.Udpgw
