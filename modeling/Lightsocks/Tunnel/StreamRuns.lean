import Lightsocks.Tunnel.Passing

/-!
# The bytes along a run

In every run of the connections, what SOCKS has sent is the beginning of what lwIP passed on, and
what was written to the client is the beginning of what SOCKS received. When one side of a
connection ends, what it has sent before still goes to the other side, as long as that one takes
it: SOCKS is freed with nothing left for it, unless it reports an error, and a pcb is closed with
nothing left to be confirmed, unless its client is gone or lwIP refuses bytes.
-/

namespace Lightsocks.Tunnel

open Lightsocks.Lib

/-- SOCKS reports that it is gone, for the `i`-th connection. -/
def StreamEvent.socksFails (i : Nat) : StreamEvent → Bool
  | .socks j .error _ | .socks j .errorClosed _ => j == i
  | _ => false

namespace Streams

/-- What holds of a connection, also after its end. -/
structure At (s : Streams) (i : Nat) : Prop where
  toSocks : (s.bytes i).toSocks <+: (s.bytes i).fromClient
  toClient : (s.bytes i).toClient <+: (s.bytes i).fromSocks
  holds : ∀ c, s.clients.record i = some c → (s.bytes i).Holds c
  moves : ∀ c, s.clients.record i = some c → c.Moves (s.clients.ends i)

def Uploaded (s : Streams) (i : Nat) : Prop :=
  (s.clients.ends i).socks = false → (s.bytes i).toSocks = (s.bytes i).fromClient

def Downloaded (s : Streams) (i : Nat) : Prop :=
  (s.clients.ends i).pcbOpen = false → (s.clients.ends i).socks = false ∧
    (s.bytes i).toClient = (s.bytes i).fromSocks ∧ (s.clients.ends i).unacked = 0

/-- An event of the `i`-th connection, in which SOCKS does not fail or the client is not lost. -/
structure Passes (s : Streams) (i : Nat) (socksOk clientOk : Prop) (s' : Streams) : Prop where
  frame : s.Frame i s'
  kept : s'.At i
  up : socksOk → s.Uploaded i → s'.Uploaded i
  down : clientOk → s.Downloaded i → s'.Downloaded i

variable {s s₀ s' : Streams} {clients : Clients} {i : Nat} {c c' : TcpClient} {e e' : Ends}
  {b b' : TcpBytes} {socksOk clientOk : Prop}


/-- Nothing was freed. -/
theorem To.passes (h : s.To i c e b s') (hholds : b.Holds c) (hmoves : c.Moves e)
    (hbegins : b.toClient <+: b.fromSocks)
    (hup : s.Uploaded i → e.socks = false → b.toSocks = b.fromClient)
    (hdown : s.Downloaded i → e.pcbOpen = false →
      e.socks = false ∧ b.toClient = b.fromSocks ∧ e.unacked = 0) :
    s.Passes i socksOk clientOk s' where
  frame := h.frame
  kept := by
    refine ⟨?_, ?_, fun c' hc' => ?_, fun c' hc' => ?_⟩
    · rw [h.bytes, hholds.upload]
      exact List.prefix_append _ _
    · rw [h.bytes]
      exact hbegins
    · cases h.record.symm.trans hc'
      rw [h.bytes]
      exact hholds
    · cases h.record.symm.trans hc'
      rw [h.ends]
      exact hmoves
  up _ hs := by
    unfold Uploaded
    rw [h.ends, h.bytes]
    exact hup hs
  down _ hs := by
    unfold Downloaded
    rw [h.ends, h.bytes]
    exact hdown hs

theorem Frame.frees (h : s.Frame i s₀) (hfrees : s₀.clients.Frees i clients) :
    s.Frame i { s₀ with clients } where
  clients := ⟨fun j hj => (hfrees.frame.record j hj).trans (h.clients.record j hj),
    fun j hj => (hfrees.frame.ends j hj).trans (h.clients.ends j hj)⟩
  bytes := h.bytes

/-- The client is gone. -/
theorem To.losesClient (h : s.To i c e b s₀) (hloses : s₀.clients.LosesClient i clients)
    (hholds : b.Holds c) (hbegins : b.toClient <+: b.fromSocks)
    (hup : s.Uploaded i → e.socks = false → b.toSocks = b.fromClient)
    (hdown : clientOk → e.socks = false ∧ b.toClient = b.fromSocks ∧ e.unacked = 0) :
    s.Passes i socksOk clientOk { s₀ with clients } where
  frame := h.frame.frees hloses.toFrees
  kept := by
    refine ⟨?_, ?_, fun c' hc' => ?_, fun c' hc' => ?_⟩
    · show (s₀.bytes i).toSocks <+: (s₀.bytes i).fromClient
      rw [h.bytes, hholds.upload]
      exact List.prefix_append _ _
    · show (s₀.bytes i).toClient <+: (s₀.bytes i).fromSocks
      rw [h.bytes]
      exact hbegins
    · obtain ⟨c₀, hc₀, hkeeps⟩ := hloses.record c' hc'
      cases h.record.symm.trans hc₀
      show (s₀.bytes i).Holds c'
      rw [h.bytes]
      exact hholds.keeps hkeeps
    · obtain ⟨hclient, hsocks, hwaits⟩ := hloses.closed c' hc'
      exact ⟨fun hopen => (by cases hclient.symm.trans hopen),
        fun hopen => (by cases hclient.symm.trans hopen), fun _ => hwaits,
        fun hclosed => (by cases hsocks.symm.trans hclosed)⟩
  up _ hs hgone := by
    show (s₀.bytes i).toSocks = (s₀.bytes i).fromClient
    rw [h.bytes]
    rcases Bool.eq_false_or_eq_true e.socks with hsocks | hsocks
    · obtain ⟨c₀, hc₀, hle⟩ := hloses.drained (h.ends ▸ hsocks) hgone
      cases h.record.symm.trans hc₀
      rw [hholds.upload, Int.toNat_eq_zero.mpr hle, List.take_zero, List.append_nil]
    · exact hup hs hsocks
  down hok _ _ := by
    obtain ⟨hsocks, hbytes', hunacked⟩ := hdown hok
    refine ⟨Bool.eq_false_iff.mpr fun ho => ?_, ?_, ?_⟩
    · have hopen := hloses.socks ho
      rw [h.ends, hsocks] at hopen
      cases hopen
    · show (s₀.bytes i).toClient = (s₀.bytes i).fromSocks
      rw [h.bytes]
      exact hbytes'
    · show (clients.ends i).unacked = 0
      rw [hloses.unacked, h.ends]
      exact hunacked

/-- SOCKS is gone. -/
theorem To.losesSocks {sending : Option Int} {up : Bool} (h : s.To i c e b s₀)
    (hloses : s₀.clients.LosesSocks i clients) (hholds : b.Holds c)
    (hagrees : c.Agrees { e with sending, up })
    (hconfirms : c.clientClosed = false → 0 < c.socksRecvBufUsed → 0 < e.unacked)
    (hbegins : b.toClient <+: b.fromSocks)
    (hup : socksOk → b.toSocks = b.fromClient)
    (hdown : s.Downloaded i → e.pcbOpen = false → b.toClient = b.fromSocks ∧ e.unacked = 0) :
    s.Passes i socksOk clientOk { s₀ with clients } where
  frame := h.frame.frees hloses.toFrees
  kept := by
    refine ⟨?_, ?_, fun c' hc' => ?_, fun c' hc' => ?_⟩
    · show (s₀.bytes i).toSocks <+: (s₀.bytes i).fromClient
      rw [h.bytes, hholds.upload]
      exact List.prefix_append _ _
    · show (s₀.bytes i).toClient <+: (s₀.bytes i).fromSocks
      rw [h.bytes]
      exact hbegins
    · obtain ⟨c₀, hc₀, hkeeps⟩ := hloses.record c' hc'
      cases h.record.symm.trans hc₀
      show (s₀.bytes i).Holds c'
      rw [h.bytes]
      exact hholds.keeps hkeeps
    · obtain ⟨c₀, hc₀, hkeeps⟩ := hloses.record c' hc'
      cases h.record.symm.trans hc₀
      obtain ⟨hclient, hsocks, hup', hwaits⟩ := hloses.closed c' hc'
      rw [hkeeps.socksUp] at hup'
      rw [hkeeps.socksRecvBufUsed, hkeeps.pending] at hwaits
      have hopen : c.clientClosed = false := Bool.eq_false_iff.mpr fun hc => by
        cases (hkeeps.clientClosed hc).symm.trans hclient
      have hunacked : 0 < (clients.ends i).unacked := by
        rw [hloses.unacked, h.ends]
        rcases hagrees.recvBuf hopen hup' with hused | ⟨hused, -⟩
        · obtain ⟨hpending, -⟩ := hagrees.pending hopen hup'
          change c.socksRecvTcpPending = e.unacked at hpending
          omega
        · exact hconfirms hopen hused
      exact ⟨fun _ hsocks' => (by cases hsocks.symm.trans hsocks'), fun _ _ => hunacked,
        fun hclosed => (by cases hclient.symm.trans hclosed), fun _ => hunacked⟩
  up hok _ _ := by
    show (s₀.bytes i).toSocks = (s₀.bytes i).fromClient
    rw [h.bytes]
    exact hup hok
  down _ hs hgone := by
    refine ⟨hloses.socksGone, ?_⟩
    show (s₀.bytes i).toClient = (s₀.bytes i).fromSocks ∧ (clients.ends i).unacked = 0
    rw [h.bytes, hloses.unacked, h.ends]
    rcases Bool.eq_false_or_eq_true e.pcbOpen with hopen | hopen
    · obtain ⟨c₀, hc₀, hdrained⟩ := hloses.drained (h.ends ▸ hopen) hgone
      cases h.record.symm.trans hc₀
      have hclient : c.clientClosed = false := by
        change e.pcbOpen = true at hopen
        rw [show e.pcbOpen = !c.clientClosed from hagrees.pcbOpen] at hopen
        simpa using hopen
      have hdownload := hholds.download hclient
      rcases Bool.eq_false_or_eq_true c.socksUp with hup' | hup'
      · rcases hdrained with hdrained | ⟨hused, hconfirmed⟩
        · cases hup'.symm.trans hdrained
        · rw [TcpBytes.waiting_nil (Int.le_of_lt hused), List.append_nil] at hdownload
          obtain ⟨hpending, hle⟩ := hagrees.pending hclient hup'
          change c.socksRecvTcpPending = e.unacked at hpending
          change 0 ≤ e.unacked at hle
          exact ⟨hdownload.symm, by omega⟩
      · rw [TcpBytes.waiting_nil (hholds.down hup'), List.append_nil] at hdownload
        exact ⟨hdownload.symm, hagrees.unacked hup'⟩
    · exact hdown hs hopen

/-! ## Callbacks -/

/-- lwIP has freed the pcb. -/
theorem At.err (h : s.At i) (hr : s.clients.record i = some c)
    (hrun : s.exec (.err i) = .ok s') : s.Passes i socksOk False s' := by
  change s.on (ClientEvent.exec · (.err i)) = _ at hrun
  obtain ⟨clients, hfree, rfl⟩ := on_ok hrun
  obtain ⟨c', -, hfree⟩ := bind_ok hfree
  obtain ⟨_, -, hfree⟩ := bind_ok hfree
  have h₀ := ((To.refl hr).setEnds
    { s.clients.ends i with pcbOpen := false, callbacks := .none }).write (.release (.pcb i))
  exact h₀.losesClient (Clients.clientHandleFreedClient_spec hfree) (h.holds c hr) h.toClient
    (fun hs hgone => hs hgone) (fun hf => hf.elim)

/-- The client has closed its side. -/
theorem At.recv_none {closeOk : Bool} (h : s.At i) (hr : s.clients.record i = some c)
    (hrun : s.exec (.recv i none closeOk) = .ok s') : s.Passes i socksOk False s' := by
  obtain ⟨c', -, hrun⟩ := bind_ok hrun
  obtain ⟨_, -, hrun⟩ := bind_ok hrun
  change (s.deadEnter i).on _ = _ at hrun
  obtain ⟨clients, hfree, rfl⟩ := on_ok hrun
  exact (To.refl hr).deadEnter.losesClient (Clients.clientFreeClient_spec hfree) (h.holds c hr)
    h.toClient (fun hs hgone => hs hgone) (fun hf => hf.elim)

/-- The client has sent something. -/
theorem At.recv {data : List UInt8} {closeOk : Bool} (h : s.At i)
    (hr : s.clients.record i = some c) (hagrees : c.Agrees (s.clients.ends i))
    (hclient : c.clientClosed = false) (hsocks : c.socksClosed = false)
    (hrun : s.exec (.recv i (some data) closeOk) = .ok s') : s.Passes i socksOk clientOk s' := by
  have hmoves := h.moves c hr
  obtain ⟨c', hc', hrun⟩ := bind_ok hrun
  cases hr.symm.trans (Clients.client_ok hc')
  iterate 2 (obtain ⟨_, -, hrun⟩ := bind_ok hrun)
  have h₀ := (To.refl hr).deadEnter
  dsimp only at hrun
  split at hrun
  · cases hrun
    exact h₀.passes (h.holds c hr) hmoves h.toClient (fun hs hgone => hs hgone)
      (fun hs hgone => hs hgone)
  · rename_i hfits
    have h₁ := (h₀.setBytes ((s.bytes i).took c data)).setClient
      { c with bufUsed := c.bufUsed + data.length }
    have hdone : ∀ {sending : Option Int}, s.To i { c with bufUsed := c.bufUsed + data.length }
        { s.clients.ends i with sending } ((s.bytes i).took c data) s' →
        s.Passes i socksOk clientOk s' := by
      intro sending hto
      apply hto.passes ((h.holds c hr).took hagrees.bufUsed.1 (by omega))
      · exact ⟨hmoves.receives, hmoves.confirms, fun hc => (by cases hclient.symm.trans hc),
          hmoves.socksGone⟩
      · exact h.toClient
      · intro _ hgone
        cases hgone.symm.trans (hagrees.socks.trans (by rw [hsocks]))
      · intro _ hgone
        cases hgone.symm.trans (hagrees.pcbOpen.trans (by rw [hclient]))
    split at hrun
    · obtain ⟨_, -, hrun⟩ := bind_ok hrun
      obtain ⟨clients, hsend, rfl⟩ := on_ok hrun
      exact hdone (h₁.sendsAll hsend)
    · cases hrun
      exact hdone h₁

/-- SOCKS has sent something. -/
theorem At.sendDone {dataLen len : Int} (h : s.At i) (hr : s.clients.record i = some c)
    (hagrees : c.Agrees (s.clients.ends i)) (hsending : (s.clients.ends i).sending = some len)
    (hpos : 0 < dataLen) (hle : dataLen ≤ len) (hrun : s.exec (.sendDone i dataLen) = .ok s') :
    s.Passes i socksOk clientOk s' := by
  have hmoves := h.moves c hr
  obtain ⟨-, hsocks, -, hlen⟩ := hagrees.sending len hsending
  obtain ⟨-, hfits⟩ := hagrees.bufUsed
  have hholds := (h.holds c hr).sent (Int.le_of_lt hpos) (by omega : dataLen ≤ c.bufUsed) hfits
  have hopen : (s.clients.ends i).socks = true := by
    rw [hagrees.socks, hsocks]
    rfl
  have h₀ := ((To.refl hr).setBytes ((s.bytes i).sent dataLen)).setEnds
    { s.clients.ends i with sending := none }
  obtain ⟨s₁, h₁, hrest⟩ := clientSocksSendHandlerDone_cases h₀ hrun
  have hdone : ∀ {sending : Option Int}, (c.clientClosed = true → 0 < c.bufUsed - dataLen) →
      s.To i { c with bufUsed := c.bufUsed - dataLen }
        { s.clients.ends i with sending } (((s.bytes i).sent dataLen).moved c dataLen) s' →
      s.Passes i socksOk clientOk s' := by
    intro sending hgone hto
    apply hto.passes hholds ⟨hmoves.receives, hmoves.confirms, hgone, hmoves.socksGone⟩ h.toClient
    · intro _ hgone
      cases hopen.symm.trans hgone
    · intro hs hgone
      exact hs hgone
  split at hrest
  · rename_i hmore
    obtain ⟨clients, hsend, rfl⟩ := on_ok hrest
    exact hdone (fun _ => hmore) (h₁.sends hsend)
  · rename_i hempty
    split at hrest
    · rename_i hclient
      obtain ⟨clients, hfree, rfl⟩ := on_ok hrest
      have hleft : TcpClient.Agrees { c with bufUsed := c.bufUsed - dataLen }
          { s.clients.ends i with sending := none } :=
        { hagrees with
          bufUsed := ⟨by dsimp only; omega, by dsimp only; omega⟩
          sending := fun _ hs => by cases hs
          notSending := fun _ _ _ => by dsimp only; omega }
      refine h₁.losesSocks (Clients.clientFreeSocks_spec hfree) hholds hleft hmoves.confirms
        h.toClient (fun _ => ?_) (fun hs hgone => (hs hgone).2)
      have hall := hholds.upload
      rw [Int.toNat_eq_zero.mpr (Int.not_lt.mp hempty), List.take_zero, List.append_nil] at hall
      exact hall.symm
    · rename_i hclient
      cases hrest
      exact hdone (fun hc => absurd hc hclient) h₁

/-- `client_socks_recv_send_out` in a callback: it has lost the client, or the callback may go on,
and has to receive if all bytes were written. -/
theorem To.sendOut {io : SendOut} {r : Int} (h : s.To i c e b s₀) (hholds : b.Holds c)
    (hclient : c.clientClosed = false) (hlt : c.socksRecvBufSent < c.socksRecvBufUsed)
    (hpending : c.socksRecvTcpPending = e.unacked) (hle : 0 ≤ e.unacked)
    (hpcb : e.pcbOpen = true) (hup : s.Uploaded i → e.socks = false → b.toSocks = b.fromClient)
    (hrun : s₀.clientSocksRecvSendOut i io = .ok (s', r)) :
    (r < 0 ∧ s.Passes i socksOk (io.refused e.unacked = false) s') ∨
      (¬ r < 0 ∧ ∃ c' e' b', s.To i c' e' b' s' ∧ ∀ {s'' : Streams} {receiving : Bool},
        s.To i c' { e' with receiving } b' s'' →
        (c'.socksRecvBufUsed = -1 → c'.socksClosed = false → receiving = true) →
        s.Passes i socksOk clientOk s'') := by
  obtain ⟨n, hn, hend, hcases⟩ := clientSocksRecvSendOut_cases h hholds.nonneg hlt
    (hpending ▸ hle) hrun
  have hwrote := hholds.wrote hn hend
  rcases hcases with ⟨hr, hrefused, s₁, clients, h₁, hloses, rfl⟩ | ⟨hr, hmore, hpos, h₁⟩ |
    ⟨hr, hall, h₁⟩
  · refine Or.inl ⟨hr, h₁.losesClient hloses hwrote (hwrote.isPrefix hclient) hup fun hok => ?_⟩
    rw [hpending] at hrefused
    cases hrefused.symm.trans hok
  · refine Or.inr ⟨hr, _, _, _, h₁, fun hto _ => ?_⟩
    have hunacked : 0 < e.unacked + n := hpending ▸ hpos
    refine hto.passes (hwrote.congr rfl rfl rfl rfl id) ⟨fun _ _ _ hempty => ?_,
      fun _ _ => hunacked, fun hc => ?_, fun _ => hunacked⟩ (hwrote.isPrefix hclient) hup
      fun _ hgone => ?_
    · have hempty : c.socksRecvBufUsed = -1 := hempty
      have := hholds.nonneg
      omega
    · cases hclient.symm.trans hc
    · cases hpcb.symm.trans hgone
  · refine Or.inr ⟨hr, _, _, _, h₁, fun hto hreceives => ?_⟩
    have hunacked : 0 < e.unacked + n := by omega
    refine hto.passes (hwrote.emptied hall) ⟨fun _ hsocks _ hempty => hreceives hempty hsocks,
      fun _ _ => hunacked, fun hc => ?_, fun _ => hunacked⟩ (hwrote.isPrefix hclient) hup
      fun _ hgone => ?_
    · cases hclient.symm.trans hc
    · cases hpcb.symm.trans hgone

/-- SOCKS has received something. -/
theorem At.recvDone {data : List UInt8} {io : SendOut} (h : s.At i)
    (hr : s.clients.record i = some c) (hagrees : c.Agrees (s.clients.ends i))
    (hreceiving : (s.clients.ends i).receiving = true) (hpos : 0 < (data.length : Int))
    (hfits : (data.length : Int) ≤ clientSocksRecvBufSize)
    (hrun : s.exec (.recvDone i data io) = .ok s') :
    s.Passes i socksOk (io.refused (s.clients.ends i).unacked = false) s' := by
  obtain ⟨hup, hsocks, hempty⟩ := hagrees.receiving hreceiving
  have hopen : (s.clients.ends i).socks = true := by
    rw [hagrees.socks, hsocks]
    rfl
  have h₀ := ((To.refl hr).setBytes ((s.bytes i).got data)).setEnds
    { s.clients.ends i with receiving := false }
  obtain ⟨c', hc', hrun⟩ := bind_ok hrun
  obtain rfl := h₀.client hc'
  iterate 5 (obtain ⟨_, -, hrun⟩ := bind_ok hrun)
  split at hrun
  · rename_i hclient
    cases hrun
    apply h₀.passes ((h.holds _ hr).got_closed hclient hfits)
    · exact ⟨fun ho => (by cases hclient.symm.trans ho), fun ho => (by cases hclient.symm.trans ho),
        (h.moves _ hr).clientGone, fun ho => (by cases hsocks.symm.trans ho)⟩
    · exact h.toClient.trans (List.prefix_append _ _)
    · intro _ hgone
      cases hopen.symm.trans hgone
    · intro hs hgone
      cases hopen.symm.trans (hs hgone).1
  · rename_i hclosed
    have hclient : c'.clientClosed = false := by simpa using hclosed
    have hpcb : (s.clients.ends i).pcbOpen = true := by
      rw [hagrees.pcbOpen, hclient]
      rfl
    obtain ⟨hpending, hle⟩ := hagrees.pending hclient hup
    have hholds := (h.holds _ hr).got (Int.le_of_lt (by rw [hempty]; decide)) hup hfits
    obtain ⟨⟨s₁, r⟩, hout, hrun⟩ := bind_ok hrun
    dsimp only at hrun
    have h₁ := h₀.setClient { c' with
      socksRecvBufUsed := data.length
      socksRecvBufSent := 0
      socksRecvWaiting := false }
    rcases h₁.sendOut hholds hclient hpos hpending hle hpcb
      (fun _ hgone => by cases hopen.symm.trans hgone) hout with
      ⟨hr', hpasses⟩ | ⟨hr', c₁, e₁, b₁, h₁, hnext⟩
    · rw [if_pos hr'] at hrun
      cases hrun
      exact hpasses
    · rw [if_neg hr'] at hrun
      obtain ⟨c₂, hc₂, hrun⟩ := bind_ok hrun
      obtain rfl := h₁.client hc₂
      split at hrun
      · obtain ⟨clients, hrecv, rfl⟩ := on_ok hrun
        exact hnext (h₁.initiates hrecv) fun _ _ => rfl
      · rename_i hne
        cases hrun
        exact hnext h₁ fun heq => absurd heq hne

/-- lwIP has confirmed something. -/
theorem At.sent {len : Int} {io : SendOut} {closeOk : Bool} (h : s.At i)
    (hr : s.clients.record i = some c) (hagrees : c.Agrees (s.clients.ends i))
    (hclient : c.clientClosed = false) (hup : c.socksUp = true)
    (hlen : len ≤ (s.clients.ends i).unacked) (hrun : s.exec (.sent i len io closeOk) = .ok s') :
    s.Passes i socksOk (0 < c.socksRecvBufUsed →
      io.refused ((s.clients.ends i).unacked - len) = false) s' := by
  have hmoves := h.moves c hr
  have hpcb : (s.clients.ends i).pcbOpen = true := by
    rw [hagrees.pcbOpen, hclient]
    rfl
  obtain ⟨hpending, -⟩ := hagrees.pending hclient hup
  have h₀ := ((To.refl hr).setEnds { s.clients.ends i with
    unacked := (s.clients.ends i).unacked - len }).deadEnter
  obtain ⟨c', hc', hrun⟩ := bind_ok hrun
  obtain rfl := h₀.client hc'
  iterate 4 (obtain ⟨_, -, hrun⟩ := bind_ok hrun)
  dsimp only at hrun
  split at hrun
  · rename_i hused
    obtain ⟨_, -, hrun⟩ := bind_ok hrun
    obtain ⟨_, hlt, hrun⟩ := bind_ok hrun
    have hlt := of_decide_eq_true (Clients.assertClient_ok hlt)
    obtain ⟨⟨s₁, r⟩, hout, hrun⟩ := bind_ok hrun
    dsimp only at hrun
    have h₁ := h₀.setClient { c' with
      socksRecvTcpPending := c'.socksRecvTcpPending - len
      socksRecvWaiting := false }
    rcases h₁.sendOut ((h.holds _ hr).congr rfl rfl rfl rfl id) hclient hlt
      (congrArg (· - len) hpending) (Int.sub_nonneg_of_le hlen) hpcb
      (fun hs hgone => hs hgone) hout with ⟨hr', hpasses⟩ | ⟨hr', c₁, e₁, b₁, h₁, hnext⟩
    · rw [if_pos hr'] at hrun
      cases hrun
      exact { hpasses with down := fun hok => hpasses.down (hok hused) }
    · rw [if_neg hr'] at hrun
      obtain ⟨c₂, hc₂, hrun⟩ := bind_ok hrun
      obtain rfl := h₁.client hc₂
      obtain ⟨_, -, hrun⟩ := bind_ok hrun
      split at hrun
      · obtain ⟨clients, hrecv, rfl⟩ := on_ok hrun
        exact hnext (h₁.initiates hrecv) fun _ _ => rfl
      · rename_i hne
        cases hrun
        exact hnext h₁ fun heq hsocks => absurd ⟨heq, hsocks⟩ hne
  · rename_i hempty
    have h₁ := h₀.setClient { c' with socksRecvTcpPending := c'.socksRecvTcpPending - len }
    have hholds : (s.bytes i).Holds
        { c' with socksRecvTcpPending := c'.socksRecvTcpPending - len } :=
      (h.holds _ hr).congr rfl rfl rfl rfl id
    split at hrun
    · rename_i hdone
      obtain ⟨clients, hfree, rfl⟩ := on_ok hrun
      apply h₁.losesClient (Clients.clientFreeClient_spec hfree) hholds h.toClient
        (fun hs hgone => hs hgone)
      intro _
      have hdownload := (h.holds _ hr).download hclient
      rw [TcpBytes.waiting_nil (Int.not_lt.mp hempty), List.append_nil] at hdownload
      refine ⟨?_, hdownload.symm, ?_⟩
      · show (s.clients.ends i).socks = false
        rw [hagrees.socks, hdone.1]
        rfl
      · rw [← hpending]
        exact hdone.2
    · rename_i hwaits
      cases hrun
      refine h₁.passes hholds ⟨hmoves.receives, fun _ hused => absurd hused hempty,
        fun hc => ?_, fun hsocks => ?_⟩ h.toClient (fun hs hgone => hs hgone) fun _ hgone => ?_
      · cases hclient.symm.trans hc
      · have hne : ¬ c'.socksRecvTcpPending - len = 0 := fun hzero => hwaits ⟨hsocks, hzero⟩
        show 0 < (s.clients.ends i).unacked - len
        omega
      · cases hpcb.symm.trans hgone

/-- SOCKS reports that it is gone. -/
theorem At.socksFails {event : SocksEvent} {closeOk : Bool} (h : s.At i)
    (hr : s.clients.record i = some c) (hagrees : c.Agrees (s.clients.ends i))
    (hevent : event = .error ∨ event = .errorClosed)
    (hrun : s.exec (.socks i event closeOk) = .ok s') : s.Passes i False clientOk s' := by
  have hmoves := h.moves c hr
  obtain ⟨clients, hfree, rfl⟩ := on_ok (f := (ClientEvent.exec · (.socks i event closeOk))) hrun
  have h₀ := (To.refl hr).setEnds { s.clients.ends i with
    up := (s.clients.ends i).up || event == .up }
  exact h₀.losesSocks (Clients.clientSocksHandler_fails hevent hfree) (h.holds c hr) hagrees
    hmoves.confirms h.toClient (fun hf => hf.elim) (fun hs hgone => (hs hgone).2)

/-- SOCKS goes on. -/
theorem At.connected {closeOk : Bool} (h : s.At i) (hr : s.clients.record i = some c)
    (hrun : s.exec (.socks i .connected closeOk) = .ok s') : s.Passes i socksOk clientOk s' := by
  have hmoves := h.moves c hr
  obtain ⟨clients, hnothing, rfl⟩ :=
    on_ok (f := (ClientEvent.exec · (.socks i .connected closeOk))) hrun
  have h₀ := (To.refl hr).setEnds { s.clients.ends i with
    up := (s.clients.ends i).up || SocksEvent.connected == .up }
  obtain ⟨c', -, hnothing⟩ := bind_ok hnothing
  obtain ⟨_, -, hnothing⟩ := bind_ok hnothing
  cases hnothing
  exact h₀.passes (h.holds c hr)
    ⟨hmoves.receives, hmoves.confirms, hmoves.clientGone, hmoves.socksGone⟩ h.toClient
    (fun hs hgone => hs hgone) (fun hs hgone => hs hgone)

/-- SOCKS is up. -/
theorem At.up {closeOk : Bool} (h : s.At i) (hr : s.clients.record i = some c)
    (hagrees : c.Agrees (s.clients.ends i)) (hdown : (s.clients.ends i).up = false)
    (hrun : s.exec (.socks i .up closeOk) = .ok s') : s.Passes i socksOk clientOk s' := by
  have hholds := h.holds c hr
  have hused : c.socksRecvBufUsed ≤ 0 := hholds.down (hagrees.up.symm.trans hdown)
  obtain ⟨clients, hup, rfl⟩ := on_ok (f := (ClientEvent.exec · (.socks i .up closeOk))) hrun
  have h₀ := (To.refl hr).setEnds { s.clients.ends i with
    up := (s.clients.ends i).up || SocksEvent.up == .up }
  obtain ⟨callbacks, sending, receiving, h₁, hreceiving⟩ := h₀.goesUp closeOk hup
  apply h₁.passes (b := s.bytes i)
  · have hnone : c.goUp.socksRecvBufUsed ≤ 0 := Int.neg_ofNat_le_natCast 1 0
    have hempty : (s.bytes i).waiting c.goUp = [] := TcpBytes.waiting_nil hnone
    exact { hholds with
      download := fun hopen => by
        have hdownload := hholds.download hopen
        rw [TcpBytes.waiting_nil hused] at hdownload
        rw [hempty]
        exact hdownload
      down := fun _ => hnone }
  · exact ⟨fun hopen _ _ _ => hreceiving hopen, fun _ hpos => (by cases hpos),
      (h.moves c hr).clientGone, (h.moves c hr).socksGone⟩
  · exact h.toClient
  · exact fun hs hgone => hs hgone
  · exact fun hs hgone => hs hgone

/-- A connection is accepted, or there is no memory for it. -/
theorem At.accept {base : Thing → Prop} {mallocOk socksOk' : Bool} {memory : TcpMemory}
    (h : s.clients.Inv base) (hrun : s.exec (.accept mallocOk socksOk' memory) = .ok s') :
    s.Passes s.clients.next socksOk clientOk s' := by
  obtain ⟨s₁, hs₁, hrun⟩ := bind_ok hrun
  obtain ⟨clients, haccept, rfl⟩ := on_ok (f := (listenerAcceptFunc · mallocOk socksOk')) hs₁
  cases hrun
  obtain ⟨hr, hquiet⟩ := h.of_next
  have hframe : ∀ {clients' : Clients},
      (∀ j, j ≠ s.clients.next → clients'.record j = s.clients.record j) →
      (∀ j, j ≠ s.clients.next → clients'.ends j = s.clients.ends j) →
      s.Frame s.clients.next
        (setBytes { s with clients := clients' } s.clients.next memory.bytes) :=
    fun hrecord hends => ⟨⟨hrecord, hends⟩, fun j hj => Function.update_of_ne hj _ _⟩
  have hbytes : (setBytes { s with clients } s.clients.next memory.bytes).bytes s.clients.next
      = memory.bytes := Function.update_self ..
  have hfails : clients.record = s.clients.record → clients.ends = s.clients.ends →
      s.Passes s.clients.next socksOk clientOk
        (setBytes { s with clients } s.clients.next memory.bytes) := by
    intro hrecord hends
    refine ⟨hframe (fun j _ => congrFun hrecord j) (fun j _ => congrFun hends j), ⟨?_, ?_, ?_, ?_⟩,
      fun _ _ _ => ?_, fun _ hs hgone => ?_⟩
    · rw [hbytes]
      exact List.prefix_rfl
    · rw [hbytes]
      exact List.prefix_rfl
    · intro c hc
      cases (hrecord ▸ hr : clients.record s.clients.next = none).symm.trans hc
    · intro c hc
      cases (hrecord ▸ hr : clients.record s.clients.next = none).symm.trans hc
    · rw [hbytes]
      rfl
    · obtain ⟨-, -, hunacked⟩ := hs hquiet.pcbOpen
      rw [hbytes]
      show (clients.ends s.clients.next).socks = false ∧ _ ∧
        (clients.ends s.clients.next).unacked = 0
      rw [hends]
      exact ⟨hquiet.socks, rfl, hunacked⟩
  cases mallocOk with
  | false =>
    cases haccept
    exact hfails rfl rfl
  | true =>
    cases socksOk' with
    | false =>
      cases haccept
      exact hfails rfl rfl
    | true =>
      have hcount : 0 ≤ s.clients.numClients := by
        rw [h.sound.count]
        exact Int.natCast_nonneg _
      rw [listenerAcceptFunc_eq hcount] at haccept
      cases haccept
      apply To.passes (c := .accepted) (e := .accepted) (b := memory.bytes)
      · exact ⟨hframe (fun j hj => Function.update_of_ne hj _ _)
          (fun j hj => Function.update_of_ne hj _ _), Function.update_self ..,
          Function.update_self .., Function.update_self ..⟩
      · exact memory.holds_accepted
      · exact ⟨fun _ _ hup => (by cases hup), fun _ hused => (by cases hused),
          fun hc => (by cases hc), fun hc => (by cases hc)⟩
      · exact List.prefix_rfl
      · intro _ _
        rfl
      · intro _ hgone
        cases hgone

/-! ## Steps -/

/-- The client of the `i`-th connection is gone, or lwIP refuses bytes for it. -/
def loses (s : Streams) (i : Nat) : StreamEvent → Bool
  | .err j | .recv j none _ => j == i
  | .sent j len io _ => j == i && (s.clients.record j).any (decide <| 0 < ·.socksRecvBufUsed) &&
      io.refused ((s.clients.ends j).unacked - len)
  | .recvDone j _ io => j == i && io.refused (s.clients.ends j).unacked
  | _ => false

structure Inv (s : Streams) (base : Thing → Prop) : Prop where
  clients : s.clients.Inv base
  kept : ∀ i, s.At i

/-- What a step does to each connection. -/
structure Step (s : Streams) (e : StreamEvent) (s' : Streams) : Prop where
  kept : ∀ i, s'.At i
  up : ∀ i, e.socksFails i = false → s.Uploaded i → s'.Uploaded i
  down : ∀ i, s.loses i e = false → s.Downloaded i → s'.Downloaded i

theorem Passes.step {e : StreamEvent} (h : s.Passes i socksOk clientOk s') (hkept : ∀ j, s.At j)
    (hsocks : e.socksFails i = false → socksOk) (hclient : s.loses i e = false → clientOk) :
    s.Step e s' := by
  have hother : ∀ j, j ≠ i → s'.clients.record j = s.clients.record j ∧
      s'.clients.ends j = s.clients.ends j ∧ s'.bytes j = s.bytes j := fun j hj =>
    ⟨h.frame.clients.record j hj, h.frame.clients.ends j hj, h.frame.bytes j hj⟩
  refine ⟨fun j => ?_, fun j hok hs => ?_, fun j hok hs => ?_⟩ <;> by_cases hj : j = i
  · exact hj ▸ h.kept
  · obtain ⟨hrecord, hends, hbytes⟩ := hother j hj
    have hat := hkept j
    exact ⟨hbytes ▸ hat.toSocks, hbytes ▸ hat.toClient,
      fun c hc => hbytes ▸ hat.holds c (hrecord ▸ hc),
      fun c hc => hends ▸ hat.moves c (hrecord ▸ hc)⟩
  · subst hj
    exact h.up (hsocks hok) hs
  · obtain ⟨-, hends, hbytes⟩ := hother j hj
    unfold Uploaded
    rw [hends, hbytes]
    exact hs
  · subst hj
    exact h.down (hclient hok) hs
  · obtain ⟨-, hends, hbytes⟩ := hother j hj
    unfold Downloaded
    rw [hends, hbytes]
    exact hs

theorem Inv.exec {base : Thing → Prop} {e : StreamEvent} (h : s.Inv base)
    (he : e.event.enabled s.clients = true) (hrun : s.exec e = .ok s') : s.Step e s' := by
  cases e with
  | accept mallocOk socksOk memory =>
    exact (At.accept h.clients hrun).step h.kept (fun _ => trivial) (fun _ => trivial)
  | err i =>
    have herr := (Bool.and_eq_true_iff.mp he).2
    obtain ⟨c, hr, -⟩ := h.clients.record (i := i) fun hq => by
      simp [hq.callbacks, Callbacks.none] at herr
    refine ((h.kept i).err hr hrun).step h.kept (fun _ => trivial) (fun hl => ?_)
    simp [loses] at hl
  | recv i p closeOk =>
    obtain ⟨he, hp⟩ := Bool.and_eq_true_iff.mp he
    obtain ⟨-, hrecv⟩ := Bool.and_eq_true_iff.mp he
    obtain ⟨c, hr, hagrees⟩ := h.clients.record (i := i) fun hq => by
      simp [hq.callbacks, Callbacks.none] at hrecv
    cases p with
    | none =>
      refine ((h.kept i).recv_none hr hrun).step h.kept (fun _ => trivial) (fun hl => ?_)
      simp [loses] at hl
    | some data =>
      have hopen : c.clientClosed = false ∧ c.socksClosed = false := by
        simpa [hagrees.callbacks] using hrecv
      exact ((h.kept i).recv hr hagrees hopen.1 hopen.2 hrun).step h.kept (fun _ => trivial)
        (fun _ => trivial)
  | sent i len io closeOk =>
    obtain ⟨he, hlen⟩ := Bool.and_eq_true_iff.mp he
    obtain ⟨he, -⟩ := Bool.and_eq_true_iff.mp he
    obtain ⟨-, hsent⟩ := Bool.and_eq_true_iff.mp he
    obtain ⟨c, hr, hagrees⟩ := h.clients.record (i := i) fun hq => by
      simp [hq.callbacks, Callbacks.none] at hsent
    have hopen : c.clientClosed = false ∧ c.socksUp = true := by
      simpa [hagrees.callbacks] using hsent
    refine ((h.kept i).sent hr hagrees hopen.1 hopen.2 (of_decide_eq_true hlen) hrun).step h.kept
      (fun _ => trivial) (fun hl hused => ?_)
    simpa [loses, hr, hused] using hl
  | leave =>
    obtain ⟨clients, hleave, rfl⟩ := on_ok (f := deadLeave) hrun
    have hsame : ∃ call, clients = { s.clients with call } := by
      unfold deadLeave at hleave
      split at hleave
      · split at hleave
        · cases hleave
        · split at hleave
          · cases hleave
            exact ⟨none, rfl⟩
          · cases hleave
      · cases hleave
        exact ⟨s.clients.call, rfl⟩
    obtain ⟨call, rfl⟩ := hsame
    exact ⟨fun i => ⟨(h.kept i).toSocks, (h.kept i).toClient, (h.kept i).holds, (h.kept i).moves⟩,
      fun _ _ hs => hs, fun _ _ hs => hs⟩
  | socks i event closeOk =>
    obtain ⟨hsocks, hevent⟩ := Bool.and_eq_true_iff.mp he
    obtain ⟨c, hr, hagrees⟩ := h.clients.record (i := i) fun hq => by simp [hq.socks] at hsocks
    cases event with
    | error =>
      refine ((h.kept i).socksFails hr hagrees (.inl rfl) hrun).step h.kept (fun hf => ?_)
        (fun _ => trivial)
      simp [StreamEvent.socksFails] at hf
    | errorClosed =>
      refine ((h.kept i).socksFails hr hagrees (.inr rfl) hrun).step h.kept (fun hf => ?_)
        (fun _ => trivial)
      simp [StreamEvent.socksFails] at hf
    | up =>
      have hdown : (s.clients.ends i).up = false := by simpa using hevent
      exact ((h.kept i).up hr hagrees hdown hrun).step h.kept (fun _ => trivial) (fun _ => trivial)
    | connected =>
      exact ((h.kept i).connected hr hrun).step h.kept (fun _ => trivial) (fun _ => trivial)
  | sendDone i dataLen =>
    obtain ⟨len, hsending, hpos, hle⟩ : ∃ len, (s.clients.ends i).sending = some len ∧
        0 < dataLen ∧ dataLen ≤ len := by
      cases hsending : (s.clients.ends i).sending with
      | none => simp [StreamEvent.event, ClientEvent.enabled, hsending] at he
      | some len =>
        exact ⟨len, rfl, by simpa [StreamEvent.event, ClientEvent.enabled, hsending] using he⟩
    obtain ⟨c, hr, hagrees⟩ := h.clients.record (i := i) fun hq => by simp [hq.sending] at hsending
    exact ((h.kept i).sendDone hr hagrees hsending hpos hle hrun).step h.kept (fun _ => trivial)
      (fun _ => trivial)
  | recvDone i data io =>
    obtain ⟨he, hfits⟩ := Bool.and_eq_true_iff.mp he
    obtain ⟨hreceiving, hpos⟩ := Bool.and_eq_true_iff.mp he
    obtain ⟨c, hr, hagrees⟩ := h.clients.record (i := i) fun hq => by
      simp [hq.receiving] at hreceiving
    refine ((h.kept i).recvDone hr hagrees hreceiving (of_decide_eq_true hpos)
      (of_decide_eq_true hfits) hrun).step h.kept (fun _ => trivial) (fun hl => ?_)
    simpa [loses] using hl

end Streams

/-! ## Every run -/

/-- What the connections use of a run, as it is held. -/
def Thing.ofLoop (x : Thing) : Prop :=
  x = .netif ∨ x = .setup .deviceWriteBuf ∨ x = .setup .device ∨ x = .setup .reactor

theorem Clients.inLoop_inv : Clients.inLoop.Inv Thing.ofLoop where
  sound := {
    nodup := List.nodup_nil
    mem_iff := fun i => by simp [inLoop, initial]
    count := rfl
    fresh := fun _ _ => rfl
    holds := by
      refine ⟨[.netif, .setup .deviceWriteBuf, .setup .device, .setup .reactor], ?_, fun x => ?_⟩
      · refine .acquire (.acquire (.acquire (.acquire .nil ?_ ?_) ?_ ?_) ?_ ?_) ?_ ?_
        all_goals simp [Thing.Uses, Thing.needs]
      · cases x <;> simp [Has, inLoop, initial, Ends.gone, Thing.ofLoop]
    call := fun _ hcall => by cases hcall }
  agrees i := ⟨rfl, rfl, rfl, rfl, rfl⟩

section

variable {es : List StreamEvent} {res : Except ClientFault Streams} {s : Streams} {e : StreamEvent}

/-- A step does not fault, because it does not without its bytes. -/
theorem Streams.Inv.step (h : s.Inv Thing.ofLoop) (he : e.event.enabled s.clients = true) :
    Returns (s.exec e) fun s' => s'.Inv Thing.ofLoop ∧ s.Step e s' := by
  obtain ⟨clients, hclients, hinv⟩ := h.clients.exec (.inl rfl) (.inr (.inr (.inr rfl))) he
  have hmap := s.exec_clients e
  rw [hclients] at hmap
  cases hrun : s.exec e with
  | error f =>
    rw [hrun] at hmap
    cases hmap
  | ok s' =>
    rw [hrun] at hmap
    cases hmap
    have hstep := h.exec he hrun
    exact .ok ⟨⟨hinv, hstep.kept⟩, hstep⟩

theorem streams_inv (h : streams.Runs es res) : Returns res fun s => s.Inv Thing.ofLoop := by
  apply h.returns (I := fun _ s => s.Inv Thing.ofLoop)
  · refine ⟨Clients.inLoop_inv, fun i => ⟨List.prefix_rfl, List.prefix_rfl, ?_, ?_⟩⟩
    · intro c hc
      cases hc
    · intro c hc
      cases hc
  · intro es s e hinv he
    exact (hinv.step he).mono fun _ hs' => hs'.1

/-- In every run, no byte is lost, repeated or overtaken on its way: what SOCKS has sent of a
connection is the beginning of what lwIP passed on, what was written to its client is the
beginning of what SOCKS received, and as long as there is a record the rest is in its buffers,
inside of which every copy stays. The window of lwIP is the room in `buf`. -/
theorem streams_pass (h : streams.Runs es res) : ∃ s, res = .ok s ∧ ∀ i,
    (s.bytes i).toSocks <+: (s.bytes i).fromClient ∧
      (s.bytes i).toClient <+: (s.bytes i).fromSocks ∧
        ∀ c, s.clients.record i = some c → (s.bytes i).Holds c := by
  obtain ⟨s, rfl, hinv⟩ := streams_inv h
  exact ⟨s, rfl, fun i => ⟨(hinv.kept i).toSocks, (hinv.kept i).toClient, (hinv.kept i).holds⟩⟩

private def memory : TcpMemory where
  buf := List.replicate 5840 0
  socksRecvBuf := List.replicate 8192 0
  length_buf := by
    rw [List.length_replicate]
    rfl
  length_socksRecvBuf := by
    rw [List.length_replicate]
    rfl

/-- A client sends two bytes and receives two, of which it takes one at first. -/
private def bothWays : List StreamEvent :=
  let one : SendOut := ⟨[(1, .ok)], true⟩
  [.accept true true memory, .leave, .recv 0 (some [1, 2]) true, .leave, .socks 0 .connected true,
    .socks 0 .up true, .sendDone 0 1, .recvDone 0 [3, 4] one, .sendDone 0 1, .sent 0 1 one true,
    .leave]

theorem streams_pass_both : ∃ s : Streams, (s.bytes 0).toSocks = [1, 2] ∧
    (s.bytes 0).toSocks <+: (s.bytes 0).fromClient ∧ (s.bytes 0).toClient = [3, 4] ∧
      (s.bytes 0).toClient <+: (s.bytes 0).fromSocks := by
  have hends : streams.ends bothWays
      (fun s => (s.bytes 0).toSocks == [1, 2] && (s.bytes 0).toClient == [3, 4]) = true := by
    decide +kernel
  obtain ⟨s, hruns, hs⟩ := Machine.runs_of_ends hends
  obtain ⟨s', hs', hpass⟩ := streams_pass hruns
  cases hs'
  obtain ⟨hup, hdown⟩ := Bool.and_eq_true_iff.mp hs
  obtain ⟨hsocks, hclient, -⟩ := hpass 0
  exact ⟨s, eq_of_beq hup, hsocks, eq_of_beq hdown, hclient⟩

/-- SOCKS receives two bytes and is gone; the client confirms them one after the other. -/
private def socksEnds : List StreamEvent :=
  [.accept true true memory, .leave, .socks 0 .up true, .recvDone 0 [1, 2] ⟨[(1, .ok)], true⟩,
    .socks 0 .errorClosed true, .sent 0 1 ⟨[(1, .ok)], true⟩ true, .leave,
    .sent 0 1 ⟨[], true⟩ true]

/-- When one side of a connection is gone and its record is left, something waits for the other
side; and what waits is on its way: it is being sent, or lwIP has bytes left to confirm and a
callback to do so. -/
theorem streams_moves (h : streams.Runs es res) : ∃ s, res = .ok s ∧ ∀ i c,
    s.clients.record i = some c →
      (c.clientClosed = true → c.socksClosed = false ∧ 0 < c.bufUsed) ∧
      (c.socksClosed = true → 0 < (s.clients.ends i).unacked ∧
        (s.clients.ends i).callbacks.sent = true) ∧
      (c.socksClosed = false → c.socksUp = true → 0 < c.bufUsed →
        (s.clients.ends i).sending.isSome = true) ∧
      (c.clientClosed = false → c.socksClosed = false → c.socksUp = true →
        (s.clients.ends i).receiving = true ∨
          (0 < (s.clients.ends i).unacked ∧ (s.clients.ends i).callbacks.sent = true)) := by
  obtain ⟨s, rfl, hinv⟩ := streams_inv h
  refine ⟨s, rfl, fun i c hr => ?_⟩
  have hmoves := (hinv.kept i).moves c hr
  have hagrees : c.Agrees (s.clients.ends i) := by
    have hat := hinv.clients.agrees i
    rwa [Clients.AgreesAt, hr] at hat
  have hsent : c.clientClosed = false → c.socksUp = true →
      (s.clients.ends i).callbacks.sent = true := by
    intro hclient hup
    rw [hagrees.callbacks]
    simp [hclient, hup]
  refine ⟨fun hc => ⟨hagrees.alive hc, hmoves.clientGone hc⟩, fun hs => ?_, fun hs hup hbuf => ?_,
    fun hc hs hup => ?_⟩
  · have hunacked := hmoves.socksGone hs
    have hup : c.socksUp = true := by
      by_contra hdown
      have := hagrees.unacked (by simpa using hdown)
      omega
    have hclient : c.clientClosed = false := by
      by_contra hclosed
      cases hs.symm.trans (hagrees.alive (by simpa using hclosed))
    exact ⟨hunacked, hsent hclient hup⟩
  · cases hsending : (s.clients.ends i).sending with
    | some len => rfl
    | none =>
      have := hagrees.notSending hsending hup hs
      omega
  · rcases hagrees.recvBuf hc hup with hempty | ⟨hused, -⟩
    · exact Or.inl (hmoves.receives hc hs hup hempty)
    · exact Or.inr ⟨hmoves.confirms hc hused, hsent hc hup⟩

/-- SOCKS is gone, and the client has not confirmed anything yet. -/
theorem streams_moves_waiting : ∃ (s : Streams) (c : TcpClient), s.clients.record 0 = some c ∧
    c.socksClosed = true ∧ 0 < (s.clients.ends 0).unacked := by
  have hends : streams.ends (socksEnds.take 5)
      (fun s => (s.clients.record 0).any (·.socksClosed)) = true := by
    decide +kernel
  obtain ⟨s, hruns, hs⟩ := Machine.runs_of_ends hends
  obtain ⟨s', hs', hmoves⟩ := streams_moves hruns
  cases hs'
  obtain ⟨c, hc, hsocks⟩ := (Option.any_eq_true _ _).mp hs
  exact ⟨s, c, hc, hsocks, ((hmoves 0 c hc).2.1 hsocks).1⟩

end

end Lightsocks.Tunnel
