import Lightsocks.Tunnel.Ownership

/-!
# The events of the connections

Every event of lwIP and of the SOCKS clients ends without a fault, in a state in which the
records agree with what is known of them again (`Clients.Inv.exec`).
-/

namespace Lightsocks.Tunnel

open Lightsocks.Lib

namespace TcpClient

variable {c : TcpClient} {e : Ends}

/-! ## The buffer towards the client -/

/-- The members for `socks_recv_buf` matter only while SOCKS is not receiving into it. -/
theorem Agrees.setRecvBuf (h : c.Agrees e) (hidle : e.receiving = false) {used sent : Int}
    {waiting : Bool}
    (hbuf : c.clientClosed = false →
      used = -1 ∨ (0 < used ∧ sent < used ∧ waiting = true)) :
    ({ c with
      socksRecvBufUsed := used
      socksRecvBufSent := sent
      socksRecvWaiting := waiting } : TcpClient).Agrees e :=
  { h with
    receiving := fun hr => by
      rw [hidle] at hr
      cases hr
    recvBuf := fun hclient _ => hbuf hclient }

theorem Lost.setRecvBuf (h : c.Lost e) (hidle : e.receiving = false) {used sent : Int}
    {waiting : Bool} :
    ({ c with
      socksRecvBufUsed := used
      socksRecvBufSent := sent
      socksRecvWaiting := waiting } : TcpClient).Lost e where
  agrees hsocks aborted := (h.agrees hsocks aborted).setRecvBuf hidle fun hc => by cases hc
  quiet := h.quiet

/-- `n` more bytes were given to `tcp_write`. -/
def wrote (c : TcpClient) (n : Int) : TcpClient :=
  { c with
    socksRecvBufSent := c.socksRecvBufSent + n
    socksRecvTcpPending := c.socksRecvTcpPending + n }

end TcpClient

def Ends.wrote (e : Ends) (n : Int) : Ends := { e with unacked := e.unacked + n }

namespace TcpClient

variable {c : TcpClient} {e : Ends}

theorem wrote_zero (c : TcpClient) : c.wrote 0 = c := by simp [wrote]

theorem wrote_wrote (c : TcpClient) (n m : Int) : (c.wrote n).wrote m = c.wrote (n + m) := by
  simp [wrote, Int.add_assoc]

theorem Agrees.wrote (h : c.Agrees e) (hup : c.socksUp = true) (hbuf : c.socksRecvBufUsed = -1)
    {n : Int} (hn : 0 ≤ n) : (c.wrote n).Agrees (e.wrote n) :=
  { h with
    recvBuf := fun _ _ => .inl hbuf
    pending := fun hclient _ => by
      obtain ⟨hpending, hunacked⟩ := h.pending hclient hup
      exact ⟨congrArg (· + n) hpending, Int.add_nonneg hunacked hn⟩
    unacked := fun hc => by
      change c.socksUp = false at hc
      rw [hup] at hc
      cases hc }

/-- SOCKS is up, and nothing has been received yet. -/
def goUp (c : TcpClient) : TcpClient :=
  { c with socksRecvBufUsed := -1, socksRecvTcpPending := 0, socksUp := true }

theorem Agrees.goUp (h : c.Agrees { e with up := false }) (hsocks : c.socksClosed = false)
    (hup : e.up = true) (sending : Option Int)
    (hsome : ∀ len, sending = some len → 0 < len ∧ len ≤ c.bufUsed)
    (hnone : sending = none → c.bufUsed = 0) :
    c.goUp.Agrees { e with
      callbacks := ⟨!c.clientClosed, !c.clientClosed, !c.clientClosed⟩
      sending } := by
  have hdown : c.socksUp = false := h.up.symm
  have hidle : e.receiving = false := h.receiving_eq_false (.inl hdown)
  have hunacked : e.unacked = 0 := h.unacked hdown
  exact {
    pcbOpen := h.pcbOpen
    socks := h.socks
    alive := h.alive
    callbacks := by simp [TcpClient.goUp, hsocks]
    aborted := h.aborted
    up := hup
    bufUsed := h.bufUsed
    sending := fun len hlen => ⟨rfl, hsocks, hsome len hlen⟩
    notSending := fun hs _ _ => hnone hs
    receiving := fun hr => by
      change e.receiving = true at hr
      rw [hidle] at hr
      cases hr
    recvBuf := fun _ _ => .inl rfl
    pending := fun _ _ => ⟨hunacked.symm, Int.le_of_eq hunacked.symm⟩
    unacked := fun _ => hunacked }

end TcpClient

theorem Ends.wrote_zero (e : Ends) : e.wrote 0 = e := by simp [wrote]

theorem Ends.wrote_wrote (e : Ends) (n m : Int) : (e.wrote n).wrote m = e.wrote (n + m) := by
  simp [wrote, Int.add_assoc]

namespace Clients.To

variable {s s₀ : Clients} {base : Thing → Prop} {i : Nat} {c : TcpClient} {e : Ends}

theorem clientSendToSocks (h : s.To base i c e s₀) (hsocks : c.socksClosed = false)
    (hup : c.socksUp = true) (hbuf : 0 < c.bufUsed) (hopen : e.socks = true)
    (hidle : e.sending = none) :
    Returns (clientSendToSocks s₀ i) (s.To base i c { e with sending := some c.bufUsed }) := by
  refine .bind_eq h.client (.guard (by rw [hsocks]; rfl) ?_)
  refine .guard hup ?_
  refine .guard (decide_eq_true hbuf) ?_
  exact h.senderSend hopen hidle hbuf

theorem clientSocksRecvInitiate (h : s.To base i c e s₀) (hagrees : c.Agrees e)
    (hclient : c.clientClosed = false) (hsocks : c.socksClosed = false) (hup : c.socksUp = true)
    (hbuf : c.socksRecvBufUsed = -1) (hidle : e.receiving = false) :
    Returns (clientSocksRecvInitiate s₀ i) (s.Settled base i) := by
  refine .bind_eq h.client (.guard (by rw [hclient]; rfl) ?_)
  refine .guard (by rw [hsocks]; rfl) (.guard hup ?_)
  refine .guard (by rw [hbuf]; rfl) ?_
  apply (h.receiverRecv (by rw [hagrees.socks, hsocks]; rfl) hidle).mono
  intro s₁ h₁
  exact h₁.settled { hagrees with receiving := fun _ => ⟨hup, hsocks, hbuf⟩ }

/-- The loop has written some bytes, at most to the end of the buffer. -/
theorem sendOutLoop (writes : List (Nat × WriteErr)) (h : s.To base i c e s₀)
    (hpcb : e.pcbOpen = true) (hsent : c.socksRecvBufSent < c.socksRecvBufUsed) :
    Returns (sendOutLoop i writes s₀) fun r => ∃ n, 0 ≤ n ∧
      c.socksRecvBufSent + n ≤ c.socksRecvBufUsed ∧ s.To base i (c.wrote n) (e.wrote n) r.1 := by
  induction writes generalizing s₀ c e with
  | nil => exact .ok ⟨0, Int.le_refl 0, by omega, by rwa [c.wrote_zero, e.wrote_zero]⟩
  | cons w writes ih =>
    have hnone : ∃ n, 0 ≤ n ∧ c.socksRecvBufSent + n ≤ c.socksRecvBufUsed ∧
        s.To base i (c.wrote n) (e.wrote n) s₀ :=
      ⟨0, Int.le_refl 0, by omega, by rwa [c.wrote_zero, e.wrote_zero]⟩
    obtain ⟨sndbuf, err⟩ := w
    rw [Tunnel.sendOutLoop]
    refine .bind_eq h.client (.bind_eq (h.pcb hpcb) ?_)
    dsimp only
    split
    · exact .pure hnone
    · rename_i hroom
      cases err with
      | mem | other => exact .pure hnone
      | ok =>
        generalize hm : min (c.socksRecvBufUsed - c.socksRecvBufSent) (sndbuf : Int) = m at hroom
        have hle : c.socksRecvBufSent + m ≤ c.socksRecvBufUsed := by omega
        have h₁ : s.To base i (c.wrote m) (e.wrote m)
            ((s₀.setEnds i (e.wrote m)).setClient i (c.wrote m)) :=
          (h.setEnds (e.wrote m) rfl rfl).setClient _ rfl
        dsimp only
        split
        · rename_i hmore
          apply (ih h₁ hpcb hmore).mono
          intro r hr
          obtain ⟨n, hn, hend, hr⟩ := hr
          rw [c.wrote_wrote, e.wrote_wrote] at hr
          exact ⟨m + n, by omega, by simp only [TcpClient.wrote] at hend; omega, hr⟩
        · exact .pure ⟨m, by omega, hle, h₁⟩

/-- `client_socks_recv_send_out` gives the connection up, or it leaves bytes to be
confirmed. -/
theorem clientSocksRecvSendOut (io : SendOut) (h : s.To base i c e s₀)
    (hagrees : ({ c with socksRecvBufUsed := -1 } : TcpClient).Agrees e)
    (hidle : e.receiving = false) (hclient : c.clientClosed = false) (hup : c.socksUp = true)
    (hused : 0 < c.socksRecvBufUsed) (hsent : c.socksRecvBufSent < c.socksRecvBufUsed)
    (hwaiting : c.socksRecvWaiting = false) :
    Returns (clientSocksRecvSendOut s₀ i io) fun r =>
      (r.2 < 0 ∧ s.Settled base i r.1) ∨
        (r.2 = 0 ∧ ∃ c' e', s.To base i c' e' r.1 ∧ c'.Agrees e' ∧ e'.receiving = false ∧
          c'.clientClosed = false ∧ c'.socksClosed = c.socksClosed ∧ c'.socksUp = true ∧
          0 < c'.socksRecvTcpPending) := by
  have hpcb : e.pcbOpen = true := by rw [hagrees.pcbOpen, hclient]; rfl
  refine .bind_eq h.client (.guard (by rw [hclient]; rfl) ?_)
  refine .guard hup ?_
  refine .guard (decide_eq_true hused) ?_
  refine .guard (decide_eq_true hsent) ?_
  refine .guard (by rw [hwaiting]; rfl) ?_
  apply (h.sendOutLoop io.writes hpcb hsent).bind
  rintro ⟨s₁, failed⟩ ⟨n, hn, hend, h₁⟩
  have hagrees₁ := hagrees.wrote hup rfl hn
  dsimp only at h₁ ⊢
  have habort : Returns (Tunnel.clientAbortClient s₁ i) (s.Settled base i) :=
    h₁.clientAbortClient hclient (hagrees.aborted hclient) hpcb (hagrees₁.lost.setRecvBuf hidle)
  have hgiveUp : Returns (do let s ← Tunnel.clientAbortClient s₁ i; return (s, (-1 : Int))) fun r =>
      r.2 < 0 ∧ s.Settled base i r.1 :=
    habort.bind fun s₂ h₂ => .ok ⟨Int.negSucc_lt_zero 0, h₂⟩
  split
  · exact hgiveUp.mono fun r hr => .inl hr
  · refine .bind_eq (h₁.pcb hpcb) ?_
    split
    · exact hgiveUp.mono fun r hr => .inl hr
    · refine .bind_eq h₁.client ?_
      split
      · rename_i hmore
        split
        · exact hgiveUp.mono fun r hr => .inl hr
        · rename_i hpending
          obtain ⟨heq, hpos⟩ := hagrees₁.pending hclient hup
          refine .pure (.inr ⟨rfl, _, _, h₁.setClient { c.wrote n with
            socksRecvWaiting := true } rfl, ?_, hidle, hclient, rfl, hup, ?_⟩)
          · exact hagrees₁.setRecvBuf hidle fun _ => .inr ⟨hused, hmore, rfl⟩
          · change (c.wrote n).socksRecvTcpPending = _ at heq
            change 0 < (c.wrote n).socksRecvTcpPending
            omega
      · rename_i hdone
        obtain ⟨heq, hpos⟩ := hagrees.pending hclient hup
        refine .pure (.inr ⟨rfl, _, _, h₁.setClient { c.wrote n with
          socksRecvBufUsed := -1 } rfl, hagrees₁, hidle, hclient, rfl, hup, ?_⟩)
        simp only [TcpClient.wrote] at hdone heq ⊢
        omega

/-! ## Callbacks -/

theorem clientErrFunc (h : s.To base i c e s₀) (hclient : c.clientClosed = false)
    (hlost : c.Lost e) : Returns (clientErrFunc s₀ i) (s.Settled base i) := by
  refine .bind_eq h.client (.guard (by rw [hclient]; rfl) ?_)
  exact h.clientHandleFreedClient 2 hclient hlost (fun _ => by decide)

theorem clientRecvFunc {p : Option Int} {closeOk : Bool} (h : s.To base i c e s₀)
    (hagrees : c.Agrees e) (hclient : c.clientClosed = false) (hsocks : c.socksClosed = false)
    (hp : ∀ len, p = some len → 0 < len) :
    Returns (clientRecvFunc s₀ i p closeOk) (s.Settled base i) := by
  have hpcb : e.pcbOpen = true := by rw [hagrees.pcbOpen, hclient]; rfl
  have henter := h.deadEnter (hagrees.aborted hclient)
  refine .bind_eq h.client (.guard (by rw [hclient]; rfl) ?_)
  cases p with
  | none =>
    exact henter.clientFreeClient 1 hclient (hagrees.aborted hclient) hpcb hagrees.lost
      (fun _ => by decide)
  | some totLen =>
    have hlen := hp totLen rfl
    refine .guard (decide_eq_true hlen) ?_
    dsimp only
    split
    · exact .pure (henter.settled hagrees)
    · rename_i hfits
      have hbuf := hagrees.bufUsed
      have h₁ := henter.setClient { c with bufUsed := c.bufUsed + totLen } rfl
      split
      · -- the buffer was empty, so nothing is being sent
        rename_i hempty
        have hidle : e.sending = none := by
          cases hs : e.sending with
          | none => rfl
          | some len =>
            obtain ⟨-, -, hpos, hle⟩ := hagrees.sending len hs
            omega
        refine .guard (by rw [hsocks]; rfl) ?_
        refine (h₁.clientSendToSocks hsocks hempty.2 (by dsimp only; omega)
          (by rw [hagrees.socks, hsocks]; rfl) hidle).mono fun s₂ h₂ => h₂.settled ?_
        exact { hagrees with
          bufUsed := ⟨by dsimp only; omega, by dsimp only; omega⟩
          sending := fun len hs => by
            cases hs
            exact ⟨hempty.2, hsocks, by dsimp only; omega, Int.le_refl _⟩
          notSending := fun hs => by cases hs }
      · rename_i hmore
        refine .pure (h₁.settled { hagrees with
          bufUsed := ⟨by dsimp only; omega, by dsimp only; omega⟩
          sending := fun len hs => ?_
          notSending := fun hs hup _ => ?_ })
        · obtain ⟨hup, hopen, hpos, hle⟩ := hagrees.sending len hs
          exact ⟨hup, hopen, hpos, by dsimp only; omega⟩
        · have := hagrees.notSending hs hup hsocks
          exact absurd ⟨by omega, hup⟩ hmore

theorem clientSentFunc {len : Int} {io : SendOut} {closeOk : Bool} (h : s.To base i c e s₀)
    (hagrees : c.Agrees { e with unacked := e.unacked + len })
    (hclient : c.clientClosed = false) (hup : c.socksUp = true) (hlen : 0 < len)
    (hunacked : 0 ≤ e.unacked) :
    Returns (clientSentFunc s₀ i len io closeOk) (s.Settled base i) := by
  obtain ⟨hpending, -⟩ := hagrees.pending hclient hup
  dsimp only at hpending
  have hagrees₁ : ({ c with
      socksRecvTcpPending := c.socksRecvTcpPending - len } : TcpClient).Agrees e := {
    hagrees with
    pending := fun _ _ => ⟨by dsimp only; omega, hunacked⟩
    unacked := fun hc => by
      change c.socksUp = false at hc
      rw [hup] at hc
      cases hc }
  have henter := h.deadEnter (hagrees.aborted hclient)
  refine .bind_eq h.client (.guard (by rw [hclient]; rfl) ?_)
  refine .guard hup ?_
  refine .guard (decide_eq_true hlen) ?_
  refine .guard (decide_eq_true (by omega)) ?_
  dsimp only
  split
  · rename_i hused
    obtain ⟨-, hsent, hwaiting⟩ := (hagrees.recvBuf hclient hup).resolve_left (by omega)
    have hidle : e.receiving = false :=
      hagrees.receiving_eq_false (.inr (.inr (by omega)))
    refine .guard hwaiting ?_
    refine .guard (decide_eq_true hsent) ?_
    have h₁ := henter.setClient { c with
      socksRecvTcpPending := c.socksRecvTcpPending - len
      socksRecvWaiting := false } rfl
    refine (h₁.clientSocksRecvSendOut io (hagrees₁.setRecvBuf hidle fun _ => .inl rfl) hidle
      hclient hup hused hsent rfl).bind ?_
    rintro ⟨s₂, r⟩
      (⟨hr, h₂⟩ | ⟨hr, c', e', h₂, hagrees₂, hidle₂, hclient₂, -, hup₂, hpending₂⟩)
    · dsimp only at hr ⊢
      rw [if_pos hr]
      exact .pure h₂
    · dsimp only at hr h₂ ⊢
      rw [if_neg (by omega)]
      refine .bind_eq h₂.client (.guard (decide_eq_true hpending₂) ?_)
      split
      · rename_i hgo
        exact h₂.clientSocksRecvInitiate hagrees₂ hclient₂ hgo.2 hup₂ hgo.1 hidle₂
      · exact .pure (h₂.settled hagrees₂)
  · have h₁ := henter.setClient { c with
      socksRecvTcpPending := c.socksRecvTcpPending - len } rfl
    split
    · rename_i hdone
      refine h₁.clientFreeClient 1 hclient (hagrees.aborted hclient) ?_ hagrees₁.lost
        (fun _ => by decide)
      rw [hagrees₁.pcbOpen, hclient]
      rfl
    · exact .pure (h₁.settled hagrees₁)

/-- SOCKS is up: what the client has sent so far is passed on. -/
theorem clientSocksHandler_up (h : s.To base i c e s₀)
    (hagrees : c.Agrees { e with up := false }) (hsocks : c.socksClosed = false)
    (hup : e.up = true) (closeOk : Bool) :
    Returns (clientSocksHandler s₀ i .up closeOk) (s.Settled base i) := by
  have hdown : c.socksUp = false := hagrees.up.symm
  have hidle : e.sending = none := hagrees.sending_eq_none (.inl hdown)
  have hidle' : e.receiving = false := hagrees.receiving_eq_false (.inl hdown)
  have hagrees₂ := hagrees.goUp hsocks hup
  refine .bind_eq h.client (.guard (by rw [hsocks]; rfl) ?_)
  refine .guard (by rw [hdown]; rfl) ?_
  refine .bind (P := s.To base i c { e with
    callbacks := ⟨!c.clientClosed, !c.clientClosed, !c.clientClosed⟩ }) ?_ fun s₁ h₁ => ?_
  · have hcallbacks : e.callbacks = ⟨!c.clientClosed, !c.clientClosed, false⟩ := by
      simpa [hsocks, hdown] using hagrees.callbacks
    split
    · rename_i hclient
      apply (h.tcpCallbacks (by rw [hagrees.pcbOpen, hclient]; rfl) _).mono
      intro s₁ h₁
      simpa [hcallbacks, hclient] using h₁
    · rename_i hclient
      have hclient' : c.clientClosed = true := by simpa using hclient
      rw [hclient', Bool.not_true] at hcallbacks ⊢
      rw [← hcallbacks]
      exact .pure h
  · have h₂ := h₁.setClient c.goUp rfl
    refine .bind (P := fun s₃ => ∃ e₃, s.To base i c.goUp e₃ s₃ ∧ c.goUp.Agrees e₃ ∧
      e₃.receiving = false) ?_ ?_
    · split
      · rename_i hbuf
        have hopen : e.socks = true := by rw [hagrees.socks, hsocks]; rfl
        apply (h₂.clientSendToSocks hsocks rfl hbuf hopen hidle).mono
        intro s₃ h₃
        refine ⟨_, h₃, hagrees₂ _ (fun len hlen => ?_) (fun hs => by cases hs), hidle'⟩
        cases hlen
        exact ⟨hbuf, Int.le_refl _⟩
      · rename_i hbuf
        have hzero : c.bufUsed = 0 := Int.le_antisymm (Int.not_lt.mp hbuf) hagrees.bufUsed.1
        refine .pure ⟨_, h₂, hagrees₂ _ (fun len hlen => ?_) (fun _ => hzero), hidle'⟩
        cases hidle.symm.trans hlen
    · rintro s₃ ⟨e₃, h₃, hagrees₃, hidle₃⟩
      split
      · rename_i hclient
        exact h₃.clientSocksRecvInitiate hagrees₃ hclient hsocks rfl rfl hidle₃
      · exact .pure (h₃.settled hagrees₃)

theorem clientSocksHandler {event : SocksEvent} {closeOk : Bool} (h : s.To base i c e s₀)
    (hagrees : c.Agrees e) (hsocks : c.socksClosed = false) (hevent : event ≠ .up)
    (hup : event = .errorClosed → c.socksUp = true) :
    Returns (clientSocksHandler s₀ i event closeOk) (s.Settled base i) := by
  refine .bind_eq h.client (.guard (by rw [hsocks]; rfl) ?_)
  cases event with
  | error => exact h.clientFreeSocks 0 hagrees hsocks
  | up => exact absurd rfl hevent
  | errorClosed =>
    refine .guard (hup rfl) ?_
    exact h.clientFreeSocks 0 hagrees hsocks
  | connected => exact .pure (h.settled hagrees)

theorem clientSocksSendHandlerDone {dataLen len : Int} (h : s.To base i c e s₀)
    (hagrees : c.Agrees { e with sending := some len }) (hidle : e.sending = none)
    (hpos : 0 < dataLen) (hlen : dataLen ≤ len) :
    Returns (clientSocksSendHandlerDone s₀ i dataLen) (s.Settled base i) := by
  obtain ⟨hup, hsocks, -, hle⟩ := hagrees.sending len rfl
  have hbuf := hagrees.bufUsed
  refine .bind_eq h.client (.guard (by rw [hsocks]; rfl) ?_)
  refine .guard hup ?_
  refine .guard (decide_eq_true (by omega)) ?_
  refine .guard (decide_eq_true hpos) ?_
  refine .guard (decide_eq_true (by omega)) ?_
  have h₁ := h.setClient { c with bufUsed := c.bufUsed - dataLen } rfl
  refine .bind (P := s.To base i { c with bufUsed := c.bufUsed - dataLen } e) ?_ fun s₂ h₂ => ?_
  · split
    · rename_i hclient
      exact .bind_eq (h₁.pcb (by rw [hagrees.pcbOpen, hclient]; rfl)) (.pure h₁)
    · exact .pure h₁
  · have hagrees₂ : ∀ sending : Option Int,
        (∀ len, sending = some len → 0 < len ∧ len ≤ c.bufUsed - dataLen) →
        (sending = none → c.bufUsed - dataLen = 0) →
        TcpClient.Agrees { c with bufUsed := c.bufUsed - dataLen } { e with sending } :=
      fun sending hsome hnone => { hagrees with
        bufUsed := ⟨by dsimp only; omega, by dsimp only; omega⟩
        sending := fun len hs => ⟨hup, hsocks, hsome len hs⟩
        notSending := fun hs _ _ => hnone hs }
    split
    · rename_i hmore
      apply (h₂.senderSend (by rw [hagrees.socks, hsocks]; rfl) hidle hmore).mono
      intro s₃ h₃
      refine h₃.settled (hagrees₂ _ (fun len hs => ?_) (fun hs => by cases hs))
      cases hs
      exact ⟨hmore, Int.le_refl _⟩
    · rename_i hempty
      have hagrees₃ := hagrees₂ none (fun len hs => by cases hs) (fun _ => by omega)
      rw [← hidle] at hagrees₃
      split
      · exact h₂.clientFreeSocks 0 hagrees₃ hsocks
      · exact .pure (h₂.settled hagrees₃)

theorem clientSocksRecvHandlerDone {dataLen : Int} {io : SendOut} (h : s.To base i c e s₀)
    (hagrees : c.Agrees { e with receiving := true }) (hidle : e.receiving = false)
    (hpos : 0 < dataLen) (hlen : dataLen ≤ clientSocksRecvBufSize) :
    Returns (clientSocksRecvHandlerDone s₀ i dataLen io) (s.Settled base i) := by
  obtain ⟨hup, hsocks, hbuf⟩ := hagrees.receiving rfl
  have hagrees₀ : c.Agrees e := { hagrees with
    receiving := fun hr => by
      rw [hidle] at hr
      cases hr }
  refine .bind_eq h.client (.guard (decide_eq_true hpos) ?_)
  refine .guard (decide_eq_true hlen) ?_
  refine .guard (by rw [hsocks]; rfl) ?_
  refine .guard hup (.guard (by rw [hbuf]; rfl) ?_)
  split
  · exact .pure (h.settled hagrees₀)
  · rename_i hclosed
    have hclient : c.clientClosed = false := by simpa using hclosed
    have h₁ := h.setClient { c with
      socksRecvBufUsed := dataLen
      socksRecvBufSent := 0
      socksRecvWaiting := false } rfl
    refine (h₁.clientSocksRecvSendOut io (hagrees₀.setRecvBuf hidle fun _ => .inl rfl) hidle
      hclient hup hpos hpos rfl).bind ?_
    rintro ⟨s₂, r⟩ (⟨hr, h₂⟩ | ⟨hr, c', e', h₂, hagrees₂, hidle₂, hclient₂, hsocks₂, hup₂, -⟩)
    · dsimp only at hr ⊢
      rw [if_pos hr]
      exact .pure h₂
    · dsimp only at hr h₂ ⊢
      rw [if_neg (by omega)]
      refine .bind_eq h₂.client ?_
      split
      · rename_i hgo
        exact h₂.clientSocksRecvInitiate hagrees₂ hclient₂ (hsocks₂.trans hsocks) hup₂ hgo hidle₂
      · exact .pure (h₂.settled hagrees₂)

end Clients.To

/-! ## Events -/

/-- A record as `listener_accept_func` makes it. -/
def TcpClient.accepted : TcpClient := ⟨false, false, 0, false, false, 0, 0, false, 0⟩

def Ends.accepted : Ends := ⟨⟨true, true, false⟩, true, 0, true, false, none, false⟩

theorem TcpClient.agrees_accepted : TcpClient.accepted.Agrees Ends.accepted where
  pcbOpen := rfl
  socks := rfl
  alive _ := rfl
  callbacks := rfl
  aborted _ := rfl
  up := rfl
  bufUsed := ⟨Int.le_refl 0, by decide⟩
  sending len hlen := by cases hlen
  notSending _ hup := by cases hup
  receiving hr := by cases hr
  recvBuf _ hup := by cases hup
  pending _ hup := by cases hup
  unacked _ := rfl

theorem listenerAcceptFunc_eq {s : Clients} (h : 0 ≤ s.numClients) :
    listenerAcceptFunc s true true = .ok {
      tcpClients := s.tcpClients ++ [s.next]
      numClients := s.numClients + 1
      record := Function.update s.record s.next (some .accepted)
      ends := Function.update s.ends s.next .accepted
      next := s.next + 1
      call := some ⟨s.next, 0, false⟩
      log := .acquire (.pcb s.next) :: .acquire (.socks s.next) :: .acquire (.record s.next) ::
        s.log } := by
  simp [listenerAcceptFunc, assertClient, h, Clients.setClient, Clients.setEnds, Clients.write,
    deadEnter, bind, Except.bind, pure, Except.pure, TcpClient.accepted, Ends.accepted, Ends.gone]

namespace Clients.Inv

variable {s : Clients} {base : Thing → Prop} {i : Nat}

/-- A connection of which something can be heard has its record. -/
theorem record (h : s.Inv base) (hloud : ¬ (s.ends i).Quiet) :
    ∃ c, s.record i = some c ∧ c.Agrees (s.ends i) := by
  have hagrees := h.agrees i
  rw [AgreesAt] at hagrees
  split at hagrees
  · rename_i c hr
    exact ⟨c, hr, hagrees⟩
  · exact absurd hagrees hloud

theorem of_next (h : s.Inv base) : s.record s.next = none ∧ (s.ends s.next).Quiet := by
  have hr : s.record s.next = none := by
    simpa using h.sound.fresh s.next (Nat.le_refl _)
  have hagrees := h.agrees s.next
  rw [AgreesAt, hr] at hagrees
  exact ⟨hr, hagrees⟩

/-- There is no memory for the SOCKS client. -/
theorem accept_fails (h : s.Inv base) :
    Returns (listenerAcceptFunc s true false) (Clients.Inv · base) := by
  obtain ⟨hr, hquiet⟩ := h.of_next
  have hrecord := h.sound.holds.acquire (x := .record s.next) (by simp [Has, hr])
    (fun y hy => by cases hy) fun y => Iff.rfl
  have hrelease : Ledger.Holds Thing.Uses _ (s.Has base) := hrecord.release (.inl rfl) ?_ ?_
  · exact .ok ⟨⟨h.sound.nodup, h.sound.mem_iff, h.sound.count,
      fun j hj => h.sound.fresh j (Nat.le_of_succ_le hj),
      hrelease.congr fun x => by cases x <;> exact Iff.rfl, h.sound.call⟩, h.agrees⟩
  · intro y hy huses
    rcases Thing.uses_record huses with rfl | rfl
    · simp [Has, hquiet.pcbOpen] at hy
    · simp [Has, hquiet.socks] at hy
  · intro y
    by_cases hy : y = .record s.next
    · subst hy
      simp [Has, hr]
    · simp [hy]

/-- The three parts of a new connection, in the order in which they come. -/
theorem holds_accept (h : s.Inv base) (hnetif : base .netif)
    (hreactor : base (.setup .reactor)) :
    Ledger.Holds Thing.Uses (.acquire (.pcb s.next) :: .acquire (.socks s.next) ::
      .acquire (.record s.next) :: s.log) fun x =>
        x = .pcb s.next ∨ x = .socks s.next ∨ x = .record s.next ∨ s.Has base x := by
  obtain ⟨hr, hquiet⟩ := h.of_next
  have hrecord := h.sound.holds.acquire (x := .record s.next) (by simp [Has, hr])
    (fun y hy => by cases hy) fun y => Iff.rfl
  have hsocks := hrecord.acquire (x := .socks s.next) (by simp [Has, hquiet.socks])
    (fun y hy => ?_) fun y => Iff.rfl
  · refine hsocks.acquire (x := .pcb s.next) (by simp [Has, hquiet.pcbOpen]) (fun y hy => ?_)
      fun y => Iff.rfl
    rcases List.mem_pair.mp hy with rfl | rfl
    · exact .inr (.inl rfl)
    · exact .inr (.inr hnetif)
  · rcases List.mem_pair.mp hy with rfl | rfl
    · exact .inl rfl
    · exact .inr hreactor

theorem accept (h : s.Inv base) (hnetif : base .netif) (hreactor : base (.setup .reactor)) :
    Returns (listenerAcceptFunc s true true) (Clients.Inv · base) := by
  obtain ⟨hr, hquiet⟩ := h.of_next
  rw [listenerAcceptFunc_eq (by rw [h.sound.count]; exact Int.natCast_nonneg _)]
  have hnew : s.next ∉ s.tcpClients := by simp [h.sound.mem_iff, hr]
  refine .ok ⟨⟨?_, fun j => ?_, ?_, fun j hj => ?_, ?_, fun call hcall => ?_⟩, fun j => ?_⟩
  · have hnodup := h.sound.nodup.concat hnew
    rwa [List.concat_eq_append] at hnodup
  · by_cases hj : j = s.next
    · simp [hj]
    · simp [hj, h.sound.mem_iff]
  · simp [h.sound.count]
  · have hj' : s.next < j := hj
    simpa [Function.update_of_ne (Nat.ne_of_gt hj')] using h.sound.fresh j (Nat.le_of_lt hj')
  · apply (h.holds_accept hnetif hreactor).congr
    intro x
    cases x with
    | record j | pcb j | socks j =>
      by_cases hj : j = s.next
      · simp [Has, hj, Ends.accepted]
      · simp [Has, hj]
    | _ => simp [Has]
  · cases hcall
    simp [Call.Sound, TcpClient.accepted]
  · by_cases hj : j = s.next
    · subst hj
      simpa [AgreesAt] using TcpClient.agrees_accepted
    · simpa [AgreesAt, Function.update_of_ne hj] using h.agrees j

theorem listenerAcceptFunc (h : s.Inv base) (hnetif : base .netif)
    (hreactor : base (.setup .reactor)) (mallocOk socksOk : Bool) :
    Returns (listenerAcceptFunc s mallocOk socksOk) (Clients.Inv · base) := by
  cases mallocOk with
  | false => exact .ok h
  | true =>
    cases socksOk with
    | false => exact h.accept_fails
    | true => exact h.accept hnetif hreactor

theorem deadLeave (h : s.Inv base) : Returns (deadLeave s) (Clients.Inv · base) := by
  rw [Tunnel.deadLeave]
  cases hs : s.call with
  | none => exact .ok h
  | some call =>
    obtain ⟨hab, hrecord⟩ := h.sound.call call hs
    have hgone : ¬ (call.killed = 0 ∧ (s.record call.client).isNone = true) := by
      rintro ⟨hkilled, hnone⟩
      rw [Option.isNone_iff_eq_none.mp hnone] at hrecord
      exact hrecord hkilled
    have hresult : decide (0 < call.killed) = call.aborted := by
      rw [Bool.eq_iff_iff, hab, decide_eq_true_iff]
    dsimp only
    rw [if_neg hgone, if_pos hresult]
    exact .ok ⟨⟨h.sound.nodup, h.sound.mem_iff, h.sound.count, h.sound.fresh,
      h.sound.holds.congr fun x => by cases x <;> exact Iff.rfl, fun _ hcall => by cases hcall⟩,
      h.agrees⟩

/-- Every event keeps the invariant. -/
theorem exec (h : s.Inv base) (hnetif : base .netif) (hreactor : base (.setup .reactor))
    {e : ClientEvent} (he : e.enabled s = true) : Returns (e.exec s) (Clients.Inv · base) := by
  cases e with
  | accept mallocOk socksOk => exact h.listenerAcceptFunc hnetif hreactor mallocOk socksOk
  | err i =>
    have herr := (Bool.and_eq_true_iff.mp he).2
    obtain ⟨c, hr, hagrees⟩ := h.record (i := i) fun hq => by
      simp [hq.callbacks, Callbacks.none] at herr
    have hclient : c.clientClosed = false := by simpa [hagrees.callbacks] using herr
    have hpcb : (s.ends i).pcbOpen = true := by rw [hagrees.pcbOpen, hclient]; rfl
    have h₁ := (To.refl h.sound hr).closePcb { s.ends i with
      pcbOpen := false, callbacks := .none } hpcb rfl rfl
    exact (h₁.clientErrFunc hclient hagrees.lost).mono fun s' hs' => h.of_settled hs'
  | recv i p closeOk =>
    simp only [ClientEvent.enabled, Bool.and_eq_true] at he
    obtain ⟨⟨-, hrecv⟩, hp⟩ := he
    obtain ⟨c, hr, hagrees⟩ := h.record (i := i) fun hq => by
      simp [hq.callbacks, Callbacks.none] at hrecv
    have hopen : c.clientClosed = false ∧ c.socksClosed = false := by
      simpa [hagrees.callbacks] using hrecv
    refine ((To.refl h.sound hr).clientRecvFunc hagrees hopen.1 hopen.2 ?_).mono
      fun s' hs' => h.of_settled hs'
    rintro len rfl
    simpa using hp
  | sent i len io closeOk =>
    simp only [ClientEvent.enabled, Bool.and_eq_true, decide_eq_true_eq] at he
    obtain ⟨⟨⟨-, hsent⟩, hpos⟩, hlen⟩ := he
    obtain ⟨c, hr, hagrees⟩ := h.record (i := i) fun hq => by
      simp [hq.callbacks, Callbacks.none] at hsent
    have hopen : c.clientClosed = false ∧ c.socksUp = true := by
      simpa [hagrees.callbacks] using hsent
    have h₁ := (To.refl h.sound hr).setEnds { s.ends i with
      unacked := (s.ends i).unacked - len } rfl rfl
    refine (h₁.clientSentFunc ?_ hopen.1 hopen.2 hpos ?_).mono fun s' hs' => h.of_settled hs'
    · simpa using hagrees
    · exact Int.sub_nonneg_of_le hlen
  | leave => exact h.deadLeave
  | socks i event closeOk =>
    obtain ⟨hsocks, hevent⟩ := Bool.and_eq_true_iff.mp he
    obtain ⟨c, hr, hagrees⟩ := h.record (i := i) fun hq => by simp [hq.socks] at hsocks
    have hopen : c.socksClosed = false := by simpa [hagrees.socks] using hsocks
    have h₁ := (To.refl h.sound hr).setEnds { s.ends i with
      up := (s.ends i).up || event == .up } rfl rfl
    refine Returns.mono (P := s.Settled base i) ?_ fun s' hs' => h.of_settled hs'
    by_cases hup : event = .up
    · subst hup
      have hdown : (s.ends i).up = false := by simpa using hevent
      refine h₁.clientSocksHandler_up ?_ hopen (Bool.or_true _) closeOk
      rw [← hdown]
      exact hagrees
    · refine h₁.clientSocksHandler ?_ hopen hup ?_
      · have hsame : ((s.ends i).up || event == .up) = (s.ends i).up := by simp [hup]
        rw [hsame]
        exact hagrees
      · rintro rfl
        rw [← hagrees.up]
        exact hevent
  | sendDone i dataLen =>
    simp only [ClientEvent.enabled] at he
    split at he
    · rename_i len hlen
      simp only [Bool.and_eq_true, decide_eq_true_eq] at he
      obtain ⟨c, hr, hagrees⟩ := h.record (i := i) fun hq => by simp [hq.sending] at hlen
      have h₁ := (To.refl h.sound hr).setEnds { s.ends i with sending := none } rfl rfl
      refine (h₁.clientSocksSendHandlerDone ?_ rfl he.1 he.2).mono fun s' hs' => h.of_settled hs'
      dsimp only
      rw [← hlen]
      exact hagrees
    · cases he
  | recvDone i dataLen io =>
    simp only [ClientEvent.enabled, Bool.and_eq_true, decide_eq_true_eq] at he
    obtain ⟨⟨hreceiving, hpos⟩, hlen⟩ := he
    obtain ⟨c, hr, hagrees⟩ := h.record (i := i) fun hq => by simp [hq.receiving] at hreceiving
    have h₁ := (To.refl h.sound hr).setEnds { s.ends i with receiving := false } rfl rfl
    refine (h₁.clientSocksRecvHandlerDone ?_ rfl hpos hlen).mono fun s' hs' => h.of_settled hs'
    dsimp only
    rw [← hreceiving]
    exact hagrees

end Clients.Inv

end Lightsocks.Tunnel
