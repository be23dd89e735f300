import Lightsocks.Socks.Handshake

/-!
# Every dialog with a SOCKS server

In every run the client either has failed or is somewhere in a dialog; it fails without a cause of
its own only if no dialog begins with what the server has sent, and it is up with the last byte of
one.
-/

namespace Lightsocks.Socks

open Lightsocks.Lib
open Lightsocks.Tunnel (AddrType SocksEvent UdpAddr)

theorem Authenticates.length_replied {authInfo : List AuthInfo} {said replied : List UInt8}
    (h : Authenticates authInfo said replied) : 2 ≤ replied.length ∧ replied.length ≤ 4 := by
  cases h <;> decide

namespace BSocksClient

variable {o : BSocksClient} {sent received said message got data : List UInt8}
  {memory : Option (Nat → UInt8)}

/-! ## Callbacks -/

theorem Sends.done {len : Nat} (h : o.Sends said message sent)
    (hsending : o.sending = some (len, len)) : sent = said ++ message := by
  obtain ⟨pos, -, hpos, rfl⟩ := h.pos
  cases hsending.symm.trans hpos
  rw [List.take_length]

/-- More bytes are taken. -/
theorem Sends.taken {pos total len : Nat} (h : o.Sends said message sent)
    (hsending : o.sending = some (pos, total)) (hfits : pos + len ≤ total) :
    ∃ data, o.read pos len = .ok data ∧
      { o with sending := some (pos + len, total) }.Sends said message (sent ++ data) := by
  obtain ⟨pos', -, hpos, rfl⟩ := h.pos
  cases hsending.symm.trans hpos
  refine ⟨(message.drop pos).take len, ?_, h.buffer, h.receiving, pos + len, hfits, rfl, ?_⟩
  · unfold read
    rw [h.buffer]
    exact slice_ok hfits
  · rw [List.append_assoc, List.take_add]

/-- A state between the connect and the end. -/
theorem Talks.pauses {state : ClientState} (h : o.Talks sent received) (hstate : o.state = state)
    (hexpected : expected state = [.connected]) (hjob : (state == .connectedHandler) = false)
    {o' : BSocksClient} (hstate' : o'.state = state) (hreported : o'.reported = o.reported)
    (hcontinue : o'.continueJob = o.continueJob) (hreceiving : o'.receiving = false)
    (hsending : o'.sending = none) : o'.Pauses where
  expected := by rw [hstate', hexpected]
  reported := by rw [hreported, h.reported, hstate, hexpected]
  continueJob := by rw [hcontinue, h.continueJob, hstate, hjob]
  receiving := hreceiving
  sending := hsending

theorem at_of_state {state : ClientState} (hstate : o.state = state)
    (h : { o with state }.At sent received) : o.At sent received := by
  subst hstate
  exact h

/-- The states in which something is sent. -/
theorem Talks.sends {sending : Nat × Nat} (h : o.Talks sent received)
    (hsending : o.sending = some sending) :
    (o.state = .sendingHello ∧ o.authInfo.length ≤ 255 ∧ received = [] ∧
      o.Sends [] (hello o.authInfo) sent) ∨
    (o.state = .sendingPassword ∧ ∃ username password,
      Authenticates o.authInfo (hello o.authInfo ++ passwordRequest username password)
        ([socksVersion, socksMethodUsernamePassword] ++ [1, 0]) ∧
      received = [socksVersion, socksMethodUsernamePassword] ∧
      o.Sends (hello o.authInfo) (passwordRequest username password) sent) ∨
    (o.state = .sendingRequest ∧ ∃ said addr,
      Authenticates o.authInfo said received ∧ o.destAddr = some addr ∧
      o.Sends said (request o.udp addr) sent) := by
  have hat := h.at_
  unfold At at hat
  cases hstate : o.state <;> simp only [hstate] at hat
  case sendingHello => exact .inl ⟨rfl, hat⟩
  case sendingPassword => exact .inr (.inl ⟨rfl, hat⟩)
  case sendingRequest => exact .inr (.inr ⟨rfl, hat⟩)
  case up =>
    obtain ⟨addr, bind, haddr, hbind, hdialog, hreceiving, hnone⟩ := hat
    cases hsending.symm.trans hnone
  case connecting | connectedHandler =>
    obtain ⟨-, -, -, hnone⟩ := hat
    cases hsending.symm.trans hnone
  case sentHello =>
    obtain ⟨hmethods, hsent, hreceives⟩ := hat
    cases hsending.symm.trans hreceives.sending
  case sentPassword =>
    obtain ⟨got, hauth, hreceived, hreceives⟩ := hat
    cases hsending.symm.trans hreceives.sending
  case sentRequest =>
    obtain ⟨said, replied, addr, got, hauth, haddr, hsent, hreceived, hreceives⟩ := hat
    cases hsending.symm.trans hreceives.sending
  case receivedReplyHeader =>
    obtain ⟨said, replied, addr, rsv, type, got, hauth, haddr, hsent, hreceived, htype,
      hreceives⟩ := hat
    cases hsending.symm.trans hreceives.sending

/-- A message is sent, and its answer is awaited. -/
theorem Talks.sendDone {len : Nat} (memory : Option (Nat → UInt8)) (h : o.Talks sent received)
    (hsending : o.sending = some (len, len)) :
    Returns ({ o with sending := none }.sendHandlerDone memory)
      (Goes o.authInfo o.udp o.destAddr sent received (memory = none)) := by
  have hbuffer : ∀ {said message}, o.Sends said message sent → assert o.buffer.isSome = .ok () :=
    fun hsends => assert_ok (by rw [hsends.buffer]; rfl)
  unfold sendHandlerDone
  rcases h.sends hsending with ⟨hstate, hmethods, rfl, hsends⟩ |
    ⟨hstate, username, password, hauth, rfl, hsends⟩ | ⟨hstate, said, addr, hauth, haddr, hsends⟩
  · obtain rfl := hsends.done hsending
    simp only [hstate]
    refine .bind_eq (hbuffer hsends) (awaitAnswer_goes
      (h.pauses hstate rfl rfl rfl rfl rfl hsends.receiving rfl) (by decide) (Nat.le_refl 2)
      rfl rfl fun o' ho' hreceives => ?_)
    rw [ho'] at hreceives ⊢
    exact ⟨hmethods, rfl, hreceives⟩
  · obtain rfl := hsends.done hsending
    simp only [hstate]
    refine .bind_eq (hbuffer hsends) (awaitAnswer_goes
      (h.pauses hstate rfl rfl rfl rfl rfl hsends.receiving rfl) (by decide) (Nat.le_refl 2)
      rfl rfl fun o' ho' hreceives => ?_)
    rw [ho'] at hreceives ⊢
    exact ⟨[], hauth, rfl, hreceives⟩
  · obtain rfl := hsends.done hsending
    simp only [hstate]
    refine .bind_eq (hbuffer hsends) (awaitAnswer_goes
      (h.pauses hstate rfl rfl rfl rfl rfl hsends.receiving rfl) (by decide) (by decide)
      rfl rfl fun o' ho' hreceives => ?_)
    rw [ho'] at hreceives ⊢
    exact ⟨said, received, addr, [], hauth, haddr, rfl, (List.append_nil _).symm, hreceives⟩

/-- More bytes are taken. -/
theorem Talks.taken {pos total len : Nat} (h : o.Talks sent received)
    (hsending : o.sending = some (pos, total)) (hfits : pos + len ≤ total) :
    ∃ data, o.read pos len = .ok data ∧
      { o with sending := some (pos + len, total) }.Talks (sent ++ data) received := by
  rcases h.sends hsending with ⟨hstate, hmethods, hreceived, hsends⟩ |
    ⟨hstate, username, password, hauth, hreceived, hsends⟩ |
    ⟨hstate, said, addr, hauth, haddr, hsends⟩
  · obtain ⟨data, hread, hsends⟩ := hsends.taken hsending hfits
    refine ⟨data, hread, h.reported, h.continueJob, at_of_state hstate ?_⟩
    exact ⟨hmethods, hreceived, hsends.buffer, hsends.receiving, hsends.pos⟩
  · obtain ⟨data, hread, hsends⟩ := hsends.taken hsending hfits
    refine ⟨data, hread, h.reported, h.continueJob, at_of_state hstate ?_⟩
    exact ⟨username, password, hauth, hreceived, hsends.buffer, hsends.receiving, hsends.pos⟩
  · obtain ⟨data, hread, hsends⟩ := hsends.taken hsending hfits
    refine ⟨data, hread, h.reported, h.continueJob, at_of_state hstate ?_⟩
    exact ⟨said, addr, hauth, haddr, hsends.buffer, hsends.receiving, hsends.pos⟩

/-- Bytes arrive, behind those that are there. -/
theorem Receives.arrive {size dest total : Nat} (h : o.Receives size dest total got)
    (hfits : got.length + data.length ≤ total) :
    ∃ buffer, o.write (o.recvDest + o.recvLen) data = .ok { o with buffer := some buffer } ∧
      buffer.length = size ∧ dest + total ≤ size ∧
      (buffer.drop dest).take (got ++ data).length = got ++ data := by
  obtain ⟨buffer, hbuffer, hlen, hroom, hgot⟩ := h.buffer
  obtain ⟨buffer', hwrite, hlen', htake⟩ := write_spec data hbuffer
    (rfl : buffer.take (dest + got.length) = _) (by omega)
  have hoffset : o.recvDest + o.recvLen = dest + got.length := by rw [h.recvDest, h.recvLen]
  rw [hoffset]
  refine ⟨buffer', hwrite, hlen'.trans hlen, hroom, ?_⟩
  have hfront : (buffer.take (dest + got.length)).drop dest = got := by
    rw [List.drop_take, Nat.add_sub_cancel_left, hgot]
  have hdest : dest ≤ (buffer.take (dest + got.length)).length := by
    rw [List.length_take]
    omega
  calc (buffer'.drop dest).take (got ++ data).length
      = (buffer'.take (dest + got.length + data.length)).drop dest := by
        rw [List.drop_take, List.length_append]
        congr 1
        omega
    _ = (buffer.take (dest + got.length)).drop dest ++ data := by
        rw [htake, List.drop_append_of_le_length hdest]
    _ = got ++ data := by rw [hfront]

/-- Nothing but the buffer and the state of the receiving has changed. -/
structure Same (o o' : BSocksClient) : Prop where
  authInfo : o'.authInfo = o.authInfo
  udp : o'.udp = o.udp
  destAddr : o'.destAddr = o.destAddr
  bindType : o'.bindType = o.bindType
  state : o'.state = o.state
  reported : o'.reported = o.reported
  continueJob : o'.continueJob = o.continueJob
  sending : o'.sending = o.sending

theorem Same.config {o' : BSocksClient} (h : o.Same o') :
    o'.authInfo = o.authInfo ∧ o'.udp = o.udp ∧ o'.destAddr = o.destAddr :=
  ⟨h.authInfo, h.udp, h.destAddr⟩

/-- A part of an answer arrives. What was asked for is not complete, or it is looked at. -/
theorem Receives.recvDone {size dest total : Nat} {P : BSocksClient → Prop}
    (h : o.Receives size dest total got) (hfits : o.recvLen + data.length ≤ o.recvTotal)
    (hmore : ∀ o', o.Same o' → o'.Receives size dest total (got ++ data) → P o')
    (hall : (got ++ data).length = total → ∀ o', o.Same o' → o'.receiving = false →
      o'.read dest total = .ok (got ++ data) →
      (∃ buffer, o'.buffer = some buffer ∧ buffer.length = size) →
      Returns (o'.received memory) P) :
    ∃ client, o.write (o.recvDest + o.recvLen) data = .ok client ∧
      Returns ({ client with receiving := false }.recvHandlerDone data.length memory) P := by
  have hrecvDest := h.recvDest
  have hrecvLen := h.recvLen
  have hrecvTotal := h.recvTotal
  have hroom : got.length + data.length ≤ total := by omega
  obtain ⟨buffer, hwrite, hlen, hroom, hgot⟩ := h.arrive hroom
  refine ⟨_, hwrite, ?_⟩
  unfold recvHandlerDone
  refine .bind_eq (assert_ok (decide_eq_true (by dsimp only; omega))) ?_
  dsimp only
  split
  · rename_i hlt
    refine .bind_eq (assert_ok (decide_eq_true hlt)) (.bind_eq rfl (.pure ?_))
    refine hmore _ ⟨rfl, rfl, rfl, rfl, rfl, rfl, rfl, rfl⟩ ?_
    refine ⟨hrecvDest, hrecvTotal, ?_, ?_, rfl, h.sending, buffer, rfl, hlen, hroom, hgot⟩
    · rw [List.length_append]
      exact congrArg (· + data.length) hrecvLen
    · rw [List.length_append]
      omega
  · rename_i hfull
    have htotal : (got ++ data).length = total := by
      rw [List.length_append]
      omega
    refine hall htotal _ ⟨rfl, rfl, rfl, rfl, rfl, rfl, rfl, rfl⟩ rfl ?_ ⟨buffer, rfl, hlen⟩
    unfold read
    dsimp only
    rw [slice_ok (by omega), ← htotal, hgot]

theorem Talks.same {o' : BSocksClient} {received' : List UInt8} (h : o.Talks sent received)
    (hsame : o.Same o') (hat : o'.At sent received') : o'.Talks sent received' where
  reported := by rw [hsame.reported, hsame.state, h.reported]
  continueJob := by rw [hsame.continueJob, hsame.state, h.continueJob]
  at_ := hat

/-- The states in which something is received. -/
theorem Talks.receives (h : o.Talks sent received) (hreceiving : o.receiving = true) :
    (o.state = .sentHello ∧ o.authInfo.length ≤ 255 ∧ sent = hello o.authInfo ∧
      o.Receives 2 0 2 received) ∨
    (o.state = .sentPassword ∧ ∃ got,
      Authenticates o.authInfo sent ([socksVersion, socksMethodUsernamePassword] ++ [1, 0]) ∧
      received = [socksVersion, socksMethodUsernamePassword] ++ got ∧ o.Receives 2 0 2 got) ∨
    (o.state = .sentRequest ∧ ∃ said replied addr got,
      Authenticates o.authInfo said replied ∧ o.destAddr = some addr ∧
      sent = said ++ request o.udp addr ∧ received = replied ++ got ∧ o.Receives 22 0 4 got) ∨
    (o.state = .receivedReplyHeader ∧ ∃ said replied addr rsv type got,
      Authenticates o.authInfo said replied ∧ o.destAddr = some addr ∧
      sent = said ++ request o.udp addr ∧ received = replied ++ replyHeader rsv type ++ got ∧
      o.bindType = some type ∧ o.Receives 22 4 (addrLen type) got) := by
  have hat := h.at_
  unfold At at hat
  cases hstate : o.state <;> simp only [hstate] at hat
  case sentHello => exact .inl ⟨rfl, hat⟩
  case sentPassword => exact .inr (.inl ⟨rfl, hat⟩)
  case sentRequest => exact .inr (.inr (.inl ⟨rfl, hat⟩))
  case receivedReplyHeader => exact .inr (.inr (.inr ⟨rfl, hat⟩))
  case up =>
    obtain ⟨addr, bind, haddr, hbind, hdialog, hnone, -⟩ := hat
    cases hreceiving.symm.trans hnone
  case connecting | connectedHandler =>
    obtain ⟨hsent, hreceived, hnone, -⟩ := hat
    cases hreceiving.symm.trans hnone
  case sendingHello =>
    obtain ⟨hmethods, hreceived, hsends⟩ := hat
    cases hreceiving.symm.trans hsends.receiving
  case sendingPassword =>
    obtain ⟨username, password, hauth, hreceived, hsends⟩ := hat
    cases hreceiving.symm.trans hsends.receiving
  case sendingRequest =>
    obtain ⟨said, addr, hauth, haddr, hsends⟩ := hat
    cases hreceiving.symm.trans hsends.receiving

/-- Bytes arrive. -/
theorem Talks.recvDone (memory : Option (Nat → UInt8)) (h : o.Talks sent received)
    (hreceiving : o.receiving = true) (hfits : o.recvLen + data.length ≤ o.recvTotal) :
    ∃ client, o.write (o.recvDest + o.recvLen) data = .ok client ∧
      Returns ({ client with receiving := false }.recvHandlerDone data.length memory)
        (Goes o.authInfo o.udp o.destAddr sent (received ++ data)
          (memory = none ∨ o.destAddr = none)) := by
  have hpauses : ∀ {state o'}, o.state = state → expected state = [.connected] →
      (state == .connectedHandler) = false → o.Same o' → o'.receiving = false →
      o.sending = none → o'.Pauses :=
    fun hstate hexpected hjob hsame hreceiving' hsending =>
      h.pauses hstate hexpected hjob (hsame.state.trans hstate) hsame.reported hsame.continueJob
        hreceiving' (hsame.sending.trans hsending)
  rcases h.receives hreceiving with ⟨hstate, hmethods, rfl, hreceives⟩ |
    ⟨hstate, got, hauth, rfl, hreceives⟩ |
    ⟨hstate, said, replied, addr, got, hauth, haddr, rfl, rfl, hreceives⟩ |
    ⟨hstate, said, replied, addr, rsv, type, got, hauth, haddr, rfl, rfl, htype, hreceives⟩
  · apply hreceives.recvDone hfits
    · intro o' hsame hreceives'
      refine ⟨hsame.config, .inl (h.same hsame ?_)⟩
      unfold At
      rw [hsame.state, hstate, hsame.authInfo]
      exact ⟨hmethods, rfl, hreceives'⟩
    · intro hfull o' hsame hreceiving' hread hbuffer
      have hgoes := receivedHello_goes memory
        (hpauses hstate rfl rfl hsame hreceiving' hreceives.sending)
        (hsame.authInfo ▸ hmethods) hread hfull
      rw [hsame.authInfo, hsame.udp, hsame.destAddr] at hgoes
      unfold BSocksClient.received
      rw [hsame.state, hstate]
      exact hgoes
  · rw [List.append_assoc]
    apply hreceives.recvDone hfits
    · intro o' hsame hreceives'
      refine ⟨hsame.config, .inl (h.same hsame ?_)⟩
      unfold At
      rw [hsame.state, hstate, hsame.authInfo]
      exact ⟨got ++ data, hauth, rfl, hreceives'⟩
    · intro hfull o' hsame hreceiving' hread hbuffer
      have hgoes := receivedPasswordReply_goes memory
        (hpauses hstate rfl rfl hsame hreceiving' hreceives.sending)
        (hsame.authInfo ▸ hauth) hread hfull
      rw [hsame.authInfo, hsame.udp, hsame.destAddr] at hgoes
      unfold BSocksClient.received
      rw [hsame.state, hstate]
      exact hgoes
  · rw [List.append_assoc]
    apply hreceives.recvDone hfits
    · intro o' hsame hreceives'
      refine ⟨hsame.config, .inl (h.same hsame ?_)⟩
      unfold At
      rw [hsame.state, hstate, hsame.authInfo, hsame.udp, hsame.destAddr]
      exact ⟨said, replied, addr, got ++ data, hauth, haddr, rfl, rfl, hreceives'⟩
    · rintro hfull o' hsame hreceiving' hread ⟨buffer, hbuffer, hsize⟩
      have hgoes := receivedReplyHeader_goes
        (hpauses hstate rfl rfl hsame hreceiving' hreceives.sending) (hsame.authInfo ▸ hauth)
        (hsame.destAddr.trans haddr) hbuffer hsize hread hfull
      rw [hsame.authInfo, hsame.udp, hsame.destAddr] at hgoes
      unfold BSocksClient.received
      rw [hsame.state, hstate]
      exact hgoes.mono fun _ hgoes => hgoes.mono False.elim
  · rw [List.append_assoc]
    apply hreceives.recvDone hfits
    · intro o' hsame hreceives'
      refine ⟨hsame.config, .inl (h.same hsame ?_)⟩
      unfold At
      rw [hsame.state, hstate, hsame.authInfo, hsame.udp, hsame.destAddr, hsame.bindType]
      exact ⟨said, replied, addr, rsv, type, got ++ data, hauth, haddr, rfl, rfl, htype,
        hreceives'⟩
    · intro hfull o' hsame hreceiving' hread hbuffer
      have hgoes := receivedReplyRest_goes rsv
        (hpauses hstate rfl rfl hsame hreceiving' hreceives.sending) (hsame.authInfo ▸ hauth)
        (hsame.destAddr.trans haddr) (hsame.bindType.trans htype) hread hfull
      rw [hsame.authInfo, hsame.udp, hsame.destAddr] at hgoes
      unfold BSocksClient.received
      rw [hsame.state, hstate]
      exact hgoes.mono fun _ hgoes => hgoes.mono False.elim

/-! ## The end of a dialog -/

theorem addrLen_pos (addr : UdpAddr) : 6 ≤ addr.bytes.length := by
  rw [← addrLen_eq]
  generalize addrType addr = type
  cases type <;> decide

theorem atyp_inj {type type' : AddrType} (h : atyp type = atyp type') : type = type' := by
  cases type <;> cases type' <;> first | rfl | exact absurd h (by decide)

theorem Talks.not_failed (h : o.Talks sent received) : o.failed = false := by
  unfold failed
  rw [h.reported]
  cases o.state <;> rfl

/-- Only a client that is up has read the server's part of a dialog. -/
theorem Talks.up_of_dialog {udp : Bool} {addr : UdpAddr} {bind : UdpAddr}
    (h : o.Talks sent received) (hdialog : Dialog o.authInfo udp addr said received bind) :
    o.state = .up := by
  have hat := h.at_
  unfold At at hat
  obtain ⟨rsv, bind, hauth⟩ := hdialog
  rename_i said' replied'
  have hbytes := addrLen_pos bind
  obtain ⟨hlong, -⟩ := hauth.length_replied
  have hlen : (replied' ++ replyHeader rsv (addrType bind) ++ bind.bytes).length
      = replied'.length + 4 + bind.bytes.length := by
    simp only [List.length_append]
    rfl
  generalize hreceived' : replied' ++ replyHeader rsv (addrType bind) ++ bind.bytes = received
    at hat hlen
  cases hstate : o.state <;> simp only [hstate] at hat
  case up => rfl
  case connecting | connectedHandler =>
    obtain ⟨-, rfl, -⟩ := hat
    rw [List.length_nil] at hlen
    omega
  case sendingHello =>
    obtain ⟨-, rfl, -⟩ := hat
    rw [List.length_nil] at hlen
    omega
  case sentHello =>
    obtain ⟨-, -, hreceives⟩ := hat
    have := hreceives.lt
    omega
  case sendingPassword =>
    obtain ⟨username, password, hauth', rfl, hsends⟩ := hat
    have : replied'.length + 4 + bind.bytes.length = 2 := hlen.symm
    omega
  case sentPassword =>
    obtain ⟨got, hauth', rfl, hreceives⟩ := hat
    have hgot := hreceives.lt
    rw [List.length_append] at hlen
    have : 2 + got.length = replied'.length + 4 + bind.bytes.length := hlen
    omega
  case sendingRequest =>
    obtain ⟨said, addr, hauth', haddr, hsends⟩ := hat
    have := hauth'.length_replied
    omega
  case sentRequest =>
    obtain ⟨said, replied, addr, got, hauth', haddr, hsent, rfl, hreceives⟩ := hat
    have hgot := hreceives.lt
    have := hauth'.length_replied
    rw [List.length_append] at hlen
    omega
  case receivedReplyHeader =>
    obtain ⟨said, replied, addr, rsv', type, got, hauth', haddr, hsent, rfl, htype,
      hreceives⟩ := hat
    rw [List.append_assoc, List.append_assoc] at hreceived'
    obtain ⟨rfl, -⟩ := hauth'.replied_inj hauth ⟨[], (List.append_nil _).trans hreceived'.symm⟩
    obtain ⟨hheader, hrest⟩ := List.append_inj (List.append_cancel_left hreceived') rfl
    have htype' : addrType bind = type := by
      simp only [replyHeader, List.cons.injEq] at hheader
      exact atyp_inj hheader.2.2.2.1
    have hgot := hreceives.lt
    rw [← htype', addrLen_eq, hrest] at hgot
    omega

end BSocksClient

/-! ## Steps -/

/-- The client may fail for this event, whatever the server has sent. -/
def ClientEvent.excuses : ClientEvent → Bool
  | .setDestAddr addr => addr.isNone
  | .connector ok => !ok
  | .connection _ => true
  | .continueJob memory | .sendDone memory | .recvDone _ memory => memory.isNone
  | .taken _ => false

/-- The address that the client is to reach, from here on. -/
def ClientEvent.destAddr (old : Option UdpAddr) : ClientEvent → Option UdpAddr
  | .setDestAddr addr => addr
  | _ => old

namespace ClientRun

open BSocksClient

variable {r : ClientRun} {e : ClientEvent}

/-- What a step makes of a client that has not failed. -/
def Steps (r : ClientRun) (e : ClientEvent) (r' : ClientRun) : Prop :=
  Goes r.client.authInfo r.client.udp (e.destAddr r.client.destAddr) r'.sent r'.received
    (e.excuses = true ∨ r.client.destAddr = none) r'.client

theorem exec_steps (h : r.client.Talks r.sent r.received) (he : r.enabled e = true) :
    Returns (r.exec e) (r.Steps e) := by
  obtain ⟨-, he⟩ := Bool.and_eq_true_iff.mp he
  have hat := h.at_
  unfold At at hat
  cases e with
  | setDestAddr addr =>
    have hset : r.client.setDestAddr addr = .ok { r.client with destAddr := addr } := by
      unfold setDestAddr
      rw [assert_ok he]
      rfl
    refine .bind_eq hset (.pure ⟨⟨rfl, rfl, rfl⟩, .inl ⟨h.reported, h.continueJob, ?_⟩⟩)
    unfold At
    rcases Bool.or_eq_true_iff.mp he with hstate | hstate
    all_goals
      have hstate := eq_of_beq hstate
      simp only [hstate] at hat ⊢
      exact hat
  | connector ok =>
    have hstate := eq_of_beq he
    simp only [hstate] at hat
    have hreported : r.client.reported = [] := h.reported.trans (by rw [hstate]; rfl)
    refine Returns.bind (P := Goes r.client.authInfo r.client.udp r.client.destAddr r.sent
      r.received ((ClientEvent.connector ok).excuses = true ∨ r.client.destAddr = none)) ?_
      fun client hgoes => .pure hgoes
    refine .bind_eq (assert_ok he) ?_
    cases ok with
    | false => exact .pure (goes_error h.reported (.inl (.inl rfl)))
    | true =>
      refine .pure ⟨⟨rfl, rfl, rfl⟩, .inl ⟨?_, rfl, hat⟩⟩
      exact congrArg (· ++ [SocksEvent.connected]) hreported
  | connection closed =>
    refine Returns.bind (P := Goes r.client.authInfo r.client.udp r.client.destAddr r.sent
      r.received ((ClientEvent.connection closed).excuses = true ∨ r.client.destAddr = none)) ?_
      fun client hgoes => .pure hgoes
    refine .bind_eq (assert_ok he) ?_
    split
    · rename_i hclosed
      have hstate := eq_of_beq (Bool.and_eq_true_iff.mp hclosed).1
      have hreported : r.client.reported = [.connected, .up] :=
        h.reported.trans (by rw [hstate]; rfl)
      refine .pure ⟨⟨rfl, rfl, rfl⟩, .inr ⟨.inr ⟨hstate, ?_⟩, .inl (.inl rfl)⟩⟩
      exact congrArg (· ++ [SocksEvent.errorClosed]) hreported
    · exact .pure (goes_error h.reported (.inl (.inl rfl)))
  | continueJob memory =>
    have hstate : r.client.state = .connectedHandler := eq_of_beq (h.continueJob.symm.trans he)
    simp only [hstate] at hat
    obtain ⟨hsent, hreceived, hreceiving, hsending⟩ := hat
    have hpauses : ({ r.client with continueJob := false } : BSocksClient).Pauses :=
      ⟨by rw [hstate]; rfl, h.reported.trans (by rw [hstate]; rfl), rfl, hreceiving, hsending⟩
    refine Returns.bind (continueJobHandler_goes memory hpauses hstate)
      fun client hgoes => .pure ?_
    unfold Steps
    dsimp only
    rw [hsent, hreceived]
    exact hgoes.mono fun hmemory => .inl (by rw [hmemory]; rfl)
  | taken len =>
    obtain ⟨⟨pos, total⟩, hsending, hlen⟩ := (Option.any_eq_true _ _).mp he
    obtain ⟨-, hfits⟩ := of_decide_eq_true hlen
    obtain ⟨data, hread, htalks⟩ := h.taken hsending hfits
    unfold exec
    simp only [hsending]
    exact .bind_eq hread (.pure ⟨⟨rfl, rfl, rfl⟩, .inl htalks⟩)
  | sendDone memory =>
    obtain ⟨⟨pos, total⟩, hsending, hlen⟩ := (Option.any_eq_true _ _).mp he
    obtain rfl : pos = total := of_decide_eq_true hlen
    refine Returns.bind (h.sendDone memory hsending) fun client hgoes => .pure ?_
    exact hgoes.mono fun hmemory => .inl (by rw [hmemory]; rfl)
  | recvDone data memory =>
    obtain ⟨he, hfits⟩ := Bool.and_eq_true_iff.mp he
    obtain ⟨hreceiving, -⟩ := Bool.and_eq_true_iff.mp he
    obtain ⟨client, hwrite, hreturns⟩ := h.recvDone memory hreceiving (of_decide_eq_true hfits)
    refine .bind_eq hwrite (.bind hreturns fun client hgoes => .pure ?_)
    exact hgoes.mono fun hwhy => hwhy.imp_left fun hmemory => by rw [hmemory]; rfl

/-- It has failed, or it is somewhere in a dialog. -/
structure Inv (authInfo : List AuthInfo) (udp : Bool) (r : ClientRun) : Prop where
  authInfo_eq : r.client.authInfo = authInfo
  udp_eq : r.client.udp = udp
  talks : r.client.Ends ∨ r.client.Talks r.sent r.received

theorem Inv.step {authInfo : List AuthInfo} {udp : Bool} (h : r.Inv authInfo udp)
    (he : r.enabled e = true) :
    Returns (r.exec e) fun r' => r'.Inv authInfo udp ∧ r.Steps e r' := by
  have hlive : r.client.failed = false := by
    have hnot := (Bool.and_eq_true_iff.mp he).1
    simpa using hnot
  have htalks := h.talks.resolve_left fun hends => by cases hlive.symm.trans hends.failed
  refine (exec_steps htalks he).mono fun r' hsteps => ⟨⟨?_, ?_, ?_⟩, hsteps⟩
  · rw [hsteps.config.1, h.authInfo_eq]
  · rw [hsteps.config.2.1, h.udp_eq]
  · exact hsteps.outcome.symm.imp_left And.left

end ClientRun

/-! ## Every run -/

section

variable {authInfo : List AuthInfo} {destAddr : Option UdpAddr} {udp : Bool}
  {es : List ClientEvent} {res : Except CFault ClientRun}

theorem socksClient_inv (h : (socksClient authInfo destAddr udp).Runs es res) :
    Returns res fun r => r.Inv authInfo udp := by
  apply h.returns (I := fun _ r => r.Inv authInfo udp)
  · exact ⟨rfl, rfl, .inr ⟨rfl, rfl, rfl, rfl, rfl, rfl⟩⟩
  · intro es r e hinv he
    exact (hinv.step he).mono fun _ hr' => hr'.1

/-- In every run, however the bytes are cut, a client that has not failed is up exactly when it
has read the server's part of a dialog; it has said its own part then, and knows the address that
the server has bound. -/
theorem socks_dialog (h : (socksClient authInfo destAddr udp).Runs es res) :
    ∃ r, res = .ok r ∧ (r.client.failed = false →
      (r.client.state = .up ↔ ∃ addr said bind, Dialog authInfo udp addr said r.received bind) ∧
      (r.client.state = .up → ∃ addr bind, r.client.destAddr = some addr ∧
        r.client.bindAddr = some bind ∧ Dialog authInfo udp addr r.sent r.received bind)) := by
  obtain ⟨r, rfl, hinv⟩ := socksClient_inv h
  refine ⟨r, rfl, fun hlive => ?_⟩
  have htalks := hinv.talks.resolve_left fun hends => by cases hlive.symm.trans hends.failed
  have hup : r.client.state = .up → ∃ addr bind, r.client.destAddr = some addr ∧
      r.client.bindAddr = some bind ∧ Dialog authInfo udp addr r.sent r.received bind := by
    intro hstate
    have hat := htalks.at_
    unfold BSocksClient.At at hat
    simp only [hstate] at hat
    obtain ⟨addr, bind, haddr, hbind, hdialog, -⟩ := hat
    rw [hinv.authInfo_eq, hinv.udp_eq] at hdialog
    exact ⟨addr, bind, haddr, hbind, hdialog⟩
  refine ⟨⟨fun hstate => ?_, ?_⟩, hup⟩
  · obtain ⟨addr, bind, -, -, hdialog⟩ := hup hstate
    exact ⟨addr, r.sent, bind, hdialog⟩
  · rintro ⟨addr, said, bind, hdialog⟩
    rw [← hinv.authInfo_eq] at hdialog
    exact htalks.up_of_dialog hdialog

private def zeroed : Option (Nat → UInt8) := some fun _ => 0

/-- A server that wants a name and a password; its answers come in pieces. -/
private def inPieces : List ClientEvent :=
  [.connector true, .continueJob zeroed, .taken 3, .taken 1, .sendDone zeroed,
    .recvDone [5] zeroed, .recvDone [2] zeroed, .taken 5, .sendDone zeroed,
    .recvDone [1, 0] zeroed, .taken 10, .sendDone zeroed, .recvDone [5, 0, 0] zeroed,
    .recvDone [1] zeroed, .recvDone [127, 0, 0, 1] zeroed, .recvDone [4, 56] zeroed]

theorem socks_dialog_pieces : ∃ (r : ClientRun) (addr bind : UdpAddr),
    r.client.state = .up ∧ r.client.bindAddr = some bind ∧
      Dialog [.none, .password [117] [112]] false addr r.sent r.received bind := by
  have hends : (socksClient [.none, .password [117] [112]] (some (.ipv4 16843009 443)) false).ends
      inPieces (fun r => !r.client.failed && r.client.state == .up) = true := by
    decide +kernel
  obtain ⟨r, hruns, hr⟩ := Machine.runs_of_ends hends
  obtain ⟨hlive, hstate⟩ := Bool.and_eq_true_iff.mp hr
  obtain ⟨r', hr', hdialog⟩ := socks_dialog hruns
  cases hr'
  obtain ⟨addr, bind, -, hbind, hsaid⟩ := (hdialog (by simpa using hlive)).2 (eq_of_beq hstate)
  exact ⟨r, addr, bind, eq_of_beq hstate, hbind, hsaid⟩

/-- What tun2socks relies on: the handler is called with connected and then with up, at most once
each, and an error is the last call; that the server has closed the connection is only said after
up. Nothing happens to a client that has reported an error, since its owner frees it in the call:
`enabled` says so, and that no call follows an error rests on it. -/
theorem socks_reports (h : (socksClient authInfo destAddr udp).Runs es res) :
    ∃ r, res = .ok r ∧ (r.client.reported <+: [.connected, .up, .errorClosed] ∨
      ∃ told, told <+: [.connected, .up] ∧ r.client.reported = told ++ [.error]) := by
  obtain ⟨r, rfl, hinv⟩ := socksClient_inv h
  have hexpected : ∀ state, BSocksClient.expected state <+: [.connected, .up] := by
    intro state
    cases state <;> decide
  refine ⟨r, rfl, ?_⟩
  rcases hinv.talks with (herror | ⟨-, hclosed⟩) | htalks
  · exact .inr ⟨_, hexpected _, herror⟩
  · exact .inl (hclosed ▸ List.prefix_rfl)
  · rw [htalks.reported]
    exact .inl ((hexpected _).trans ⟨[.errorClosed], rfl⟩)

/-- The server closes the connection that it made. -/
theorem socks_reports_closed : ∃ r : ClientRun, SocksEvent.errorClosed ∈ r.client.reported ∧
    (r.client.reported <+: [.connected, .up, .errorClosed] ∨
      ∃ told, told <+: [.connected, .up] ∧ r.client.reported = told ++ [.error]) := by
  have hends : (socksClient [.none, .password [117] [112]] (some (.ipv4 16843009 443)) false).ends
      (inPieces ++ [.connection true])
      (fun r => decide (SocksEvent.errorClosed ∈ r.client.reported)) = true := by
    decide +kernel
  obtain ⟨r, hruns, hr⟩ := Machine.runs_of_ends hends
  obtain ⟨r', hr', hreports⟩ := socks_reports hruns
  cases hr'
  exact ⟨r, of_decide_eq_true hr, hreports⟩

/-- A client fails for a reason: unless its connection ends, there is no memory or it has no address
to reach, no dialog begins with what the server has sent. -/
theorem socks_refuses (h : (socksClient authInfo destAddr udp).Runs es res)
    (hdest : destAddr.isSome = true) (hok : ∀ e ∈ es, e.excuses = false) :
    ∃ r, res = .ok r ∧ (r.client.failed = true → Refuses authInfo r.received) := by
  obtain ⟨r, rfl, -⟩ := socksClient_inv h
  suffices hkept : r.client.destAddr.isSome = true ∧
      (r.client.failed = true → Refuses authInfo r.received) from ⟨r, rfl, hkept.2⟩
  refine h.invariant (I := fun es r => (∀ e ∈ es, e.excuses = false) →
    r.client.destAddr.isSome = true ∧ (r.client.failed = true → Refuses authInfo r.received))
    ?_ ?_ hok
  · exact fun _ => ⟨hdest, fun hfailed => by cases hfailed⟩
  · intro es r e r' hruns hI he hexec hok
    obtain ⟨r₀, hr₀, hinv⟩ := socksClient_inv hruns
    cases hr₀
    obtain ⟨r₁, hr₁, hinv', hsteps⟩ := hinv.step he
    cases hr₁.symm.trans hexec
    obtain ⟨hsome, -⟩ := hI fun e' he' => hok e' (List.mem_append_left _ he')
    have hexcuses := hok e (by simp)
    refine ⟨?_, fun hfailed => ?_⟩
    · rw [hsteps.config.2.2]
      cases e with
      | setDestAddr addr =>
        cases addr with
        | none => cases hexcuses
        | some addr => rfl
      | _ => exact hsome
    · rcases hsteps.outcome with htalks | ⟨-, (hexcused | hnone) | hrefuses⟩
      · cases htalks.not_failed.symm.trans hfailed
      · cases hexcuses.symm.trans hexcused
      · rw [hnone] at hsome
        cases hsome
      · rw [← hinv.authInfo_eq]
        exact hrefuses

/-- A server that accepts none of the methods. -/
theorem socks_refuses_methods : ∃ r : ClientRun, r.received = [5, 255] ∧
    r.client.failed = true ∧ Refuses [.none] r.received := by
  have hends : (socksClient [.none] (some (.ipv4 16843009 443)) false).ends
      [.connector true, .continueJob zeroed, .taken 3, .sendDone zeroed, .recvDone [5] zeroed,
        .recvDone [255] zeroed]
      (fun r => r.received == [5, 255] && r.client.failed) = true := by
    decide +kernel
  obtain ⟨r, hruns, hr⟩ := Machine.runs_of_ends hends
  obtain ⟨hreceived, hfailed⟩ := Bool.and_eq_true_iff.mp hr
  obtain ⟨r', hr', hrefuses⟩ := socks_refuses hruns rfl (by simp [ClientEvent.excuses, zeroed])
  cases hr'
  exact ⟨r, eq_of_beq hreceived, hfailed, hrefuses hfailed⟩

end

end Lightsocks.Socks
