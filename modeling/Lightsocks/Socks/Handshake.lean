import Lightsocks.Socks.Client
import Lightsocks.Udpgw.Wire

/-!
# The dialog with a SOCKS server

The client is up exactly when it has said its part of a dialog that it accepts and has read the
server's part of it, and not a byte more: the next one belongs to the connection that it made.
How the bytes are cut makes no difference.
-/

namespace Lightsocks.Socks

open Lightsocks.Lib
open Lightsocks.Tunnel (AddrType SocksEvent UdpAddr)

/-! ## Dialogs -/

def hello (authInfo : List AuthInfo) : List UInt8 :=
  [socksVersion, UInt8.ofNat authInfo.length] ++ authInfo.map AuthInfo.authType

def passwordRequest (username password : List UInt8) : List UInt8 :=
  [1, UInt8.ofNat username.length] ++ username ++ [UInt8.ofNat password.length] ++ password

def request (udp : Bool) (addr : UdpAddr) : List UInt8 :=
  [socksVersion, if udp then socksCmdUdpAssociate else socksCmdConnect, 0, atyp (addrType addr)]
    ++ addr.bytes

def replyHeader (rsv : UInt8) (type : AddrType) : List UInt8 :=
  [socksVersion, socksRepSucceeded, rsv, atyp type]

/-- The first half of a dialog: what the client says, and what the server replies. -/
inductive Authenticates (authInfo : List AuthInfo) : List UInt8 → List UInt8 → Prop
  | none (hmethods : authInfo.length ≤ 255)
      (hinfo : authInfo.find? (·.authType == socksMethodNoAuthenticationRequired) = some .none) :
      Authenticates authInfo (hello authInfo) [socksVersion, socksMethodNoAuthenticationRequired]
  | password {username password : List UInt8} (hmethods : authInfo.length ≤ 255)
      (hinfo : authInfo.find? (·.authType == socksMethodUsernamePassword)
        = some (.password username password))
      (husername : 0 < username.length ∧ username.length ≤ 255)
      (hpassword : 0 < password.length ∧ password.length ≤ 255) :
      Authenticates authInfo (hello authInfo ++ passwordRequest username password)
        ([socksVersion, socksMethodUsernamePassword] ++ [1, 0])

/-- A dialog in which the server says that it has bound `bind`. -/
inductive Dialog (authInfo : List AuthInfo) (udp : Bool) (addr : UdpAddr) :
    List UInt8 → List UInt8 → UdpAddr → Prop
  | mk {said replied : List UInt8} (rsv : UInt8) (bind : UdpAddr)
      (hauth : Authenticates authInfo said replied) :
      Dialog authInfo udp addr (said ++ request udp addr)
        (replied ++ replyHeader rsv (addrType bind) ++ bind.bytes) bind

/-- No dialog begins with these bytes of the server. -/
def Refuses (authInfo : List AuthInfo) (received : List UInt8) : Prop :=
  ∀ udp addr said replied bind, Dialog authInfo udp addr said replied bind → ¬ received <+: replied

/-- A server that is refused for its first two bytes. -/
theorem refuses_hello {authInfo : List AuthInfo} {version method : UInt8}
    (h : version = socksVersion → ∀ info,
      authInfo.find? (·.authType == method) = some info → ∃ username password,
        info = .password username password ∧ (username.length = 0 ∨ 255 < username.length ∨
          password.length = 0 ∨ 255 < password.length)) :
    Refuses authInfo [version, method] := by
  rintro udp addr said replied bind ⟨rsv, bind, hauth⟩ hbegins
  cases hauth with
  | none hmethods hinfo =>
    simp only [List.cons_append, List.cons_prefix_cons] at hbegins
    obtain ⟨rfl, rfl, -⟩ := hbegins
    obtain ⟨username, password, hpassword, -⟩ := h rfl _ hinfo
    cases hpassword
  | password hmethods hinfo husername hpassword =>
    simp only [List.cons_append, List.cons_prefix_cons] at hbegins
    obtain ⟨rfl, rfl, -⟩ := hbegins
    obtain ⟨username, password, hsome, hlength⟩ := h rfl _ hinfo
    cases hsome
    omega

/-- A server that does not take the name and the password. -/
theorem refuses_password {authInfo : List AuthInfo} {version status : UInt8}
    (h : version = 1 → status ≠ 0) :
    Refuses authInfo ([socksVersion, socksMethodUsernamePassword] ++ [version, status]) := by
  rintro udp addr said replied bind ⟨rsv, bind, hauth⟩ hbegins
  cases hauth with
  | none hmethods hinfo =>
    simp only [List.cons_append, List.cons_prefix_cons] at hbegins
    exact absurd hbegins.2.1 (by decide)
  | password hmethods hinfo husername hpassword =>
    simp only [List.cons_append, List.cons_prefix_cons, List.nil_append] at hbegins
    exact h hbegins.2.2.1 hbegins.2.2.2.1

/-- Two answers that let the client in are the same, or differ in the method. -/
theorem Authenticates.replied_inj {authInfo : List AuthInfo}
    {said said' replied replied' rest rest' : List UInt8} (h : Authenticates authInfo said replied)
    (h' : Authenticates authInfo said' replied') (hbegins : replied ++ rest <+: replied' ++ rest') :
    replied' = replied ∧ rest <+: rest' := by
  cases h with
  | none =>
    cases h' with
    | none => simpa using hbegins
    | password =>
      simp only [List.cons_append, List.cons_prefix_cons] at hbegins
      exact absurd hbegins.2.1 (by decide)
  | password =>
    cases h' with
    | none =>
      simp only [List.cons_append, List.cons_prefix_cons] at hbegins
      exact absurd hbegins.2.1 (by decide)
    | password => simpa using hbegins

/-- A server that does not serve the request. -/
theorem refuses_reply {authInfo : List AuthInfo} {said replied : List UInt8}
    {version rep rsv type : UInt8} (hauth : Authenticates authInfo said replied)
    (h : version = socksVersion → rep = socksRepSucceeded →
      type ≠ socksAtypIpv4 ∧ type ≠ socksAtypIpv6) :
    Refuses authInfo (replied ++ [version, rep, rsv, type]) := by
  rintro udp addr said' replied' bind ⟨rsv', bind, hauth'⟩ hbegins
  rw [List.append_assoc] at hbegins
  obtain ⟨-, hreply⟩ := hauth.replied_inj hauth' hbegins
  simp only [replyHeader, List.cons_append, List.cons_prefix_cons] at hreply
  obtain ⟨hversion, hrep, -, htype, -⟩ := hreply
  obtain ⟨hipv4, hipv6⟩ := h hversion hrep
  cases bind with
  | ipv4 ip port => exact hipv4 htype
  | ipv6 ip port => exact hipv6 htype

/-- No dialog begins without a method, or with too many. -/
theorem refuses_nil {authInfo : List AuthInfo} (h : authInfo.length = 0 ∨ 255 < authInfo.length) :
    Refuses authInfo [] := by
  rintro udp addr said replied bind ⟨rsv, bind, hauth⟩ -
  have hmethods : authInfo.length ≤ 255 ∧ ∃ info, info ∈ authInfo := by
    cases hauth with
    | none hmethods hinfo => exact ⟨hmethods, _, List.mem_of_find?_eq_some hinfo⟩
    | password hmethods hinfo => exact ⟨hmethods, _, List.mem_of_find?_eq_some hinfo⟩
  obtain ⟨hmethods, info, hmem⟩ := hmethods
  have := List.length_pos_of_mem hmem
  omega

/-! ## The buffer -/

namespace BSocksClient

variable {o : BSocksClient} {buffer front src : List UInt8} {offset : Nat}

theorem write_spec (src : List UInt8) (hbuffer : o.buffer = some buffer)
    (hfront : buffer.take offset = front) (hfits : offset + src.length ≤ buffer.length) :
    ∃ buffer', o.write offset src = .ok { o with buffer := some buffer' } ∧
      buffer'.length = buffer.length ∧ buffer'.take (offset + src.length) = front ++ src := by
  obtain ⟨buffer', hcopy, hlen, htake⟩ := copyTo_spec buffer offset src hfits
  refine ⟨buffer', ?_, hlen, hfront ▸ htake⟩
  unfold write
  rw [hbuffer]
  dsimp only
  rw [hcopy]
  rfl

theorem writeFrom_spec (srcs : List (List UInt8)) (hbuffer : o.buffer = some buffer)
    (hfront : buffer.take offset = front) (hfits : offset + srcs.flatten.length ≤ buffer.length) :
    ∃ buffer', o.writeFrom offset srcs = .ok { o with buffer := some buffer' } ∧
      buffer'.length = buffer.length ∧
      buffer'.take (offset + srcs.flatten.length) = front ++ srcs.flatten := by
  induction srcs generalizing o buffer front offset with
  | nil =>
    refine ⟨buffer, ?_, rfl, ?_⟩
    · rw [← hbuffer]
      rfl
    · rw [List.flatten_nil, List.length_nil, List.append_nil]
      exact hfront
  | cons src srcs ih =>
    rw [List.flatten_cons, List.length_append, ← Nat.add_assoc] at hfits ⊢
    obtain ⟨buffer₁, hwrite, hlen₁, htake₁⟩ :=
      write_spec src hbuffer hfront (by omega)
    obtain ⟨buffer₂, hrest, hlen₂, htake₂⟩ := ih (o := { o with buffer := some buffer₁ }) rfl htake₁
      (by omega)
    refine ⟨buffer₂, ?_, hlen₂.trans hlen₁, ?_⟩
    · unfold writeFrom
      rw [hwrite]
      exact hrest
    · rw [htake₂, List.append_assoc]

/-- A buffer that was filled. -/
theorem writeFrom_all (srcs : List (List UInt8)) (hbuffer : o.buffer = some buffer)
    (hfront : buffer.take offset = front) (hfits : offset + srcs.flatten.length = buffer.length) :
    o.writeFrom offset srcs = .ok { o with buffer := some (front ++ srcs.flatten) } := by
  obtain ⟨buffer', hwrite, hlen, htake⟩ := writeFrom_spec srcs hbuffer hfront (Nat.le_of_eq hfits)
  rw [hfits, ← hlen, List.take_length] at htake
  rw [hwrite, htake]

/-- The last part of a buffer. -/
theorem write_rest (hbuffer : o.buffer = some (front ++ buffer))
    (hlen : buffer.length = src.length) :
    o.write front.length src = .ok { o with buffer := some (front ++ src) } := by
  obtain ⟨buffer', hwrite, hlen', htake⟩ := write_spec src hbuffer List.take_left (by
    rw [List.length_append, hlen])
  rw [List.length_append, hlen] at hlen'
  rw [← hlen', List.take_length] at htake
  rw [hwrite, htake]

/-- The first part of a buffer. -/
theorem write_front (hbuffer : o.buffer = some (front ++ buffer))
    (hlen : front.length = src.length) :
    o.write 0 src = .ok { o with buffer := some (src ++ buffer) } := by
  unfold write
  rw [hbuffer]
  dsimp only
  rw [copyTo_ok (by rw [List.length_append]; omega), ok_bind, Nat.zero_add, List.take_zero,
    List.nil_append, List.drop_left' hlen]
  rfl

theorem reserveBuffer_some (o : BSocksClient) (size : Nat) {memory : Option (Nat → UInt8)}
    (hmemory : memory ≠ none) :
    ∃ buffer, buffer.length = size ∧
      o.reserveBuffer size memory = some { o with buffer := some buffer } := by
  obtain ⟨bytes, rfl⟩ := Option.ne_none_iff_exists'.mp hmemory
  refine ⟨(List.range size).map bytes, ?_, rfl⟩
  rw [List.length_map, List.length_range]

/-! ## States -/

/-- What the handler was called with, as long as nothing failed. -/
def expected : ClientState → List SocksEvent
  | .connecting => []
  | .up => [.connected, .up]
  | _ => [.connected]

/-- A message is on its way, behind what was said before. -/
structure Sends (o : BSocksClient) (said message sent : List UInt8) : Prop where
  buffer : o.buffer = some message
  receiving : o.receiving = false
  pos : ∃ pos ≤ message.length, o.sending = some (pos, message.length) ∧
    sent = said ++ message.take pos

/-- A part of an answer has arrived. -/
structure Receives (o : BSocksClient) (size dest total : Nat) (got : List UInt8) : Prop where
  recvDest : o.recvDest = dest
  recvTotal : o.recvTotal = total
  recvLen : o.recvLen = got.length
  lt : got.length < total
  receiving : o.receiving = true
  sending : o.sending = none
  buffer : ∃ buffer, o.buffer = some buffer ∧ buffer.length = size ∧ dest + total ≤ size ∧
    (buffer.drop dest).take got.length = got

/-- Where the dialog is in each state. -/
def At (o : BSocksClient) (sent received : List UInt8) : Prop :=
  match o.state with
  | .connecting | .connectedHandler =>
    sent = [] ∧ received = [] ∧ o.receiving = false ∧ o.sending = none
  | .sendingHello =>
    o.authInfo.length ≤ 255 ∧ received = [] ∧ o.Sends [] (hello o.authInfo) sent
  | .sentHello =>
    o.authInfo.length ≤ 255 ∧ sent = hello o.authInfo ∧ o.Receives 2 0 2 received
  | .sendingPassword => ∃ username password,
    Authenticates o.authInfo (hello o.authInfo ++ passwordRequest username password)
      ([socksVersion, socksMethodUsernamePassword] ++ [1, 0]) ∧
    received = [socksVersion, socksMethodUsernamePassword] ∧
    o.Sends (hello o.authInfo) (passwordRequest username password) sent
  | .sentPassword => ∃ got,
    Authenticates o.authInfo sent ([socksVersion, socksMethodUsernamePassword] ++ [1, 0]) ∧
    received = [socksVersion, socksMethodUsernamePassword] ++ got ∧ o.Receives 2 0 2 got
  | .sendingRequest => ∃ said addr,
    Authenticates o.authInfo said received ∧ o.destAddr = some addr ∧
    o.Sends said (request o.udp addr) sent
  | .sentRequest => ∃ said replied addr got,
    Authenticates o.authInfo said replied ∧ o.destAddr = some addr ∧
    sent = said ++ request o.udp addr ∧ received = replied ++ got ∧ o.Receives 22 0 4 got
  | .receivedReplyHeader => ∃ said replied addr rsv type got,
    Authenticates o.authInfo said replied ∧ o.destAddr = some addr ∧
    sent = said ++ request o.udp addr ∧ received = replied ++ replyHeader rsv type ++ got ∧
    o.bindType = some type ∧ o.Receives 22 4 (addrLen type) got
  | .up => ∃ addr bind, o.destAddr = some addr ∧ o.bindAddr = some bind ∧
    Dialog o.authInfo o.udp addr sent received bind ∧ o.receiving = false ∧ o.sending = none

structure Talks (o : BSocksClient) (sent received : List UInt8) : Prop where
  reported : o.reported = expected o.state
  continueJob : o.continueJob = (o.state == .connectedHandler)
  at_ : o.At sent received

/-- An error was reported, as the last thing. -/
def Ends (o : BSocksClient) : Prop :=
  o.reported = expected o.state ++ [.error] ∨
    o.state = .up ∧ o.reported = [.connected, .up, .errorClosed]

/-- The dialog goes on, or there is a reason that it does not. -/
structure Goes (authInfo : List AuthInfo) (udp : Bool) (destAddr : Option UdpAddr)
    (sent received : List UInt8) (excused : Prop) (o : BSocksClient) : Prop where
  config : o.authInfo = authInfo ∧ o.udp = udp ∧ o.destAddr = destAddr
  outcome : o.Talks sent received ∨ o.Ends ∧ (excused ∨ Refuses authInfo received)

/-- Between a message and its answer, or an answer and the next message. -/
structure Pauses (o : BSocksClient) : Prop where
  expected : expected o.state = [.connected]
  reported : o.reported = [.connected]
  continueJob : o.continueJob = false
  receiving : o.receiving = false
  sending : o.sending = none

variable {sent received said message got : List UInt8} {excused : Prop}
  {memory : Option (Nat → UInt8)}

theorem Ends.failed (h : o.Ends) : o.failed = true := by
  unfold BSocksClient.failed
  rcases h with h | ⟨-, h⟩
  · rw [h]
    simp
  · rw [h]
    rfl

/-- It fails. -/
theorem goes_error (hreported : o.reported = BSocksClient.expected o.state)
    (h : excused ∨ Refuses o.authInfo received) :
    Goes o.authInfo o.udp o.destAddr sent received excused (o.report .error) :=
  ⟨⟨rfl, rfl, rfl⟩, Or.inr ⟨Or.inl (congrArg (· ++ [SocksEvent.error]) hreported), h⟩⟩

theorem Pauses.told (h : o.Pauses) : o.reported = BSocksClient.expected o.state :=
  h.reported.trans h.expected.symm

theorem Goes.mono {authInfo : List AuthInfo} {udp : Bool} {destAddr : Option UdpAddr}
    {excused' : Prop} (h : Goes authInfo udp destAddr sent received excused o)
    (hexcused : excused → excused') : Goes authInfo udp destAddr sent received excused' o :=
  ⟨h.config, h.outcome.imp_right fun ⟨hfailed, hwhy⟩ => ⟨hfailed, hwhy.imp_left hexcused⟩⟩

theorem addrLen_eq (addr : UdpAddr) : addrLen (addrType addr) = addr.bytes.length := by
  rw [Tunnel.UdpAddr.length_bytes]
  cases addr <;> rfl

theorem length_request (udp : Bool) (addr : UdpAddr) :
    (request udp addr).length = 4 + addrLen (addrType addr) := by
  unfold request
  rw [List.length_append, addrLen_eq]
  rfl

theorem senderSend_ok {len : Nat} (h : o.sending = none) :
    o.senderSend len = .ok { o with sending := some (0, len) } := by
  unfold senderSend
  rw [h]
  rfl

theorem Sends.start (hbuffer : o.buffer = some message) (hreceiving : o.receiving = false)
    (hsending : o.sending = some (0, message.length)) : o.Sends said message said where
  buffer := hbuffer
  receiving := hreceiving
  pos := ⟨0, Nat.zero_le _, hsending, by rw [List.take_zero, List.append_nil]⟩

/-- A request is sent. -/
theorem authFinished_goes (h : o.Pauses) (hauth : Authenticates o.authInfo sent received) :
    Returns (o.authFinished memory)
      (Goes o.authInfo o.udp o.destAddr sent received (memory = none ∨ o.destAddr = none)) := by
  unfold authFinished
  split
  · rename_i haddr
    exact .pure (goes_error h.told (.inl (.inr haddr)))
  · rename_i addr haddr
    by_cases hmemory : memory = none
    · subst hmemory
      exact .pure (goes_error h.told (.inl (.inl rfl)))
    obtain ⟨buffer, hlen, hreserve⟩ :=
      o.reserveBuffer_some (4 + addrLen (addrType addr)) hmemory
    have hfront : (buffer.take 4).length = 4 := by
      rw [List.length_take, hlen]
      omega
    have hrest : (buffer.drop 4).length = addr.bytes.length := by
      rw [List.length_drop, hlen, addrLen_eq]
      omega
    have hbuffer : ({ o with buffer := some buffer } : BSocksClient).buffer
        = some (buffer.take 4 ++ buffer.drop 4) := by
      rw [List.take_append_drop]
    have hwrite := write_rest hbuffer hrest
    rw [hfront] at hwrite
    dsimp only
    rw [hreserve]
    refine .bind_eq hwrite (.bind_eq (write_front rfl hfront) ?_)
    refine .bind_eq (senderSend_ok h.sending) (.pure ⟨⟨rfl, rfl, rfl⟩, .inl ?_⟩)
    refine ⟨h.reported, h.continueJob, sent, addr, hauth, haddr, .start rfl h.receiving ?_⟩
    exact congrArg (fun len => some (0, len)) (length_request o.udp addr).symm

/-- The methods are offered. -/
theorem continueJobHandler_goes (memory : Option (Nat → UInt8)) (h : o.Pauses)
    (hstate : o.state = .connectedHandler) :
    Returns (o.continueJobHandler memory)
      (Goes o.authInfo o.udp o.destAddr [] [] (memory = none)) := by
  unfold continueJobHandler
  refine .bind_eq (assert_ok (by rw [hstate]; rfl)) ?_
  dsimp only
  split
  · rename_i hmethods
    exact .pure (goes_error h.told (.inr (refuses_nil hmethods)))
  · rename_i hmethods
    by_cases hmemory : memory = none
    · subst hmemory
      exact .pure (goes_error h.told (.inl rfl))
    obtain ⟨buffer, hlen, hreserve⟩ := o.reserveBuffer_some (2 + o.authInfo.length) hmemory
    have hmap : (o.authInfo.map fun info => [info.authType]).flatten
        = o.authInfo.map AuthInfo.authType := by
      rw [← List.flatMap_def, ← List.map_eq_flatMap]
    obtain ⟨buffer₁, hwrite, hlen₁, htake₁⟩ :=
      write_spec (o := { o with buffer := some buffer })
        [socksVersion, UInt8.ofNat o.authInfo.length] rfl List.take_zero
        (by rw [hlen]; exact Nat.le_add_right 2 _)
    have hrest := writeFrom_all (o := { o with buffer := some buffer₁ })
      (o.authInfo.map fun info => [info.authType]) rfl htake₁
      (by rw [hmap, List.length_map, hlen₁, hlen]; rfl)
    rw [hmap] at hrest
    have hsize : 2 + o.authInfo.length = (hello o.authInfo).length := by
      unfold hello
      rw [List.length_append, List.length_map]
      rfl
    rw [hreserve]
    refine .bind_eq hwrite (.bind_eq hrest ?_)
    refine .bind_eq (senderSend_ok h.sending) (.pure ⟨⟨rfl, rfl, rfl⟩, .inl ?_⟩)
    refine ⟨h.reported, h.continueJob, by dsimp only; omega, rfl, .start rfl h.receiving ?_⟩
    exact congrArg (fun len => some (0, len)) hsize

/-- The server has chosen a method. -/
theorem receivedHello_goes (memory : Option (Nat → UInt8)) (h : o.Pauses)
    (hmethods : o.authInfo.length ≤ 255) (hread : o.read 0 2 = .ok got) (hlen : got.length = 2) :
    Returns (o.receivedHello memory)
      (Goes o.authInfo o.udp o.destAddr (hello o.authInfo) got
        (memory = none ∨ o.destAddr = none)) := by
  obtain ⟨version, method, rfl⟩ := List.length_eq_two.mp hlen
  unfold receivedHello
  refine .bind_eq hread ?_
  simp only [List.getD_cons_zero, List.getD_cons_succ]
  split
  · rename_i hversion
    exact .pure (goes_error h.told (.inr (refuses_hello fun heq => absurd heq hversion)))
  · rename_i hversion
    obtain rfl := not_not.mp hversion
    cases hinfo : o.authInfo.find? (·.authType == method) with
    | none =>
      refine .pure (goes_error h.told (.inr (refuses_hello fun _ info hinfo' => ?_)))
      cases hinfo.symm.trans hinfo'
    | some info =>
      have htype := List.find?_some hinfo
      cases info with
      | none =>
        obtain rfl := eq_of_beq htype
        exact authFinished_goes h (.none hmethods hinfo)
      | password username password =>
        obtain rfl := eq_of_beq htype
        dsimp only
        split
        · rename_i hlength
          refine .pure (goes_error h.told (.inr (refuses_hello fun _ info hinfo' => ?_)))
          cases hinfo.symm.trans hinfo'
          exact ⟨username, password, rfl, hlength⟩
        · rename_i hlength
          by_cases hmemory : memory = none
          · subst hmemory
            exact .pure (goes_error h.told (.inl (.inl rfl)))
          obtain ⟨buffer, hsize, hreserve⟩ := o.reserveBuffer_some
            (1 + 1 + username.length + 1 + password.length) hmemory
          have hmessage : ([[1], [UInt8.ofNat username.length], username,
              [UInt8.ofNat password.length], password] : List (List UInt8)).flatten
              = passwordRequest username password := by
            simp [passwordRequest]
          have hrequest : (passwordRequest username password).length
              = 1 + 1 + username.length + 1 + password.length := by
            unfold passwordRequest
            simp only [List.length_append, List.length_cons, List.length_nil]
          have hwrite := writeFrom_all (o := { o with buffer := some buffer })
            [[1], [UInt8.ofNat username.length], username, [UInt8.ofNat password.length], password]
            rfl List.take_zero (by rw [hmessage, hrequest, hsize, Nat.zero_add])
          rw [hmessage, List.nil_append] at hwrite
          rw [hreserve]
          refine .bind_eq hwrite ?_
          refine .bind_eq (senderSend_ok h.sending) (.pure ⟨⟨rfl, rfl, rfl⟩, .inl ?_⟩)
          refine ⟨h.reported, h.continueJob, username, password, ?_, rfl,
            .start rfl h.receiving ?_⟩
          · exact .password hmethods hinfo (by omega) (by omega)
          · exact congrArg (fun len => some (0, len)) hrequest.symm

/-- The server has taken the name and the password, or not. -/
theorem receivedPasswordReply_goes (memory : Option (Nat → UInt8)) (h : o.Pauses)
    (hauth : Authenticates o.authInfo sent
      ([socksVersion, socksMethodUsernamePassword] ++ [1, 0]))
    (hread : o.read 0 2 = .ok got) (hlen : got.length = 2) :
    Returns (o.receivedPasswordReply memory)
      (Goes o.authInfo o.udp o.destAddr sent ([socksVersion, socksMethodUsernamePassword] ++ got)
        (memory = none ∨ o.destAddr = none)) := by
  obtain ⟨version, status, rfl⟩ := List.length_eq_two.mp hlen
  unfold receivedPasswordReply
  refine .bind_eq hread ?_
  simp only [List.getD_cons_zero, List.getD_cons_succ]
  split
  · rename_i hversion
    exact .pure (goes_error h.told (.inr (refuses_password fun heq => absurd heq hversion)))
  · split
    · rename_i hstatus
      exact .pure (goes_error h.told (.inr (refuses_password fun _ => hstatus)))
    · rename_i hversion hstatus
      obtain rfl := not_not.mp hversion
      obtain rfl := not_not.mp hstatus
      exact authFinished_goes h hauth

theorem startReceive_ok {dest total : Nat} (h : o.receiving = false) (htotal : 0 < total) :
    o.startReceive dest total
      = .ok { o with recvDest := dest, recvLen := 0, recvTotal := total, receiving := true } := by
  unfold startReceive doReceive
  rw [h, assert_ok (decide_eq_true htotal), ok_bind]
  rfl

/-- The server has said whether it serves the request. -/
theorem receivedReplyHeader_goes {replied : List UInt8} {addr : UdpAddr} (h : o.Pauses)
    (hauth : Authenticates o.authInfo said replied) (haddr : o.destAddr = some addr)
    (hbuffer : o.buffer = some buffer) (hsize : buffer.length = 22)
    (hread : o.read 0 4 = .ok got) (hlen : got.length = 4) :
    Returns o.receivedReplyHeader
      (Goes o.authInfo o.udp o.destAddr (said ++ request o.udp addr) (replied ++ got) False) := by
  obtain ⟨version, rep, rsv, type, rfl⟩ := List.length_eq_four.mp hlen
  have hstart : ∀ type, 4 + addrLen type ≤ 22 → Returns (do
      let o ← { o with bindType := some type }.startReceive 4 (addrLen type)
      return { o with state := .receivedReplyHeader })
      (Goes o.authInfo o.udp o.destAddr (said ++ request o.udp addr)
        (replied ++ [socksVersion, socksRepSucceeded, rsv, atyp type]) False) := by
    intro type hfits
    have hpos : 0 < addrLen type := by cases type <;> decide
    refine .bind_eq (startReceive_ok h.receiving hpos) (.pure ⟨⟨rfl, rfl, rfl⟩, .inl ?_⟩)
    refine ⟨h.reported, h.continueJob, said, replied, addr, rsv, type, [], hauth, haddr, rfl, ?_,
      rfl, rfl, rfl, rfl, hpos, rfl, h.sending, buffer, hbuffer, hsize, hfits, rfl⟩
    rw [List.append_nil]
    rfl
  unfold receivedReplyHeader
  refine .bind_eq hread ?_
  simp only [List.getD_cons_zero, List.getD_cons_succ]
  split
  · rename_i hversion
    exact .pure (goes_error h.told (.inr (refuses_reply hauth fun heq => absurd heq hversion)))
  · split
    · rename_i hrep
      exact .pure (goes_error h.told (.inr (refuses_reply hauth fun _ heq => absurd heq hrep)))
    · rename_i hversion hrep
      obtain rfl := not_not.mp hversion
      obtain rfl := not_not.mp hrep
      split
      · rename_i htype
        subst htype
        exact hstart .ipv4 (by decide)
      · split
        · rename_i htype
          subst htype
          exact hstart .ipv6 (by decide)
        · rename_i hipv4 hipv6
          exact .pure (goes_error h.told (.inr (refuses_reply hauth fun _ _ => ⟨hipv4, hipv6⟩)))

theorem be16_readBe16 (a b : UInt8) :
    Tunnel.be16 (UInt16.ofNat (256 * a.toNat + b.toNat)) = [a, b] := by
  have ha := a.toNat_lt
  have hb := b.toNat_lt
  unfold Tunnel.be16
  rw [UInt16.toNat_ofNat', Nat.mod_eq_of_lt (by omega)]
  congr 1
  · apply UInt8.toNat_inj.mp
    rw [UInt8.toNat_ofNat']
    omega
  · congr 1
    apply UInt8.toNat_inj.mp
    rw [UInt8.toNat_ofNat']
    omega

theorem be32_readBe32 (a b c d : UInt8) (rest : List UInt8) :
    Tunnel.be32 (Tunnel.readBe32 (a :: b :: c :: d :: rest) 0) = [a, b, c, d] := by
  have ha := a.toNat_lt
  have hb := b.toNat_lt
  have hc := c.toNat_lt
  have hd := d.toNat_lt
  have hvalue : (Tunnel.readBe32 (a :: b :: c :: d :: rest) 0).toNat
      = 65536 * (256 * a.toNat + b.toNat) + (256 * c.toNat + d.toNat) := by
    simp only [Tunnel.readBe32, Tunnel.readBe16, List.getD_cons_zero, List.getD_cons_succ,
      Nat.zero_add, UInt32.toNat_ofNat', UInt16.toNat_ofNat']
    omega
  unfold Tunnel.be32
  rw [hvalue]
  congr 1
  · apply UInt8.toNat_inj.mp
    rw [UInt8.toNat_ofNat']
    omega
  congr 1
  · apply UInt8.toNat_inj.mp
    rw [UInt8.toNat_ofNat']
    omega
  congr 1
  · apply UInt8.toNat_inj.mp
    rw [UInt8.toNat_ofNat']
    omega
  congr 1
  apply UInt8.toNat_inj.mp
  rw [UInt8.toNat_ofNat']
  omega

/-- The address that is read from the bytes of a reply. -/
theorem readAddr_spec {type : AddrType} {data : List UInt8} (hlen : data.length = addrLen type) :
    addrType (readAddr type data) = type ∧ (readAddr type data).bytes = data := by
  cases type with
  | ipv4 =>
    refine ⟨rfl, ?_⟩
    obtain ⟨front, rest, rfl, hfront, hrest⟩ : ∃ front rest, data = front ++ rest ∧
        front.length = 4 ∧ rest.length = 2 := by
      refine ⟨data.take 4, data.drop 4, (List.take_append_drop 4 data).symm, ?_, ?_⟩
      · rw [List.length_take, hlen]
        rfl
      · rw [List.length_drop, hlen]
        rfl
    obtain ⟨a, b, c, d, rfl⟩ := List.length_eq_four.mp hfront
    obtain ⟨e, f, rfl⟩ := List.length_eq_two.mp hrest
    exact congrArg₂ (· ++ ·) (be32_readBe32 a b c d [e, f]) (be16_readBe16 e f)
  | ipv6 =>
    refine ⟨rfl, ?_⟩
    obtain ⟨front, rest, rfl, hfront, hrest⟩ : ∃ front rest, data = front ++ rest ∧
        front.length = 16 ∧ rest.length = 2 := by
      refine ⟨data.take 16, data.drop 16, (List.take_append_drop 16 data).symm, ?_, ?_⟩
      · rw [List.length_take, hlen]
        rfl
      · rw [List.length_drop, hlen]
        rfl
    obtain ⟨e, f, rfl⟩ := List.length_eq_two.mp hrest
    refine congrArg₂ (· ++ ·) ?_ ?_
    · apply List.ext_getElem
      · rw [Vector.length_toList, hfront]
      · intro i hi _
        rw [Vector.length_toList] at hi
        simp [List.getElem?_append_left (hfront ▸ hi : i < front.length), hfront ▸ hi]
    · rw [Udpgw.readBe16_append hfront]
      exact be16_readBe16 e f

/-- The server has said which address it has bound. -/
theorem receivedReplyRest_goes {replied : List UInt8} {addr : UdpAddr} {type : AddrType}
    (rsv : UInt8) (h : o.Pauses) (hauth : Authenticates o.authInfo said replied)
    (haddr : o.destAddr = some addr) (htype : o.bindType = some type)
    (hread : o.read 4 (addrLen type) = .ok got) (hlen : got.length = addrLen type) :
    Returns o.receivedReplyRest
      (Goes o.authInfo o.udp o.destAddr (said ++ request o.udp addr)
        (replied ++ replyHeader rsv type ++ got) False) := by
  obtain ⟨hfamily, hbytes⟩ := readAddr_spec hlen
  have hdialog : Dialog o.authInfo o.udp addr _ _ _ := .mk rsv (readAddr type got) hauth
  rw [hfamily, hbytes] at hdialog
  unfold receivedReplyRest
  rw [htype]
  refine .bind_eq hread (.pure ⟨⟨rfl, rfl, rfl⟩, .inl ⟨?_, h.continueJob, ?_⟩⟩)
  · show o.reported ++ [SocksEvent.up] = _
    rw [h.reported]
    rfl
  · exact ⟨addr, readAddr type got, haddr, rfl, hdialog, h.receiving, h.sending⟩

/-- The buffer for an answer. -/
theorem awaitAnswer_goes {state : ClientState} {size total : Nat} (h : o.Pauses)
    (htotal : 0 < total) (hfits : total ≤ size) (hexpected : expected state = [.connected])
    (hjob : (state == .connectedHandler) = false)
    (hat : ∀ o' : BSocksClient, o' = { o with
        buffer := o'.buffer, recvDest := 0, recvLen := 0, recvTotal := total, receiving := true
        state } → o'.Receives size 0 total [] → o'.At sent received) :
    Returns (o.awaitAnswer size total memory state)
      (Goes o.authInfo o.udp o.destAddr sent received (memory = none)) := by
  unfold awaitAnswer
  by_cases hmemory : memory = none
  · subst hmemory
    exact .pure (goes_error h.told (.inl rfl))
  obtain ⟨buffer, hlen, hreserve⟩ := o.reserveBuffer_some size hmemory
  rw [hreserve]
  refine .bind_eq (startReceive_ok h.receiving htotal) (.pure ⟨⟨rfl, rfl, rfl⟩, .inl ?_⟩)
  refine ⟨h.reported.trans hexpected.symm, h.continueJob.trans hjob.symm, hat _ rfl ?_⟩
  refine ⟨rfl, rfl, rfl, htotal, rfl, h.sending, buffer, rfl, hlen, ?_, rfl⟩
  rw [Nat.zero_add]
  exact hfits

end BSocksClient

end Lightsocks.Socks
