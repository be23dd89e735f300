import Lightsocks.Tunnel.Buffers

/-!
# What is in the buffers

Whatever came from one side is on the other, or waits in the buffer between the two
(`TcpBytes.Holds`), and what waits moves on (`TcpClient.Moves`): SOCKS is receiving when
`socks_recv_buf` is empty, and a part of it that was not written waits for the confirmation of
bytes that were.
-/

namespace Lightsocks.Tunnel

open Lightsocks.Lib

/-! ## Copies -/

section

variable {buf src : List UInt8} {offset used n : Nat}

theorem length_overwrite (h : offset + src.length ≤ buf.length) :
    (overwrite buf offset src).length = buf.length := by
  unfold overwrite
  simp only [List.length_append, List.length_take, List.length_drop]
  omega

/-- Bytes are put behind those in use. -/
theorem take_overwrite (src : List UInt8) (h : used ≤ buf.length) :
    (overwrite buf used src).take (used + src.length) = buf.take used ++ src := by
  have hlen : (buf.take used ++ src).length = used + src.length := by
    rw [List.length_append, List.length_take, Nat.min_eq_left h]
  unfold overwrite
  rw [← hlen, List.take_left]

/-- The bytes in use are moved to the front. -/
theorem take_overwrite_drop (h : n ≤ used) (hused : used ≤ buf.length) :
    buf.take n ++ (overwrite buf 0 ((buf.drop n).take (used - n))).take (used - n)
      = buf.take used := by
  have hlen : ((buf.drop n).take (used - n)).length = used - n := by
    rw [List.length_take, List.length_drop]
    omega
  have hmove := take_overwrite ((buf.drop n).take (used - n)) (Nat.zero_le buf.length)
  rw [hlen, Nat.zero_add, List.take_zero, List.nil_append] at hmove
  rw [hmove, ← List.take_add]
  congr 1
  omega

/-- A part of what waits is written. -/
theorem drop_take_split (buf : List UInt8) (h : offset + n ≤ used) :
    (buf.take used).drop offset
      = (buf.drop offset).take n ++ (buf.take used).drop (offset + n) := by
  have hn : n ≤ used - offset := by omega
  rw [List.drop_take, List.drop_take, ← List.drop_drop, Nat.sub_add_eq,
    ← List.take_append_drop n ((buf.drop offset).take (used - offset)), List.take_take,
    Nat.min_eq_left hn, List.drop_take]

end

/-! ## The buffers of a record -/

/-- What waits in `socks_recv_buf`. -/
def TcpBytes.waiting (b : TcpBytes) (c : TcpClient) : List UInt8 :=
  (b.socksRecvBuf.take c.socksRecvBufUsed.toNat).drop c.socksRecvBufSent.toNat

/-- Nothing is lost or repeated between the two sides. -/
structure TcpBytes.Holds (b : TcpBytes) (c : TcpClient) : Prop where
  length_buf : (b.buf.length : Int) = tcpWnd
  length_socksRecvBuf : (b.socksRecvBuf.length : Int) = clientSocksRecvBufSize
  upload : b.fromClient = b.toSocks ++ b.buf.take c.bufUsed.toNat
  /-- lwIP was told about all but what waits, so its window is the room in `buf`. -/
  window : c.clientClosed = false → (b.fromClient.length : Int) = b.recved + c.bufUsed
  download : c.clientClosed = false → b.fromSocks = b.toClient ++ b.waiting c
  nonneg : 0 ≤ c.socksRecvBufSent
  down : c.socksUp = false → c.socksRecvBufUsed ≤ 0

/-- What waits will move on, and when one side is gone then something waits for the other. -/
structure TcpClient.Moves (c : TcpClient) (e : Ends) : Prop where
  receives : c.clientClosed = false → c.socksClosed = false → c.socksUp = true →
    c.socksRecvBufUsed = -1 → e.receiving = true
  confirms : c.clientClosed = false → 0 < c.socksRecvBufUsed → 0 < e.unacked
  clientGone : c.clientClosed = true → 0 < c.bufUsed
  socksGone : c.socksClosed = true → 0 < e.unacked

namespace TcpBytes

variable {b : TcpBytes} {c c' : TcpClient}

theorem waiting_nil (h : c.socksRecvBufUsed ≤ 0) : b.waiting c = [] := by
  unfold waiting
  rw [Int.toNat_eq_zero.mpr h, List.take_zero, List.drop_nil]

theorem Holds.congr (h : b.Holds c) (hbuf : c'.bufUsed = c.bufUsed) (hup : c'.socksUp = c.socksUp)
    (hused : c'.socksRecvBufUsed = c.socksRecvBufUsed)
    (hsent : c'.socksRecvBufSent = c.socksRecvBufSent)
    (hclient : c.clientClosed = true → c'.clientClosed = true) : b.Holds c' := by
  have hopen : c'.clientClosed = false → c.clientClosed = false := by
    intro hc'
    exact Bool.eq_false_iff.mpr fun hc => by cases (hclient hc).symm.trans hc'
  exact {
    length_buf := h.length_buf
    length_socksRecvBuf := h.length_socksRecvBuf
    upload := by
      rw [hbuf]
      exact h.upload
    window := fun hc' => by
      rw [hbuf]
      exact h.window (hopen hc')
    download := fun hc' => by
      unfold waiting
      rw [hused, hsent]
      exact h.download (hopen hc')
    nonneg := hsent ▸ h.nonneg
    down := fun hdown => by
      rw [hused]
      exact h.down (hup ▸ hdown) }

theorem Holds.keeps (h : b.Holds c) (hkeeps : c.Keeps c') : b.Holds c' :=
  h.congr hkeeps.bufUsed hkeeps.socksUp hkeeps.socksRecvBufUsed hkeeps.socksRecvBufSent
    hkeeps.clientClosed

/-- All of `socks_recv_buf` was written. -/
theorem Holds.emptied (h : b.Holds c) (hall : c.socksRecvBufSent = c.socksRecvBufUsed) :
    b.Holds { c with socksRecvBufUsed := -1 } where
  length_buf := h.length_buf
  length_socksRecvBuf := h.length_socksRecvBuf
  upload := h.upload
  window := h.window
  download hopen := by
    have hdownload := h.download hopen
    have hnil : b.waiting c = [] := by
      unfold waiting
      rw [hall]
      exact List.drop_eq_nil_of_le (List.length_take_le _ _)
    rw [hnil] at hdownload
    rw [waiting_nil (by dsimp only; omega)]
    exact hdownload
  nonneg := h.nonneg
  down _ := by
    dsimp only
    omega

/-- What was written to a client is the beginning of what SOCKS received. -/
theorem Holds.isPrefix (h : b.Holds c) (hopen : c.clientClosed = false) :
    b.toClient <+: b.fromSocks := by
  rw [h.download hopen]
  exact List.prefix_append _ _

/-- `n` bytes are given to `tcp_write`. -/
def wrote (b : TcpBytes) (c : TcpClient) (n : Int) : TcpBytes :=
  { b with
    toClient := b.toClient ++ (b.socksRecvBuf.drop c.socksRecvBufSent.toNat).take n.toNat }

theorem Holds.wrote {n : Int} (h : b.Holds c) (hn : 0 ≤ n)
    (hle : c.socksRecvBufSent + n ≤ c.socksRecvBufUsed) : (b.wrote c n).Holds (c.wrote n) where
  length_buf := h.length_buf
  length_socksRecvBuf := h.length_socksRecvBuf
  upload := h.upload
  window := h.window
  download hopen := by
    have hsent := h.nonneg
    have hnat : (c.socksRecvBufSent + n).toNat = c.socksRecvBufSent.toNat + n.toNat := by omega
    have hfits : c.socksRecvBufSent.toNat + n.toNat ≤ c.socksRecvBufUsed.toNat := by omega
    have hsplit := drop_take_split b.socksRecvBuf hfits
    show b.fromSocks = (b.toClient ++ _) ++
      (b.socksRecvBuf.take c.socksRecvBufUsed.toNat).drop (c.socksRecvBufSent + n).toNat
    rw [hnat, List.append_assoc, ← hsplit]
    exact h.download hopen
  nonneg := Int.add_nonneg h.nonneg hn
  down := h.down

theorem wrote_wrote {n m : Int} (hsent : 0 ≤ c.socksRecvBufSent) (hn : 0 ≤ n) (hm : 0 ≤ m) :
    (b.wrote c n).wrote (c.wrote n) m = b.wrote c (n + m) := by
  have hsum : (n + m).toNat = n.toNat + m.toNat := Int.toNat_add hn hm
  have hoff : (c.socksRecvBufSent + n).toNat = c.socksRecvBufSent.toNat + n.toNat :=
    Int.toNat_add hsent hn
  unfold wrote TcpClient.wrote
  dsimp only
  rw [hsum, hoff, List.append_assoc, ← List.drop_drop, List.take_add]

theorem wrote_zero : b.wrote c 0 = b := by
  unfold wrote
  rw [Int.toNat_zero, List.take_zero, List.append_nil]

/-- `data` is put behind the bytes in `buf`. -/
def took (b : TcpBytes) (c : TcpClient) (data : List UInt8) : TcpBytes :=
  { b with
    buf := overwrite b.buf c.bufUsed.toNat data
    fromClient := b.fromClient ++ data }

theorem Holds.took {data : List UInt8} (h : b.Holds c) (hpos : 0 ≤ c.bufUsed)
    (hfits : c.bufUsed + data.length ≤ tcpWnd) :
    (b.took c data).Holds { c with bufUsed := c.bufUsed + data.length } := by
  have hlen := h.length_buf
  have hused : (c.bufUsed + data.length).toNat = c.bufUsed.toNat + data.length := by omega
  exact {
    length_buf := by
      show ((overwrite b.buf c.bufUsed.toNat data).length : Int) = tcpWnd
      rw [length_overwrite (by omega)]
      exact hlen
    length_socksRecvBuf := h.length_socksRecvBuf
    upload := by
      show _ ++ data = b.toSocks ++ (overwrite _ _ data).take (c.bufUsed + data.length).toNat
      rw [hused, take_overwrite data (by omega), ← List.append_assoc, ← h.upload]
    window := fun hc => by
      show ((b.fromClient ++ data).length : Int) = b.recved + (c.bufUsed + data.length)
      rw [List.length_append, Int.natCast_add, h.window hc, Int.add_assoc]
    download := h.download
    nonneg := h.nonneg
    down := h.down }

/-- The bytes of `buf` after the first `n` are moved to the front, and lwIP is told. -/
def moved (b : TcpBytes) (c : TcpClient) (n : Int) : TcpBytes :=
  { b with
    buf := overwrite b.buf 0 ((b.buf.drop n.toNat).take (c.bufUsed - n).toNat)
    recved := if c.clientClosed = false then b.recved + n else b.recved }

/-- The first `n` bytes of `buf` were sent. -/
def sent (b : TcpBytes) (n : Int) : TcpBytes :=
  { b with toSocks := b.toSocks ++ b.buf.take n.toNat }

theorem Holds.sent {n : Int} (h : b.Holds c) (hn : 0 ≤ n) (hle : n ≤ c.bufUsed)
    (hfits : c.bufUsed ≤ tcpWnd) :
    ((b.sent n).moved c n).Holds { c with bufUsed := c.bufUsed - n } := by
  have hlen := h.length_buf
  have hsub : (c.bufUsed - n).toNat = c.bufUsed.toNat - n.toNat := by omega
  exact {
    length_buf := by
      show ((overwrite b.buf 0 _).length : Int) = tcpWnd
      rw [length_overwrite (by rw [List.length_take, List.length_drop]; omega)]
      exact hlen
    length_socksRecvBuf := h.length_socksRecvBuf
    upload := by
      show b.fromClient = (b.toSocks ++ b.buf.take n.toNat) ++
        (overwrite b.buf 0 ((b.buf.drop n.toNat).take (c.bufUsed - n).toNat)).take
          (c.bufUsed - n).toNat
      rw [hsub, List.append_assoc, take_overwrite_drop (by omega) (by omega)]
      exact h.upload
    window := fun hc => by
      show (b.fromClient.length : Int)
        = (if c.clientClosed = false then b.recved + n else b.recved) + (c.bufUsed - n)
      rw [if_pos hc, h.window hc]
      omega
    download := h.download
    nonneg := h.nonneg
    down := h.down }

/-- `data` was received into `socks_recv_buf`. -/
def got (b : TcpBytes) (data : List UInt8) : TcpBytes :=
  { b with
    socksRecvBuf := overwrite b.socksRecvBuf 0 data
    fromSocks := b.fromSocks ++ data }

/-- The record of a client that is still there has the new bytes in its buffer. -/
theorem Holds.got {data : List UInt8} (h : b.Holds c) (hempty : c.socksRecvBufUsed ≤ 0)
    (hup : c.socksUp = true) (hfits : (data.length : Int) ≤ clientSocksRecvBufSize) :
    (b.got data).Holds { c with
      socksRecvBufUsed := data.length
      socksRecvBufSent := 0
      socksRecvWaiting := false } := by
  have hlen := h.length_socksRecvBuf
  exact {
    length_buf := h.length_buf
    length_socksRecvBuf := by
      show ((overwrite b.socksRecvBuf 0 data).length : Int) = clientSocksRecvBufSize
      rw [length_overwrite (by omega)]
      exact hlen
    upload := h.upload
    window := h.window
    download := fun hc => by
      have hdownload := h.download hc
      rw [waiting_nil hempty, List.append_nil] at hdownload
      have hdata := take_overwrite data (Nat.zero_le b.socksRecvBuf.length)
      rw [Nat.zero_add, List.take_zero, List.nil_append] at hdata
      show b.fromSocks ++ data
        = b.toClient ++ ((overwrite b.socksRecvBuf 0 data).take data.length).drop 0
      rw [hdata, hdownload, List.drop_zero]
    nonneg := Int.le_refl 0
    down := fun hdown => by
      cases hup.symm.trans hdown }

/-- A record whose client is gone does not look at them. -/
theorem Holds.got_closed {data : List UInt8} (h : b.Holds c) (hclient : c.clientClosed = true)
    (hfits : (data.length : Int) ≤ clientSocksRecvBufSize) : (b.got data).Holds c := by
  have hlen := h.length_socksRecvBuf
  exact { h with
    length_socksRecvBuf := by
      show ((overwrite b.socksRecvBuf 0 data).length : Int) = clientSocksRecvBufSize
      rw [length_overwrite (by omega)]
      exact hlen
    download := fun hopen => by
      cases hclient.symm.trans hopen }

end TcpBytes

theorem TcpMemory.holds_accepted (memory : TcpMemory) : memory.bytes.Holds .accepted where
  length_buf := memory.length_buf
  length_socksRecvBuf := memory.length_socksRecvBuf
  upload := rfl
  window _ := rfl
  download _ := rfl
  nonneg := Int.le_refl 0
  down _ := Int.le_refl 0

/-! ## Writing to the client -/

/-- Nothing happened to the other connections. -/
structure Streams.Frame (s : Streams) (i : Nat) (s' : Streams) : Prop where
  clients : s.clients.Frame i s'.clients
  bytes : ∀ j, j ≠ i → s'.bytes j = s.bytes j

/-- The `i`-th connection by now. -/
structure Streams.To (s : Streams) (i : Nat) (c : TcpClient) (e : Ends) (b : TcpBytes)
    (s' : Streams) : Prop where
  frame : s.Frame i s'
  record : s'.clients.record i = some c
  ends : s'.clients.ends i = e
  bytes : s'.bytes i = b

/-- `tcp_write` takes something at once. -/
def SendOut.takes (io : SendOut) : Bool := io.writes.head?.any fun w => w.1 != 0 && w.2 == .ok

/-- lwIP fails, or takes nothing although it has confirmed everything. -/
def SendOut.refused (io : SendOut) (unacked : Int) : Bool :=
  !io.outputOk || io.writes.any (fun w => w.2 == .other) || (unacked == 0 && !io.takes)

namespace Streams

variable {s s₀ s' : Streams} {clients : Clients} {i : Nat} {c c' : TcpClient} {e e' : Ends}
  {b b' : TcpBytes}

namespace To

theorem refl (hr : s.clients.record i = some c) :
    s.To i c (s.clients.ends i) (s.bytes i) s :=
  ⟨⟨⟨fun _ _ => rfl, fun _ _ => rfl⟩, fun _ _ => rfl⟩, hr, rfl, rfl⟩

theorem client (h : s.To i c e b s₀) (hc : s₀.clients.client i = .ok c') : c' = c :=
  Option.some.inj ((Clients.client_ok hc).symm.trans h.record)

theorem setBytes (h : s.To i c e b s₀) (b' : TcpBytes) : s.To i c e b' (s₀.setBytes i b') where
  frame := ⟨h.frame.clients,
    fun j hj => (Function.update_of_ne hj _ _).trans (h.frame.bytes j hj)⟩
  record := h.record
  ends := h.ends
  bytes := Function.update_self ..

theorem setClient (h : s.To i c e b s₀) (c' : TcpClient) : s.To i c' e b (s₀.setClient i c') where
  frame := ⟨⟨fun j hj => (Function.update_of_ne hj _ _).trans (h.frame.clients.record j hj),
    h.frame.clients.ends⟩, h.frame.bytes⟩
  record := Function.update_self ..
  ends := h.ends
  bytes := h.bytes

theorem setEnds (h : s.To i c e b s₀) (e' : Ends) : s.To i c e' b (s₀.setEnds i e') where
  frame := ⟨⟨h.frame.clients.record,
    fun j hj => (Function.update_of_ne hj _ _).trans (h.frame.clients.ends j hj)⟩, h.frame.bytes⟩
  record := h.record
  ends := Function.update_self ..
  bytes := h.bytes

theorem deadEnter (h : s.To i c e b s₀) : s.To i c e b (s₀.deadEnter i) :=
  ⟨⟨⟨h.frame.clients.record, h.frame.clients.ends⟩, h.frame.bytes⟩, h.record, h.ends, h.bytes⟩

theorem write (h : s.To i c e b s₀) (entry : Entry Thing) :
    s.To i c e b { s₀ with clients := s₀.clients.write entry } :=
  ⟨⟨⟨h.frame.clients.record, h.frame.clients.ends⟩, h.frame.bytes⟩, h.record, h.ends, h.bytes⟩

end To

theorem on_ok {f : Clients → Except ClientFault Clients} (h : s.on f = .ok s') :
    ∃ clients, f s.clients = .ok clients ∧ s' = { s with clients } := by
  obtain ⟨clients, hclients, h⟩ := bind_ok h
  cases h
  exact ⟨clients, hclients, rfl⟩

/-- An operation of SOCKS is started. -/
theorem To.sends {n : Int} (h : s.To i c e b s₀) (hrun : senderSend s₀.clients i n = .ok clients) :
    s.To i c { e with sending := some n } b { s₀ with clients } := by
  unfold senderSend at hrun
  split at hrun
  · cases hrun
  · split at hrun
    · cases hrun
    · cases hrun
      rw [h.ends]
      exact h.setEnds _

theorem To.sendsAll (h : s.To i c e b s₀)
    (hrun : clientSendToSocks s₀.clients i = .ok clients) :
    s.To i c { e with sending := some c.bufUsed } b { s₀ with clients } := by
  obtain ⟨c', hc', hrun⟩ := bind_ok hrun
  obtain rfl := h.client hc'
  iterate 3 (obtain ⟨_, -, hrun⟩ := bind_ok hrun)
  exact h.sends hrun

theorem To.initiates (h : s.To i c e b s₀)
    (hrun : clientSocksRecvInitiate s₀.clients i = .ok clients) :
    s.To i c { e with receiving := true } b { s₀ with clients } := by
  iterate 5 (obtain ⟨_, -, hrun⟩ := bind_ok hrun)
  unfold receiverRecv at hrun
  split at hrun
  · cases hrun
  · split at hrun
    · cases hrun
    · cases hrun
      rw [h.ends]
      exact h.setEnds _

theorem To.tcpCallbacks {set : Callbacks → Callbacks} (h : s.To i c e b s₀)
    (hrun : s₀.clients.tcpCallbacks i set = .ok clients) :
    s.To i c { e with callbacks := set e.callbacks } b { s₀ with clients } := by
  obtain ⟨e', he', hrun⟩ := bind_ok hrun
  obtain ⟨rfl, -⟩ := Clients.pcb_ok he'
  cases hrun
  rw [h.ends]
  exact h.setEnds _

/-- SOCKS is up: what waits in `buf` is sent, and receiving begins. -/
theorem To.goesUp (closeOk : Bool) (h : s.To i c e b s₀)
    (hrun : clientSocksHandler s₀.clients i .up closeOk = .ok clients) :
    ∃ callbacks sending receiving,
      s.To i c.goUp { e with callbacks, sending, receiving } b { s₀ with clients } ∧
        (c.clientClosed = false → receiving = true) := by
  obtain ⟨c', hc', hrun⟩ := bind_ok hrun
  obtain rfl := h.client hc'
  iterate 2 (obtain ⟨_, -, hrun⟩ := bind_ok hrun)
  obtain ⟨s₁, hs₁, hrun⟩ := bind_ok hrun
  obtain ⟨s₂, hs₂, hrun⟩ := bind_ok hrun
  have h₁ : ∃ callbacks, s.To i c' { e with callbacks } b { s₀ with clients := s₁ } := by
    split at hs₁
    · exact ⟨_, h.tcpCallbacks hs₁⟩
    · cases hs₁
      exact ⟨_, h⟩
  obtain ⟨callbacks, h₁⟩ := h₁
  have h₂ : ∃ sending,
      s.To i c'.goUp { e with callbacks, sending } b { s₀ with clients := s₂ } := by
    split at hs₂
    · exact ⟨_, (h₁.setClient c'.goUp).sendsAll hs₂⟩
    · cases hs₂
      exact ⟨_, h₁.setClient c'.goUp⟩
  obtain ⟨sending, h₂⟩ := h₂
  split at hrun
  · exact ⟨callbacks, sending, true, h₂.initiates hrun, fun _ => rfl⟩
  · rename_i hclosed
    cases hrun
    exact ⟨callbacks, sending, _, h₂, fun hopen => absurd hopen hclosed⟩

/-- The loop wrote some bytes, and none only if `tcp_write` took nothing. -/
theorem sendOutLoop_cases {writes : List (Nat × WriteErr)} {failed : Bool}
    (h : s.To i c e b s₀) (hsent : 0 ≤ c.socksRecvBufSent)
    (hlt : c.socksRecvBufSent < c.socksRecvBufUsed)
    (hrun : sendOutLoop i writes s₀ = .ok (s', failed)) :
    ∃ n, 0 ≤ n ∧ c.socksRecvBufSent + n ≤ c.socksRecvBufUsed ∧
      s.To i (c.wrote n) (e.wrote n) (b.wrote c n) s' ∧
      (n = 0 → writes.head?.any (fun w => w.1 != 0 && w.2 == .ok) = false) ∧
      (failed = true → writes.any (fun w => w.2 == .other) = true) := by
  induction writes generalizing s₀ c e b with
  | nil =>
    cases hrun
    refine ⟨0, Int.le_refl 0, by omega, ?_, fun _ => rfl, fun hf => (by cases hf)⟩
    rwa [c.wrote_zero, e.wrote_zero, b.wrote_zero]
  | cons w writes ih =>
    obtain ⟨sndbuf, err⟩ := w
    obtain ⟨c', hc', hrun⟩ := bind_ok hrun
    obtain ⟨e', he', hrun⟩ := bind_ok hrun
    obtain rfl := h.client hc'
    obtain ⟨rfl, -⟩ := Clients.pcb_ok he'
    have hstay : s.To i (c'.wrote 0) (e.wrote 0) (b.wrote c' 0) s₀ := by
      rwa [c'.wrote_zero, e.wrote_zero, b.wrote_zero]
    dsimp only at hrun
    split at hrun
    · rename_i hroom
      cases hrun
      refine ⟨0, Int.le_refl 0, by omega, hstay, fun _ => ?_, fun hf => (by cases hf)⟩
      have hzero : sndbuf = 0 := by omega
      simp [hzero]
    · rename_i hroom
      cases err with
      | mem =>
        cases hrun
        exact ⟨0, Int.le_refl 0, by omega, hstay, fun _ => by simp, fun hf => (by cases hf)⟩
      | other =>
        cases hrun
        exact ⟨0, Int.le_refl 0, by omega, hstay, fun _ => by simp, fun _ => by simp⟩
      | ok =>
        generalize hm : min (c'.socksRecvBufUsed - c'.socksRecvBufSent) (sndbuf : Int) = m
          at hrun hroom
        have hwrote : s.To i (c'.wrote m) (e.wrote m) (b.wrote c' m) _ :=
          ((h.setBytes (b.wrote c' m)).setEnds (e.wrote m)).setClient (c'.wrote m)
        rw [h.ends, h.bytes] at hrun
        dsimp only at hrun
        split at hrun
        · rename_i hmore
          obtain ⟨n, hn, hle, hto, hhead, hfailed⟩ := ih hwrote (by
            show 0 ≤ c'.socksRecvBufSent + m
            omega) hmore hrun
          rw [c'.wrote_wrote, e.wrote_wrote, b.wrote_wrote hsent (by omega) hn] at hto
          refine ⟨m + n, by omega, ?_, hto, fun hzero => (by omega), fun hf => ?_⟩
          · simp only [TcpClient.wrote] at hle
            omega
          · rw [List.any_cons, hfailed hf, Bool.or_true]
        · cases hrun
          exact ⟨m, by omega, by omega, hwrote, fun hzero => (by omega), fun hf => (by cases hf)⟩

/-- `client_socks_recv_send_out` gives the connection up because lwIP refused its bytes, or it
leaves what it could not write to be written when something is confirmed. -/
theorem clientSocksRecvSendOut_cases {io : SendOut} {r : Int} (h : s.To i c e b s₀)
    (hsent : 0 ≤ c.socksRecvBufSent) (hlt : c.socksRecvBufSent < c.socksRecvBufUsed)
    (hpending : 0 ≤ c.socksRecvTcpPending)
    (hrun : s₀.clientSocksRecvSendOut i io = .ok (s', r)) :
    ∃ n, 0 ≤ n ∧ c.socksRecvBufSent + n ≤ c.socksRecvBufUsed ∧
      ((r < 0 ∧ io.refused c.socksRecvTcpPending = true ∧ ∃ s₁ clients,
          s.To i (c.wrote n) (e.wrote n) (b.wrote c n) s₁ ∧
            s₁.clients.LosesClient i clients ∧ s' = { s₁ with clients }) ∨
        (¬ r < 0 ∧ c.socksRecvBufSent + n < c.socksRecvBufUsed ∧
          0 < c.socksRecvTcpPending + n ∧
          s.To i { c.wrote n with socksRecvWaiting := true } (e.wrote n) (b.wrote c n) s') ∨
        (¬ r < 0 ∧ c.socksRecvBufSent + n = c.socksRecvBufUsed ∧
          s.To i { c.wrote n with socksRecvBufUsed := -1 } (e.wrote n) (b.wrote c n) s')) := by
  obtain ⟨c', hc', hrun⟩ := bind_ok hrun
  obtain rfl := h.client hc'
  iterate 5 (obtain ⟨_, -, hrun⟩ := bind_ok hrun)
  obtain ⟨⟨s₁, failed⟩, hloop, hrun⟩ := bind_ok hrun
  obtain ⟨n, hn, hle, h₁, hhead, hfailed⟩ := sendOutLoop_cases h hsent hlt hloop
  have hgiveUp : (do let s ← s₁.on (clientAbortClient · i); return (s, (-1 : Int))) = .ok (s', r) →
      io.refused c'.socksRecvTcpPending = true →
      r < 0 ∧ io.refused c'.socksRecvTcpPending = true ∧ ∃ s₁ clients,
        s.To i (c'.wrote n) (e.wrote n) (b.wrote c' n) s₁ ∧
          s₁.clients.LosesClient i clients ∧ s' = { s₁ with clients } := by
    intro hrun hrefused
    obtain ⟨s₂, hs₂, hrun⟩ := bind_ok hrun
    cases hrun
    obtain ⟨clients, hclients, rfl⟩ := on_ok hs₂
    exact ⟨Int.negSucc_lt_zero 0, hrefused, s₁, clients, h₁,
      Clients.clientAbortClient_spec hclients, rfl⟩
  refine ⟨n, hn, hle, ?_⟩
  dsimp only at hrun
  split at hrun
  · rename_i hf
    refine Or.inl (hgiveUp hrun ?_)
    unfold SendOut.refused
    rw [hfailed hf]
    simp
  · obtain ⟨e', -, hrun⟩ := bind_ok hrun
    split at hrun
    · rename_i hout
      refine Or.inl (hgiveUp hrun ?_)
      unfold SendOut.refused
      rw [hout]
      rfl
    · obtain ⟨c₁, hc₁, hrun⟩ := bind_ok hrun
      obtain rfl := h₁.client hc₁
      split at hrun
      · rename_i hmore
        split at hrun
        · rename_i hstuck
          refine Or.inl (hgiveUp hrun ?_)
          have hstuck : c'.socksRecvTcpPending + n = 0 := hstuck
          have hzero : c'.socksRecvTcpPending = 0 := by omega
          unfold SendOut.refused SendOut.takes
          rw [hhead (by omega), hzero]
          simp
        · rename_i hpos
          have hpos : ¬ c'.socksRecvTcpPending + n = 0 := hpos
          cases hrun
          exact Or.inr (Or.inl ⟨Int.lt_irrefl 0, hmore, by omega, h₁.setClient _⟩)
      · rename_i hdone
        cases hrun
        refine Or.inr (Or.inr ⟨Int.lt_irrefl 0, ?_, h₁.setClient _⟩)
        have hdone : ¬ c'.socksRecvBufSent + n < c'.socksRecvBufUsed := hdone
        omega

/-- `client_socks_send_handler_done`, up to its last decision. -/
theorem clientSocksSendHandlerDone_cases {n : Int} (h : s.To i c e b s₀)
    (hrun : s₀.clientSocksSendHandlerDone i n = .ok s') :
    ∃ s₁, s.To i { c with bufUsed := c.bufUsed - n } e (b.moved c n) s₁ ∧
      (if 0 < c.bufUsed - n then s₁.on (senderSend · i (c.bufUsed - n))
        else if c.clientClosed = true then s₁.on (clientFreeSocks true callDepth · i)
        else pure s₁) = .ok s' := by
  obtain ⟨c', hc', hrun⟩ := bind_ok hrun
  obtain rfl := h.client hc'
  iterate 5 (obtain ⟨_, -, hrun⟩ := bind_ok hrun)
  dsimp only at hrun
  rw [h.bytes] at hrun
  obtain ⟨s₁, hs₁, hrun⟩ := bind_ok hrun
  refine ⟨s₁, ?_, hrun⟩
  have h₁ := (h.setBytes { b with
    buf := overwrite b.buf 0 ((b.buf.drop n.toNat).take (c'.bufUsed - n).toNat) }).setClient
      { c' with bufUsed := c'.bufUsed - n }
  unfold TcpBytes.moved
  split at hs₁
  · rename_i hopen
    obtain ⟨s₂, hs₂, hs₁⟩ := bind_ok hs₁
    obtain ⟨clients, hrecved, rfl⟩ := on_ok hs₂
    obtain ⟨_, -, hrecved⟩ := bind_ok hrecved
    cases hrecved
    cases hs₁
    rw [if_pos hopen]
    dsimp only
    rw [h₁.bytes]
    exact h₁.setBytes _
  · rename_i hclosed
    cases hs₁
    rw [if_neg hclosed]
    exact h₁

end Streams

end Lightsocks.Tunnel
