import Lightsocks.Flow.ChunkBuffer

/-!
# The buffer of packets

`PacketBuffer` has its input write packets into the ring of a `ChunkBuffer2`, and its output read
them from there. While the input writes one packet, the output may read another: both have
pointers into the same memory.
-/

namespace Lightsocks.Flow

open Lightsocks.Lib

/-- `PacketBuffer`, and what its two interfaces were called with. -/
structure PacketBuffer where
  inputMtu : Nat
  outputMtu : Nat
  buf : ChunkBuffer2
  receiving : Option Nat
  sending : Option (Nat × Nat)
  deriving DecidableEq, Repr

namespace PacketBuffer

/-- `PacketRecvInterface_Receiver_Recv` of the input. -/
def recv (pb : PacketBuffer) : Except CFault PacketBuffer := do
  assert pb.receiving.isNone
  assert pb.buf.inputDest.isSome
  return { pb with receiving := pb.buf.inputDest }

/-- `PacketPassInterface_Sender_Send` of the output. -/
def send (pb : PacketBuffer) : Except CFault PacketBuffer := do
  assert pb.sending.isNone
  assert (decide (0 ≤ pb.buf.outputAvail ∧ pb.buf.outputAvail ≤ pb.outputMtu))
  match pb.buf.outputDest with
  | none => throw .assertion
  | some dest => return { pb with sending := some (dest, pb.buf.outputAvail.toNat) }

/-- `input_handler_done`. -/
def inputHandlerDone (pb : PacketBuffer) (inLen : Nat) : Except CFault PacketBuffer := do
  assert (decide (inLen ≤ pb.inputMtu))
  let wasEmpty := decide (pb.buf.outputAvail < 0)
  let buf ← pb.buf.submitPacket inLen
  let pb := { pb with buf, receiving := none }
  let pb ← (if (pb.inputMtu : Int) ≤ pb.buf.inputAvail then recv pb else pure pb)
  if wasEmpty then send pb else pure pb

/-- `output_handler_done`. -/
def outputHandlerDone (pb : PacketBuffer) : Except CFault PacketBuffer := do
  let wasFull := decide (pb.buf.inputAvail < pb.inputMtu)
  let buf ← pb.buf.consumePacket
  let pb := { pb with buf, sending := none }
  let pb ← (if wasFull ∧ (pb.inputMtu : Int) ≤ pb.buf.inputAvail then recv pb else pure pb)
  if 0 ≤ pb.buf.outputAvail then send pb else pure pb

/-- `PacketBuffer_Init`, with the number of blocks that `ChunkBuffer2_calc_blocks` returned and
the buffer as it was allocated. -/
def init (inputMtu outputMtu : Nat) {blocks : Nat} (alloc : Vector UInt8 (blockSize * blocks)) :
    Except CFault PacketBuffer := do
  let buf ← ChunkBuffer2.init alloc.toList blocks inputMtu
  recv { inputMtu, outputMtu, buf, receiving := none, sending := none }

end PacketBuffer

/-! ## Runs -/

/-- The buffer, with the packets that its input finished and those that its output took. -/
structure PacketBufferRun where
  pb : PacketBuffer
  accepted : List (List UInt8)
  taken : List (List UInt8)
  deriving DecidableEq, Repr

inductive PacketBufferEvent
  /-- The input writes some bytes of its packet. -/
  | write (offset : Nat) (data : List UInt8)
  /-- The input is done with a packet of this length. -/
  | inputDone (inLen : Nat)
  /-- The output is done with its packet. -/
  | outputDone
  deriving DecidableEq, Repr

namespace PacketBufferRun

def exec (r : PacketBufferRun) : PacketBufferEvent → Except CFault PacketBufferRun
  | .write offset data =>
    match r.pb.receiving with
    | none => throw .assertion
    | some dest => do
      let buffer ← copyTo r.pb.buf.buffer (blockSize * dest + offset) data
      return { r with pb := { r.pb with buf := { r.pb.buf with buffer } } }
  | .inputDone inLen =>
    match r.pb.receiving with
    | none => throw .assertion
    | some dest => do
      let packet ← slice r.pb.buf.buffer (blockSize * dest) inLen
      let pb ← r.pb.inputHandlerDone inLen
      return { r with pb, accepted := r.accepted ++ [packet] }
  | .outputDone =>
    match r.pb.sending with
    | none => throw .assertion
    | some (dest, len) => do
      let packet ← slice r.pb.buf.buffer (blockSize * dest) len
      let pb ← r.pb.outputHandlerDone
      return { r with pb, taken := r.taken ++ [packet] }

/-- The input writes into the space for one packet, and only between the call of
`PacketRecvInterface_Receiver_Recv` and its end; the output is done after it was called. -/
def enabled (r : PacketBufferRun) : PacketBufferEvent → Bool
  | .write offset data =>
    r.pb.receiving.isSome && decide (offset + data.length ≤ r.pb.inputMtu)
  | .inputDone inLen => r.pb.receiving.isSome && decide (inLen ≤ r.pb.inputMtu)
  | .outputDone => r.pb.sending.isSome

end PacketBufferRun

/-- A buffer, from its initialization on. -/
def packetBuffer (pb : PacketBuffer) : Machine PacketBufferRun PacketBufferEvent CFault where
  init := { pb, accepted := [], taken := [] }
  enabled := PacketBufferRun.enabled
  exec := PacketBufferRun.exec

/-! ## The invariant -/

namespace PacketBuffer

/-- There is space for one more packet. -/
def Space (pb : PacketBuffer) : Prop :=
  pb.buf.endBlock + (1 + pb.buf.mtu) ≤ pb.buf.limit

instance (pb : PacketBuffer) : Decidable pb.Space :=
  inferInstanceAs (Decidable (_ ≤ _))

/-- The buffer holds `q`, and was made for `count` packets. The input has the space behind the
last packet whenever it is large enough, the output has the first packet. -/
structure Inv (count : Nat) (pb : PacketBuffer) (q : List (List UInt8)) : Prop where
  ring : pb.buf.Inv pb.inputMtu q
  receiving : pb.receiving = if pb.Space then some (pb.buf.endBlock + 1) else none
  sending : pb.sending = q.head?.map fun p => (pb.buf.start + 1, p.length)
  large : (1 + pb.buf.mtu) * (count + 1) ≤ pb.buf.size
  mtu_le : pb.inputMtu ≤ pb.outputMtu

variable {count : Nat} {pb : PacketBuffer} {q : List (List UInt8)}

/-- `input_avail >= input_mtu` says that there is space. -/
theorem space_iff (h : pb.buf.Inv pb.inputMtu q) :
    (pb.inputMtu : Int) ≤ pb.buf.inputAvail ↔ pb.Space := h.avail_iff

/-- Receiving, if there is space and the input was not called yet. -/
theorem recv_spec (pb : PacketBuffer) (h : pb.buf.Inv pb.inputMtu q) (hnone : pb.receiving = none) :
    Returns (if (pb.inputMtu : Int) ≤ pb.buf.inputAvail then recv pb else pure pb) fun pb' =>
      pb' = { pb with receiving := if pb.Space then some (pb.buf.endBlock + 1) else none } := by
  by_cases hspace : pb.Space
  · have hdest := h.inputDest_eq hspace
    rw [if_pos ((space_iff h).mpr hspace)]
    apply Returns.bind_eq (assert_ok (by rw [hnone]; rfl))
    apply Returns.bind_eq (assert_ok (by rw [hdest]; rfl))
    apply Returns.pure
    rw [hdest, if_pos hspace]
  · rw [if_neg fun hle => hspace ((space_iff h).mp hle), if_neg hspace]
    apply Returns.pure
    rw [← hnone]

/-- Sending the first packet. -/
theorem send_spec (pb : PacketBuffer) {p : List UInt8} (h : pb.buf.Inv pb.inputMtu (p :: q))
    (hmtu : pb.inputMtu ≤ pb.outputMtu) (hnone : pb.sending = none) :
    Returns (send pb) fun pb' =>
      pb' = { pb with sending := some (pb.buf.start + 1, p.length) } := by
  obtain ⟨hq, -⟩ | ⟨p', q', hq, hdest, havail⟩ := h.output_eq
  · cases hq
  · cases hq
    have hle := h.valid.head.1.le_max
    unfold send
    apply Returns.bind_eq (assert_ok (by rw [hnone]; rfl))
    apply Returns.bind_eq (assert_ok (decide_eq_true (by omega)))
    rw [hdest]
    apply Returns.pure
    rw [havail, Int.toNat_natCast]

theorem Inv.mtu_eq (h : pb.Inv count q) : pb.buf.mtu = bdivideUp pb.inputMtu blockSize :=
  h.ring.valid.mtu_eq

/-- The input has a place exactly if there is space. -/
theorem Inv.receiving_some {dest : Nat} (h : pb.Inv count q) (hdest : pb.receiving = some dest) :
    pb.Space ∧ dest = pb.buf.endBlock + 1 := by
  rw [h.receiving] at hdest
  split at hdest
  · rename_i hspace
    injection hdest with hdest
    exact ⟨hspace, hdest.symm⟩
  · cases hdest

/-- `output_avail` is negative exactly if nothing is held. -/
theorem Inv.outputAvail_neg (h : pb.Inv count q) : pb.buf.outputAvail < 0 ↔ q = [] := by
  rcases h.ring.output_eq with ⟨rfl, -, havail⟩ | ⟨p, q', rfl, -, havail⟩
  · rw [havail]
    exact ⟨fun _ => rfl, fun _ => by omega⟩
  · rw [havail]
    exact ⟨fun hneg => by omega, fun hnil => (List.cons_ne_nil _ _ hnil).elim⟩

/-- `input_handler_done`, with the packet that is where the input was called. -/
theorem Inv.inputHandlerDone {dest inLen : Nat} {p : List UInt8} (h : pb.Inv count q)
    (hdest : pb.receiving = some dest) (hlen : inLen ≤ pb.inputMtu)
    (hp : (pb.buf.buffer.drop (blockSize * dest)).take inLen = p) (hplen : p.length = inLen) :
    Returns (pb.inputHandlerDone inLen) fun pb' => pb'.Inv count (q ++ [p]) ∧
      pb'.inputMtu = pb.inputMtu := by
  obtain ⟨hspace, rfl⟩ := h.receiving_some hdest
  unfold PacketBuffer.inputHandlerDone
  apply Returns.bind_eq (assert_ok (decide_eq_true hlen))
  apply Returns.bind (h.ring.submitPacket hspace hlen hp hplen)
  rintro buf ⟨hring, hsize, hstart⟩
  have hmtu : buf.mtu = pb.buf.mtu := hring.valid.mtu_eq.trans h.mtu_eq.symm
  have hlarge := h.large
  rw [← hmtu, ← hsize] at hlarge
  apply Returns.bind (recv_spec { pb with buf, receiving := none } hring rfl)
  rintro pb' rfl
  have hneg := h.outputAvail_neg
  by_cases hq : q = []
  · subst hq
    rw [if_pos (decide_eq_true (hneg.mpr rfl))]
    apply Returns.mono (send_spec { pb with buf, receiving := _ } hring h.mtu_le h.sending)
    rintro pb' rfl
    exact ⟨⟨hring, rfl, rfl, hlarge, h.mtu_le⟩, rfl⟩
  · obtain ⟨p₀, q₀, rfl⟩ := List.exists_cons_of_ne_nil hq
    rw [if_neg fun hlt => hq (hneg.mp (of_decide_eq_true hlt))]
    apply Returns.pure
    refine ⟨⟨hring, rfl, ?_, hlarge, h.mtu_le⟩, rfl⟩
    show pb.sending = some (buf.start + 1, p₀.length)
    rw [h.sending, hstart]
    rfl

/-- `output_handler_done`: the output took the first packet. -/
theorem Inv.outputHandlerDone {dest len : Nat} (h : pb.Inv count q)
    (hsending : pb.sending = some (dest, len)) :
    ∃ p q', q = p :: q' ∧ (pb.buf.buffer.drop (blockSize * dest)).take len = p ∧
      blockSize * dest + len ≤ pb.buf.buffer.length ∧
      Returns pb.outputHandlerDone fun pb' => pb'.Inv count q' ∧ pb'.inputMtu = pb.inputMtu ∧
        pb'.buf.buffer = pb.buf.buffer ∧
        (pb.receiving.isSome = true → pb'.receiving = pb.receiving) := by
  rw [h.sending] at hsending
  cases q with
  | nil => cases hsending
  | cons p q =>
    injection hsending with hsending
    injection hsending with hdest hplen
    subst hdest
    subst hplen
    obtain ⟨hholds, hwrap, -, -, -⟩ := h.ring.valid.head
    have hbounds := h.ring.valid.bounds
    have hbuffer := h.ring.valid.length_buffer
    have hdata := le_mul_bdivideUp p.length
    have hstop : blockSize * (pb.buf.start + 1) + p.length ≤ pb.buf.buffer.length := by
      rw [hbuffer]
      show 4 * _ + _ ≤ 4 * _
      omega
    refine ⟨p, q, rfl, hholds.data, hstop, ?_⟩
    unfold PacketBuffer.outputHandlerDone
    apply Returns.bind h.ring.consumePacket
    rintro buf ⟨hring, hsize, hbuf, hend, hlimit⟩
    have hmtu : buf.mtu = pb.buf.mtu := hring.valid.mtu_eq.trans h.mtu_eq.symm
    have hlarge := h.large
    rw [← hmtu, ← hsize] at hlarge
    have hkeep : pb.Space → buf.endBlock + (1 + buf.mtu) ≤ buf.limit := by
      intro hspace
      rw [hend, hmtu]
      exact Nat.le_trans hspace hlimit
    have hsame : pb.receiving.isSome = true →
        (if buf.endBlock + (1 + buf.mtu) ≤ buf.limit then some (buf.endBlock + 1) else none) =
          pb.receiving := by
      intro hsome
      obtain ⟨dest, hdest⟩ := Option.isSome_iff_exists.mp hsome
      obtain ⟨hspace, rfl⟩ := h.receiving_some hdest
      rw [if_pos (hkeep hspace), hend, hdest]
    have hrecv : Returns (if decide (pb.buf.inputAvail < pb.inputMtu) = true ∧
        (pb.inputMtu : Int) ≤ buf.inputAvail then recv { pb with buf, sending := none }
        else pure { pb with buf, sending := none }) fun pb' =>
        pb' = { pb with buf, sending := none, receiving :=
          if buf.endBlock + (1 + buf.mtu) ≤ buf.limit then some (buf.endBlock + 1)
          else none } := by
      have hspace_iff := space_iff h.ring
      by_cases hspace : pb.Space
      · have havail := hspace_iff.mpr hspace
        rw [if_neg fun hfull => by have hlt := of_decide_eq_true hfull.1; omega]
        apply Returns.pure
        rw [if_pos (hkeep hspace), hend]
        have hreceiving := h.receiving
        rw [if_pos hspace] at hreceiving
        rw [← hreceiving]
      · have havail : pb.buf.inputAvail < pb.inputMtu := by
          apply Int.lt_of_not_ge
          intro hle
          exact hspace (hspace_iff.mp hle)
        simp only [decide_eq_true havail, true_and]
        have hnone := h.receiving
        rw [if_neg hspace] at hnone
        exact recv_spec { pb with buf, sending := none } hring hnone
    apply Returns.bind hrecv
    rintro pb' rfl
    cases q with
    | nil =>
      have hneg : ¬ (0 : Int) ≤ buf.outputAvail := by
        obtain ⟨-, -, havail⟩ | ⟨p', q', hq, -⟩ := hring.output_eq
        · omega
        · cases hq
      rw [if_neg hneg]
      exact Returns.pure ⟨⟨hring, rfl, rfl, hlarge, h.mtu_le⟩, rfl, hbuf, hsame⟩
    | cons p' q =>
      have hpos : (0 : Int) ≤ buf.outputAvail := by
        obtain ⟨hq, -⟩ | ⟨p', q', -, -, havail⟩ := hring.output_eq
        · cases hq
        · omega
      rw [if_pos hpos]
      apply Returns.mono
        (send_spec { pb with buf, sending := none, receiving := _ } hring h.mtu_le rfl)
      rintro pb' rfl
      exact ⟨⟨hring, rfl, rfl, hlarge, h.mtu_le⟩, rfl, hbuf, hsame⟩

/-- The input writes where it was called. -/
theorem Inv.write {dest offset : Nat} {data : List UInt8} (h : pb.Inv count q)
    (hdest : pb.receiving = some dest) (hlen : offset + data.length ≤ pb.inputMtu) :
    Returns (copyTo pb.buf.buffer (blockSize * dest + offset) data) fun buffer =>
      Inv count { pb with buf := { pb.buf with buffer } } q := by
  obtain ⟨hspace, rfl⟩ := h.receiving_some hdest
  have hmtu := h.mtu_eq
  have hlimit := h.ring.valid.limit_le
  have hbuffer := h.ring.valid.length_buffer
  have hdata := le_mul_bdivideUp pb.inputMtu
  rw [show blockSize * pb.buf.size = 4 * pb.buf.size from rfl] at hbuffer
  unfold Space at hspace
  have hlo : blockSize * (pb.buf.endBlock + 1) = 4 * pb.buf.endBlock + 4 := rfl
  obtain ⟨buffer, hcopy, -⟩ := copyTo_spec pb.buf.buffer
    (blockSize * (pb.buf.endBlock + 1) + offset) data (by omega)
  refine ⟨buffer, hcopy, ?_⟩
  have hring := h.ring.write hcopy (by omega) (by omega)
  exact ⟨hring, h.receiving, h.sending, h.large, h.mtu_le⟩

/-- Without a place for the input, the buffer holds the packets it was made for. -/
theorem Inv.full (h : pb.Inv count q) (hpos : 0 < count) (hnone : pb.receiving = none) :
    count ≤ q.length ∧ pb.sending.isSome = true := by
  have hfull : ¬ pb.Space := by
    intro hspace
    have hreceiving := h.receiving
    rw [if_pos hspace, hnone] at hreceiving
    cases hreceiving
  have hroom : ∀ a b p, Holds pb.buf.buffer pb.inputMtu a b p → b ≤ a + (1 + pb.buf.mtu) := by
    intro a b p hp
    rw [h.mtu_eq]
    exact hp.le_add
  have hcount := h.ring.valid.ring.length_of_full (fun _ _ _ h => h.lt) (by omega) hroom h.large
    (Nat.lt_of_not_le hfull)
  refine ⟨hcount, ?_⟩
  rw [h.sending]
  cases q with
  | nil => exact absurd hcount (Nat.not_le_of_lt hpos)
  | cons p q => rfl

/-! ## Runs keep the invariant -/

theorem calcBlocks_eq {chunkLen num blocks : Nat} (h : calcBlocks chunkLen num = some blocks) :
    blocks = (1 + bdivideUp chunkLen blockSize) * (num + 1) := by
  unfold calcBlocks at h
  dsimp only at h
  split at h
  · cases h
  · split at h
    · cases h
    · split at h
      · cases h
      · injection h with h
        exact h.symm

/-- `PacketBuffer_Init`. -/
theorem init_spec {inputMtu outputMtu blocks : Nat} (alloc : Vector UInt8 (blockSize * blocks))
    (hblocks : calcBlocks inputMtu count = some blocks)
    (hint : blockSize * blocks ≤ 2147483647) (hmtu : inputMtu ≤ outputMtu) :
    Returns (init inputMtu outputMtu alloc) fun pb => pb.Inv count [] ∧
      pb.inputMtu = inputMtu := by
  have hsize := calcBlocks_eq hblocks
  have hroom : 1 + bdivideUp inputMtu blockSize ≤ blocks := by
    rw [hsize]
    exact Nat.le_mul_of_pos_right _ (Nat.succ_pos _)
  have hvalid : ChunkBuffer2.Valid inputMtu
      { buffer := alloc.toList, size := blocks, wrap := blocks, start := 0, used := 0,
        mtu := bdivideUp inputMtu blockSize, inputDest := none, inputAvail := -1,
        outputDest := none, outputAvail := -1 } [] :=
    ⟨Ring.empty hroom, rfl, Vector.length_toList, hint⟩
  have hbuf : Returns (ChunkBuffer2.init alloc.toList blocks inputMtu) fun buf =>
      buf.Inv inputMtu [] ∧ buf.size = blocks ∧ buf.mtu = bdivideUp inputMtu blockSize := by
    unfold ChunkBuffer2.init
    apply Returns.bind_eq (assert_ok (decide_eq_true (by omega)))
    apply Returns.bind_eq hvalid.assertBuffer
    apply Returns.bind hvalid.updateInput
    rintro b₁ ⟨hvalid₁, hinput₁, d, a, rfl⟩
    apply Returns.bind hvalid₁.updateOutput
    rintro b₂ ⟨hvalid₂, houtput₂, d₂, a₂, rfl⟩
    have hinv : ChunkBuffer2.Inv inputMtu _ [] := ⟨hvalid₂, hinput₁, houtput₂⟩
    apply Returns.bind_eq hinv.assertIo
    exact Returns.pure ⟨hinv, rfl, rfl⟩
  apply Returns.bind hbuf
  rintro buf ⟨hring, hbufSize, hbufMtu⟩
  have hused := hring.valid.ring.used_eq_zero
  have hbounds := hring.valid.bounds
  have hstart : buf.start < buf.wrap := hbounds.1
  have hspace : buf.endBlock + (1 + buf.mtu) ≤ buf.limit := by
    have hlimit : buf.limit = buf.size := if_neg (by omega)
    omega
  have hdest := hring.inputDest_eq hspace
  apply Returns.bind_eq (assert_ok rfl)
  apply Returns.bind_eq (assert_ok (by rw [hdest]; rfl))
  apply Returns.pure
  refine ⟨⟨hring, ?_, rfl, ?_, hmtu⟩, rfl⟩
  · exact hdest.trans (if_pos hspace).symm
  · show (1 + buf.mtu) * (count + 1) ≤ buf.size
    rw [hbufMtu, hbufSize]
    exact Nat.le_of_eq hsize.symm

end PacketBuffer

namespace PacketBufferRun

variable {count : Nat}

/-- What was accepted and not taken yet is held. -/
def Inv (count : Nat) (r : PacketBufferRun) : Prop :=
  ∃ q, r.pb.Inv count q ∧ r.accepted = r.taken ++ q

/-- A step of the buffer. -/
theorem exec_spec {r : PacketBufferRun} {e : PacketBufferEvent} (h : r.Inv count)
    (he : r.enabled e = true) : Returns (r.exec e) (Inv count) := by
  obtain ⟨q, hinv, haccepted⟩ := h
  cases e with
  | write offset data =>
    obtain ⟨hsome, hlen⟩ := Bool.and_eq_true_iff.mp he
    obtain ⟨dest, hdest⟩ := Option.isSome_iff_exists.mp hsome
    unfold exec
    rw [hdest]
    apply Returns.bind (hinv.write hdest (of_decide_eq_true hlen))
    intro buffer hinv'
    exact Returns.pure ⟨q, hinv', haccepted⟩
  | inputDone inLen =>
    obtain ⟨hsome, hlen⟩ := Bool.and_eq_true_iff.mp he
    obtain ⟨dest, hdest⟩ := Option.isSome_iff_exists.mp hsome
    have hlen' := of_decide_eq_true hlen
    obtain ⟨hspace, hdest'⟩ := hinv.receiving_some hdest
    have hmtu := hinv.mtu_eq
    have hlimit := hinv.ring.valid.limit_le
    have hbuffer := hinv.ring.valid.length_buffer
    have hdata := le_mul_bdivideUp r.pb.inputMtu
    have hfits : blockSize * dest + inLen ≤ r.pb.buf.buffer.length := by
      unfold PacketBuffer.Space at hspace
      rw [hbuffer, hdest']
      show 4 * _ + _ ≤ 4 * _
      omega
    have hplen : ((r.pb.buf.buffer.drop (blockSize * dest)).take inLen).length = inLen := by
      rw [List.length_take, List.length_drop]
      omega
    unfold exec
    rw [hdest]
    apply Returns.bind_eq (slice_ok hfits)
    apply Returns.bind (hinv.inputHandlerDone hdest hlen' rfl hplen)
    rintro pb ⟨hinv', -⟩
    apply Returns.pure
    refine ⟨_, hinv', ?_⟩
    show r.accepted ++ _ = _
    rw [haccepted, List.append_assoc]
  | outputDone =>
    obtain ⟨⟨dest, len⟩, hsending⟩ := Option.isSome_iff_exists.mp he
    obtain ⟨p, q', rfl, hp, hfits, hdone⟩ := hinv.outputHandlerDone hsending
    unfold exec
    rw [hsending]
    apply Returns.bind_eq (slice_ok hfits)
    apply Returns.bind hdone
    rintro pb ⟨hinv', -⟩
    apply Returns.pure
    refine ⟨q', hinv', ?_⟩
    show r.accepted = r.taken ++ [_] ++ q'
    rw [haccepted, hp, List.append_assoc]
    rfl

end PacketBufferRun

section

variable {inputMtu outputMtu numPackets blocks : Nat} {alloc : Vector UInt8 (blockSize * blocks)}
  {pb : PacketBuffer} {es : List PacketBufferEvent} {res : Except CFault PacketBufferRun}

/-- Every run of a buffer ends without a fault in a state with the invariant. -/
theorem packetBuffer_inv (hblocks : calcBlocks inputMtu numPackets = some blocks)
    (hint : blockSize * blocks ≤ 2147483647) (hmtu : inputMtu ≤ outputMtu)
    (hinit : PacketBuffer.init inputMtu outputMtu alloc = .ok pb)
    (h : (packetBuffer pb).Runs es res) : Returns res (PacketBufferRun.Inv numPackets) := by
  obtain ⟨pb', hinit', hinv, -⟩ := PacketBuffer.init_spec alloc hblocks hint hmtu
  rw [hinit] at hinit'
  cases hinit'
  apply h.returns (I := fun _ => PacketBufferRun.Inv numPackets) ⟨[], hinv, rfl⟩
  intro es r e hr he
  exact PacketBufferRun.exec_spec hr he

/-- The buffer is a queue: whatever its input writes into the space it was given, and when, no
assertion of the source fails, the packets that the output took are those that the input
finished, in order and byte for byte, and while one is held the output has the first one that it
did not take yet. -/
theorem packetBuffer_fifo (hblocks : calcBlocks inputMtu numPackets = some blocks)
    (hint : blockSize * blocks ≤ 2147483647) (hmtu : inputMtu ≤ outputMtu)
    (hinit : PacketBuffer.init inputMtu outputMtu alloc = .ok pb)
    (h : (packetBuffer pb).Runs es res) :
    ∃ r q, res = .ok r ∧ r.accepted = r.taken ++ q ∧
      q.head? = r.pb.sending.map fun (dest, len) =>
        (r.pb.buf.buffer.drop (blockSize * dest)).take len := by
  obtain ⟨r, rfl, q, hinv, haccepted⟩ := packetBuffer_inv hblocks hint hmtu hinit h
  refine ⟨r, q, rfl, haccepted, ?_⟩
  rw [hinv.sending]
  cases q with
  | nil => rfl
  | cons p q => exact congrArg some hinv.ring.valid.head.1.data.symm

/-- The input has no place to write a packet only while the buffer holds at least as many packets
as it was made for, and then the output has one of them: the buffer is never stuck. -/
theorem packetBuffer_capacity (hblocks : calcBlocks inputMtu numPackets = some blocks)
    (hint : blockSize * blocks ≤ 2147483647) (hmtu : inputMtu ≤ outputMtu) (hpos : 0 < numPackets)
    (hinit : PacketBuffer.init inputMtu outputMtu alloc = .ok pb)
    (h : (packetBuffer pb).Runs es res) :
    ∃ r, res = .ok r ∧ (r.pb.receiving = none →
      numPackets + r.taken.length ≤ r.accepted.length ∧ r.pb.sending.isSome = true) := by
  obtain ⟨r, rfl, q, hinv, haccepted⟩ := packetBuffer_inv hblocks hint hmtu hinit h
  refine ⟨r, rfl, fun hnone => ?_⟩
  obtain ⟨hcount, hsending⟩ := hinv.full hpos hnone
  rw [haccepted, List.length_append]
  exact ⟨by omega, hsending⟩

/-- A buffer for one packet of four bytes. -/
def smallBuffer : PacketBuffer where
  inputMtu := 4
  outputMtu := 4
  buf :=
    { buffer := List.replicate 16 0, size := 4, wrap := 4, start := 0, used := 0, mtu := 1,
      inputDest := some 1, inputAvail := 12, outputDest := none, outputAvail := -1 }
  receiving := some 1
  sending := none

/-- The second packet is written while the output has the first one. -/
theorem packetBuffer_fifo_two :
    ∃ (r : PacketBufferRun) (q : List (List UInt8)), r.taken = [[7, 8, 9]] ∧
      r.accepted = r.taken ++ q ∧ q.head? = r.pb.sending.map fun (dest, len) =>
        (r.pb.buf.buffer.drop (blockSize * dest)).take len := by
  have hends : (packetBuffer smallBuffer).ends
      [.write 0 [7, 8, 9], .inputDone 3, .write 0 [5], .outputDone, .inputDone 1]
      (fun r => r.taken == [[7, 8, 9]]) = true := by
    decide
  obtain ⟨r, hruns, hr⟩ := Machine.runs_of_ends hends
  have hblocks : calcBlocks 4 1 = some 4 := by decide
  have hinit : PacketBuffer.init 4 4 (Vector.replicate (blockSize * 4) 0) = .ok smallBuffer := by
    decide
  obtain ⟨r', q, hr', haccepted, hhead⟩ :=
    packetBuffer_fifo hblocks (by decide) (by decide) hinit hruns
  cases hr'
  exact ⟨r, q, eq_of_beq hr, haccepted, hhead⟩

/-- After one packet of four bytes and an empty one there is no space. -/
theorem packetBuffer_capacity_two :
    ∃ r : PacketBufferRun, r.pb.receiving = none ∧ 1 + r.taken.length ≤ r.accepted.length := by
  have hends : (packetBuffer smallBuffer).ends [.write 0 [7, 8, 9, 6], .inputDone 4, .inputDone 0]
      (fun r => r.pb.receiving == none) = true := by
    decide
  obtain ⟨r, hruns, hr⟩ := Machine.runs_of_ends hends
  have hblocks : calcBlocks 4 1 = some 4 := by decide
  have hinit : PacketBuffer.init 4 4 (Vector.replicate (blockSize * 4) 0) = .ok smallBuffer := by
    decide
  obtain ⟨r', hr', hfull⟩ :=
    packetBuffer_capacity hblocks (by decide) (by decide) (by decide) hinit hruns
  cases hr'
  exact ⟨r, eq_of_beq hr, (hfull (eq_of_beq hr)).1⟩

end

end Lightsocks.Flow
