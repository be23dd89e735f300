import Lightsocks.Lib.CInt
import Lightsocks.Lib.Ring
import Lightsocks.Lib.Returns

/-!
# The ring of packets

`ChunkBuffer2`, a ring of blocks of one `int` each, in which a packet takes a block with its
length and the blocks of its data.

The assertions of the source are part of the model, `_ChunkBuffer2_assert_buffer` and
`_ChunkBuffer2_assert_io` among them. A pointer into the buffer is the index of a block, and a
difference that may be negative is an `Int`.
-/

namespace Lightsocks.Flow

open Lightsocks.Lib

/-- `bdivide_up`. -/
def bdivideUp (a b : Nat) : Nat := if 0 < a % b then a / b + 1 else a / b

/-- `sizeof(struct ChunkBuffer2_block)`. -/
def blockSize : Nat := 4

/-- The bytes of the `int` in a block. -/
def intBytes (n : Nat) : List UInt8 :=
  [UInt8.ofNat n, UInt8.ofNat (n / 256), UInt8.ofNat (n / 65536), UInt8.ofNat (n / 16777216)]

def ofIntBytes (bytes : List UInt8) : Int :=
  let n := (bytes.getD 0 0).toNat + 256 * (bytes.getD 1 0).toNat +
    65536 * (bytes.getD 2 0).toNat + 16777216 * (bytes.getD 3 0).toNat
  if n ≤ 2147483647 then n else n - 4294967296

structure ChunkBuffer2 where
  buffer : List UInt8
  size : Nat
  wrap : Nat
  start : Nat
  used : Nat
  mtu : Nat
  inputDest : Option Nat
  inputAvail : Int
  outputDest : Option Nat
  outputAvail : Int
  deriving DecidableEq, Repr

/-- `ChunkBuffer2_calc_blocks`, or nothing for -1. -/
def calcBlocks (chunkLen num : Nat) : Option Nat :=
  let chunkDataBlocks := bdivideUp chunkLen blockSize
  if 2147483647 - 1 < chunkDataBlocks then none
  else
    let chunkBlocks := 1 + chunkDataBlocks
    if 2147483647 - 1 < num then none
    else
      let numChunks := num + 1
      if 2147483647 / numChunks < chunkBlocks then none
      else some (chunkBlocks * numChunks)

namespace ChunkBuffer2

/-- `_ChunkBuffer2_end`. -/
def endBlock (b : ChunkBuffer2) : Nat :=
  if b.wrap - b.start ≤ b.used then b.used - (b.wrap - b.start) else b.start + b.used

/-- `buffer[i].len`. -/
def readLen (buffer : List UInt8) (i : Nat) : Except CFault Int := do
  let bytes ← slice buffer (blockSize * i) blockSize
  return ofIntBytes bytes

/-- `buffer[i].len = len`. -/
def writeLen (buffer : List UInt8) (i len : Nat) : Except CFault (List UInt8) :=
  copyTo buffer (blockSize * i) (intBytes len)

/-- What `_ChunkBuffer2_update_input` sets, and `_ChunkBuffer2_assert_io` expects. -/
def input (b : ChunkBuffer2) : Except CFault (Option Nat × Int) :=
  if (b.size : Int) - b.endBlock - 1 < b.mtu then
    -- "it will never be possible to write a MTU long packet here"
    return (none, -1)
  else
    let free : Int :=
      if b.wrap - b.start ≤ b.used then b.start - b.endBlock else b.size - b.endBlock
    if 0 < free then do
      let avail ← asInt ((free - 1) * blockSize)
      return (some (b.endBlock + 1), avail)
    else return (none, -1)

/-- What `_ChunkBuffer2_update_output` sets, and `_ChunkBuffer2_assert_io` expects. -/
def output (b : ChunkBuffer2) : Except CFault (Option Nat × Int) :=
  if 0 < b.used then do
    let datalen ← readLen b.buffer b.start
    assert (decide (0 ≤ datalen))
    let blocklen := bdivideUp datalen.toNat blockSize
    assert (decide ((blocklen : Int) ≤ b.used - 1))
    assert (decide ((blocklen : Int) ≤ b.wrap - b.start - 1))
    return (some (b.start + 1), datalen)
  else return (none, -1)

def updateInput (b : ChunkBuffer2) : Except CFault ChunkBuffer2 := do
  let (inputDest, inputAvail) ← b.input
  return { b with inputDest, inputAvail }

def updateOutput (b : ChunkBuffer2) : Except CFault ChunkBuffer2 := do
  let (outputDest, outputAvail) ← b.output
  return { b with outputDest, outputAvail }

/-- `_ChunkBuffer2_assert_buffer`. -/
def assertBuffer (b : ChunkBuffer2) : Except CFault Unit :=
  assert (decide (0 < b.size ∧ 0 < b.wrap ∧ b.wrap ≤ b.size ∧ b.start < b.wrap ∧
    b.used ≤ b.wrap ∧ (b.wrap = b.size ∨ b.wrap - b.start ≤ b.used)))

/-- `_ChunkBuffer2_assert_io`. -/
def assertIo (b : ChunkBuffer2) : Except CFault Unit := do
  let input ← b.input
  assert (input == (b.inputDest, b.inputAvail))
  let output ← b.output
  assert (output == (b.outputDest, b.outputAvail))

/-- `ChunkBuffer2_Init`. -/
def init (buffer : List UInt8) (blocks mtu : Nat) : Except CFault ChunkBuffer2 := do
  assert (decide (0 < blocks))
  let b : ChunkBuffer2 :=
    { buffer, size := blocks, wrap := blocks, start := 0, used := 0,
      mtu := bdivideUp mtu blockSize, inputDest := none, inputAvail := -1, outputDest := none,
      outputAvail := -1 }
  assertBuffer b
  let b ← updateInput b
  let b ← updateOutput b
  assertIo b
  return b

/-- The positions with a packet of `blocklen` blocks of data behind the last one: there is a
wrap if it was not possible to write a packet of the MTU behind it. -/
def push (b : ChunkBuffer2) (blocklen : Nat) : ChunkBuffer2 :=
  { b with
    used := b.used + (1 + blocklen)
    wrap :=
      if b.used + (1 + blocklen) ≤ b.wrap - b.start ∧
          (b.size : Int) - (b.endBlock + 1 + blocklen : Nat) - 1 < b.mtu then
        b.endBlock + 1 + blocklen
      else b.wrap }

/-- The positions without the first packet. -/
def pop (b : ChunkBuffer2) (blocklen : Nat) : ChunkBuffer2 :=
  { b with
    used := b.used - (1 + blocklen)
    start := if b.start + (1 + blocklen) = b.wrap then 0 else b.start + (1 + blocklen)
    wrap := if b.start + (1 + blocklen) = b.wrap then b.size else b.wrap }

/-- The end of `ChunkBuffer2_SubmitPacket`, when the length is written. -/
def submitted (b : ChunkBuffer2) (blocklen : Nat) : Except CFault ChunkBuffer2 := do
  let b := b.push blocklen
  assertBuffer b
  let b ← updateInput b
  let b ← (if b.used = 1 + blocklen then updateOutput b else pure b)
  assertIo b
  return b

/-- The end of `ChunkBuffer2_ConsumePacket`, when the length is read. -/
def consumed (b : ChunkBuffer2) (blocklen : Nat) : Except CFault ChunkBuffer2 := do
  let dataWrapped := decide (b.wrap - b.start ≤ b.used)
  let b := b.pop blocklen
  assertBuffer b
  let b ← (if dataWrapped then updateInput b else pure b)
  let b ← updateOutput b
  assertIo b
  return b

/-- `ChunkBuffer2_SubmitPacket`. -/
def submitPacket (b : ChunkBuffer2) (len : Nat) : Except CFault ChunkBuffer2 := do
  assert b.inputDest.isSome
  assert (decide ((len : Int) ≤ b.inputAvail))
  assertBuffer b
  assertIo b
  let last := b.endBlock
  let blocklen := bdivideUp len blockSize
  assert (decide ((blocklen : Int) ≤ b.size - last - 1))
  assert (decide (b.used < b.wrap - b.start ∨ (blocklen : Int) ≤ b.start - last - 1))
  let buffer ← writeLen b.buffer last len
  submitted { b with buffer } blocklen

/-- `ChunkBuffer2_ConsumePacket`. -/
def consumePacket (b : ChunkBuffer2) : Except CFault ChunkBuffer2 := do
  assert b.outputDest.isSome
  assertBuffer b
  assertIo b
  assert (decide (1 ≤ b.wrap - b.start))
  assert (decide (1 ≤ b.used))
  let len ← readLen b.buffer b.start
  let blocklen := bdivideUp len.toNat blockSize
  assert (decide ((blocklen : Int) ≤ b.wrap - b.start - 1))
  assert (decide ((blocklen : Int) ≤ b.used - 1))
  consumed b blocklen

end ChunkBuffer2

/-! ## Packets in blocks -/

theorem length_intBytes (n : Nat) : (intBytes n).length = blockSize := rfl

theorem ofIntBytes_intBytes {n : Nat} (h : n ≤ 2147483647) : ofIntBytes (intBytes n) = n := by
  simp only [ofIntBytes, intBytes, List.getD_cons_zero, List.getD_cons_succ, UInt8.toNat_ofNat']
  rw [if_pos (by omega)]
  omega

theorem le_mul_bdivideUp (a : Nat) : a ≤ 4 * bdivideUp a blockSize := by
  unfold bdivideUp blockSize
  split <;> omega

theorem bdivideUp_le {a b : Nat} (h : a ≤ b) : bdivideUp a blockSize ≤ bdivideUp b blockSize := by
  unfold bdivideUp blockSize
  split <;> split <;> omega

theorem bdivideUp_le_of_le_mul {a k : Nat} (h : a ≤ 4 * k) : bdivideUp a blockSize ≤ k := by
  unfold bdivideUp blockSize
  split <;> omega

/-- The blocks from `a` up to `b` hold the packet `p`, of at most `max` bytes. -/
structure Holds (buffer : List UInt8) (max a b : Nat) (p : List UInt8) : Prop where
  len : (buffer.drop (blockSize * a)).take blockSize = intBytes p.length
  data : (buffer.drop (blockSize * (a + 1))).take p.length = p
  stop : b = a + (1 + bdivideUp p.length blockSize)
  le_max : p.length ≤ max

namespace Holds

variable {buffer buffer' p : List UInt8} {max a b : Nat}

theorem lt (h : Holds buffer max a b p) : a < b := by
  have hstop := h.stop
  omega

theorem le_add (h : Holds buffer max a b p) : b ≤ a + (1 + bdivideUp max blockSize) := by
  have hstop := h.stop
  have hle := bdivideUp_le h.le_max
  omega

/-- A write to other blocks. -/
theorem copyTo {offset lo hi : Nat} {src : List UInt8} (h : Holds buffer max a b p)
    (hcopy : Lib.copyTo buffer offset src = .ok buffer') (hlo : blockSize * lo ≤ offset)
    (hhi : offset + src.length ≤ blockSize * hi) (hout : b ≤ lo ∨ hi ≤ a) :
    Holds buffer' max a b p := by
  have hstop := h.stop
  have hdata := le_mul_bdivideUp p.length
  unfold blockSize at hlo hhi
  refine ⟨?_, ?_, h.stop, h.le_max⟩
  · rw [take_drop_copyTo hcopy, h.len]
    unfold blockSize
    omega
  · rw [take_drop_copyTo hcopy, h.data]
    rw [show blockSize * (a + 1) = 4 * (a + 1) from rfl]
    omega

/-- The length is read back. -/
theorem readLen (h : Holds buffer max a b p) (hb : blockSize * b ≤ buffer.length)
    (hmax : max ≤ 2147483647) : ChunkBuffer2.readLen buffer a = .ok (p.length : Int) := by
  have hlt := h.lt
  have hle := h.le_max
  unfold blockSize at hb
  unfold ChunkBuffer2.readLen
  rw [slice_ok (by unfold blockSize; omega), h.len, ok_bind, ofIntBytes_intBytes (by omega)]
  rfl

/-- A packet that was written behind its block. -/
theorem of_writeLen {len : Nat} (hwrite : ChunkBuffer2.writeLen buffer a len = .ok buffer')
    (hp : (buffer.drop (blockSize * (a + 1))).take len = p) (hlen : p.length = len)
    (hmax : len ≤ max) : Holds buffer' max a (a + (1 + bdivideUp len blockSize)) p := by
  subst hlen
  refine ⟨?_, ?_, rfl, hmax⟩
  · exact take_drop_copyTo_self hwrite
  · rw [take_drop_copyTo hwrite (by rw [length_intBytes]; unfold blockSize; omega), hp]

end Holds

/-! ## The invariant of the ring -/

namespace ChunkBuffer2

/-- The ring holds the packets `q`, of at most `max` bytes each. -/
structure Valid (max : Nat) (b : ChunkBuffer2) (q : List (List UInt8)) : Prop where
  ring : Ring (Holds b.buffer max) b.size (1 + b.mtu) b.start b.wrap b.used q
  mtu_eq : b.mtu = bdivideUp max blockSize
  length_buffer : b.buffer.length = blockSize * b.size
  fits_int : blockSize * b.size ≤ 2147483647

variable {max : Nat} {b : ChunkBuffer2} {q : List (List UInt8)} {p : List UInt8}

/-- The end of the free blocks behind the last packet. -/
def limit (b : ChunkBuffer2) : Nat := ringLimit b.size b.start b.wrap b.used

namespace Valid

theorem bounds (h : Valid max b q) : b.start < b.wrap ∧ b.wrap ≤ b.size ∧ b.used ≤ b.wrap ∧
    (b.wrap = b.size ∨ b.wrap - b.start ≤ b.used) ∧ b.endBlock ≤ b.limit ∧
    b.endBlock + (1 + b.mtu) ≤ b.size :=
  h.ring.bounds (fun _ _ _ h => h.lt) (by omega)

theorem limit_le (h : Valid max b q) : b.limit ≤ b.size := by
  have hbounds := h.bounds
  unfold limit ringLimit
  split <;> omega

theorem assertBuffer (h : Valid max b q) : b.assertBuffer = .ok () := by
  have hbounds := h.bounds
  exact assert_ok (decide_eq_true (by omega))

/-- "It will never be possible to write a MTU long packet here" does not happen: the space for
the next packet is what is free behind the last one. -/
theorem input_eq (h : Valid max b q) :
    b.input = .ok (if b.endBlock < b.limit then
      (some (b.endBlock + 1), ((b.limit - b.endBlock : Nat) - 1) * (blockSize : Int))
      else (none, -1)) := by
  have hbounds := h.bounds
  have hlimit := h.limit_le
  have hint := h.fits_int
  have hfree : (if b.wrap - b.start ≤ b.used then (b.start : Int) - b.endBlock
      else b.size - b.endBlock) = (b.limit - b.endBlock : Nat) := by
    unfold limit ringLimit at *
    split <;> rename_i hwrap
    · rw [if_pos hwrap] at hbounds
      omega
    · rw [if_neg hwrap] at hbounds
      omega
  unfold blockSize at hint
  unfold input
  rw [if_neg (by omega), hfree]
  by_cases hlt : b.endBlock < b.limit
  · rw [if_pos hlt, if_pos (by omega), asInt_ok (by unfold blockSize; omega)
      (by unfold blockSize; omega)]
    rfl
  · rw [if_neg hlt, if_neg (by omega)]
    rfl

theorem output_nil (h : Valid max b []) : b.output = .ok (none, -1) := by
  have hused := h.ring.used_eq_zero
  unfold output
  rw [if_neg (by omega)]
  rfl

/-- The first packet is where the output reads. -/
theorem head (h : Valid max b (p :: q)) :
    Holds b.buffer max b.start (b.start + (1 + bdivideUp p.length blockSize)) p ∧
      b.start + (1 + bdivideUp p.length blockSize) ≤ b.wrap ∧
      1 + bdivideUp p.length blockSize ≤ b.used ∧ p.length ≤ 2147483647 ∧
      readLen b.buffer b.start = .ok (p.length : Int) := by
  obtain ⟨stop, hp, hstop, hused, -⟩ := h.ring.pop (fun _ _ _ h => h.lt) (by omega)
  have hbounds := h.bounds
  have hint := h.fits_int
  have hlen := h.length_buffer
  have heq := hp.stop
  have hdata := le_mul_bdivideUp p.length
  have hstop' : blockSize * stop ≤ b.buffer.length := by
    rw [hlen]
    exact Nat.mul_le_mul_left _ (by omega)
  have hread : readLen b.buffer b.start = .ok (p.length : Int) := by
    unfold readLen
    unfold blockSize at hint hstop'
    rw [slice_ok (by unfold blockSize; omega), hp.len, ok_bind, ofIntBytes_intBytes (by omega)]
    rfl
  rw [show blockSize * b.size = 4 * b.size from rfl] at hint
  rw [heq] at hp
  exact ⟨hp, by omega, by omega, by omega, hread⟩

theorem output_cons (h : Valid max b (p :: q)) :
    b.output = .ok (some (b.start + 1), (p.length : Int)) := by
  obtain ⟨-, hwrap, hused, -, hread⟩ := h.head
  unfold output
  rw [if_pos (by omega), hread, ok_bind, assert_ok (decide_eq_true (by omega)), ok_bind]
  simp only [Int.toNat_natCast]
  rw [assert_ok (decide_eq_true (by omega)), ok_bind, assert_ok (decide_eq_true (by omega))]
  rfl

/-- A write behind the last packet. -/
theorem write {buffer src : List UInt8} {offset : Nat} (h : Valid max b q)
    (hcopy : copyTo b.buffer offset src = .ok buffer) (hlo : 4 * b.endBlock ≤ offset)
    (hhi : offset + src.length ≤ 4 * b.limit) : Valid max { b with buffer } q where
  ring := h.ring.frame (fun _ _ _ h => h.lt) (by omega)
    fun _ _ _ hout hp => hp.copyTo hcopy hlo hhi hout
  mtu_eq := h.mtu_eq
  length_buffer := (length_copyTo hcopy).trans h.length_buffer
  fits_int := h.fits_int

/-- A packet that was written behind the last one. -/
theorem push {blocklen : Nat} (h : Valid max b q)
    (hp : Holds b.buffer max b.endBlock (b.endBlock + (1 + blocklen)) p)
    (hfit : b.endBlock + (1 + blocklen) ≤ b.limit) : Valid max (b.push blocklen) (q ++ [p]) := by
  have hbounds := h.bounds
  have hnone : b.endBlock + 1 + blocklen = b.endBlock + (1 + blocklen) := Nat.add_assoc _ _ _
  unfold limit ringLimit at hfit
  refine ⟨?_, h.mtu_eq, h.length_buffer, h.fits_int⟩
  show Ring _ b.size _ b.start (if _ then _ else b.wrap) (b.used + (1 + blocklen)) _
  by_cases hwrap : b.wrap - b.start ≤ b.used
  · rw [if_pos hwrap] at hfit
    rw [if_neg (by omega)]
    rw [endBlock, if_pos hwrap] at hp hfit
    exact h.ring.push_wrapped (by omega) hwrap hp hfit
  · rw [if_neg hwrap] at hfit
    have hend : b.endBlock = b.start + b.used := if_neg hwrap
    rw [hend] at hp hfit
    have hring := h.ring.push_straight (by omega) hp hfit
    rw [hnone, hend]
    by_cases hfull : b.size < b.start + b.used + (1 + blocklen) + (1 + b.mtu)
    · rw [if_pos hfull] at hring
      rw [if_pos (by omega)]
      exact hring
    · rw [if_neg hfull] at hring
      rw [if_neg (by omega)]
      exact hring

/-- Without the first packet. -/
theorem pop (h : Valid max b (p :: q)) :
    Valid max (b.pop (bdivideUp p.length blockSize)) q := by
  obtain ⟨stop, hp, -, -, hring⟩ := h.ring.pop (fun _ _ _ h => h.lt) (by omega)
  rw [hp.stop, Nat.add_sub_cancel_left] at hring
  exact ⟨hring, h.mtu_eq, h.length_buffer, h.fits_int⟩

end Valid

/-- The ring, with pointers that are up to date. -/
structure Inv (max : Nat) (b : ChunkBuffer2) (q : List (List UInt8)) : Prop where
  valid : Valid max b q
  input : b.input = .ok (b.inputDest, b.inputAvail)
  output : b.output = .ok (b.outputDest, b.outputAvail)

namespace Inv

theorem assertIo (h : Inv max b q) : b.assertIo = .ok () := by
  unfold ChunkBuffer2.assertIo
  rw [h.input, ok_bind, assert_ok (beq_self_eq_true _), ok_bind, h.output, ok_bind,
    assert_ok (beq_self_eq_true _)]

/-- The output of a queue. -/
theorem output_eq (h : Inv max b q) : (q = [] ∧ b.outputDest = none ∧ b.outputAvail = -1) ∨
    ∃ p q', q = p :: q' ∧ b.outputDest = some (b.start + 1) ∧ b.outputAvail = p.length := by
  have hout := h.output
  cases q with
  | nil =>
    rw [h.valid.output_nil] at hout
    injection hout with hout
    injection hout with hdest havail
    exact Or.inl ⟨rfl, hdest.symm, havail.symm⟩
  | cons p q =>
    rw [h.valid.output_cons] at hout
    injection hout with hout
    injection hout with hdest havail
    exact Or.inr ⟨p, q, rfl, hdest.symm, havail.symm⟩

/-- There is space for a packet exactly if `input_avail` says so. -/
theorem avail_iff (h : Inv max b q) :
    (max : Int) ≤ b.inputAvail ↔ b.endBlock + (1 + b.mtu) ≤ b.limit := by
  have hin := h.input
  have hmtu := h.valid.mtu_eq
  have hle := le_mul_bdivideUp max
  rw [h.valid.input_eq] at hin
  split at hin
  · rename_i hlt
    injection hin with hin
    injection hin with hdest havail
    rw [← havail]
    unfold blockSize
    constructor
    · intro hmax
      have hblocks := bdivideUp_le_of_le_mul (a := max) (k := b.limit - b.endBlock - 1) (by omega)
      omega
    · intro hspace
      omega
  · rename_i hlt
    injection hin with hin
    injection hin with hdest havail
    omega

theorem inputDest_eq (h : Inv max b q) (hspace : b.endBlock + (1 + b.mtu) ≤ b.limit) :
    b.inputDest = some (b.endBlock + 1) := by
  have hin := h.input
  rw [h.valid.input_eq, if_pos (by omega)] at hin
  injection hin with hin
  injection hin with hdest havail
  exact hdest.symm

end Inv

/-- The pointers that depend on the positions only are those of a ring with other pointers. -/
theorem Valid.updateInput (h : Valid max b q) :
    Returns b.updateInput fun b' => Valid max b' q ∧ b'.input = .ok (b'.inputDest, b'.inputAvail) ∧
      ∃ d a, b' = { b with inputDest := d, inputAvail := a } := by
  unfold ChunkBuffer2.updateInput
  rw [h.input_eq, ok_bind]
  apply Returns.pure
  refine ⟨⟨h.ring, h.mtu_eq, h.length_buffer, h.fits_int⟩, ?_, _, _, rfl⟩
  exact h.input_eq

theorem Valid.updateOutput (h : Valid max b q) :
    Returns b.updateOutput fun b' => Valid max b' q ∧
      b'.output = .ok (b'.outputDest, b'.outputAvail) ∧
      ∃ d a, b' = { b with outputDest := d, outputAvail := a } := by
  unfold ChunkBuffer2.updateOutput
  cases q with
  | nil =>
    rw [h.output_nil, ok_bind]
    apply Returns.pure
    exact ⟨⟨h.ring, h.mtu_eq, h.length_buffer, h.fits_int⟩, h.output_nil, _, _, rfl⟩
  | cons p q =>
    rw [h.output_cons, ok_bind]
    apply Returns.pure
    exact ⟨⟨h.ring, h.mtu_eq, h.length_buffer, h.fits_int⟩, h.output_cons, _, _, rfl⟩

/-- A write behind the last packet. -/
theorem Inv.write {buffer src : List UInt8} {offset : Nat} (h : Inv max b q)
    (hcopy : copyTo b.buffer offset src = .ok buffer) (hlo : 4 * b.endBlock ≤ offset)
    (hhi : offset + src.length ≤ 4 * b.limit) : Inv max { b with buffer } q := by
  have hvalid := h.valid.write hcopy hlo hhi
  refine ⟨hvalid, h.input, ?_⟩
  show ChunkBuffer2.output _ = .ok (b.outputDest, b.outputAvail)
  rw [← h.output]
  cases q with
  | nil => rw [hvalid.output_nil, h.valid.output_nil]
  | cons p q => rw [hvalid.output_cons, h.valid.output_cons]

/-- The length and the data of a packet are there. -/
theorem Inv.submitted {blocklen : Nat} (h : Inv max b q)
    (hp : Holds b.buffer max b.endBlock (b.endBlock + (1 + blocklen)) p)
    (hfit : b.endBlock + (1 + blocklen) ≤ b.limit) :
    Returns (b.submitted blocklen) fun b' => Inv max b' (q ++ [p]) ∧ b'.size = b.size ∧
      b'.start = b.start := by
  have hpush := h.valid.push hp hfit
  unfold ChunkBuffer2.submitted
  apply Returns.bind_eq hpush.assertBuffer
  apply Returns.bind hpush.updateInput
  rintro b₁ ⟨hvalid₁, hinput₁, d, a, rfl⟩
  cases q with
  | nil =>
    -- the ring was empty, so the output starts at the new packet
    have hused : (b.push blocklen).used = 1 + blocklen := by
      show b.used + _ = _
      rw [h.valid.ring.used_eq_zero, Nat.zero_add]
    simp only [if_pos hused]
    apply Returns.bind hvalid₁.updateOutput
    rintro b₂ ⟨hvalid₂, houtput₂, d₂, a₂, rfl⟩
    have hinv : Inv max _ ([] ++ [p]) := ⟨hvalid₂, hinput₁, houtput₂⟩
    apply Returns.bind_eq hinv.assertIo
    exact Returns.pure ⟨hinv, rfl, rfl⟩
  | cons p₀ q =>
    have hused : (b.push blocklen).used ≠ 1 + blocklen := by
      have hhead := h.valid.head
      show b.used + _ ≠ _
      omega
    simp only [if_neg hused]
    have houtput : (b.push blocklen).output = .ok (b.outputDest, b.outputAvail) := by
      rw [← h.output, h.valid.output_cons]
      exact hpush.output_cons
    have hinv : Inv max { b.push blocklen with inputDest := d, inputAvail := a }
        (p₀ :: q ++ [p]) := ⟨hvalid₁, hinput₁, houtput⟩
    apply Returns.bind (Returns.pure (P := (· = _)) rfl)
    rintro _ rfl
    apply Returns.bind_eq hinv.assertIo
    exact Returns.pure ⟨hinv, rfl, rfl⟩

/-- `ChunkBuffer2_SubmitPacket` of a packet that was written where the input may write. -/
theorem Inv.submitPacket {len : Nat} (h : Inv max b q)
    (hspace : b.endBlock + (1 + b.mtu) ≤ b.limit) (hlen : len ≤ max)
    (hp : (b.buffer.drop (blockSize * (b.endBlock + 1))).take len = p) (hplen : p.length = len) :
    Returns (b.submitPacket len) fun b' => Inv max b' (q ++ [p]) ∧ b'.size = b.size ∧
      b'.start = b.start := by
  have hmtu := h.valid.mtu_eq
  have hblocks := bdivideUp_le hlen
  have hbounds := h.valid.bounds
  have hlimit := h.valid.limit_le
  have havail := h.avail_iff.mpr hspace
  have hdest : b.inputDest.isSome = true := by
    rw [h.inputDest_eq hspace]
    rfl
  have hcond : b.used < b.wrap - b.start ∨
      ((bdivideUp len blockSize : Nat) : Int) ≤ b.start - b.endBlock - 1 := by
    have hlim : b.wrap - b.start ≤ b.used → b.limit = b.start := fun hw => if_pos hw
    omega
  have hbuffer := h.valid.length_buffer
  rw [show blockSize * b.size = 4 * b.size from rfl] at hbuffer
  have hfits : 4 * b.endBlock + (intBytes len).length ≤ b.buffer.length := by
    rw [length_intBytes, show blockSize = 4 from rfl]
    omega
  obtain ⟨buffer, hwrite, -, -⟩ := copyTo_spec b.buffer (4 * b.endBlock) (intBytes len) hfits
  have hholds := Holds.of_writeLen hwrite hp hplen hlen
  have hinv := h.write hwrite (Nat.le_refl _) (by
    rw [length_intBytes, show blockSize = 4 from rfl]
    omega)
  have hfit : b.endBlock + (1 + bdivideUp len blockSize) ≤ b.limit := by omega
  unfold ChunkBuffer2.submitPacket
  apply Returns.bind_eq (assert_ok hdest)
  apply Returns.bind_eq (assert_ok (decide_eq_true (by omega)))
  apply Returns.bind_eq h.valid.assertBuffer
  apply Returns.bind_eq h.assertIo
  apply Returns.bind_eq (assert_ok (decide_eq_true (by omega)))
  apply Returns.bind_eq (assert_ok (decide_eq_true hcond))
  apply Returns.bind_eq hwrite
  exact hinv.submitted hholds hfit

/-- Without the first packet, the next one still goes to the same place, and there is no less
space for it. -/
theorem Valid.pop_space (h : Valid max b (p :: q)) :
    (b.pop (bdivideUp p.length blockSize)).endBlock = b.endBlock ∧
      b.limit ≤ (b.pop (bdivideUp p.length blockSize)).limit ∧
      (b.used < b.wrap - b.start →
        (b.pop (bdivideUp p.length blockSize)).limit = b.limit) := by
  have hbounds := h.bounds
  obtain ⟨-, hwrap, hused, -, -⟩ := h.head
  have hback : ringBack b.start b.wrap b.used < b.size := by
    have hlast : b.endBlock < b.size := by omega
    exact hlast
  exact ring_pop hwrap hused hbounds.1 hbounds.2.1 hback

/-- `ChunkBuffer2_ConsumePacket`. -/
theorem Inv.consumePacket (h : Inv max b (p :: q)) :
    Returns b.consumePacket fun b' => Inv max b' q ∧ b'.size = b.size ∧ b'.buffer = b.buffer ∧
      b'.endBlock = b.endBlock ∧ b.limit ≤ b'.limit := by
  obtain ⟨-, hwrap, hused, -, hread⟩ := h.valid.head
  have hpop := h.valid.pop
  obtain ⟨hend, hlimit, hsame⟩ := h.valid.pop_space
  have hdest : b.outputDest.isSome = true := by
    have hout := h.output
    rw [h.valid.output_cons] at hout
    injection hout with hout
    injection hout with hdest _
    rw [← hdest]
    rfl
  unfold ChunkBuffer2.consumePacket
  apply Returns.bind_eq (assert_ok hdest)
  apply Returns.bind_eq h.valid.assertBuffer
  apply Returns.bind_eq h.assertIo
  apply Returns.bind_eq (assert_ok (decide_eq_true (by omega)))
  apply Returns.bind_eq (assert_ok (decide_eq_true (by omega)))
  apply Returns.bind_eq hread
  simp only [Int.toNat_natCast]
  apply Returns.bind_eq (assert_ok (decide_eq_true (by omega)))
  apply Returns.bind_eq (assert_ok (decide_eq_true (by omega)))
  unfold consumed
  apply Returns.bind_eq hpop.assertBuffer
  have hinput : Returns (if decide (b.wrap - b.start ≤ b.used) = true then
      (b.pop (bdivideUp p.length blockSize)).updateInput
      else pure (b.pop (bdivideUp p.length blockSize))) fun b' => Valid max b' q ∧
        b'.input = .ok (b'.inputDest, b'.inputAvail) ∧
        ∃ d a, b' = { b.pop (bdivideUp p.length blockSize) with
          inputDest := d, inputAvail := a } := by
    by_cases hdata : b.wrap - b.start ≤ b.used
    · rw [if_pos (decide_eq_true hdata)]
      exact hpop.updateInput
    · rw [if_neg (by simpa using hdata)]
      apply Returns.pure
      refine ⟨hpop, ?_, b.inputDest, b.inputAvail, rfl⟩
      show _ = Except.ok (b.inputDest, b.inputAvail)
      rw [← h.input, hpop.input_eq, h.valid.input_eq, hend, hsame (by omega)]
  apply Returns.bind hinput
  rintro b₁ ⟨hvalid₁, hinput₁, d, a, rfl⟩
  apply Returns.bind hvalid₁.updateOutput
  rintro b₂ ⟨hvalid₂, houtput₂, d₂, a₂, rfl⟩
  have hinv : Inv max _ q := ⟨hvalid₂, hinput₁, houtput₂⟩
  apply Returns.bind_eq hinv.assertIo
  exact Returns.pure ⟨hinv, rfl, rfl, hend, hlimit⟩

end ChunkBuffer2

end Lightsocks.Flow
