import Lightsocks.Lib.CInt
import Lightsocks.Lib.Framing
import Lightsocks.Lib.Returns

/-!
# PacketProto

`PacketProtoEncoder` puts the length of a packet in front of it, and `PacketProtoDecoder` cuts
a stream of bytes into packets again. The decoder holds what it received in one buffer, parses
it in place, and waits for either of its interfaces: for the input to write behind what it
holds, or for the output to take the packet it was passed.

`PacketProtoDecoder_Reset` has no caller.
-/

namespace Lightsocks.Flow

open Lightsocks.Lib

/-! ## The format -/

/-- `sizeof(struct packetproto_header)`. -/
def packetprotoHeaderSize : Nat := 2

/-- `PACKETPROTO_ENCLEN`. -/
def packetprotoEnclen (len : Nat) : Nat := packetprotoHeaderSize + len

/-- `PACKETPROTO_MAXPAYLOAD`. -/
def packetprotoMaxpayload : Nat := 65535

/-- `htol16`, as the bytes in memory. -/
def htol16 (x : UInt16) : List UInt8 := [UInt8.ofNat x.toNat, UInt8.ofNat (x.toNat / 256)]

/-- `ltoh16` of the first two bytes. -/
def ltoh16 (data : List UInt8) : Nat := (data.getD 0 0).toNat + 256 * (data.getD 1 0).toNat

theorem length_htol16 (x : UInt16) : (htol16 x).length = 2 := rfl

theorem ltoh16_htol16 (x : UInt16) (ys : List UInt8) : ltoh16 (htol16 x ++ ys) = x.toNat := by
  have hlt := x.toNat_lt
  simp only [ltoh16, htol16, List.cons_append, List.getD_cons_zero, List.getD_cons_succ,
    UInt8.toNat_ofNat']
  omega

/-- What the front of a stream says to a decoder that accepts payloads up to `outputMtu`. -/
def packetFront (outputMtu : Nat) (data : List UInt8) : Front (List UInt8) :=
  if data.length < packetprotoHeaderSize then .incomplete
  else if outputMtu < ltoh16 data then .malformed
  else if data.length < packetprotoEnclen (ltoh16 data) then .incomplete
  else .frame ((data.drop packetprotoHeaderSize).take (ltoh16 data))
    (packetprotoEnclen (ltoh16 data))

theorem ltoh16_append {data : List UInt8} (h : packetprotoHeaderSize ≤ data.length)
    (ys : List UInt8) : ltoh16 (data ++ ys) = ltoh16 data := by
  unfold packetprotoHeaderSize at h
  simp only [ltoh16, List.getD_eq_getElem?_getD]
  rw [List.getElem?_append_left (by omega), List.getElem?_append_left (by omega)]

/-- A frame at the front is a whole packet. -/
theorem packetFront_frame {outputMtu n : Nat} {data p : List UInt8}
    (h : packetFront outputMtu data = .frame p n) :
    ltoh16 data ≤ outputMtu ∧ n = packetprotoEnclen (ltoh16 data) ∧ n ≤ data.length ∧
      p = (data.drop packetprotoHeaderSize).take (ltoh16 data) := by
  unfold packetFront at h
  split at h
  · cases h
  · split at h
    · cases h
    · split at h
      · cases h
      · cases h
        exact ⟨by omega, rfl, by omega, rfl⟩

theorem packetFront_append_frame {outputMtu n : Nat} {data p : List UInt8}
    (h : packetFront outputMtu data = .frame p n) (ys : List UInt8) :
    packetFront outputMtu (data ++ ys) = .frame p n := by
  obtain ⟨hmtu, rfl, hlen, rfl⟩ := packetFront_frame h
  have hhead : packetprotoHeaderSize ≤ data.length := by
    unfold packetprotoEnclen at hlen
    omega
  have htake : ltoh16 data ≤ (data.drop packetprotoHeaderSize).length := by
    unfold packetprotoEnclen at hlen
    rw [List.length_drop]
    omega
  unfold packetFront
  rw [ltoh16_append hhead, List.length_append, if_neg (by omega), if_neg (by omega),
    if_neg (by omega), List.drop_append_of_le_length hhead, List.take_append_of_le_length htake]

theorem packetFront_append_malformed {outputMtu : Nat} {data : List UInt8}
    (h : packetFront outputMtu data = .malformed) (ys : List UInt8) :
    packetFront outputMtu (data ++ ys) = .malformed := by
  unfold packetFront at h
  split at h
  · cases h
  · rename_i hhead
    split at h
    · rename_i hmtu
      unfold packetFront
      rw [ltoh16_append (by omega), List.length_append, if_neg (by omega), if_pos hmtu]
    · split at h
      · cases h
      · cases h

/-- PacketProto as a framing. -/
def packetProto (outputMtu : Nat) : Framing (List UInt8) UInt8 where
  front := packetFront outputMtu
  front_nil := rfl
  size_le h := (packetFront_frame h).2.2.1
  frame_append h ys := packetFront_append_frame h ys
  malformed_append h ys := packetFront_append_malformed h ys

/-! ## The encoder -/

/-- What `PacketProtoEncoder` makes of a packet. -/
def encode (p : List UInt8) : List UInt8 := htol16 (UInt16.ofNat p.length) ++ p

theorem length_encode (p : List UInt8) : (encode p).length = packetprotoEnclen p.length := by
  rw [encode, List.length_append, length_htol16]
  rfl

/-- `input_handler_done` of the encoder: the input wrote a payload of length `inLen` behind the
header at `outputPacket`. The result is the memory, and the length of the packet. -/
def encoderInputHandlerDone (memory : List UInt8) (outputPacket inLen : Nat) :
    Except CFault (List UInt8 × Nat) := do
  let len ← asU16 inLen
  let memory ← copyTo memory outputPacket (htol16 len)
  return (memory, packetprotoEnclen inLen)

/-- The packet is the encoding of its payload. -/
theorem encoderInputHandlerDone_spec {memory p : List UInt8} {outputPacket : Nat}
    (hmax : p.length ≤ packetprotoMaxpayload)
    (hp : (memory.drop (outputPacket + packetprotoHeaderSize)).take p.length = p)
    (hfit : outputPacket + packetprotoHeaderSize ≤ memory.length) :
    ∃ out, copyTo memory outputPacket (htol16 (UInt16.ofNat p.length)) = .ok out ∧
      encoderInputHandlerDone memory outputPacket p.length = .ok (out, (encode p).length) ∧
      (out.drop outputPacket).take (encode p).length = encode p := by
  have hu16 : asU16 p.length = .ok (UInt16.ofNat p.length) := by
    unfold packetprotoMaxpayload at hmax
    exact asU16_ok (by omega) (by omega)
  obtain ⟨out, hcopy, -⟩ := copyTo_spec memory outputPacket (htol16 (UInt16.ofNat p.length)) hfit
  refine ⟨out, hcopy, ?_, ?_⟩
  · simp only [encoderInputHandlerDone, hu16, ok_bind, hcopy, length_encode]
    rfl
  · have hhead := take_drop_copyTo_self hcopy
    rw [length_htol16, ← show packetprotoHeaderSize = 2 from rfl] at hhead
    have hdata := take_drop_copyTo hcopy
      (show outputPacket + packetprotoHeaderSize + p.length ≤ outputPacket ∨
        outputPacket + packetprotoHeaderSize ≤ outputPacket + packetprotoHeaderSize from
        Or.inr (Nat.le_refl _))
    rw [hp, ← List.drop_drop] at hdata
    rw [length_encode, packetprotoEnclen, List.take_add, hhead]
    exact congrArg (htol16 _ ++ ·) hdata

/-- A decoder reads an encoded packet, whatever follows it. -/
theorem frames_encode {outputMtu : Nat} {p : List UInt8} (hp : p.length ≤ outputMtu)
    (hmax : p.length ≤ packetprotoMaxpayload) : (packetProto outputMtu).Frames encode p := by
  intro ys
  have hlen : ltoh16 (encode p ++ ys) = p.length := by
    unfold packetprotoMaxpayload at hmax
    rw [encode, List.append_assoc, ltoh16_htol16, UInt16.toNat_ofNat']
    omega
  have hdrop : (encode p ++ ys).drop packetprotoHeaderSize = p ++ ys := by
    rw [encode, List.append_assoc]
    rfl
  show packetFront outputMtu (encode p ++ ys) = _
  unfold packetFront
  rw [hlen, hdrop, List.length_append, length_encode, List.take_left]
  unfold packetprotoEnclen
  rw [if_neg (by omega), if_neg (by omega), if_neg (by omega)]

/-! ## The decoder -/

/-- What the decoder waits for: its input may write `avail` bytes from `offset` on, or its
output has the `len` bytes from `offset` on. -/
inductive Waiting
  | input (offset avail : Nat)
  | output (offset len : Nat)
  deriving DecidableEq, Repr

/-- `PacketProtoDecoder`. -/
structure Decoder where
  outputMtu : Nat
  bufSize : Nat
  bufStart : Nat
  bufUsed : Nat
  buf : List UInt8
  waiting : Waiting
  deriving DecidableEq, Repr

namespace Decoder

/-- What was received and not passed on yet. -/
def held (d : Decoder) : List UInt8 := (d.buf.drop d.bufStart).take d.bufUsed

/-- `StreamRecvInterface_Receiver_Recv` behind what is held. -/
def recv (d : Decoder) : Except CFault Decoder := do
  let offset := d.bufStart + d.bufUsed
  assert (decide (0 < d.bufSize - offset))
  return { d with waiting := .input offset (d.bufSize - offset) }

/-- The end of `process_data` without an error. -/
def wrapAround (d : Decoder) : Except CFault Decoder :=
  if d.bufStart + d.bufUsed = d.bufSize then do
    let held ← slice d.buf d.bufStart d.bufUsed
    let buf ← copyTo d.buf 0 held
    recv { d with buf, bufStart := 0 }
  else recv d

/-- `process_data`, for an output whose MTU is `mtu`; the flag says that `handler_error` was
called. -/
def processData (mtu : Nat) (d : Decoder) : Except CFault (Decoder × Bool) :=
  if d.bufUsed < packetprotoHeaderSize then do
    let d ← wrapAround d
    return (d, false)
  else do
    let header ← slice d.buf d.bufStart packetprotoHeaderSize
    let dataLen := ltoh16 header
    if d.outputMtu < dataLen then
      let d ← recv { d with bufStart := 0, bufUsed := 0 }
      return (d, true)
    else if d.bufUsed - packetprotoHeaderSize < dataLen then
      let d ← wrapAround d
      return (d, false)
    else
      -- `PacketPassInterface_Sender_Send`
      assert (decide (dataLen ≤ mtu))
      let d := { d with
        bufStart := d.bufStart + packetprotoEnclen dataLen
        bufUsed := d.bufUsed - packetprotoEnclen dataLen
        waiting := .output (d.bufStart + packetprotoHeaderSize) dataLen }
      return (d, false)

/-- `PacketProtoDecoder_Init`, with the buffer as it was allocated. -/
def init (mtu : Nat) (alloc : (n : Nat) → Vector UInt8 n) : Decoder :=
  let outputMtu := min mtu packetprotoMaxpayload
  let bufSize := packetprotoEnclen outputMtu
  { outputMtu, bufSize, bufStart := 0, bufUsed := 0, buf := (alloc bufSize).toList,
    waiting := .input 0 bufSize }

end Decoder

/-! ## Runs of the decoder -/

/-- A stream that the decoder parses: what was received of it, and the packets that the output
took. -/
structure Stream where
  received : List UInt8
  packets : List (List UInt8)
  deriving DecidableEq, Repr

def Stream.receive (s : Stream) (data : List UInt8) : Stream :=
  { s with received := s.received ++ data }

def Stream.take (s : Stream) (packet : List UInt8) : Stream :=
  { s with packets := s.packets ++ [packet] }

/-- The decoder, with the stream since the last error, and those that ended in an error. -/
structure DecoderRun where
  dec : Decoder
  stream : Stream
  failed : List Stream
  deriving DecidableEq, Repr

inductive DecoderEvent
  /-- The input wrote these bytes. -/
  | inputDone (data : List UInt8)
  /-- The output took the packet. -/
  | outputDone
  deriving DecidableEq, Repr

namespace DecoderRun

/-- After `process_data`. -/
def processed (r : DecoderRun) (res : Decoder × Bool) : DecoderRun :=
  if res.2 then { dec := res.1, stream := ⟨[], []⟩, failed := r.failed ++ [r.stream] }
  else { r with dec := res.1 }

/-- `input_handler_done` or `output_handler_done`. -/
def exec (mtu : Nat) (r : DecoderRun) : DecoderEvent → Except CFault DecoderRun
  | .inputDone data => do
    let d := r.dec
    assert (decide (0 < data.length))
    assert (decide (data.length ≤ d.bufSize - (d.bufStart + d.bufUsed)))
    let buf ← copyTo d.buf (d.bufStart + d.bufUsed) data
    let res ← Decoder.processData mtu { d with buf, bufUsed := d.bufUsed + data.length }
    return processed { r with stream := r.stream.receive data } res
  | .outputDone =>
    match r.dec.waiting with
    | .input _ _ => throw .assertion
    | .output offset len => do
      let packet ← slice r.dec.buf offset len
      let res ← Decoder.processData mtu r.dec
      return processed { r with stream := r.stream.take packet } res

/-- An interface is done only if it was called, and its input wrote some bytes into the space
it was given. -/
def enabled (r : DecoderRun) : DecoderEvent → Bool
  | .inputDone data =>
    match r.dec.waiting with
    | .input _ avail => decide (0 < data.length ∧ data.length ≤ avail)
    | .output _ _ => false
  | .outputDone =>
    match r.dec.waiting with
    | .input _ _ => false
    | .output _ _ => true

end DecoderRun

/-- A decoder with an output of this MTU. -/
def decoder (mtu : Nat) (alloc : (n : Nat) → Vector UInt8 n) :
    Machine DecoderRun DecoderEvent CFault where
  init := { dec := Decoder.init mtu alloc, stream := ⟨[], []⟩, failed := [] }
  enabled := DecoderRun.enabled
  exec := DecoderRun.exec mtu

/-- What the decoder received. -/
def input (es : List DecoderEvent) : List UInt8 :=
  es.flatMap fun
    | .inputDone data => data
    | .outputDone => []

/-! ## The invariant -/

/-- The buffer: as large as the largest frame, with what is held inside it. -/
structure Decoder.Fits (mtu : Nat) (d : Decoder) : Prop where
  outputMtu_eq : d.outputMtu = min mtu packetprotoMaxpayload
  bufSize_eq : d.bufSize = packetprotoEnclen d.outputMtu
  length_buf : d.buf.length = d.bufSize
  held_fits : d.bufStart + d.bufUsed ≤ d.bufSize

/-- The packet that the output was passed and has not taken yet. -/
def Decoder.passed (d : Decoder) : List (List UInt8) :=
  match d.waiting with
  | .input _ _ => []
  | .output offset len => [(d.buf.drop offset).take len]

/-- What the decoder waits for. The input may write all that is behind what is held, which is
no whole packet then; the packet the output was passed lies in front of it. -/
def Decoder.Waits (d : Decoder) : Prop :=
  match d.waiting with
  | .input offset avail =>
    offset = d.bufStart + d.bufUsed ∧ offset + avail = d.bufSize ∧ 0 < avail ∧
      packetFront d.outputMtu d.held = .incomplete
  | .output offset len => offset + len = d.bufStart

theorem Decoder.Fits.length_held {mtu : Nat} {d : Decoder} (h : d.Fits mtu) :
    d.held.length = d.bufUsed := by
  have hlen := h.length_buf
  have hfit := h.held_fits
  rw [Decoder.held, List.length_take, List.length_drop]
  omega

/-- The invariant: `rest` of the stream is held, behind the packets taken and passed. -/
structure DecoderRun.Inv (mtu : Nat) (r : DecoderRun) : Prop where
  fits : r.dec.Fits mtu
  waits : r.dec.Waits
  reads : (packetProto r.dec.outputMtu).Reads r.stream.received
    (r.stream.packets ++ r.dec.passed) r.dec.held
  failed : ∀ s ∈ r.failed, ∃ rest, (packetProto r.dec.outputMtu).Reads s.received s.packets rest ∧
    packetFront r.dec.outputMtu rest = .malformed

/-! ## `process_data` -/

/-- Waiting for more input: what is held is kept, and there is room behind it. -/
theorem Decoder.recv_spec {mtu : Nat} {d : Decoder} (h : d.Fits mtu)
    (hroom : d.bufStart + d.bufUsed < d.bufSize)
    (hfront : packetFront d.outputMtu d.held = .incomplete) :
    Returns d.recv fun d' => d'.Fits mtu ∧ d'.Waits ∧ d'.passed = [] ∧ d'.held = d.held ∧
      d'.outputMtu = d.outputMtu := by
  apply Returns.bind_eq (assert_ok (decide_eq_true (by omega)))
  apply Returns.pure
  have hend : d.bufStart + d.bufUsed + (d.bufSize - (d.bufStart + d.bufUsed)) = d.bufSize := by
    omega
  refine ⟨⟨h.outputMtu_eq, h.bufSize_eq, h.length_buf, h.held_fits⟩, ?_, rfl, rfl, rfl⟩
  exact ⟨rfl, hend, Nat.sub_pos_of_lt hroom, hfront⟩

/-- What is held moves to the front when it reached the end. -/
theorem Decoder.wrapAround_spec {mtu : Nat} {d : Decoder} (h : d.Fits mtu)
    (hroom : d.bufUsed < d.bufSize) (hfront : packetFront d.outputMtu d.held = .incomplete) :
    Returns d.wrapAround fun d' => d'.Fits mtu ∧ d'.Waits ∧ d'.passed = [] ∧ d'.held = d.held ∧
      d'.outputMtu = d.outputMtu := by
  unfold Decoder.wrapAround
  split
  · rename_i hend
    have hlen := h.length_held
    apply Returns.bind_eq (slice_ok (by rw [h.length_buf]; omega))
    obtain ⟨buf, hbuf, hbufLen, htake⟩ := copyTo_spec d.buf 0 d.held (by rw [h.length_buf]; omega)
    apply Returns.bind_eq hbuf
    rw [Nat.zero_add, List.take_zero, List.nil_append, hlen] at htake
    have hheld : Decoder.held { d with buf, bufStart := 0 } = d.held := htake
    have hmove : 0 + d.bufUsed < d.bufSize := by omega
    have hfits : Decoder.Fits mtu { d with buf, bufStart := 0 } :=
      ⟨h.outputMtu_eq, h.bufSize_eq, hbufLen.trans h.length_buf, Nat.le_of_lt hmove⟩
    have hmoved := Decoder.recv_spec hfits hmove (by rw [hheld]; exact hfront)
    rw [hheld] at hmoved
    exact hmoved
  · have hfit := h.held_fits
    exact Decoder.recv_spec h (by omega) hfront

/-- The header of what is held. -/
theorem Decoder.Fits.slice_header {mtu : Nat} {d : Decoder} (h : d.Fits mtu)
    (hused : packetprotoHeaderSize ≤ d.bufUsed) :
    slice d.buf d.bufStart packetprotoHeaderSize =
      .ok ((d.buf.drop d.bufStart).take packetprotoHeaderSize) := by
  have hfit := h.held_fits
  exact slice_ok (by rw [h.length_buf]; omega)

theorem ltoh16_take {data : List UInt8} {n : Nat} (h : packetprotoHeaderSize ≤ n) :
    ltoh16 (data.take n) = ltoh16 data := by
  unfold packetprotoHeaderSize at h
  simp only [ltoh16, List.getD_eq_getElem?_getD, List.getElem?_take]
  rw [if_pos (by omega), if_pos (by omega)]

/-- A part of what is held, in the buffer. -/
theorem Decoder.take_behind (d : Decoder) (skip n : Nat) (hn : n ≤ d.bufUsed - skip) :
    (d.buf.drop (d.bufStart + skip)).take n = (d.held.drop skip).take n := by
  rw [← List.drop_drop, Decoder.held, List.drop_take, List.take_take, Nat.min_eq_left hn]

/-- What `process_data` does is what the front of the held bytes says. -/
theorem Decoder.processData_spec {mtu : Nat} {d : Decoder} (h : d.Fits mtu) :
    Returns (Decoder.processData mtu d) fun res => res.1.Fits mtu ∧ res.1.Waits ∧
      res.1.outputMtu = d.outputMtu ∧
      match packetFront d.outputMtu d.held with
      | .incomplete => res.2 = false ∧ res.1.passed = [] ∧ res.1.held = d.held
      | .malformed => res.2 = true ∧ res.1.passed = [] ∧ res.1.held = []
      | .frame p n => res.2 = false ∧ res.1.passed = [p] ∧ res.1.held = d.held.drop n := by
  have hlen := h.length_held
  have hfit := h.held_fits
  have hsize := h.bufSize_eq
  unfold packetprotoEnclen at hsize
  unfold Decoder.processData
  split
  · rename_i hused
    have hfront : packetFront d.outputMtu d.held = .incomplete := if_pos (by omega)
    apply Returns.bind (Decoder.wrapAround_spec h (by omega) hfront)
    rintro d' ⟨hfits, hwaits, hpassed, hheld, hmtu⟩
    rw [hfront]
    exact Returns.pure ⟨hfits, hwaits, hmtu, rfl, hpassed, hheld⟩
  · rename_i hused
    apply Returns.bind_eq (h.slice_header (by omega))
    have hheader : ltoh16 ((d.buf.drop d.bufStart).take packetprotoHeaderSize) =
        ltoh16 d.held := by
      rw [Decoder.held, ltoh16_take (Nat.le_refl _), ltoh16_take (by omega)]
    simp only [hheader]
    split
    · rename_i hbig
      have hfront : packetFront d.outputMtu d.held = .malformed := by
        rw [packetFront, if_neg (by omega), if_pos hbig]
      have hfits : Decoder.Fits mtu { d with bufStart := 0, bufUsed := 0 } :=
        ⟨h.outputMtu_eq, h.bufSize_eq, h.length_buf, Nat.zero_le _⟩
      have hroom : 0 + 0 < d.bufSize := by
        unfold packetprotoHeaderSize at hsize
        omega
      apply Returns.bind (Decoder.recv_spec hfits hroom rfl)
      rintro d' ⟨hfits', hwaits, hpassed, hheld, hmtu⟩
      rw [hfront]
      exact Returns.pure ⟨hfits', hwaits, hmtu, rfl, hpassed, hheld⟩
    · rename_i hbig
      split
      · rename_i hshort
        have hfront : packetFront d.outputMtu d.held = .incomplete := by
          rw [packetFront, if_neg (by omega), if_neg hbig, if_pos]
          unfold packetprotoEnclen
          omega
        apply Returns.bind (Decoder.wrapAround_spec h (by omega) hfront)
        rintro d' ⟨hfits, hwaits, hpassed, hheld, hmtu⟩
        rw [hfront]
        exact Returns.pure ⟨hfits, hwaits, hmtu, rfl, hpassed, hheld⟩
      · rename_i hwhole
        have hfront : packetFront d.outputMtu d.held =
            .frame ((d.held.drop packetprotoHeaderSize).take (ltoh16 d.held))
              (packetprotoEnclen (ltoh16 d.held)) := by
          rw [packetFront, if_neg (by omega), if_neg hbig, if_neg]
          unfold packetprotoEnclen
          omega
        have hmtu := h.outputMtu_eq
        apply Returns.bind_eq (assert_ok (decide_eq_true (by omega)))
        rw [hfront]
        apply Returns.pure
        refine ⟨⟨h.outputMtu_eq, h.bufSize_eq, h.length_buf, ?_⟩, ?_, rfl, rfl, ?_, ?_⟩
        · show d.bufStart + packetprotoEnclen _ + (d.bufUsed - packetprotoEnclen _) ≤ d.bufSize
          unfold packetprotoEnclen
          omega
        · show d.bufStart + packetprotoHeaderSize + _ = d.bufStart + packetprotoEnclen _
          unfold packetprotoEnclen
          omega
        · exact congrArg (fun p => [p]) (d.take_behind _ _ (by omega))
        · show (d.buf.drop (d.bufStart + packetprotoEnclen _)).take
            (d.bufUsed - packetprotoEnclen _) = _
          rw [← List.drop_drop, Decoder.held, List.drop_take]

/-! ## Runs -/

namespace DecoderRun

variable {mtu : Nat} {r : DecoderRun}

/-- All that was received. -/
def total (r : DecoderRun) : List UInt8 :=
  r.failed.flatMap Stream.received ++ r.stream.received

/-- `process_data` with nothing passed to the output: what is held is parsed further, or the
stream ends in an error. -/
theorem processed_spec {d : Decoder} (h : d.Fits mtu) (hmtu : d.outputMtu = r.dec.outputMtu)
    (hreads : (packetProto r.dec.outputMtu).Reads r.stream.received r.stream.packets d.held)
    (hfailed : ∀ s ∈ r.failed, ∃ rest, (packetProto r.dec.outputMtu).Reads s.received s.packets
      rest ∧ packetFront r.dec.outputMtu rest = .malformed) :
    Returns (do
      let res ← Decoder.processData mtu d
      return processed r res) fun r' => r'.Inv mtu ∧ r'.total = r.total := by
  apply Returns.bind (Decoder.processData_spec h)
  rintro ⟨d', err⟩ ⟨hfits, hwaits, hsame, hres⟩
  have hmtu' : d'.outputMtu = r.dec.outputMtu := hsame.trans hmtu
  rw [hmtu] at hres
  cases hfront : packetFront r.dec.outputMtu d.held with
  | incomplete =>
    rw [hfront] at hres
    obtain ⟨rfl, hpassed, hheld⟩ := hres
    apply Returns.pure
    refine ⟨⟨hfits, hwaits, ?_, fun s hs => ?_⟩, rfl⟩
    · show (packetProto d'.outputMtu).Reads _ (r.stream.packets ++ d'.passed) d'.held
      rw [hmtu', hpassed, hheld, List.append_nil]
      exact hreads
    · show ∃ rest, (packetProto d'.outputMtu).Reads _ _ _ ∧ packetFront d'.outputMtu _ = _
      rw [hmtu']
      exact hfailed s hs
  | malformed =>
    rw [hfront] at hres
    obtain ⟨rfl, hpassed, hheld⟩ := hres
    apply Returns.pure
    refine ⟨⟨hfits, hwaits, ?_, fun s hs => ?_⟩, ?_⟩
    · show (packetProto d'.outputMtu).Reads [] ([] ++ d'.passed) d'.held
      rw [hpassed, hheld]
      exact .nil []
    · show ∃ rest, (packetProto d'.outputMtu).Reads _ _ _ ∧ packetFront d'.outputMtu _ = _
      rw [hmtu']
      rcases List.mem_append.mp hs with hs | hs
      · exact hfailed s hs
      · obtain rfl := List.mem_singleton.mp hs
        exact ⟨d.held, hreads, hfront⟩
    · show (r.failed ++ [r.stream]).flatMap Stream.received ++ [] = r.total
      rw [List.flatMap_append, List.flatMap_singleton, List.append_nil]
      rfl
  | frame p n =>
    rw [hfront] at hres
    obtain ⟨rfl, hpassed, hheld⟩ := hres
    apply Returns.pure
    refine ⟨⟨hfits, hwaits, ?_, fun s hs => ?_⟩, rfl⟩
    · show (packetProto d'.outputMtu).Reads _ (r.stream.packets ++ d'.passed) d'.held
      rw [hmtu', hpassed, hheld]
      exact hreads.snoc hfront
    · show ∃ rest, (packetProto d'.outputMtu).Reads _ _ _ ∧ packetFront d'.outputMtu _ = _
      rw [hmtu']
      exact hfailed s hs

/-- More bytes behind what is held. -/
theorem held_receive {d : Decoder} {data buf : List UInt8} (h : d.Fits mtu)
    (hbuf : buf.take (d.bufStart + d.bufUsed + data.length) =
      d.buf.take (d.bufStart + d.bufUsed) ++ data) :
    Decoder.held { d with buf, bufUsed := d.bufUsed + data.length } = d.held ++ data := by
  have hlen := h.length_buf
  have hfit := h.held_fits
  have hstart : d.bufStart ≤ (d.buf.take (d.bufStart + d.bufUsed)).length := by
    rw [List.length_take]
    omega
  show (buf.drop d.bufStart).take (d.bufUsed + data.length) = _
  rw [← Nat.add_sub_cancel_left d.bufStart (d.bufUsed + data.length), ← List.drop_take,
    ← Nat.add_assoc, hbuf, List.drop_append_of_le_length hstart, List.drop_take,
    Nat.add_sub_cancel_left]
  rfl

/-- A step of the decoder. -/
theorem exec_spec {e : DecoderEvent} (h : r.Inv mtu) (he : r.enabled e = true) :
    Returns (r.exec mtu e) fun r' => r'.Inv mtu ∧ r'.total = r.total ++ input [e] := by
  have hwaits := h.waits
  unfold Decoder.Waits at hwaits
  cases e with
  | inputDone data =>
    unfold enabled at he
    cases hw : r.dec.waiting with
    | output offset len =>
      rw [hw] at he
      cases he
    | input offset avail =>
      rw [hw] at he hwaits
      obtain ⟨hpos, havail⟩ := of_decide_eq_true he
      obtain ⟨hoffset, hend, -, -⟩ := hwaits
      have hreads := h.reads
      rw [Decoder.passed, hw, List.append_nil] at hreads
      have hroom : r.dec.bufStart + r.dec.bufUsed + data.length ≤ r.dec.bufSize := by omega
      apply Returns.bind_eq (assert_ok (decide_eq_true hpos))
      apply Returns.bind_eq (assert_ok (decide_eq_true (by omega)))
      obtain ⟨buf, hbuf, hbufLen, htake⟩ :=
        copyTo_spec r.dec.buf (r.dec.bufStart + r.dec.bufUsed) data
          (by rw [h.fits.length_buf]; exact hroom)
      apply Returns.bind_eq hbuf
      have hheld := held_receive h.fits htake
      have hfits : Decoder.Fits mtu
          { r.dec with buf, bufUsed := r.dec.bufUsed + data.length } :=
        ⟨h.fits.outputMtu_eq, h.fits.bufSize_eq, hbufLen.trans h.fits.length_buf,
          Nat.le_trans (Nat.le_of_eq (Nat.add_assoc _ _ _).symm) hroom⟩
      apply Returns.mono (processed_spec (r := { r with stream := r.stream.receive data }) hfits
        rfl (by rw [hheld]; exact hreads.append data) h.failed)
      rintro r' ⟨hinv, htotal⟩
      refine ⟨hinv, htotal.trans ?_⟩
      show r.failed.flatMap Stream.received ++ (r.stream.received ++ data) = _
      rw [← List.append_assoc, input, List.flatMap_singleton]
      rfl
  | outputDone =>
    unfold enabled at he
    cases hw : r.dec.waiting with
    | input offset avail =>
      rw [hw] at he
      cases he
    | output offset len =>
      rw [hw] at hwaits
      have hreads := h.reads
      rw [Decoder.passed, hw] at hreads
      have hlen := h.fits.length_buf
      have hfit := h.fits.held_fits
      unfold exec
      rw [hw]
      apply Returns.bind_eq (slice_ok (by omega))
      apply Returns.mono (processed_spec
        (r := { r with stream := r.stream.take ((r.dec.buf.drop offset).take len) }) h.fits rfl
        hreads h.failed)
      rintro r' ⟨hinv, htotal⟩
      exact ⟨hinv, htotal.trans (List.append_nil _).symm⟩

end DecoderRun

section

variable {mtu : Nat} {alloc : (n : Nat) → Vector UInt8 n} {es : List DecoderEvent}
  {res : Except CFault DecoderRun}

/-- The decoder as initialized. -/
theorem inv_init : (decoder mtu alloc).init.Inv mtu where
  fits := ⟨rfl, rfl, Vector.length_toList, Nat.zero_le _⟩
  waits := by
    refine ⟨rfl, Nat.zero_add _, ?_, rfl⟩
    show 0 < packetprotoHeaderSize + _
    unfold packetprotoHeaderSize
    omega
  reads := .nil []
  failed s hs := by cases hs

/-- Every run of the decoder ends without a fault in a state with the invariant. -/
theorem decoder_inv (h : (decoder mtu alloc).Runs es res) :
    Returns res fun r => r.Inv mtu ∧ r.total = input es := by
  apply h.returns ⟨inv_init, rfl⟩
  rintro es r e ⟨hinv, htotal⟩ he
  apply Returns.mono (DecoderRun.exec_spec hinv he)
  rintro r' ⟨hinv', htotal'⟩
  refine ⟨hinv', htotal'.trans ?_⟩
  rw [htotal, input, input, input, List.flatMap_append]

/-- The largest payload that a decoder accepts. -/
def decoderMtu (mtu : Nat) : Nat := min mtu packetprotoMaxpayload

/-- Whatever arrives, in whatever pieces: the packets that the decoder passed on are those in
what it received, in order, and it asks for more, into a space that is not empty, only when
what is left starts with no whole packet. A stream ends in an error exactly at a header that
announces too much, and the next one starts behind all that was received. -/
theorem decoder_reads (h : (decoder mtu alloc).Runs es res) :
    ∃ r, res = .ok r ∧ r.failed.flatMap Stream.received ++ r.stream.received = input es ∧
      (∀ s ∈ r.failed, ∃ rest, (packetProto (decoderMtu mtu)).Reads s.received s.packets rest ∧
        packetFront (decoderMtu mtu) rest = .malformed) ∧
      ∃ rest, (packetProto (decoderMtu mtu)).Reads r.stream.received
          (r.stream.packets ++ r.dec.passed) rest ∧
        ∀ offset avail, r.dec.waiting = .input offset avail →
          0 < avail ∧ packetFront (decoderMtu mtu) rest = .incomplete := by
  obtain ⟨r, rfl, hinv, htotal⟩ := decoder_inv h
  have hmtu : r.dec.outputMtu = decoderMtu mtu := hinv.fits.outputMtu_eq
  refine ⟨r, rfl, htotal, fun s hs => ?_, r.dec.held, ?_, fun offset avail hw => ?_⟩
  · rw [← hmtu]
    exact hinv.failed s hs
  · rw [← hmtu]
    exact hinv.reads
  · have hwaits := hinv.waits
    rw [Decoder.Waits, hw, hmtu] at hwaits
    exact ⟨hwaits.2.2.1, hwaits.2.2.2⟩

/-- A packet in two pieces, and then a header that announces too much. -/
theorem decoder_reads_oversize :
    ∃ r : DecoderRun, r.stream = ⟨[], []⟩ ∧ r.failed = [⟨[2, 0, 7, 8, 4, 0], [[7, 8]]⟩] ∧
      ∀ s ∈ r.failed, ∃ rest, (packetProto (decoderMtu 3)).Reads s.received s.packets rest ∧
        packetFront (decoderMtu 3) rest = .malformed := by
  have hends : (decoder 3 fun n => Vector.replicate n 0).ends
      [.inputDone [2, 0, 7], .inputDone [8, 4], .outputDone, .inputDone [0]]
      (fun r => r.stream == ⟨[], []⟩ && r.failed == [⟨[2, 0, 7, 8, 4, 0], [[7, 8]]⟩]) = true := by
    decide
  obtain ⟨r, hruns, hr⟩ := Machine.runs_of_ends hends
  obtain ⟨hstream, hfailed⟩ := Bool.and_eq_true_iff.mp hr
  obtain ⟨r', hr', -, hmalformed, -⟩ := decoder_reads hruns
  cases hr'
  exact ⟨r, eq_of_beq hstream, eq_of_beq hfailed, hmalformed⟩

theorem frames_of_le {p : List UInt8} (hp : p.length ≤ decoderMtu mtu) :
    (packetProto (decoderMtu mtu)).Frames encode p :=
  frames_encode hp (Nat.le_trans hp (Nat.min_le_right _ _))

/-- What an encoder wrote is not malformed, in any pieces. -/
theorem failed_eq_nil {r : DecoderRun} {ps : List (List UInt8)} {later : List UInt8}
    (hinv : r.Inv mtu) (hps : ∀ p ∈ ps, p.length ≤ decoderMtu mtu)
    (hin : r.total ++ later = ps.flatMap encode) : r.failed = [] := by
  have hframes : ∀ p ∈ ps, (packetProto (decoderMtu mtu)).Frames encode p :=
    fun p hp => frames_of_le (hps p hp)
  cases hfailed : r.failed with
  | nil => rfl
  | cons s failed =>
    obtain ⟨rest, hreads, hmalformed⟩ := hinv.failed s (by rw [hfailed]; simp)
    rw [hinv.fits.outputMtu_eq] at hreads hmalformed
    rw [DecoderRun.total, hfailed, List.flatMap_cons, List.append_assoc, List.append_assoc] at hin
    obtain ⟨ds, rfl, hrest⟩ := hreads.of_encoding hframes hin
    have hds : ∀ d ∈ ds, (packetProto (decoderMtu mtu)).Frames encode d := by
      intro d hd
      exact hframes d (List.mem_append_right _ hd)
    exact absurd hmalformed (Framing.front_ne_malformed hds hrest)

/-- The round trip: of a stream of encoded packets that the decoder accepts, whatever arrived of
it so far and in whatever pieces, the decoder passed on the first packets, in order and once,
without an error. When all of it arrived and the decoder waits for more, it passed on all. -/
theorem decoder_encode (ps : List (List UInt8)) (later : List UInt8)
    (h : (decoder mtu alloc).Runs es res) (hps : ∀ p ∈ ps, p.length ≤ decoderMtu mtu)
    (hin : input es ++ later = ps.flatMap encode) :
    ∃ r, res = .ok r ∧ r.failed = [] ∧ (r.stream.packets ++ r.dec.passed) <+: ps ∧
      (later = [] → r.dec.passed = [] → r.stream.packets = ps) := by
  have hframes : ∀ p ∈ ps, (packetProto (decoderMtu mtu)).Frames encode p :=
    fun p hp => frames_of_le (hps p hp)
  obtain ⟨r, rfl, hinv, htotal⟩ := decoder_inv h
  rw [← htotal] at hin
  have hfailed := failed_eq_nil hinv hps hin
  rw [DecoderRun.total, hfailed, List.flatMap_nil, List.nil_append] at hin
  have hreads := hinv.reads
  rw [hinv.fits.outputMtu_eq] at hreads
  obtain ⟨ds, hds, hrest⟩ := hreads.of_encoding hframes hin
  refine ⟨r, rfl, hfailed, ⟨ds, hds.symm⟩, fun hlater hpassed => ?_⟩
  have hnone : ∀ p n, (packetProto (decoderMtu mtu)).front r.dec.held ≠ .frame p n := by
    intro p n hfront
    have hwaits := hinv.waits
    unfold Decoder.Waits at hwaits
    unfold Decoder.passed at hpassed
    split at hpassed
    · rename_i hw
      rw [hw] at hwaits
      have hincomplete := hwaits.2.2.2
      rw [hinv.fits.outputMtu_eq] at hincomplete
      cases hincomplete.symm.trans hfront
    · cases hpassed
  rw [hlater, List.append_nil] at hrest
  have hframes' : ∀ d ∈ ds, (packetProto (decoderMtu mtu)).Frames encode d := by
    intro d hd
    exact hframes d (hds ▸ List.mem_append_right _ hd)
  have hnil := Framing.eq_nil_of_not_frame hframes' hrest hnone
  rw [hnil, hpassed, List.append_nil, List.append_nil] at hds
  exact hds.symm

/-- Two packets, of which the second has not arrived yet. -/
theorem decoder_encode_first :
    ∃ r : DecoderRun, r.stream.packets = [[7, 8]] ∧ r.stream.packets <+: [[7, 8], [9]] := by
  have hends : (decoder 3 fun n => Vector.replicate n 0).ends
      [.inputDone [2, 0, 7], .inputDone [8, 1], .outputDone]
      (fun r => r.stream.packets == [[7, 8]]) = true := by
    decide
  obtain ⟨r, hruns, hr⟩ := Machine.runs_of_ends hends
  obtain ⟨r', hr', -, hpackets, -⟩ :=
    decoder_encode [[7, 8], [9]] [0, 9] hruns (by decide) (by decide)
  cases hr'
  exact ⟨r, eq_of_beq hr, (List.prefix_append _ _).trans hpackets⟩

end

end Lightsocks.Flow
