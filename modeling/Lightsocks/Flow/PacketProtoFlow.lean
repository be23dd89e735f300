import Lightsocks.Flow.PacketBuffer
import Lightsocks.Flow.PacketProto

/-!
# From a payload to a frame

`PacketProtoFlow` is a `BufferWriter`, a `PacketProtoEncoder` and a `PacketBuffer`. There is no
copy between them: the buffer asks the encoder for a packet, the encoder asks the writer for a
payload behind the header, and the user of the writer writes it where the buffer wants it. Each
call goes through a job of a `PacketRecvInterface`, so the user, the jobs and the output of the
buffer interleave.
-/

namespace Lightsocks.Flow

open Lightsocks.Lib

/-- The state of a `PacketRecvInterface`, with what its pending job was given. -/
inductive RecvState
  | none
  | operationPending (data : Nat)
  | busy
  | donePending (dataLen : Nat)
  deriving DecidableEq, Repr

/-- `PacketProtoFlow`. An address is an offset into the memory of the buffer. -/
structure PacketProtoFlow where
  inputMtu : Nat
  /-- `recv_interface` of the `BufferWriter`. -/
  ainput : RecvState
  outHave : Bool
  out : Nat
  dWriting : Bool
  /-- `output` of the `PacketProtoEncoder`. -/
  encoder : RecvState
  outputPacket : Option Nat
  buffer : PacketBuffer
  deriving DecidableEq, Repr

namespace PacketProtoFlow

/-- The memory of the buffer. -/
def memory (f : PacketProtoFlow) : List UInt8 := f.buffer.buf.buffer

def setMemory (f : PacketProtoFlow) (memory : List UInt8) : PacketProtoFlow :=
  { f with buffer := { f.buffer with buf := { f.buffer.buf with buffer := memory } } }

/-- The encoder's interface when the buffer has called it, if it did. -/
def recvCalled (buffer : PacketBuffer) : RecvState :=
  match buffer.receiving with
  | Option.none => .none
  | some dest => .operationPending (blockSize * dest)

/-- `PacketProtoFlow_Init`, with the buffer as `PacketBuffer_Init` left it. -/
def init (inputMtu : Nat) (buffer : PacketBuffer) : PacketProtoFlow where
  inputMtu
  ainput := .none
  outHave := false
  out := 0
  dWriting := false
  encoder := recvCalled buffer
  outputPacket := Option.none
  buffer

/-- `output_handler_recv` of the encoder. -/
def encoderOutputHandlerRecv (f : PacketProtoFlow) (data : Nat) :
    Except CFault PacketProtoFlow := do
  assert f.outputPacket.isNone
  assert (f.ainput == .none)
  return { f with
    outputPacket := some data, ainput := .operationPending (data + packetprotoHeaderSize) }

/-- `output_handler_recv` of the writer. -/
def writerOutputHandlerRecv (f : PacketProtoFlow) (data : Nat) : Except CFault PacketProtoFlow := do
  assert (!f.outHave)
  return { f with outHave := true, out := data }

/-- `BufferWriter_StartPacket`. -/
def startPacket (f : PacketProtoFlow) : Except CFault PacketProtoFlow := do
  assert (!f.dWriting)
  return if f.outHave then { f with dWriting := true } else f

/-- `BufferWriter_EndPacket`. -/
def endPacket (f : PacketProtoFlow) (len : Nat) : Except CFault PacketProtoFlow := do
  assert (decide (len ≤ f.inputMtu))
  assert f.outHave
  assert f.dWriting
  assert (f.ainput == .busy)
  return { f with outHave := false, ainput := .donePending len, dWriting := false }

/-- `input_handler_done` of the encoder. -/
def encoderDone (f : PacketProtoFlow) (inLen : Nat) : Except CFault PacketProtoFlow := do
  match f.outputPacket with
  | Option.none => throw .assertion
  | some outputPacket =>
    let (memory, len) ← encoderInputHandlerDone f.memory outputPacket inLen
    assert (decide (len ≤ packetprotoEnclen f.inputMtu))
    assert (f.encoder == .busy)
    return { f.setMemory memory with outputPacket := Option.none, encoder := .donePending len }

/-- `input_handler_done` of the buffer. -/
def bufferInputDone (f : PacketProtoFlow) (len : Nat) : Except CFault PacketProtoFlow := do
  let buffer ← f.buffer.inputHandlerDone len
  return { f with buffer, encoder := recvCalled buffer }

/-- `output_handler_done` of the buffer, which may call the encoder if it did not before. -/
def bufferOutputDone (f : PacketProtoFlow) : Except CFault PacketProtoFlow := do
  let buffer ← f.buffer.outputHandlerDone
  let encoder := if f.buffer.receiving.isSome then f.encoder else recvCalled buffer
  return { f with buffer, encoder }

end PacketProtoFlow

/-! ## Runs -/

/-- The flow, with the payloads that its user finished and the packets that its output took. -/
structure FlowRun where
  flow : PacketProtoFlow
  submitted : List (List UInt8)
  taken : List (List UInt8)
  deriving DecidableEq, Repr

inductive FlowEvent
  /-- A job of the encoder's interface. -/
  | encoderJob
  /-- A job of the writer's interface. -/
  | writerJob
  | startPacket
  | write (offset : Nat) (data : List UInt8)
  | endPacket (len : Nat)
  | outputDone
  deriving DecidableEq, Repr

namespace FlowRun

def exec (r : FlowRun) : FlowEvent → Except CFault FlowRun
  | .encoderJob =>
    match r.flow.encoder with
    | .operationPending data => do
      let flow ← PacketProtoFlow.encoderOutputHandlerRecv { r.flow with encoder := .busy } data
      return { r with flow }
    | .donePending len => do
      let flow ← PacketProtoFlow.bufferInputDone { r.flow with encoder := .none } len
      return { r with flow }
    | _ => throw .assertion
  | .writerJob =>
    match r.flow.ainput with
    | .operationPending data => do
      let flow ← PacketProtoFlow.writerOutputHandlerRecv { r.flow with ainput := .busy } data
      return { r with flow }
    | .donePending len => do
      let flow ← PacketProtoFlow.encoderDone { r.flow with ainput := .none } len
      return { r with flow }
    | _ => throw .assertion
  | .startPacket => do
    let flow ← r.flow.startPacket
    return { r with flow }
  | .write offset data => do
    let memory ← copyTo r.flow.memory (r.flow.out + offset) data
    return { r with flow := r.flow.setMemory memory }
  | .endPacket len => do
    let payload ← slice r.flow.memory r.flow.out len
    let flow ← r.flow.endPacket len
    return { r with flow, submitted := r.submitted ++ [payload] }
  | .outputDone =>
    match r.flow.buffer.sending with
    | none => throw .assertion
    | some (dest, len) => do
      let packet ← slice r.flow.memory (blockSize * dest) len
      let flow ← r.flow.bufferOutputDone
      return { r with flow, taken := r.taken ++ [packet] }

/-- The job of an interface is pending. -/
def pending : RecvState → Bool
  | .operationPending _ => true
  | .donePending _ => true
  | _ => false

/-- The user starts a packet when none is started, writes into it and ends it only then. -/
def enabled (r : FlowRun) : FlowEvent → Bool
  | .encoderJob => pending r.flow.encoder
  | .writerJob => pending r.flow.ainput
  | .startPacket => !r.flow.dWriting
  | .write offset data => r.flow.dWriting && decide (offset + data.length ≤ r.flow.inputMtu)
  | .endPacket len => r.flow.dWriting && decide (len ≤ r.flow.inputMtu)
  | .outputDone => r.flow.buffer.sending.isSome

end FlowRun

/-- A flow, from its initialization on. -/
def packetProtoFlow (flow : PacketProtoFlow) : Machine FlowRun FlowEvent CFault where
  init := { flow, submitted := [], taken := [] }
  enabled := FlowRun.enabled
  exec := FlowRun.exec

/-! ## The invariant -/

namespace PacketProtoFlow

/-- Where a payload is on its way from the user to the buffer: none, or the payload `p` between
the writer and the encoder, or between the encoder and the buffer. -/
inductive Stage (f : PacketProtoFlow) : List (List UInt8) → Prop
  /-- The buffer has no space. -/
  | full (hr : f.buffer.receiving = Option.none) (he : f.encoder = .none)
      (hp : f.outputPacket = Option.none) (ha : f.ainput = .none) (ho : f.outHave = false)
      (hw : f.dWriting = false) : Stage f []
  /-- The buffer asked the encoder. -/
  | asked {dest : Nat} (hr : f.buffer.receiving = some dest)
      (he : f.encoder = .operationPending (blockSize * dest)) (hp : f.outputPacket = Option.none)
      (ha : f.ainput = .none) (ho : f.outHave = false) (hw : f.dWriting = false) : Stage f []
  /-- The encoder asked the writer. -/
  | passed {dest : Nat} (hr : f.buffer.receiving = some dest) (he : f.encoder = .busy)
      (hp : f.outputPacket = some (blockSize * dest))
      (ha : f.ainput = .operationPending (blockSize * dest + packetprotoHeaderSize))
      (ho : f.outHave = false) (hw : f.dWriting = false) : Stage f []
  /-- The user may write a payload. -/
  | ready {dest : Nat} (hr : f.buffer.receiving = some dest) (he : f.encoder = .busy)
      (hp : f.outputPacket = some (blockSize * dest)) (ha : f.ainput = .busy)
      (ho : f.outHave = true) (hout : f.out = blockSize * dest + packetprotoHeaderSize) : Stage f []
  /-- The payload is written. -/
  | written {dest : Nat} {p : List UInt8} (hr : f.buffer.receiving = some dest)
      (he : f.encoder = .busy) (hp : f.outputPacket = some (blockSize * dest))
      (ha : f.ainput = .donePending p.length) (ho : f.outHave = false) (hw : f.dWriting = false)
      (hlen : p.length ≤ f.inputMtu)
      (hdata : (f.memory.drop (blockSize * dest + packetprotoHeaderSize)).take p.length = p) :
      Stage f [p]
  /-- The packet is written. -/
  | encoded {dest : Nat} {p : List UInt8} (hr : f.buffer.receiving = some dest)
      (he : f.encoder = .donePending (encode p).length) (hp : f.outputPacket = Option.none)
      (ha : f.ainput = .none) (ho : f.outHave = false) (hw : f.dWriting = false)
      (hlen : p.length ≤ f.inputMtu)
      (hdata : (f.memory.drop (blockSize * dest)).take (encode p).length = encode p) :
      Stage f [p]

/-- The buffer holds the packets `q`, and the payloads `ps` are on their way to it. -/
structure Inv (count : Nat) (f : PacketProtoFlow) (q ps : List (List UInt8)) : Prop where
  buffer : f.buffer.Inv count q
  mtu_eq : f.buffer.inputMtu = packetprotoEnclen f.inputMtu
  mtu_le : f.inputMtu ≤ packetprotoMaxpayload
  stage : f.Stage ps

variable {count : Nat} {f : PacketProtoFlow} {q ps : List (List UInt8)}

/-- The stage when the buffer has called the encoder, or has not. -/
theorem stage_recvCalled (he : f.encoder = recvCalled f.buffer) (hp : f.outputPacket = Option.none)
    (ha : f.ainput = .none) (ho : f.outHave = false) (hw : f.dWriting = false) : f.Stage [] := by
  unfold recvCalled at he
  split at he
  · rename_i hr
    exact .full hr he hp ha ho hw
  · rename_i dest hr
    exact .asked hr he hp ha ho hw

/-- A write into the packet that the buffer asked for. -/
theorem Inv.write {dest : Nat} (h : f.Inv count q ps) (offset : Nat) (data : List UInt8)
    (hdest : f.buffer.receiving = some dest)
    (hlen : offset + data.length ≤ packetprotoEnclen f.inputMtu) :
    Returns (copyTo f.memory (blockSize * dest + offset) data) fun memory =>
      (f.setMemory memory).buffer.Inv count q :=
  h.buffer.write hdest (by rw [h.mtu_eq]; exact hlen)

/-- `output_handler_recv` of the encoder. -/
theorem Inv.encoderOperation {data : Nat} (h : f.Inv count q ps)
    (hencoder : f.encoder = .operationPending data) :
    Returns (encoderOutputHandlerRecv { f with encoder := .busy } data) fun f' =>
      f'.Inv count q ps := by
  cases h.stage with
  | full hr he hp ha ho hw => cases hencoder.symm.trans he
  | passed hr he hp ha ho hw => cases hencoder.symm.trans he
  | ready hr he hp ha ho hout => cases hencoder.symm.trans he
  | written hr he hp ha ho hw hlen hdata => cases hencoder.symm.trans he
  | encoded hr he hp ha ho hw hlen hdata => cases hencoder.symm.trans he
  | asked hr he hp ha ho hw =>
    cases hencoder.symm.trans he
    apply Returns.bind_eq (assert_ok (by rw [hp]; rfl))
    apply Returns.bind_eq (assert_ok (by rw [ha]; rfl))
    exact Returns.pure ⟨h.buffer, h.mtu_eq, h.mtu_le, .passed hr rfl rfl rfl ho hw⟩

/-- `output_handler_recv` of the writer. -/
theorem Inv.writerOperation {data : Nat} (h : f.Inv count q ps)
    (hainput : f.ainput = .operationPending data) :
    Returns (writerOutputHandlerRecv { f with ainput := .busy } data) fun f' =>
      f'.Inv count q ps := by
  cases h.stage with
  | full hr he hp ha ho hw => cases hainput.symm.trans ha
  | asked hr he hp ha ho hw => cases hainput.symm.trans ha
  | ready hr he hp ha ho hout => cases hainput.symm.trans ha
  | written hr he hp ha ho hw hlen hdata => cases hainput.symm.trans ha
  | encoded hr he hp ha ho hw hlen hdata => cases hainput.symm.trans ha
  | passed hr he hp ha ho hw =>
    cases hainput.symm.trans ha
    apply Returns.bind_eq (assert_ok (by rw [ho]; rfl))
    exact Returns.pure ⟨h.buffer, h.mtu_eq, h.mtu_le, .ready hr he hp rfl rfl rfl⟩

theorem Inv.startPacket (h : f.Inv count q ps) (hwriting : f.dWriting = false) :
    Returns f.startPacket fun f' => f'.Inv count q ps := by
  apply Returns.bind_eq (assert_ok (by rw [hwriting]; rfl))
  apply Returns.pure
  split
  · rename_i hhave
    refine ⟨h.buffer, h.mtu_eq, h.mtu_le, ?_⟩
    cases h.stage with
    | full hr he hp ha ho hw => cases hhave.symm.trans ho
    | asked hr he hp ha ho hw => cases hhave.symm.trans ho
    | passed hr he hp ha ho hw => cases hhave.symm.trans ho
    | written hr he hp ha ho hw hlen hdata => cases hhave.symm.trans ho
    | encoded hr he hp ha ho hw hlen hdata => cases hhave.symm.trans ho
    | ready hr he hp ha ho hout => exact .ready hr he hp ha ho hout
  · exact h

/-- While the user writes, the writer has a place for the payload. -/
theorem Inv.of_writing (h : f.Inv count q ps) (hwriting : f.dWriting = true) :
    ps = [] ∧ f.ainput = .busy ∧ f.outHave = true ∧ f.encoder = .busy ∧
      ∃ dest, f.buffer.receiving = some dest ∧ f.outputPacket = some (blockSize * dest) ∧
        f.out = blockSize * dest + packetprotoHeaderSize := by
  cases h.stage with
  | full hr he hp ha ho hw => cases hwriting.symm.trans hw
  | asked hr he hp ha ho hw => cases hwriting.symm.trans hw
  | passed hr he hp ha ho hw => cases hwriting.symm.trans hw
  | written hr he hp ha ho hw hlen hdata => cases hwriting.symm.trans hw
  | encoded hr he hp ha ho hw hlen hdata => cases hwriting.symm.trans hw
  | ready hr he hp ha ho hout => exact ⟨rfl, ha, ho, he, _, hr, hp, hout⟩

/-- The user writes into its payload. -/
theorem Inv.userWrite {offset : Nat} {data : List UInt8} (h : f.Inv count q ps)
    (hwriting : f.dWriting = true) (hlen : offset + data.length ≤ f.inputMtu) :
    Returns (copyTo f.memory (f.out + offset) data) fun memory =>
      (f.setMemory memory).Inv count q ps := by
  obtain ⟨rfl, ha, ho, he, dest, hr, hp, hout⟩ := h.of_writing hwriting
  have hwrite := h.write (packetprotoHeaderSize + offset) data hr
    (by unfold packetprotoEnclen; omega)
  rw [← Nat.add_assoc, ← hout] at hwrite
  apply Returns.mono hwrite
  intro memory hbuffer
  exact ⟨hbuffer, h.mtu_eq, h.mtu_le, .ready hr he hp ha ho hout⟩

/-- The memory holds all of the packet that the buffer asked for. -/
theorem Inv.fits {dest : Nat} (h : f.Inv count q ps) (hr : f.buffer.receiving = some dest) :
    blockSize * dest + packetprotoEnclen f.inputMtu ≤ f.memory.length := by
  obtain ⟨hspace, rfl⟩ := h.buffer.receiving_some hr
  have hmtu := h.buffer.mtu_eq
  have hlimit := h.buffer.ring.valid.limit_le
  have hbuffer := h.buffer.ring.valid.length_buffer
  have hdata := le_mul_bdivideUp f.buffer.inputMtu
  rw [h.mtu_eq] at hmtu hdata
  unfold PacketBuffer.Space at hspace
  rw [memory, hbuffer]
  show 4 * _ + _ ≤ 4 * _
  omega

/-- `BufferWriter_EndPacket`: the payload is on its way. -/
theorem Inv.endPacket {len : Nat} (h : f.Inv count q ps) (hwriting : f.dWriting = true)
    (hlen : len ≤ f.inputMtu) : ps = [] ∧ f.out + len ≤ f.memory.length ∧
      Returns (f.endPacket len) fun f' =>
        f'.Inv count q [(f.memory.drop f.out).take len] := by
  obtain ⟨rfl, ha, ho, he, dest, hr, hp, hout⟩ := h.of_writing hwriting
  have hfits := h.fits hr
  have hend : f.out + len ≤ f.memory.length := by
    rw [hout]
    unfold packetprotoEnclen at hfits
    omega
  refine ⟨rfl, hend, ?_⟩
  apply Returns.bind_eq (assert_ok (decide_eq_true hlen))
  apply Returns.bind_eq (assert_ok ho)
  apply Returns.bind_eq (assert_ok hwriting)
  apply Returns.bind_eq (assert_ok (by rw [ha]; rfl))
  apply Returns.pure
  have hplen : ((f.memory.drop f.out).take len).length = len := by
    rw [List.length_take, List.length_drop]
    omega
  refine ⟨h.buffer, h.mtu_eq, h.mtu_le, .written hr he hp ?_ rfl rfl ?_ ?_⟩
  · show RecvState.donePending len = _
    rw [hplen]
  · rw [hplen]
    exact hlen
  · rw [hplen, ← hout]
    rfl

/-- `input_handler_done` of the encoder: the packet is the encoding of the payload. -/
theorem Inv.encoderDone {len : Nat} (h : f.Inv count q ps)
    (hainput : f.ainput = .donePending len) :
    Returns (encoderDone { f with ainput := .none } len) fun f' => f'.Inv count q ps := by
  cases h.stage with
  | full hr he hp ha ho hw => cases hainput.symm.trans ha
  | asked hr he hp ha ho hw => cases hainput.symm.trans ha
  | passed hr he hp ha ho hw => cases hainput.symm.trans ha
  | ready hr he hp ha ho hout => cases hainput.symm.trans ha
  | encoded hr he hp ha ho hw hlen hdata => cases hainput.symm.trans ha
  | @written dest p hr he hp ha ho hw hlen hdata =>
    cases hainput.symm.trans ha
    have hfits := h.fits hr
    unfold packetprotoEnclen at hfits
    obtain ⟨memory, hcopy, hdone, hencoded⟩ := encoderInputHandlerDone_spec
      (Nat.le_trans hlen h.mtu_le) hdata (by omega)
    have hwrite := h.write 0 (htol16 (UInt16.ofNat p.length)) hr
      (by rw [length_htol16]; unfold packetprotoEnclen packetprotoHeaderSize; omega)
    obtain ⟨memory', hcopy', hbuffer⟩ := hwrite
    rw [Nat.add_zero, hcopy] at hcopy'
    cases hcopy'
    unfold PacketProtoFlow.encoderDone
    dsimp only
    rw [hp]
    apply Returns.bind_eq hdone
    have hle : (encode p).length ≤ packetprotoEnclen f.inputMtu := by
      rw [length_encode]
      unfold packetprotoEnclen
      omega
    apply Returns.bind_eq (assert_ok (decide_eq_true hle))
    apply Returns.bind_eq (assert_ok (by rw [he]; rfl))
    apply Returns.pure
    exact ⟨hbuffer, h.mtu_eq, h.mtu_le, .encoded hr rfl rfl rfl ho hw hlen hencoded⟩

/-- `input_handler_done` of the buffer: the packet is held. -/
theorem Inv.bufferInputDone {len : Nat} (h : f.Inv count q ps)
    (hencoder : f.encoder = .donePending len) :
    Returns (bufferInputDone { f with encoder := .none } len) fun f' =>
      f'.Inv count (q ++ ps.map encode) [] := by
  cases h.stage with
  | full hr he hp ha ho hw => cases hencoder.symm.trans he
  | asked hr he hp ha ho hw => cases hencoder.symm.trans he
  | passed hr he hp ha ho hw => cases hencoder.symm.trans he
  | ready hr he hp ha ho hout => cases hencoder.symm.trans he
  | written hr he hp ha ho hw hlen hdata => cases hencoder.symm.trans he
  | @encoded dest p hr he hp ha ho hw hlen hdata =>
    cases hencoder.symm.trans he
    have hle : (encode p).length ≤ f.buffer.inputMtu := by
      rw [h.mtu_eq, length_encode]
      unfold packetprotoEnclen
      omega
    apply Returns.bind (h.buffer.inputHandlerDone hr hle hdata rfl)
    rintro buffer ⟨hbuffer, hmtu⟩
    apply Returns.pure
    exact ⟨hbuffer, hmtu.trans h.mtu_eq, h.mtu_le, stage_recvCalled rfl hp ha ho hw⟩

/-- `output_handler_done` of the buffer: the first packet is taken. -/
theorem Inv.bufferOutputDone {dest len : Nat} (h : f.Inv count q ps)
    (hsending : f.buffer.sending = some (dest, len)) :
    ∃ p q', q = p :: q' ∧ (f.memory.drop (blockSize * dest)).take len = p ∧
      blockSize * dest + len ≤ f.memory.length ∧
      Returns f.bufferOutputDone fun f' => f'.Inv count q' ps := by
  obtain ⟨p, q', rfl, hp, hfits, hdone⟩ := h.buffer.outputHandlerDone hsending
  refine ⟨p, q', rfl, hp, hfits, ?_⟩
  apply Returns.bind hdone
  rintro buffer ⟨hbuffer, hmtu, hmemory, hsame⟩
  apply Returns.pure
  refine ⟨hbuffer, hmtu.trans h.mtu_eq, h.mtu_le, ?_⟩
  cases h.stage with
  | full hr he hpk ha ho hw =>
    have hnone : ¬ f.buffer.receiving.isSome = true := by rw [hr]; exact Bool.false_ne_true
    exact stage_recvCalled (if_neg hnone) hpk ha ho hw
  | asked hr he hpk ha ho hw =>
    have hsome : f.buffer.receiving.isSome = true := by rw [hr]; rfl
    exact .asked ((hsame hsome).trans hr) ((if_pos hsome).trans he) hpk ha ho hw
  | passed hr he hpk ha ho hw =>
    have hsome : f.buffer.receiving.isSome = true := by rw [hr]; rfl
    exact .passed ((hsame hsome).trans hr) ((if_pos hsome).trans he) hpk ha ho hw
  | ready hr he hpk ha ho hout =>
    have hsome : f.buffer.receiving.isSome = true := by rw [hr]; rfl
    exact .ready ((hsame hsome).trans hr) ((if_pos hsome).trans he) hpk ha ho hout
  | written hr he hpk ha ho hw hlen hdata =>
    have hsome : f.buffer.receiving.isSome = true := by rw [hr]; rfl
    rw [memory, ← hmemory] at hdata
    exact .written ((hsame hsome).trans hr) ((if_pos hsome).trans he) hpk ha ho hw hlen hdata
  | encoded hr he hpk ha ho hw hlen hdata =>
    have hsome : f.buffer.receiving.isSome = true := by rw [hr]; rfl
    rw [memory, ← hmemory] at hdata
    exact .encoded ((hsame hsome).trans hr) ((if_pos hsome).trans he) hpk ha ho hw hlen hdata

/-! ## Runs keep the invariant -/

/-- `PacketProtoFlow_Init`. -/
theorem inv_init {inputMtu : Nat} {buffer : PacketBuffer}
    (hbuffer : buffer.Inv count []) (hmtu : buffer.inputMtu = packetprotoEnclen inputMtu)
    (hmax : inputMtu ≤ packetprotoMaxpayload) :
    (init inputMtu buffer).Inv count [] [] :=
  ⟨hbuffer, hmtu, hmax, stage_recvCalled rfl rfl rfl rfl rfl⟩

end PacketProtoFlow

namespace FlowRun

variable {count : Nat}

/-- What was submitted was taken, is held, or is on its way, in this order. -/
def Inv (count : Nat) (r : FlowRun) : Prop :=
  ∃ q ps, r.flow.Inv count q ps ∧ r.submitted.map encode = r.taken ++ q ++ ps.map encode

/-- A step of the flow. -/
theorem exec_spec {r : FlowRun} {e : FlowEvent} (h : r.Inv count) (he : r.enabled e = true) :
    Returns (r.exec e) (Inv count) := by
  obtain ⟨q, ps, hinv, hsubmitted⟩ := h
  cases e with
  | encoderJob =>
    unfold enabled at he
    cases hencoder : r.flow.encoder with
    | none => rw [hencoder] at he; cases he
    | busy => rw [hencoder] at he; cases he
    | operationPending data =>
      unfold exec
      rw [hencoder]
      apply Returns.bind (hinv.encoderOperation hencoder)
      intro flow hflow
      exact Returns.pure ⟨q, ps, hflow, hsubmitted⟩
    | donePending len =>
      unfold exec
      rw [hencoder]
      apply Returns.bind (hinv.bufferInputDone hencoder)
      intro flow hflow
      apply Returns.pure
      refine ⟨_, [], hflow, ?_⟩
      rw [List.map_nil, List.append_nil, ← List.append_assoc]
      exact hsubmitted
  | writerJob =>
    unfold enabled at he
    cases hainput : r.flow.ainput with
    | none => rw [hainput] at he; cases he
    | busy => rw [hainput] at he; cases he
    | operationPending data =>
      unfold exec
      rw [hainput]
      apply Returns.bind (hinv.writerOperation hainput)
      intro flow hflow
      exact Returns.pure ⟨q, ps, hflow, hsubmitted⟩
    | donePending len =>
      unfold exec
      rw [hainput]
      apply Returns.bind (hinv.encoderDone hainput)
      intro flow hflow
      exact Returns.pure ⟨q, ps, hflow, hsubmitted⟩
  | startPacket =>
    apply Returns.bind (hinv.startPacket (by simpa [enabled] using he))
    intro flow hflow
    exact Returns.pure ⟨q, ps, hflow, hsubmitted⟩
  | write offset data =>
    obtain ⟨hwriting, hlen⟩ := Bool.and_eq_true_iff.mp he
    apply Returns.bind (hinv.userWrite hwriting (of_decide_eq_true hlen))
    intro memory hflow
    exact Returns.pure ⟨q, ps, hflow, hsubmitted⟩
  | endPacket len =>
    obtain ⟨hwriting, hlen⟩ := Bool.and_eq_true_iff.mp he
    obtain ⟨rfl, hfits, hend⟩ := hinv.endPacket hwriting (of_decide_eq_true hlen)
    apply Returns.bind_eq (slice_ok hfits)
    apply Returns.bind hend
    intro flow hflow
    apply Returns.pure
    refine ⟨q, _, hflow, ?_⟩
    rw [List.map_append, hsubmitted, List.map_nil, List.append_nil]
  | outputDone =>
    obtain ⟨⟨dest, len⟩, hsending⟩ := Option.isSome_iff_exists.mp he
    obtain ⟨p, q', rfl, hp, hfits, hdone⟩ := hinv.bufferOutputDone hsending
    unfold exec
    rw [hsending]
    apply Returns.bind_eq (slice_ok hfits)
    apply Returns.bind hdone
    intro flow hflow
    apply Returns.pure
    refine ⟨q', ps, hflow, ?_⟩
    rw [hsubmitted, hp, List.append_assoc r.taken [p]]
    rfl

end FlowRun

section

variable {inputMtu outputMtu numPackets blocks : Nat} {alloc : Vector UInt8 (blockSize * blocks)}
  {buffer : PacketBuffer} {es : List FlowEvent} {res : Except CFault FlowRun}

theorem packetProtoFlow_inv (hmax : inputMtu ≤ packetprotoMaxpayload)
    (hblocks : calcBlocks (packetprotoEnclen inputMtu) numPackets = some blocks)
    (hint : blockSize * blocks ≤ 2147483647) (hmtu : packetprotoEnclen inputMtu ≤ outputMtu)
    (hinit : PacketBuffer.init (packetprotoEnclen inputMtu) outputMtu alloc = .ok buffer)
    (h : (packetProtoFlow (.init inputMtu buffer)).Runs es res) :
    Returns res (FlowRun.Inv numPackets) := by
  obtain ⟨buffer', hinit', hinv, hbufferMtu⟩ := PacketBuffer.init_spec alloc hblocks hint hmtu
  rw [hinit] at hinit'
  cases hinit'
  apply h.returns (I := fun _ => FlowRun.Inv numPackets)
  · exact ⟨[], [], PacketProtoFlow.inv_init hinv hbufferMtu hmax, rfl⟩
  · intro es r e hr he
    exact FlowRun.exec_spec hr he

/-- Whatever the order of the jobs, of what the user does and of the output: no assertion fails,
and the packets that the output took are the frames of the first payloads that the user
submitted, in order and byte for byte. -/
theorem packetProtoFlow_frames (hmax : inputMtu ≤ packetprotoMaxpayload)
    (hblocks : calcBlocks (packetprotoEnclen inputMtu) numPackets = some blocks)
    (hint : blockSize * blocks ≤ 2147483647) (hmtu : packetprotoEnclen inputMtu ≤ outputMtu)
    (hinit : PacketBuffer.init (packetprotoEnclen inputMtu) outputMtu alloc = .ok buffer)
    (h : (packetProtoFlow (.init inputMtu buffer)).Runs es res) :
    ∃ r, res = .ok r ∧ r.taken <+: r.submitted.map encode := by
  obtain ⟨r, rfl, q, ps, -, hsubmitted⟩ := packetProtoFlow_inv hmax hblocks hint hmtu hinit h
  refine ⟨r, rfl, q ++ ps.map encode, ?_⟩
  rw [hsubmitted, List.append_assoc]

/-- One payload of one byte, through the flow for one payload of two bytes. -/
theorem packetProtoFlow_frames_one :
    ∃ r : FlowRun, r.taken = [[1, 0, 9]] ∧ r.taken <+: r.submitted.map encode := by
  have hends : (packetProtoFlow (.init 2 smallBuffer)).ends
      [.encoderJob, .writerJob, .startPacket, .write 0 [9], .endPacket 1, .writerJob, .encoderJob,
        .outputDone] (fun r => r.taken == [[1, 0, 9]]) = true := by
    decide
  obtain ⟨r, hruns, hr⟩ := Machine.runs_of_ends hends
  have hblocks : calcBlocks (packetprotoEnclen 2) 1 = some 4 := by decide
  have hinit : PacketBuffer.init (packetprotoEnclen 2) 4 (Vector.replicate (blockSize * 4) 0) =
      .ok smallBuffer := by
    decide
  obtain ⟨r', hr', htaken⟩ :=
    packetProtoFlow_frames (by decide) hblocks (by decide) (by decide) hinit hruns
  cases hr'
  exact ⟨r, eq_of_beq hr, htaken⟩

/-- The user is refused a packet only while a job is pending that brings the place for one
nearer, or while at least as many packets are waiting as the buffer was made for, one of them at
the output. -/
theorem startPacket_refused (hmax : inputMtu ≤ packetprotoMaxpayload) (hpos : 0 < numPackets)
    (hblocks : calcBlocks (packetprotoEnclen inputMtu) numPackets = some blocks)
    (hint : blockSize * blocks ≤ 2147483647) (hmtu : packetprotoEnclen inputMtu ≤ outputMtu)
    (hinit : PacketBuffer.init (packetprotoEnclen inputMtu) outputMtu alloc = .ok buffer)
    (h : (packetProtoFlow (.init inputMtu buffer)).Runs es res) :
    ∃ r, res = .ok r ∧ (r.flow.outHave = false →
      FlowRun.pending r.flow.encoder = true ∨ FlowRun.pending r.flow.ainput = true ∨
      numPackets + r.taken.length ≤ r.submitted.length ∧
        r.flow.buffer.sending.isSome = true) := by
  obtain ⟨r, rfl, q, ps, hinv, hsubmitted⟩ := packetProtoFlow_inv hmax hblocks hint hmtu hinit h
  refine ⟨r, rfl, fun hhave => ?_⟩
  cases hinv.stage with
  | ready hr he hp ha ho hout => cases hhave.symm.trans ho
  | asked hr he hp ha ho hw => exact Or.inl (by rw [he]; rfl)
  | passed hr he hp ha ho hw => exact Or.inr (Or.inl (by rw [ha]; rfl))
  | written hr he hp ha ho hw hlen hdata => exact Or.inr (Or.inl (by rw [ha]; rfl))
  | encoded hr he hp ha ho hw hlen hdata => exact Or.inl (by rw [he]; rfl)
  | full hr he hp ha ho hw =>
    obtain ⟨hcount, hsending⟩ := hinv.buffer.full hpos hr
    have hlen := congrArg List.length hsubmitted
    simp only [List.length_map, List.length_append, List.map_nil, List.length_nil] at hlen
    exact Or.inr (Or.inr ⟨by omega, hsending⟩)

/-- With two payloads waiting there is no place for a third one: no job is pending, and one of
them is at the output. -/
theorem startPacket_refused_full :
    ∃ r : FlowRun, r.flow.outHave = false ∧ 1 + r.taken.length ≤ r.submitted.length ∧
      r.flow.buffer.sending.isSome = true := by
  have hends : (packetProtoFlow (.init 2 smallBuffer)).ends
      [.encoderJob, .writerJob, .startPacket, .endPacket 2, .writerJob, .encoderJob, .encoderJob,
        .writerJob, .startPacket, .endPacket 2, .writerJob, .encoderJob]
      (fun r => r.flow.outHave == false && FlowRun.pending r.flow.encoder == false &&
        FlowRun.pending r.flow.ainput == false) = true := by
    decide
  obtain ⟨r, hruns, hr⟩ := Machine.runs_of_ends hends
  simp only [Bool.and_eq_true, beq_iff_eq] at hr
  obtain ⟨⟨hhave, hencoder⟩, hainput⟩ := hr
  have hblocks : calcBlocks (packetprotoEnclen 2) 1 = some 4 := by decide
  have hinit : PacketBuffer.init (packetprotoEnclen 2) 4 (Vector.replicate (blockSize * 4) 0) =
      .ok smallBuffer := by
    decide
  obtain ⟨r', hr', hrefused⟩ :=
    startPacket_refused (by decide) (by decide) hblocks (by decide) (by decide) hinit hruns
  cases hr'
  rcases hrefused hhave with hpending | hpending | hfull
  · cases hencoder.symm.trans hpending
  · cases hainput.symm.trans hpending
  · exact ⟨r, hhave, hfull⟩

end

end Lightsocks.Flow
