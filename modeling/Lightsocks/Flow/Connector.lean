import Lightsocks.Flow.PacketProto
import Lightsocks.Lib.Resume

/-!
# Packets over connections that come and go

`PacketPassConnector` accepts one packet at a time and passes it to its output when it has one,
and `PacketStreamSender`, its output, writes the packet into a stream, which takes it in parts.
When the connection ends, the sender and its jobs are freed; the connector keeps the packet that
it was not told to be done, and passes it to the next sender.
-/

namespace Lightsocks.Flow

open Lightsocks.Lib

/-- The state of a `PacketPassInterface`, with the packet that its pending job was given. -/
inductive PassState
  | none
  | operationPending (data : List UInt8)
  | busy
  | donePending
  deriving DecidableEq, Repr

/-- `PacketStreamSender`; `in_len` is -1 when there is no packet. -/
structure StreamSender where
  input : PassState
  inLen : Int
  inData : List UInt8
  inUsed : Nat
  /-- The stream interface was called and is not done. -/
  outputBusy : Bool
  deriving DecidableEq, Repr

namespace StreamSender

/-- `PacketStreamSender_Init`. -/
def init : StreamSender where
  input := .none
  inLen := -1
  inData := []
  inUsed := 0
  outputBusy := false

/-- `PacketPassInterface_Sender_Send`, to a sender made for packets up to `mtu`. -/
def send (mtu : Nat) (s : StreamSender) (data : List UInt8) : Except CFault StreamSender := do
  assert (decide (data.length ≤ mtu))
  assert (s.input == .none)
  return { s with input := .operationPending data }

/-- `send_data`. -/
def sendData (s : StreamSender) : Except CFault StreamSender := do
  assert (decide (0 ≤ s.inLen))
  if (s.inUsed : Int) < s.inLen then do
    assert (!s.outputBusy)
    return { s with outputBusy := true }
  else do
    assert (s.input == .busy)
    return { s with inLen := -1, input := .donePending }

/-- `input_handler_send` of the sender. -/
def inputHandlerSend (s : StreamSender) (data : List UInt8) : Except CFault StreamSender := do
  assert (s.inLen == -1)
  sendData { s with inLen := data.length, inData := data, inUsed := 0 }

/-- `output_handler_done` of the sender: the stream took `dataLen` bytes. -/
def outputHandlerDone (s : StreamSender) (dataLen : Nat) : Except CFault StreamSender := do
  assert (decide (0 ≤ s.inLen))
  assert (decide (0 < dataLen))
  assert (decide ((dataLen : Int) ≤ s.inLen - s.inUsed))
  sendData { s with inUsed := s.inUsed + dataLen, outputBusy := false }

end StreamSender

/-- `PacketPassConnector`, with the sender that is its output. -/
structure Connector where
  inputMtu : Nat
  input : PassState
  inLen : Int
  inData : List UInt8
  output : Option StreamSender
  deriving DecidableEq, Repr

namespace Connector

/-- `PacketPassConnector_Init`. -/
def init (mtu : Nat) : Connector where
  inputMtu := mtu
  input := .none
  inLen := -1
  inData := []
  output := none

/-- `input_handler_send` of the connector. -/
def inputHandlerSend (c : Connector) (data : List UInt8) : Except CFault Connector := do
  assert (decide (data.length ≤ c.inputMtu))
  assert (c.inLen == -1)
  let c := { c with inLen := data.length, inData := data }
  match c.output with
  | none => return c
  | some s => do
    let s ← s.send c.inputMtu data
    return { c with output := some s }

/-- `output_handler_done` of the connector. -/
def outputHandlerDone (c : Connector) : Except CFault Connector := do
  assert (decide (0 ≤ c.inLen))
  assert c.output.isSome
  assert (c.input == .busy)
  return { c with inLen := -1, input := .donePending }

/-- `PacketPassConnector_ConnectOutput`, to a new sender. -/
def connectOutput (c : Connector) : Except CFault Connector := do
  assert c.output.isNone
  if 0 ≤ c.inLen then do
    let s ← StreamSender.init.send c.inputMtu c.inData
    return { c with output := some s }
  else return { c with output := some .init }

/-- `PacketPassConnector_DisconnectOutput`; the sender is freed with its jobs. -/
def disconnectOutput (c : Connector) : Except CFault Connector := do
  assert c.output.isSome
  return { c with output := none }

end Connector

/-! ## Runs -/

/-- The connector, with the packets it was sent, the streams of the connections that ended, and
that of the last one. -/
structure ConnectorRun where
  con : Connector
  sent : List (List UInt8)
  ended : List (List UInt8)
  stream : List UInt8
  deriving DecidableEq, Repr

inductive ConnectorEvent
  /-- A packet is sent to the connector. -/
  | send (data : List UInt8)
  /-- A job of the connector's input interface. -/
  | inputJob
  /-- A job of the sender's input interface. -/
  | senderJob
  /-- The stream took some bytes. -/
  | streamDone (dataLen : Nat)
  | connect
  | disconnect
  deriving DecidableEq, Repr

namespace ConnectorRun

def exec (r : ConnectorRun) : ConnectorEvent → Except CFault ConnectorRun
  | .send data => do
    -- `PacketPassInterface_Sender_Send`
    assert (decide (data.length ≤ r.con.inputMtu))
    assert (r.con.input == .none)
    return { r with
      con := { r.con with input := .operationPending data }, sent := r.sent ++ [data] }
  | .inputJob =>
    match r.con.input with
    | .operationPending data => do
      let con ← Connector.inputHandlerSend { r.con with input := .busy } data
      return { r with con }
    | .donePending => return { r with con := { r.con with input := .none } }
    | _ => throw .assertion
  | .senderJob =>
    match r.con.output with
    | none => throw .assertion
    | some s =>
      match s.input with
      | .operationPending data => do
        let s ← StreamSender.inputHandlerSend { s with input := .busy } data
        return { r with con := { r.con with output := some s } }
      | .donePending => do
        let con ← Connector.outputHandlerDone
          { r.con with output := some { s with input := .none } }
        return { r with con }
      | _ => throw .assertion
  | .streamDone dataLen =>
    match r.con.output with
    | none => throw .assertion
    | some s => do
      let data ← slice s.inData s.inUsed dataLen
      let s ← s.outputHandlerDone dataLen
      return { r with con := { r.con with output := some s }, stream := r.stream ++ data }
  | .connect => do
    let con ← r.con.connectOutput
    return { r with con }
  | .disconnect => do
    let con ← r.con.disconnectOutput
    return { r with con, ended := r.ended ++ [r.stream], stream := [] }

/-- A job runs when it is pending; the stream is done with at least one of the bytes it was
given; connections do not overlap. -/
def enabled (r : ConnectorRun) : ConnectorEvent → Bool
  | .send data => r.con.input == .none && decide (data.length ≤ r.con.inputMtu)
  | .inputJob =>
    match r.con.input with
    | .operationPending _ => true
    | .donePending => true
    | _ => false
  | .senderJob =>
    match r.con.output with
    | none => false
    | some s =>
      match s.input with
      | .operationPending _ => true
      | .donePending => true
      | _ => false
  | .streamDone dataLen =>
    match r.con.output with
    | none => false
    | some s => s.outputBusy && decide (0 < dataLen ∧ (dataLen : Int) ≤ s.inLen - s.inUsed)
  | .connect => r.con.output.isNone
  | .disconnect => r.con.output.isSome

end ConnectorRun

/-- A connector for packets up to `mtu`, from its initialization on. -/
def connector (mtu : Nat) : Machine ConnectorRun ConnectorEvent CFault where
  init := { con := .init mtu, sent := [], ended := [], stream := [] }
  enabled := ConnectorRun.enabled
  exec := ConnectorRun.exec

/-! ## The invariant -/

/-- What the sender does with the packet that the connector holds, and how much of it is on the
stream. -/
inductive StreamSender.Sends (s : StreamSender) : Option (List UInt8) → List UInt8 → Prop
  | idle (hi : s.input = .none) (hl : s.inLen = -1) (hb : s.outputBusy = false) : Sends s none []
  | called {p : List UInt8} (hi : s.input = .operationPending p) (hl : s.inLen = -1)
      (hb : s.outputBusy = false) : Sends s (some p) []
  | sending {p : List UInt8} (hi : s.input = .busy) (hl : s.inLen = p.length)
      (hd : s.inData = p) (hu : s.inUsed < p.length) (hb : s.outputBusy = true) :
      Sends s (some p) (p.take s.inUsed)
  | sent {p : List UInt8} (hi : s.input = .donePending) (hl : s.inLen = -1)
      (hb : s.outputBusy = false) : Sends s (some p) p

/-- The packet that the connector was sent and is not done with, the one that it holds, and how
much of it is on the stream. -/
inductive Connector.Holds (c : Connector) : List (List UInt8) → Option (List UInt8) → Prop
  | none (hi : c.input = .none ∨ c.input = .donePending) (hl : c.inLen = -1) : Holds c [] none
  | pending {p : List UInt8} (hi : c.input = .operationPending p) (hl : c.inLen = -1)
      (hp : p.length ≤ c.inputMtu) : Holds c [p] none
  | held {p : List UInt8} (hi : c.input = .busy) (hl : c.inLen = p.length) (hd : c.inData = p)
      (hp : p.length ≤ c.inputMtu) : Holds c [p] (some p)

/-- What the sender, if there is one, does with the packet that the connector holds. -/
def Connector.Progress (c : Connector) (held : Option (List UInt8)) (part : List UInt8) : Prop :=
  match c.output with
  | none => part = []
  | some s => s.Sends held part

/-- The invariant: the packets `done` are finished, `pending` is under way, and the last
connection started with the `k`th packet. -/
structure ConnectorRun.Inv (r : ConnectorRun) (done pending : List (List UInt8))
    (held : Option (List UInt8)) (part : List UInt8) (k : Nat) : Prop where
  sent : r.sent = done ++ pending
  holds : r.con.Holds pending held
  progress : r.con.Progress held part
  le : k ≤ done.length
  ended : Resumes r.sent k r.ended
  stream : r.stream = (done.drop k).flatten ++ part

/-! ## Steps -/

/-- `send_data`: the sender goes on with the packet, or is done with it. -/
theorem StreamSender.sendData_spec {s : StreamSender} {p : List UInt8} (hi : s.input = .busy)
    (hl : s.inLen = p.length) (hd : s.inData = p) (hu : s.inUsed ≤ p.length)
    (hb : s.outputBusy = false) :
    Returns s.sendData fun s' => s'.Sends (some p) (p.take s.inUsed) := by
  apply Returns.bind_eq (assert_ok (decide_eq_true (by omega)))
  by_cases hlt : s.inUsed < p.length
  · rw [if_pos (by omega)]
    apply Returns.bind_eq (assert_ok (by rw [hb]; rfl))
    exact Returns.pure (.sending hi hl hd hlt rfl)
  · rw [if_neg (by omega), List.take_of_length_le (by omega)]
    apply Returns.bind_eq (assert_ok (by rw [hi]; rfl))
    exact Returns.pure (.sent rfl rfl hb)

/-- A sender without a packet is sent one. -/
theorem StreamSender.send_spec {s : StreamSender} {p part : List UInt8} {mtu : Nat}
    (h : s.Sends none part) (hp : p.length ≤ mtu) :
    Returns (s.send mtu p) fun s' => s'.Sends (some p) [] := by
  cases h with
  | idle hi hl hb =>
    apply Returns.bind_eq (assert_ok (decide_eq_true hp))
    apply Returns.bind_eq (assert_ok (by rw [hi]; rfl))
    exact Returns.pure (.called rfl hl hb)

/-- What the connector holds does not depend on its sender. -/
theorem Connector.Holds.withOutput {c : Connector} {pending : List (List UInt8)}
    {held : Option (List UInt8)} (h : c.Holds pending held) (output : Option StreamSender) :
    Connector.Holds { c with output } pending held := by
  cases h with
  | none hi hl => exact .none hi hl
  | pending hi hl hp => exact .pending hi hl hp
  | held hi hl hd hp => exact .held hi hl hd hp

/-- The connector is sent a packet, and passes it to its sender if it has one. -/
theorem Connector.inputHandlerSend_spec {c : Connector} {p part : List UInt8}
    (hi : c.input = .busy) (hl : c.inLen = -1) (hp : p.length ≤ c.inputMtu)
    (hprogress : c.Progress none part) :
    Returns (c.inputHandlerSend p) fun c' => c'.Holds [p] (some p) ∧ c'.Progress (some p) [] := by
  apply Returns.bind_eq (assert_ok (decide_eq_true hp))
  apply Returns.bind_eq (assert_ok (by rw [hl]; rfl))
  unfold Connector.Progress at hprogress
  cases hout : c.output with
  | none =>
    exact Returns.pure ⟨.held hi rfl rfl hp, rfl⟩
  | some s =>
    rw [hout] at hprogress
    apply Returns.bind (StreamSender.send_spec hprogress hp)
    intro s' hs'
    exact Returns.pure ⟨.held hi rfl rfl hp, hs'⟩

/-- The sender is done with the packet. -/
theorem Connector.outputHandlerDone_spec {c : Connector} {s : StreamSender} {p : List UInt8}
    (h : c.Holds [p] (some p)) (hout : c.output = some s) (hs : s.Sends none []) :
    Returns c.outputHandlerDone fun c' => c'.Holds [] none ∧ c'.Progress none [] := by
  cases h with
  | held hi hl hd hp =>
    apply Returns.bind_eq (assert_ok (decide_eq_true (by omega)))
    apply Returns.bind_eq (assert_ok (by rw [hout]; rfl))
    apply Returns.bind_eq (assert_ok (by rw [hi]; rfl))
    refine Returns.pure ⟨.none (Or.inr rfl) rfl, ?_⟩
    show match c.output with | none => _ | some s => _
    rw [hout]
    exact hs

/-- A new sender is passed the packet that the connector holds, if it holds one. -/
theorem Connector.connectOutput_spec {c : Connector} {pending : List (List UInt8)}
    {held : Option (List UInt8)} (h : c.Holds pending held) (hnone : c.output = none) :
    Returns c.connectOutput fun c' => c'.Holds pending held ∧ c'.Progress held [] := by
  apply Returns.bind_eq (assert_ok (by rw [hnone]; rfl))
  cases h with
  | none hi hl =>
    rw [if_neg (by omega)]
    exact Returns.pure ⟨.none hi hl, .idle rfl rfl rfl⟩
  | pending hi hl hp =>
    rw [if_neg (by omega)]
    exact Returns.pure ⟨.pending hi hl hp, .idle rfl rfl rfl⟩
  | held hi hl hd hp =>
    rw [if_pos (by omega), hd]
    apply Returns.bind (StreamSender.send_spec (.idle rfl rfl rfl) hp)
    intro s hs
    exact Returns.pure ⟨.held hi hl rfl hp, hs⟩

/-- Without its sender, the connector holds what it held. -/
theorem Connector.disconnectOutput_spec {c : Connector} {pending : List (List UInt8)}
    {held : Option (List UInt8)} (h : c.Holds pending held) (hsome : c.output.isSome = true) :
    Returns c.disconnectOutput fun c' => c'.Holds pending held ∧ c'.Progress held [] := by
  apply Returns.bind_eq (assert_ok hsome)
  exact Returns.pure ⟨h.withOutput _, rfl⟩

namespace ConnectorRun

variable {r : ConnectorRun} {done pending : List (List UInt8)} {held : Option (List UInt8)}
  {part : List UInt8} {k : Nat}

/-- Without a packet, nothing of one is on the stream. -/
theorem Inv.part_eq_nil (h : r.Inv done pending none part k) : part = [] := by
  have hprogress := h.progress
  unfold Connector.Progress at hprogress
  split at hprogress
  · exact hprogress
  · cases hprogress
    rfl

/-- What the sender put on the stream of the packet that is under way is a part of it. -/
theorem Inv.part_prefix (h : r.Inv done pending held part k) : part <+: pending.head?.getD [] := by
  have hprogress := h.progress
  unfold Connector.Progress at hprogress
  split at hprogress
  · rw [hprogress]
    exact List.nil_prefix
  · cases hprogress with
    | idle hi hl hb => exact List.nil_prefix
    | called hi hl hb => exact List.nil_prefix
    | sending hi hl hd hu hb =>
      cases h.holds
      exact List.take_prefix _ _
    | sent hi hl hb =>
      cases h.holds
      exact List.prefix_refl _

/-- What the last connection carried so far. -/
theorem Inv.carries (h : r.Inv done pending held part k) :
    Carries r.sent k (done.length - k) r.stream := by
  have hle := h.le
  refine ⟨?_, part, ?_, ?_⟩
  · rw [h.sent, List.length_append]
    omega
  · rw [h.stream, h.sent, List.drop_append_of_le_length hle, List.take_left' List.length_drop]
  · have hnext : r.sent[k + (done.length - k)]? = pending.head? := by
      rw [h.sent, List.getElem?_append_right (by omega), List.head?_eq_getElem?]
      congr 1
      omega
    rw [hnext]
    exact h.part_prefix

theorem Inv.send {data : List UInt8} (h : r.Inv done pending held part k)
    (hinput : r.con.input = .none) (hlen : data.length ≤ r.con.inputMtu) :
    Returns (r.exec (.send data)) fun r' => r'.Inv done [data] none part k := by
  cases h.holds with
  | pending hi hl hp => cases hinput.symm.trans hi
  | held hi hl hd hp => cases hinput.symm.trans hi
  | none hi hl =>
    apply Returns.bind_eq (assert_ok (decide_eq_true hlen))
    apply Returns.bind_eq (assert_ok (by rw [hinput]; rfl))
    apply Returns.pure
    refine ⟨?_, .pending rfl hl hlen, h.progress, h.le, h.ended.append _, h.stream⟩
    rw [h.sent, List.append_nil]

theorem Inv.inputOperation {data : List UInt8} (h : r.Inv done pending held part k)
    (hinput : r.con.input = .operationPending data) :
    Returns (r.exec .inputJob) fun r' => r'.Inv done pending (some data) [] k := by
  cases h.holds with
  | none hi hl =>
    rcases hi with hi | hi
    · cases hinput.symm.trans hi
    · cases hinput.symm.trans hi
  | held hi hl hd hp => cases hinput.symm.trans hi
  | pending hi hl hp =>
    cases hinput.symm.trans hi
    have hstream := h.stream
    rw [h.part_eq_nil] at hstream
    unfold exec
    rw [hinput]
    have hspec := Connector.inputHandlerSend_spec (c := { r.con with input := .busy }) rfl hl hp
      h.progress
    apply Returns.bind hspec
    rintro con ⟨hholds, hprogress⟩
    exact Returns.pure ⟨h.sent, hholds, hprogress, h.le, h.ended, hstream⟩

theorem Inv.inputDone (h : r.Inv done pending held part k)
    (hinput : r.con.input = .donePending) :
    Returns (r.exec .inputJob) fun r' => r'.Inv done pending held part k := by
  cases h.holds with
  | pending hi hl hp => cases hinput.symm.trans hi
  | held hi hl hd hp => cases hinput.symm.trans hi
  | none hi hl =>
    unfold exec
    rw [hinput]
    exact Returns.pure ⟨h.sent, .none (Or.inl rfl) hl, h.progress, h.le, h.ended, h.stream⟩

theorem Inv.senderOperation {s : StreamSender} {data : List UInt8}
    (h : r.Inv done pending held part k) (hout : r.con.output = some s)
    (hinput : s.input = .operationPending data) :
    Returns (r.exec .senderJob) fun r' => ∃ part', r'.Inv done pending held part' k := by
  have hprogress := h.progress
  have hstream := h.stream
  rw [Connector.Progress, hout] at hprogress
  cases hprogress with
  | idle hi hl hb => cases hinput.symm.trans hi
  | sending hi hl hd hu hb => cases hinput.symm.trans hi
  | sent hi hl hb => cases hinput.symm.trans hi
  | called hi hl hb =>
    cases hinput.symm.trans hi
    unfold exec
    rw [hout]
    dsimp only
    rw [hinput]
    have hspec := StreamSender.sendData_spec (p := data)
      (s := { s with input := .busy, inLen := data.length, inData := data, inUsed := 0 }) rfl rfl
      rfl (Nat.zero_le _) hb
    apply Returns.bind (Returns.bind_eq (assert_ok (by rw [hl]; rfl)) hspec)
    intro s' hs'
    exact Returns.pure ⟨_, h.sent, h.holds.withOutput _, hs', h.le, h.ended, hstream⟩

theorem Inv.senderDone {s : StreamSender} (h : r.Inv done pending held part k)
    (hout : r.con.output = some s) (hinput : s.input = .donePending) :
    Returns (r.exec .senderJob) fun r' => r'.Inv (done ++ pending) [] none [] k := by
  have hprogress := h.progress
  have hstream := h.stream
  have hle := h.le
  rw [Connector.Progress, hout] at hprogress
  cases hprogress with
  | idle hi hl hb => cases hinput.symm.trans hi
  | called hi hl hb => cases hinput.symm.trans hi
  | sending hi hl hd hu hb => cases hinput.symm.trans hi
  | sent hi hl hb =>
    have hsent := h.sent
    have hholds := h.holds
    generalize hheld : (some part : Option (List UInt8)) = held at hholds
    cases hholds with
    | none hi hl => cases hheld
    | pending hi hl hp => cases hheld
    | held hci hcl hcd hcp =>
      cases hheld
      unfold exec
      rw [hout]
      dsimp only
      rw [hinput]
      apply Returns.bind (Connector.outputHandlerDone_spec
        (c := { r.con with output := some { s with input := .none } })
        (.held hci hcl hcd hcp) rfl (.idle rfl hl hb))
      rintro con ⟨hholds', hprogress'⟩
      apply Returns.pure
      refine ⟨?_, hholds', hprogress', ?_, h.ended, ?_⟩
      · rw [List.append_nil]
        exact hsent
      · rw [List.length_append]
        omega
      · rw [List.drop_append_of_le_length hle, List.flatten_append, List.flatten_singleton,
          List.append_nil]
        exact hstream

theorem Inv.streamDone {s : StreamSender} {dataLen : Nat} (h : r.Inv done pending held part k)
    (hout : r.con.output = some s) (hbusy : s.outputBusy = true) (hpos : 0 < dataLen)
    (hle : (dataLen : Int) ≤ s.inLen - s.inUsed) :
    Returns (r.exec (.streamDone dataLen)) fun r' =>
      ∃ part', r'.Inv done pending held part' k := by
  have hprogress := h.progress
  have hstream := h.stream
  rw [Connector.Progress, hout] at hprogress
  cases hprogress with
  | idle hi hl hb => cases hbusy.symm.trans hb
  | called hi hl hb => cases hbusy.symm.trans hb
  | sent hi hl hb => cases hbusy.symm.trans hb
  | @sending p hi hl hd hu hb =>
    unfold exec
    rw [hout]
    apply Returns.bind_eq (slice_ok (by rw [hd]; omega))
    have hused : s.inUsed + dataLen ≤ p.length := by omega
    have hspec := StreamSender.sendData_spec (p := p)
      (s := { s with inUsed := s.inUsed + dataLen, outputBusy := false }) hi hl hd hused rfl
    apply Returns.bind (Returns.bind_eq (assert_ok (decide_eq_true (by omega)))
      (Returns.bind_eq (assert_ok (decide_eq_true hpos))
        (Returns.bind_eq (assert_ok (decide_eq_true hle)) hspec)))
    intro s' hs'
    apply Returns.pure
    refine ⟨_, h.sent, h.holds.withOutput _, hs', h.le, h.ended, ?_⟩
    rw [hstream, hd, List.append_assoc, ← List.take_add]

theorem Inv.connect (h : r.Inv done pending held part k) (hnone : r.con.output = none) :
    Returns (r.exec .connect) fun r' => r'.Inv done pending held part k := by
  have hprogress := h.progress
  rw [Connector.Progress, hnone] at hprogress
  subst hprogress
  apply Returns.bind (Connector.connectOutput_spec h.holds hnone)
  rintro con ⟨hholds, hprogress⟩
  exact Returns.pure ⟨h.sent, hholds, hprogress, h.le, h.ended, h.stream⟩

theorem Inv.disconnect (h : r.Inv done pending held part k) (hsome : r.con.output.isSome = true) :
    Returns (r.exec .disconnect) fun r' => r'.Inv done pending held [] done.length := by
  have hcount : done.length = k + (done.length - k) := (Nat.add_sub_of_le h.le).symm
  apply Returns.bind (Connector.disconnectOutput_spec h.holds hsome)
  rintro con ⟨hholds, hprogress⟩
  apply Returns.pure
  refine ⟨h.sent, hholds, hprogress, Nat.le_refl _, ?_, ?_⟩
  · rw [hcount]
    exact h.ended.snoc h.carries
  · rw [List.drop_length]
    rfl

/-- A step of the connector. -/
theorem Inv.exec_spec {e : ConnectorEvent} (h : r.Inv done pending held part k)
    (he : r.enabled e = true) :
    Returns (r.exec e) fun r' => ∃ done pending held part k, r'.Inv done pending held part k := by
  unfold enabled at he
  cases e with
  | send data =>
    obtain ⟨hinput, hlen⟩ := Bool.and_eq_true_iff.mp he
    apply Returns.mono (h.send (eq_of_beq hinput) (of_decide_eq_true hlen))
    intro r' h'
    exact ⟨_, _, _, _, _, h'⟩
  | inputJob =>
    cases hinput : r.con.input with
    | none => simp [hinput] at he
    | busy => simp [hinput] at he
    | operationPending data =>
      apply Returns.mono (h.inputOperation hinput)
      intro r' h'
      exact ⟨_, _, _, _, _, h'⟩
    | donePending =>
      apply Returns.mono (h.inputDone hinput)
      intro r' h'
      exact ⟨_, _, _, _, _, h'⟩
  | senderJob =>
    cases hout : r.con.output with
    | none => simp [hout] at he
    | some s =>
      cases hinput : s.input with
      | none => simp [hout, hinput] at he
      | busy => simp [hout, hinput] at he
      | operationPending data =>
        apply Returns.mono (h.senderOperation hout hinput)
        rintro r' ⟨part', h'⟩
        exact ⟨_, _, _, _, _, h'⟩
      | donePending =>
        apply Returns.mono (h.senderDone hout hinput)
        intro r' h'
        exact ⟨_, _, _, _, _, h'⟩
  | streamDone dataLen =>
    cases hout : r.con.output with
    | none => simp [hout] at he
    | some s =>
      simp only [hout, Bool.and_eq_true, decide_eq_true_eq] at he
      apply Returns.mono (h.streamDone hout he.1 he.2.1 he.2.2)
      rintro r' ⟨part', h'⟩
      exact ⟨_, _, _, _, _, h'⟩
  | connect =>
    apply Returns.mono (h.connect (Option.isNone_iff_eq_none.mp he))
    intro r' h'
    exact ⟨_, _, _, _, _, h'⟩
  | disconnect =>
    apply Returns.mono (h.disconnect he)
    intro r' h'
    exact ⟨_, _, _, _, _, h'⟩

end ConnectorRun

section

variable {mtu : Nat} {es : List ConnectorEvent} {res : Except CFault ConnectorRun}

theorem connector_inv (h : (connector mtu).Runs es res) :
    Returns res fun r => ∃ done pending held part k, r.Inv done pending held part k := by
  apply h.returns
  · exact ⟨[], [], none, [], 0, rfl, .none (Or.inl rfl) rfl, rfl, Nat.le_refl _, .nil, rfl⟩
  · rintro es r e ⟨done, pending, held, part, k, hinv⟩ he
    exact hinv.exec_spec he

/-- Connections may end at any point, with any part of a packet written: each connection carries
whole packets in the order in which the connector was sent them, the last one perhaps in part,
and the next connection starts with the packet that was not finished, from its beginning. The
connector takes a packet when those before it are all on a stream. -/
theorem connector_resumes (h : (connector mtu).Runs es res) :
    ∃ r k n, res = .ok r ∧ Resumes r.sent k r.ended ∧ Carries r.sent k n r.stream ∧
      r.sent.length ≤ k + n + 1 ∧ (r.con.input = .none → r.sent.length = k + n) := by
  obtain ⟨r, rfl, done, pending, held, part, k, hinv⟩ := connector_inv h
  have hcount := Nat.add_sub_of_le hinv.le
  have hlen : r.sent.length = done.length + pending.length := by
    rw [hinv.sent, List.length_append]
  refine ⟨r, k, done.length - k, rfl, hinv.ended, hinv.carries, ?_, fun hinput => ?_⟩
  · rw [hlen, hcount]
    cases hinv.holds with
    | none hi hl => exact Nat.le_add_right _ _
    | pending hi hl hp => exact Nat.le_refl _
    | held hi hl hd hp => exact Nat.le_refl _
  · rw [hlen, hcount]
    cases hinv.holds with
    | none hi hl => rfl
    | pending hi hl hp => cases hinput.symm.trans hi
    | held hi hl hd hp => cases hinput.symm.trans hi

/-- The first connection ends in the middle of a packet. -/
theorem connector_resumes_again :
    ∃ (r : ConnectorRun) (k n : Nat), r.ended = [[1, 2]] ∧ r.stream = [1, 2, 3] ∧
      Resumes r.sent k r.ended ∧ Carries r.sent k n r.stream := by
  have hends : (connector 3).ends
      [.connect, .send [1, 2, 3], .inputJob, .senderJob, .streamDone 2, .disconnect, .connect,
        .senderJob, .streamDone 3]
      (fun r => r.ended == [[1, 2]] && r.stream == [1, 2, 3]) = true := by
    decide
  obtain ⟨r, hruns, hr⟩ := Machine.runs_of_ends hends
  obtain ⟨hended, hstream⟩ := Bool.and_eq_true_iff.mp hr
  obtain ⟨r', k, n, hr', hresumes, hcarries, -⟩ := connector_resumes hruns
  cases hr'
  exact ⟨r, k, n, eq_of_beq hended, eq_of_beq hstream, hresumes, hcarries⟩

end

/-! ## The other end -/

section

variable {mtu : Nat} {alloc : (n : Nat) → Vector UInt8 n} {es : List DecoderEvent}
  {res : Except CFault DecoderRun} {ps : List (List UInt8)} {s : List UInt8} {k n : Nat}

/-- The decoder at the other end of a connection that carried encoded packets. -/
theorem carries_decoder (hs : Carries (ps.map encode) k n s)
    (hps : ∀ p ∈ ps, p.length ≤ decoderMtu mtu) (h : (decoder mtu alloc).Runs es res)
    (hin : input es <+: s) :
    ∃ d, res = .ok d ∧ d.failed = [] ∧
      (d.stream.packets ++ d.dec.passed) <+: (ps.drop k).take (n + 1) ∧
      (input es = s → d.dec.passed = [] → (ps.drop k).take n <+: d.stream.packets) := by
  have hmem : ∀ m, ∀ p ∈ (ps.drop k).take m, p.length ≤ decoderMtu mtu := by
    intro m p hp
    exact hps p (List.mem_of_mem_drop (List.mem_of_mem_take hp))
  have hflat : ∀ m, (((ps.map encode).drop k).take m).flatten
      = ((ps.drop k).take m).flatMap encode := by
    intro m
    rw [← List.map_drop, ← List.map_take, List.flatMap_def]
  obtain ⟨later, hlater⟩ := hin.trans hs.isPrefix
  rw [hflat] at hlater
  obtain ⟨d, rfl, hfailed, hpackets, -⟩ := decoder_encode _ later h (hmem _) hlater
  refine ⟨d, rfl, hfailed, hpackets, fun hall hpassed => ?_⟩
  obtain ⟨d', hd', htotal, -, rest, hreads, hwaits⟩ := decoder_reads h
  cases hd'
  obtain ⟨part, hpart, -⟩ := hs.part
  rw [hfailed, List.flatMap_nil, List.nil_append, hall, hpart, hflat] at htotal
  rw [hpassed, List.append_nil, htotal] at hreads
  apply hreads.isPrefix (Framing.reads_flatMap (fun p hp => frames_of_le (hmem _ p hp)) part)
  intro a size hfront
  unfold Decoder.passed at hpassed
  split at hpassed
  · rename_i offset avail hw
    cases (hwaits offset avail hw).2.symm.trans hfront
  · cases hpassed

/-- Packets are encoded, and sent over connections that end at any point; a decoder receives any
part of what a connection carried, in any pieces. It passes on, without an error, packets in the
order in which they were sent, none twice and none left out from the one that the connection
started with. When it received all and waits for more, it passed on every packet that the
connection carried completely. -/
theorem connector_decoder {m : Nat} {es' : List ConnectorEvent} {r : ConnectorRun}
    (hr : (connector m).Runs es' (.ok r)) (hsent : r.sent = ps.map encode)
    (hps : ∀ p ∈ ps, p.length ≤ decoderMtu mtu) (hs : s ∈ r.ended ++ [r.stream])
    (h : (decoder mtu alloc).Runs es res) (hin : input es <+: s) :
    ∃ k n d, res = .ok d ∧ Carries r.sent k n s ∧ d.failed = [] ∧
      (d.stream.packets ++ d.dec.passed) <+: (ps.drop k).take (n + 1) ∧
      (input es = s → d.dec.passed = [] → (ps.drop k).take n <+: d.stream.packets) := by
  obtain ⟨r', k, n, hr', hresumes, hcarries, -⟩ := connector_resumes hr
  cases hr'
  have hs' : ∃ k n, Carries r.sent k n s := by
    rcases List.mem_append.mp hs with hs | hs
    · exact hresumes.carries hs
    · obtain rfl := List.mem_singleton.mp hs
      exact ⟨k, n, hcarries⟩
  obtain ⟨k, n, hcarries⟩ := hs'
  rw [hsent] at hcarries ⊢
  obtain ⟨d, hd, hfailed, hpackets, hall⟩ := carries_decoder hcarries hps h hin
  exact ⟨k, n, d, hd, hcarries, hfailed, hpackets, hall⟩

/-- The packet of which the first connection carried two bytes arrives over the second one. -/
theorem connector_decoder_again :
    ∃ d : DecoderRun, d.stream.packets = [[7]] ∧ d.failed = [] := by
  have hcon : (connector 3).ends
      [.connect, .send [1, 0, 7], .inputJob, .senderJob, .streamDone 2, .disconnect, .connect,
        .senderJob, .streamDone 3]
      (fun r => r.sent == [[7]].map encode && r.stream == [1, 0, 7]) = true := by
    decide
  have hdec : (decoder 3 fun n => Vector.replicate n 0).ends
      [.inputDone [1, 0], .inputDone [7], .outputDone]
      (fun d => d.stream.packets == [[7]]) = true := by
    decide
  have hps : ∀ p ∈ [[(7 : UInt8)]], p.length ≤ decoderMtu 3 := by decide
  obtain ⟨r, hr, hsent⟩ := Machine.runs_of_ends hcon
  obtain ⟨hsent, hstream⟩ := Bool.and_eq_true_iff.mp hsent
  obtain ⟨d, hd, hpackets⟩ := Machine.runs_of_ends hdec
  have hin : input [.inputDone [1, 0], .inputDone [7], .outputDone] <+: r.stream :=
    eq_of_beq hstream ▸ List.prefix_refl _
  obtain ⟨k, n, d', hd', -, hfailed, -⟩ :=
    connector_decoder hr (eq_of_beq hsent) hps (by simp) hd hin
  cases hd'
  exact ⟨d, eq_of_beq hpackets, hfailed⟩

end

end Lightsocks.Flow
