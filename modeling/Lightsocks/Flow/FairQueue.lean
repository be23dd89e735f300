import Lightsocks.Flow.Connector
import Lightsocks.Lib.Intrusive

/-!
# One output, shared by many flows

`PacketPassFairQueue` has an input for each flow and passes one packet at a time to its output.
A flow has a time, which grows with what was sent of it; the queued flow with the smallest time
is next. A flow that was away starts at the current time, one that sends again right after its
packet keeps its own, and when the time of a flow would not fit into 64 bits, all times are put
back.

A pointer to a flow is a number, and the flows that have one time are in the order of their
pointers. The jobs run in any order here, so whether a flow sends again before the schedule job
runs is left open.
-/

namespace Lightsocks.Flow

open Lightsocks.Lib

/-- `FAIRQUEUE_MAX_TIME`. -/
def fairqueueMaxTime : Nat := 18446744073709551615

/-- What does not fit into a `uint64_t`. -/
def uint64Size : Nat := 18446744073709551616

/-- `PacketPassFairQueueFlow`. -/
structure QueueFlow where
  input : PassState
  time : Nat
  isQueued : Bool
  queued : List UInt8
  deriving DecidableEq, Repr

/-- `PacketPassFairQueue`. -/
structure FairQueue where
  /-- The MTU of the output. -/
  mtu : Nat
  packetWeight : Nat
  sendingFlow : Option Nat
  sendingLen : Nat
  previousFlow : Option Nat
  queuedTree : List Nat
  flowsList : List Nat
  freeing : Bool
  scheduleJob : Bool
  /-- The output was called and is not done. -/
  outputBusy : Bool
  flow : Nat → QueueFlow

namespace FairQueue

/-- `PacketPassFairQueue_Init`. -/
def init (mtu packetWeight : Nat) (flow : Nat → QueueFlow) : FairQueue where
  mtu
  packetWeight
  sendingFlow := none
  sendingLen := 0
  previousFlow := none
  queuedTree := []
  flowsList := []
  freeing := false
  scheduleJob := false
  outputBusy := false
  flow

def time (m : FairQueue) (p : Nat) : Nat := (m.flow p).time

def setFlow (m : FairQueue) (p : Nat) (f : QueueFlow) : FairQueue :=
  { m with flow := fun q => if q = p then f else m.flow q }

def setTime (m : FairQueue) (p t : Nat) : FairQueue := m.setFlow p { m.flow p with time := t }

/-- `get_current_time`. -/
def getCurrentTime (m : FairQueue) : Except CFault Nat :=
  match m.sendingFlow with
  | some p => return m.time p
  | none =>
    match m.queuedTree with
    | [] => return (m.previousFlow.map m.time).getD 0
    | q :: _ => do
      assert (m.flow q).isQueued
      match m.previousFlow with
      | none => return m.time q
      | some p => return if m.time p < m.time q then m.time p else m.time q

/-- A round of the loop that puts back the times, after `p` was sent. -/
def subtractTime (subtract p : Nat) (m : FairQueue) (q : Nat) : Except CFault FairQueue :=
  if m.time q < subtract ∧ q ≠ p then do
    assert (!(m.flow q).isQueued)
    return m.setTime q 0
  else return m.setTime q ((m.time q + uint64Size - subtract) % uint64Size)

/-- The times are put back by that of the first queued flow. -/
def subtractTimes (m : FairQueue) (p : Nat) : Except CFault FairQueue :=
  match m.queuedTree with
  | [] => m.flowsList.foldlM (subtractTime (m.time p) p) m
  | q :: _ => do
    assert (m.flow q).isQueued
    m.flowsList.foldlM (subtractTime (m.time q) p) m

/-- `increment_sent_flow`. -/
def incrementSentFlow (m : FairQueue) (p amount : Nat) : Except CFault FairQueue := do
  assert (decide (amount ≤ fairqueueMaxTime))
  assert (!(m.flow p).isQueued)
  assert m.sendingFlow.isNone
  let m ← (if amount > fairqueueMaxTime - m.time p then m.subtractTimes p else return m)
  return m.setTime p ((m.time p + amount) % uint64Size)

/-- `schedule`. -/
def schedule (m : FairQueue) : Except CFault FairQueue := do
  assert m.sendingFlow.isNone
  assert m.previousFlow.isNone
  assert (!m.freeing)
  match m.queuedTree with
  | [] => throw .assertion
  | p :: tree => do
    assert (m.flow p).isQueued
    -- `PacketPassInterface_Sender_Send`
    assert (decide ((m.flow p).queued.length ≤ m.mtu))
    assert (!m.outputBusy)
    let m := m.setFlow p { m.flow p with isQueued := false }
    return { m with
      queuedTree := tree
      outputBusy := true
      sendingFlow := some p
      sendingLen := (m.flow p).queued.length }

/-- `schedule_job_handler`. -/
def scheduleJobHandler (m : FairQueue) : Except CFault FairQueue := do
  assert m.sendingFlow.isNone
  assert (!m.freeing)
  let m := { m with previousFlow := none }
  if m.queuedTree.isEmpty then return m
  else m.schedule

/-- A flow starts at the current time, unless it was sent just before. -/
def raiseTime (m : FairQueue) (p : Nat) : Except CFault FairQueue :=
  if m.previousFlow = some p then return { m with previousFlow := none }
  else do
    let time ← m.getCurrentTime
    return m.setTime p (max (m.time p) time)

/-- A flow is queued. -/
def enqueue (m : FairQueue) (p : Nat) (data : List UInt8) : Except CFault FairQueue := do
  let m := m.setFlow p { m.flow p with queued := data }
  assert (!m.queuedTree.contains p)
  let m := { m with queuedTree := insertOrdered m.time p m.queuedTree }
  return m.setFlow p { m.flow p with isQueued := true }

/-- `input_handler_send`. -/
def inputHandlerSend (m : FairQueue) (p : Nat) (data : List UInt8) : Except CFault FairQueue := do
  assert (m.sendingFlow != some p)
  assert (!(m.flow p).isQueued)
  assert (!m.freeing)
  let m ← m.raiseTime p
  let m ← m.enqueue p data
  if m.sendingFlow.isNone && !m.scheduleJob then m.schedule
  else return m

/-- `PacketPassInterface_Done` of the input of a flow. -/
def inputDone (m : FairQueue) (p : Nat) : Except CFault FairQueue := do
  assert ((m.flow p).input == .busy)
  return m.setFlow p { m.flow p with input := .donePending }

/-- `output_handler_done`. -/
def outputHandlerDone (m : FairQueue) : Except CFault FairQueue :=
  match m.sendingFlow with
  | none => throw .assertion
  | some p => do
    assert m.previousFlow.isNone
    assert (!m.scheduleJob)
    assert (!m.freeing)
    assert (!(m.flow p).isQueued)
    let m := { m with sendingFlow := none, previousFlow := some p, outputBusy := false }
    let m ← m.incrementSentFlow p (m.packetWeight + m.sendingLen)
    let m := { m with scheduleJob := true }
    m.inputDone p

/-- `PacketPassFairQueueFlow_Init`. -/
def flowInit (m : FairQueue) (p : Nat) : Except CFault FairQueue := do
  assert (!m.freeing)
  let m := m.setFlow p { input := .none, time := 0, isQueued := false, queued := [] }
  return { m with flowsList := m.flowsList ++ [p] }

/-- `PacketPassFairQueueFlow_Free`. -/
def flowFree (m : FairQueue) (p : Nat) : Except CFault FairQueue := do
  assert (m.freeing || m.sendingFlow != some p)
  let tree ← (if (m.flow p).isQueued then unlink m.queuedTree p else return m.queuedTree)
  let flows ← unlink m.flowsList p
  return { m with
    sendingFlow := if m.sendingFlow = some p then none else m.sendingFlow
    previousFlow := if m.previousFlow = some p then none else m.previousFlow
    queuedTree := tree
    flowsList := flows }

end FairQueue

/-! ## Runs -/

/-- The queue, with the flows that there were, the packets that each was sent, and those that
the output is done with. -/
structure QueueRun where
  queue : FairQueue
  flows : List Nat
  submitted : List (Nat × List UInt8)
  passed : List (Nat × List UInt8)

inductive QueueEvent
  | flowInit (p : Nat)
  | flowFree (p : Nat)
  /-- A packet is sent to the input of a flow. -/
  | send (p : Nat) (data : List UInt8)
  /-- A job of the input of a flow. -/
  | inputJob (p : Nat)
  | scheduleJob
  | outputDone
  | prepareFree
  deriving DecidableEq, Repr

namespace QueueRun

def exec (r : QueueRun) : QueueEvent → Except CFault QueueRun
  | .flowInit p => do
    let queue ← r.queue.flowInit p
    return { r with queue, flows := r.flows ++ [p] }
  | .flowFree p => do
    let queue ← r.queue.flowFree p
    return { r with queue }
  | .send p data => do
    -- `PacketPassInterface_Sender_Send`
    assert (decide (data.length ≤ r.queue.mtu))
    assert ((r.queue.flow p).input == .none)
    return { r with
      queue := r.queue.setFlow p { r.queue.flow p with input := .operationPending data }
      submitted := r.submitted ++ [(p, data)] }
  | .inputJob p =>
    match (r.queue.flow p).input with
    | .operationPending data => do
      let queue ← FairQueue.inputHandlerSend
        (r.queue.setFlow p { r.queue.flow p with input := .busy }) p data
      return { r with queue }
    | .donePending =>
      return { r with queue := r.queue.setFlow p { r.queue.flow p with input := .none } }
    | _ => throw .assertion
  | .scheduleJob => do
    let queue ← FairQueue.scheduleJobHandler { r.queue with scheduleJob := false }
    return { r with queue }
  | .outputDone =>
    match r.queue.sendingFlow with
    | none => throw .assertion
    | some p => do
      let queue ← r.queue.outputHandlerDone
      return { r with queue, passed := r.passed ++ [(p, (r.queue.flow p).queued)] }
  | .prepareFree => return { r with queue := { r.queue with freeing := true } }

/-- A pointer stands for one flow. A flow is not freed while its packet is with the output; when
all is freed, nothing else runs. -/
def enabled (r : QueueRun) : QueueEvent → Bool
  | .flowInit p => !r.queue.freeing && !r.flows.contains p
  | .flowFree p =>
    r.queue.flowsList.contains p && (r.queue.freeing || r.queue.sendingFlow != some p)
  | .send p data =>
    !r.queue.freeing && r.queue.flowsList.contains p && (r.queue.flow p).input == .none &&
      decide (data.length ≤ r.queue.mtu)
  | .inputJob p =>
    !r.queue.freeing && r.queue.flowsList.contains p &&
      match (r.queue.flow p).input with
      | .operationPending _ => true
      | .donePending => true
      | _ => false
  | .scheduleJob => !r.queue.freeing && r.queue.scheduleJob
  | .outputDone => !r.queue.freeing && r.queue.outputBusy
  | .prepareFree => true

end QueueRun

/-- A queue from its initialization on; `flow` is what is in the memory of the flows. -/
def fairQueue (mtu packetWeight : Nat) (flow : Nat → QueueFlow) :
    Machine QueueRun QueueEvent CFault where
  init := { queue := .init mtu packetWeight flow, flows := [], submitted := [], passed := [] }
  enabled := QueueRun.enabled
  exec := QueueRun.exec

end Lightsocks.Flow
