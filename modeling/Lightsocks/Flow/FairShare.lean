import Mathlib.Algebra.GroupWithZero.Nat
import Mathlib.Data.List.Infix
import Lightsocks.Flow.FairHandlers

/-!
# What the flows of a fair queue get

In every run of `PacketPassFairQueue` the packets of a flow go to the output in order, and of two
flows that always have a packet waiting, one gets ahead of the other by a packet at most. The
bound is not there for flows that were away: a queue with nothing to send forgets its current
time, but the flows keep theirs.
-/

namespace Lightsocks.Flow

open Lightsocks.Lib

/-- The packets of a flow. -/
def packetsOf (p : Nat) (log : List (Nat × List UInt8)) : List (List UInt8) :=
  (log.filter fun entry => entry.1 == p).map Prod.snd

section

variable {p q : Nat} {log : List (Nat × List UInt8)} {data : List UInt8}

theorem packetsOf_self : packetsOf p (log ++ [(p, data)]) = packetsOf p log ++ [data] := by
  unfold packetsOf
  rw [List.filter_append, List.map_append, List.filter_cons_of_pos (by simp)]
  rfl

theorem packetsOf_ne (hq : q ≠ p) : packetsOf q (log ++ [(p, data)]) = packetsOf q log := by
  unfold packetsOf
  rw [List.filter_append, List.filter_cons_of_neg (by simpa using Ne.symm hq), List.filter_nil,
    List.append_nil]

end

/-- The packet that a flow was sent and that the output is not done with. -/
def QueueFlow.underWay (f : QueueFlow) : List (List UInt8) :=
  match f.input with
  | .operationPending data => [data]
  | .busy => [f.queued]
  | _ => []

/-- A flow that has a packet waiting, or was sent just before. -/
def FairQueue.Backlogged (m : FairQueue) (p : Nat) : Prop :=
  p ∈ m.queuedTree ∨ m.sendingFlow = some p ∨ m.previousFlow = some p

instance (m : FairQueue) (p : Nat) : Decidable (m.Backlogged p) :=
  inferInstanceAs (Decidable (_ ∨ _))

/-- The invariant of a run. -/
structure QueueRun.Inv (r : QueueRun) (mtu weight : Nat) : Prop where
  mtu_eq : r.queue.mtu = mtu
  weight_eq : r.queue.packetWeight = weight
  core : r.queue.Core none
  working : r.queue.Working
  flows : ∀ p ∈ r.queue.flowsList, p ∈ r.flows
  fresh : ∀ p, p ∉ r.flows → packetsOf p r.submitted = []
  order : ∀ p ∈ r.queue.flowsList,
    packetsOf p r.submitted = packetsOf p r.passed ++ (r.queue.flow p).underWay
  isPrefix : ∀ p, packetsOf p r.passed <+: packetsOf p r.submitted

/-- What a step does with the times: nothing, for flows with a packet waiting, or it is the end
of a packet. -/
inductive QueueRun.Moves (r r' : QueueRun) : Prop
  | keep (hpassed : r'.passed = r.passed)
      (htime : ∀ p, r.queue.Backlogged p → r'.queue.time p = r.queue.time p) : Moves r r'
  | passes {p d : Nat} (hsending : r.queue.sendingFlow = some p)
      (hpassed : r'.passed = r.passed ++ [(p, (r.queue.flow p).queued)])
      (hself : r'.queue.time p + d
        = r.queue.time p + (r.queue.packetWeight + (r.queue.flow p).queued.length))
      (htree : ∀ q ∈ r.queue.queuedTree, r'.queue.time q + d = r.queue.time q) : Moves r r'

namespace QueueRun

variable {r : QueueRun} {mtu weight p : Nat}

/-- A flow with a packet waiting is one of the flows. -/
theorem Inv.mem_flows (h : r.Inv mtu weight) (hp : r.queue.Backlogged p) :
    p ∈ r.queue.flowsList := by
  rcases hp with hp | hp | hp
  · exact h.core.mem_flows p hp
  · exact (h.core.sending p hp).1
  · exact (h.core.previous p hp).1

theorem Inv.flowInit (h : r.Inv mtu weight) (hfreeing : r.queue.freeing = false)
    (hp : p ∉ r.flows) :
    Returns (r.exec (.flowInit p)) fun r' => r'.Inv mtu weight ∧ r.Moves r' := by
  have hflow : p ∉ r.queue.flowsList := fun hmem => hp (h.flows p hmem)
  apply Returns.bind (h.core.flowInit hflow hfreeing)
  rintro queue ⟨hcore, hmtu, hweight, hflows, hworking, hinput, hother⟩
  apply Returns.pure
  refine ⟨{
    mtu_eq := hmtu.trans h.mtu_eq
    weight_eq := hweight.trans h.weight_eq
    core := hcore
    working := hworking h.working
    flows := ?_
    fresh := ?_
    order := ?_
    isPrefix := h.isPrefix }, .keep rfl fun q hq => ?_⟩
  · show ∀ q ∈ queue.flowsList, q ∈ r.flows ++ [p]
    rw [hflows]
    intro q hq
    rcases List.mem_append.mp hq with hq | hq
    · exact List.mem_append_left _ (h.flows q hq)
    · exact List.mem_append_right _ hq
  · intro q hq
    exact h.fresh q fun hmem => hq (List.mem_append_left _ hmem)
  · show ∀ q ∈ queue.flowsList, packetsOf q r.submitted = _ ++ (queue.flow q).underWay
    rw [hflows]
    intro q hq
    rcases List.mem_append.mp hq with hq | hq
    · rw [hother q fun heq => hflow (heq ▸ hq)]
      exact h.order q hq
    · obtain rfl := List.mem_singleton.mp hq
      have hnil := h.fresh q hp
      have hpassed := h.isPrefix q
      rw [hnil] at hpassed ⊢
      rw [List.eq_nil_of_prefix_nil hpassed, QueueFlow.underWay, hinput]
      rfl
  · have hne : q ≠ p := fun heq => hflow (heq ▸ h.mem_flows hq)
    exact congrArg QueueFlow.time (hother q hne)

theorem Inv.flowFree (h : r.Inv mtu weight) (hp : p ∈ r.queue.flowsList)
    (hfree : r.queue.freeing = true ∨ r.queue.sendingFlow ≠ some p) :
    Returns (r.exec (.flowFree p)) fun r' => r'.Inv mtu weight ∧ r.Moves r' := by
  apply Returns.bind (h.core.flowFree hp hfree)
  rintro queue ⟨hcore, hmtu, hweight, hflows, hworking, hflow⟩
  have hsub : ∀ q ∈ queue.flowsList, q ∈ r.queue.flowsList := by
    rw [hflows]
    exact fun q hq => List.mem_of_mem_erase hq
  refine Returns.pure ⟨⟨hmtu.trans h.mtu_eq, hweight.trans h.weight_eq, hcore, hworking h.working,
    fun q hq => h.flows q (hsub q hq), h.fresh, fun q hq => ?_, h.isPrefix⟩,
    .keep rfl fun q _ => congrArg QueueFlow.time (hflow q)⟩
  show packetsOf q r.submitted = _ ++ (queue.flow q).underWay
  rw [hflow]
  exact h.order q (hsub q hq)

/-- The input of a flow takes a packet. -/
theorem Inv.send {data : List UInt8} (h : r.Inv mtu weight) (hp : p ∈ r.queue.flowsList)
    (hinput : (r.queue.flow p).input = .none) (hdata : data.length ≤ r.queue.mtu) :
    Returns (r.exec (.send p data)) fun r' => r'.Inv mtu weight ∧ r.Moves r' := by
  obtain ⟨htree, hsending⟩ := h.core.idle hp (by rw [hinput]; simp)
  apply Returns.bind_eq (assert_ok (decide_eq_true hdata))
  apply Returns.bind_eq (assert_ok (by rw [hinput]; rfl))
  apply Returns.pure
  have hcore : (r.queue.setInput p (.operationPending data)).Core none := by
    apply h.core.setIdle htree hsending (by simp)
    intro data' hdata'
    cases hdata'
    exact hdata
  have horder := h.order p hp
  rw [QueueFlow.underWay, hinput, List.append_nil] at horder
  refine ⟨{
    mtu_eq := h.mtu_eq
    weight_eq := h.weight_eq
    core := hcore
    working := h.working
    flows := h.flows
    fresh := ?_
    order := ?_
    isPrefix := ?_ }, .keep rfl fun q _ => congrFun (FairQueue.setInput_time r.queue) q⟩
  · intro q hq
    have hne : q ≠ p := fun heq => hq (heq ▸ h.flows p hp)
    exact (packetsOf_ne hne).trans (h.fresh q hq)
  · intro q hq
    show packetsOf q (r.submitted ++ [(p, data)])
      = _ ++ ((r.queue.setInput p (.operationPending data)).flow q).underWay
    by_cases hqp : q = p
    · rw [hqp, packetsOf_self, horder, QueueFlow.underWay, FairQueue.setInput_self]
    · rw [packetsOf_ne hqp, FairQueue.setInput_ne _ hqp]
      exact h.order q hq
  · intro q
    show _ <+: packetsOf q (r.submitted ++ [(p, data)])
    by_cases hqp : q = p
    · rw [hqp, packetsOf_self, horder]
      exact List.prefix_append _ _
    · rw [packetsOf_ne hqp]
      exact h.isPrefix q

/-- The packet of a flow is queued. -/
theorem Inv.operation {data : List UInt8} (h : r.Inv mtu weight)
    (hfreeing : r.queue.freeing = false) (hp : p ∈ r.queue.flowsList)
    (hinput : (r.queue.flow p).input = .operationPending data) :
    Returns (r.exec (.inputJob p)) fun r' => r'.Inv mtu weight ∧ r.Moves r' := by
  obtain ⟨htree, hsending⟩ := h.core.idle hp (by rw [hinput]; simp)
  have hcore : (r.queue.setInput p .busy).Core (some p) := h.core.setInput (by simp)
  have horder := h.order p hp
  rw [QueueFlow.underWay, hinput] at horder
  unfold exec
  dsimp only
  rw [hinput]
  apply Returns.bind (hcore.inputHandlerSend hp htree hsending (FairQueue.setInput_self r.queue)
    (h.core.pending_le p hp data hinput) hfreeing)
  rintro queue ⟨hcore', hworking, hqueues⟩
  have hflows : queue.flowsList = r.queue.flowsList := hqueues.flowsList
  apply Returns.pure
  refine ⟨{
    mtu_eq := hqueues.mtu.trans h.mtu_eq
    weight_eq := hqueues.packetWeight.trans h.weight_eq
    core := hcore'
    working := hworking
    flows := ?_
    fresh := h.fresh
    order := ?_
    isPrefix := h.isPrefix }, .keep rfl fun q hq => ?_⟩
  · show ∀ q ∈ queue.flowsList, q ∈ r.flows
    rw [hflows]
    exact h.flows
  · show ∀ q ∈ queue.flowsList, packetsOf q r.submitted = _ ++ (queue.flow q).underWay
    rw [hflows]
    intro q hq
    by_cases hqp : q = p
    · rw [hqp, QueueFlow.underWay, hqueues.input, FairQueue.setInput_self, hqueues.queued_self]
      exact horder
    · rw [QueueFlow.underWay, hqueues.input, hqueues.queued_ne q hqp,
        FairQueue.setInput_ne _ hqp]
      exact h.order q hq
  · show queue.time q = r.queue.time q
    by_cases hqp : q = p
    · -- a flow that is neither queued nor sent has a packet waiting only if it was sent just before
      rw [hqp] at hq ⊢
      have hprev : r.queue.previousFlow = some p := (hq.resolve_left htree).resolve_left hsending
      rw [hqueues.time_self hprev, FairQueue.setInput_time]
    · rw [hqueues.time_ne q hqp, FairQueue.setInput_time]

/-- The user of a flow is told that its packet was sent. -/
theorem Inv.done (h : r.Inv mtu weight) (hp : p ∈ r.queue.flowsList)
    (hinput : (r.queue.flow p).input = .donePending) :
    Returns (r.exec (.inputJob p)) fun r' => r'.Inv mtu weight ∧ r.Moves r' := by
  obtain ⟨htree, hsending⟩ := h.core.idle hp (by rw [hinput]; simp)
  have hcore : (r.queue.setInput p .none).Core none :=
    h.core.setIdle htree hsending (by simp) (by simp)
  unfold exec
  dsimp only
  rw [hinput]
  refine Returns.pure ⟨⟨h.mtu_eq, h.weight_eq, hcore, h.working, h.flows, h.fresh,
    fun q hq => ?_, h.isPrefix⟩,
    .keep rfl fun q _ => congrFun (FairQueue.setInput_time r.queue) q⟩
  show packetsOf q r.submitted = _ ++ ((r.queue.setInput p .none).flow q).underWay
  by_cases hqp : q = p
  · have horder := h.order p hp
    rw [QueueFlow.underWay, hinput] at horder
    rw [hqp, QueueFlow.underWay, FairQueue.setInput_self]
    exact horder
  · rw [FairQueue.setInput_ne _ hqp]
    exact h.order q hq

theorem Inv.scheduleJob (h : r.Inv mtu weight) (hfreeing : r.queue.freeing = false)
    (hjob : r.queue.scheduleJob = true) :
    Returns (r.exec .scheduleJob) fun r' => r'.Inv mtu weight ∧ r.Moves r' := by
  apply Returns.bind (h.core.scheduleJobHandler hjob hfreeing)
  rintro queue ⟨hcore, hworking, hsame, htime, hinput, hqueued⟩
  have hflows : queue.flowsList = r.queue.flowsList := hsame.flowsList
  refine Returns.pure ⟨⟨hsame.mtu.trans h.mtu_eq, hsame.packetWeight.trans h.weight_eq, hcore,
    hworking, ?_, h.fresh, ?_, h.isPrefix⟩, .keep rfl fun q _ => htime q⟩
  · show ∀ q ∈ queue.flowsList, q ∈ r.flows
    rw [hflows]
    exact h.flows
  · show ∀ q ∈ queue.flowsList, packetsOf q r.submitted = _ ++ (queue.flow q).underWay
    rw [hflows]
    intro q hq
    rw [QueueFlow.underWay, hinput, hqueued]
    exact h.order q hq

/-- The output is done with a packet. -/
theorem Inv.outputDone (h : r.Inv mtu weight) (hfreeing : r.queue.freeing = false)
    (hbusy : r.queue.outputBusy = true) :
    Returns (r.exec .outputDone) fun r' => r'.Inv mtu weight ∧ r.Moves r' := by
  rw [h.core.outputBusy hfreeing] at hbusy
  obtain ⟨p, hsending⟩ := Option.isSome_iff_exists.mp hbusy
  obtain ⟨hflow, -, hlen, -, -⟩ := h.core.sending p hsending
  have hinput := (h.core.busy p hflow (by simp)).mpr (Or.inr hsending)
  have horder := h.order p hflow
  rw [QueueFlow.underWay, hinput] at horder
  unfold exec
  dsimp only
  rw [hsending]
  apply Returns.bind (h.core.outputHandlerDone hsending hfreeing)
  rintro queue ⟨hcore, hworking, τ, d, rfl, htree, hself⟩
  apply Returns.pure
  refine ⟨{
    mtu_eq := h.mtu_eq
    weight_eq := h.weight_eq
    core := hcore
    working := hworking
    flows := h.flows
    fresh := h.fresh
    order := ?_
    isPrefix := ?_ }, .passes (d := d) hsending rfl ?_ ?_⟩
  · intro q hq
    show packetsOf q r.submitted = packetsOf q (r.passed ++ [(p, (r.queue.flow p).queued)]) ++
      ((r.queue.sent p τ).flow q).underWay
    by_cases hqp : q = p
    · rw [hqp, packetsOf_self, FairQueue.sent_self, QueueFlow.underWay, List.append_nil]
      exact horder
    · rw [packetsOf_ne hqp, FairQueue.sent_ne _ _ hqp]
      exact h.order q hq
  · intro q
    show packetsOf q (r.passed ++ [(p, (r.queue.flow p).queued)]) <+: packetsOf q r.submitted
    by_cases hqp : q = p
    · subst hqp
      have heq := (horder.trans packetsOf_self.symm).symm
      exact heq ▸ List.prefix_refl _
    · rw [packetsOf_ne hqp]
      exact h.isPrefix q
  · show (r.queue.sent p τ).time p + d = _
    rw [FairQueue.sent_time, ← hlen]
    exact hself
  · intro q hq
    show (r.queue.sent p τ).time q + d = _
    rw [FairQueue.sent_time]
    exact htree q hq

/-- A step of the queue. -/
theorem Inv.exec {e : QueueEvent} (h : r.Inv mtu weight) (he : r.enabled e = true) :
    Returns (r.exec e) fun r' => r'.Inv mtu weight ∧ r.Moves r' := by
  cases e with
  | flowInit p =>
    simp only [enabled, Bool.and_eq_true, Bool.not_eq_true', List.contains_eq_mem,
      decide_eq_false_iff_not] at he
    exact h.flowInit he.1 he.2
  | flowFree p =>
    simp only [enabled, Bool.and_eq_true, List.contains_eq_mem, decide_eq_true_eq,
      Bool.or_eq_true, bne_iff_ne] at he
    exact h.flowFree he.1 he.2
  | send p data =>
    simp only [enabled, Bool.and_eq_true, List.contains_eq_mem, decide_eq_true_eq,
      beq_iff_eq] at he
    exact h.send he.1.1.2 he.1.2 he.2
  | inputJob p =>
    simp only [enabled, Bool.and_eq_true, Bool.not_eq_true', List.contains_eq_mem,
      decide_eq_true_eq] at he
    obtain ⟨⟨hfreeing, hp⟩, hjob⟩ := he
    cases hinput : (r.queue.flow p).input with
    | none => simp [hinput] at hjob
    | busy => simp [hinput] at hjob
    | operationPending data => exact h.operation hfreeing hp hinput
    | donePending => exact h.done hp hinput
  | scheduleJob =>
    simp only [enabled, Bool.and_eq_true, Bool.not_eq_true'] at he
    exact h.scheduleJob he.1 he.2
  | outputDone =>
    simp only [enabled, Bool.and_eq_true, Bool.not_eq_true'] at he
    exact h.outputDone he.1 he.2
  | prepareFree =>
    apply Returns.pure
    have hcore : FairQueue.Core { r.queue with freeing := true } none :=
      { h.core with outputBusy := fun hnot => by cases hnot }
    have hworking : FairQueue.Working { r.queue with freeing := true } := by
      intro hnot
      cases hnot
    exact ⟨⟨h.mtu_eq, h.weight_eq, hcore, hworking, h.flows, h.fresh, h.order, h.isPrefix⟩,
      .keep rfl fun _ _ => rfl⟩

end QueueRun

/-! ## Every run -/

section

variable {mtu weight p q : Nat} {flow : Nat → QueueFlow} {es : List QueueEvent}
  {res : Except CFault QueueRun}

theorem fairQueue_inv (hfits : weight + mtu ≤ fairqueueMaxTime)
    (h : (fairQueue mtu weight flow).Runs es res) : Returns res fun r => r.Inv mtu weight := by
  apply h.returns
  · exact {
      mtu_eq := rfl
      weight_eq := rfl
      core := {
        flows_nodup := List.nodup_nil
        mem_flows := fun p hp => by cases hp
        isQueued := fun p hp => by cases hp
        ordered := List.Pairwise.nil
        time_le := fun p hp => by cases hp
        weight := hfits
        busy := fun p hp => by cases hp
        queued_le := fun p hp => by cases hp
        pending_le := fun p hp => by cases hp
        sending := fun p hp => by cases hp
        alone := fun p hp => by cases hp
        previous := fun p hp => by cases hp
        outputBusy := fun _ => rfl }
      working := fun _ _ _ => rfl
      flows := fun p hp => by cases hp
      fresh := fun p _ => rfl
      order := fun p hp => by cases hp
      isPrefix := fun p => List.prefix_refl _ }
  · intro es r e hinv he
    exact (hinv.exec he).mono fun r' h' => h'.1

/-- No packet is lost, repeated or overtaken within its flow, whatever the order of the jobs and
whichever flows come and go; no assertion fails, so the output has one packet at a time; the tree
has the queued flows in the order of their times, also when those were put back; and the output is
not left idle with a packet queued. -/
theorem fairQueue_order (hfits : weight + mtu ≤ fairqueueMaxTime)
    (h : (fairQueue mtu weight flow).Runs es res) :
    ∃ r, res = .ok r ∧ (∀ p, packetsOf p r.passed <+: packetsOf p r.submitted) ∧
      (∀ p ∈ r.queue.flowsList,
        packetsOf p r.submitted = packetsOf p r.passed ++ (r.queue.flow p).underWay) ∧
      Ordered r.queue.time r.queue.queuedTree ∧ r.queue.Working := by
  obtain ⟨r, rfl, hinv⟩ := fairQueue_inv hfits h
  exact ⟨r, rfl, hinv.isPrefix, hinv.order, hinv.core.ordered, hinv.working⟩

/-- Two flows with a packet each, of which the first one was sent. -/
theorem fairQueue_order_two :
    ∃ r : QueueRun, r.passed = [(0, [1])] ∧
      ∀ p, packetsOf p r.passed <+: packetsOf p r.submitted := by
  have hends : (fairQueue 3 1 fun _ => ⟨.none, 7, true, []⟩).ends
      [.flowInit 0, .flowInit 1, .send 0 [1], .inputJob 0, .send 1 [2, 3], .inputJob 1, .outputDone]
      (fun r => r.passed == [(0, [1])]) = true := by
    decide
  obtain ⟨r, hruns, hr⟩ := Machine.runs_of_ends hends
  obtain ⟨r', hr', horder, -⟩ := fairQueue_order (by decide) hruns
  cases hr'
  exact ⟨r, eq_of_beq hr, horder⟩

/-- What was sent of a flow, with the weight of its packets. -/
def QueueRun.share (r : QueueRun) (p : Nat) : Nat :=
  ((packetsOf p r.passed).map fun data => r.queue.packetWeight + data.length).sum

namespace QueueRun

variable {r r' : QueueRun}

theorem share_keep (hpassed : r'.passed = r.passed)
    (hweight : r'.queue.packetWeight = r.queue.packetWeight) : r'.share p = r.share p := by
  unfold share
  rw [hpassed, hweight]

theorem share_self {data : List UInt8} (hpassed : r'.passed = r.passed ++ [(p, data)])
    (hweight : r'.queue.packetWeight = r.queue.packetWeight) :
    r'.share p = r.share p + (r.queue.packetWeight + data.length) := by
  unfold share
  rw [hpassed, hweight, packetsOf_self, List.map_append, List.sum_append]
  rfl

theorem share_ne {data : List UInt8} (hpassed : r'.passed = r.passed ++ [(p, data)])
    (hweight : r'.queue.packetWeight = r.queue.packetWeight) (hq : q ≠ p) :
    r'.share q = r.share q := by
  unfold share
  rw [hpassed, hweight, packetsOf_ne hq]

/-- How far the time of `p` is ahead of that of `q`. -/
def lead (r : QueueRun) (p q : Nat) : Int := r.queue.time p - r.queue.time q

/-- A step changes the lead by what it sends, and lets no flow get ahead by more than a packet. -/
theorem Moves.lead_le (h : r.Inv mtu weight) (h' : r'.Inv mtu weight) (hmoves : r.Moves r')
    (hpq : p ≠ q) (hp : r.queue.Backlogged p) (hq : r.queue.Backlogged q) :
    r'.lead p q - r.lead p q = ((r'.share p : Int) - r.share p) - (r'.share q - r.share q) ∧
      (r'.lead p q ≤ r.lead p q ∨ r'.lead p q ≤ weight + mtu) := by
  have hweight : r'.queue.packetWeight = r.queue.packetWeight :=
    h'.weight_eq.trans h.weight_eq.symm
  -- with a flow being sent, another flow with a packet waiting is queued
  have htree : ∀ {s x}, r.queue.sendingFlow = some s → x ≠ s → r.queue.Backlogged x →
      x ∈ r.queue.queuedTree := by
    intro s x hs hx hback
    rcases hback with hback | hback | hback
    · exact hback
    · cases hs.symm.trans hback
      exact absurd rfl hx
    · cases (h.core.alone s hs).1.symm.trans hback
  cases hmoves with
  | keep hpassed htime =>
    have hlead : r'.lead p q = r.lead p q := by
      unfold lead
      rw [htime p hp, htime q hq]
    rw [share_keep hpassed hweight, share_keep hpassed hweight]
    omega
  | @passes s d hsending hpassed hself hothers =>
    obtain ⟨-, -, hlen, hle, hfirst⟩ := h.core.sending s hsending
    have hw := h.weight_eq
    have hm := h.mtu_eq
    unfold lead
    by_cases hps : p = s
    · subst hps
      have hqtree := htree hsending (Ne.symm hpq) hq
      have hqtime := hothers q hqtree
      have hqle := hfirst q hqtree
      rw [share_self hpassed hweight, share_ne hpassed hweight (Ne.symm hpq)]
      omega
    · have hptime := hothers p (htree hsending hps hp)
      by_cases hqs : q = s
      · subst hqs
        rw [share_self hpassed hweight, share_ne hpassed hweight hps]
        omega
      · have hqtime := hothers q (htree hsending hqs hq)
        rw [share_ne hpassed hweight hps, share_ne hpassed hweight hqs]
        omega

end QueueRun

/-- Of two flows that have a packet waiting all the time, from some point of a run on, neither
gets ahead of the other by more than one packet and its weight, beyond what makes up for the lead
of the other at that point. It does not matter that times are put back when they get too large. -/
theorem fairQueue_fair {es₁ es₂ : List QueueEvent} {r₁ r₂ : QueueRun}
    (hfits : weight + mtu ≤ fairqueueMaxTime)
    (h₁ : (fairQueue mtu weight flow).Runs es₁ (.ok r₁))
    (h₂ : (fairQueue mtu weight flow).Runs (es₁ ++ es₂) (.ok r₂)) (hpq : p ≠ q)
    (hback : ∀ pre r, pre <+: es₂ → (fairQueue mtu weight flow).Runs (es₁ ++ pre) (.ok r) →
      r.queue.Backlogged p ∧ r.queue.Backlogged q) :
    ((r₂.share p : Int) - r₁.share p) - (r₂.share q - r₁.share q) ≤
      max 0 (weight + mtu - r₁.lead p q) := by
  have hlead : r₂.lead p q - r₁.lead p q
        = ((r₂.share p : Int) - r₁.share p) - (r₂.share q - r₁.share q) ∧
      (r₂.lead p q ≤ r₁.lead p q ∨ r₂.lead p q ≤ weight + mtu) := by
    induction es₂ using List.reverseRecOn generalizing r₂ with
    | nil =>
      rw [List.append_nil] at h₂
      cases h₁.unique h₂
      omega
    | append_singleton es₂ e ih =>
      rw [← List.append_assoc] at h₂
      obtain ⟨r, hr, he, hexec⟩ := h₂.last
      obtain ⟨heq, hle⟩ := ih hr fun pre r' hpre =>
        hback pre r' (hpre.trans (List.prefix_append _ _))
      obtain ⟨hp, hq⟩ := hback es₂ r (List.prefix_append _ _) hr
      obtain ⟨_, hok, hinv⟩ := fairQueue_inv hfits hr
      cases hok
      obtain ⟨r', hok, hinv', hmoves⟩ := hinv.exec he
      cases hexec.trans hok
      obtain ⟨heq', hle'⟩ := hmoves.lead_le hinv hinv' hpq hp hq
      omega
  omega

/-- Two flows take turns, with packets of such a weight that the second one of the first flow
makes the times overflow: what was sent of it is more than a time can count. -/
theorem fairQueue_fair_two :
    ∃ r₁ r₂ : QueueRun, fairqueueMaxTime < r₂.share 0 ∧ r₂.queue.time 0 < r₂.share 0 ∧
      ((r₂.share 0 : Int) - r₁.share 0) - (r₂.share 1 - r₁.share 1) ≤
        max 0 (18446744073709551606 + 3 - r₁.lead 0 1) := by
  let m := fairQueue 3 18446744073709551606 fun _ => ⟨.none, 7, true, []⟩
  let es₁ : List QueueEvent := [.flowInit 0, .flowInit 1, .send 0 [1], .inputJob 0, .send 1 [2, 3],
    .inputJob 1, .outputDone, .inputJob 0, .send 0 [4], .inputJob 0, .scheduleJob]
  let es₂ : List QueueEvent := [.outputDone, .inputJob 1, .send 1 [5], .inputJob 1, .scheduleJob,
    .outputDone]
  have hends₁ : m.ends es₁ (fun r => r.queue.sendingFlow == some 1) = true := by decide
  have hends₂ : m.ends (es₁ ++ es₂) (fun r => decide (fairqueueMaxTime < r.share 0 ∧
      r.queue.time 0 < r.share 0)) = true := by
    decide
  have hwaiting : ∀ pre ∈ es₂.inits, m.ends (es₁ ++ pre) (fun r =>
      decide (r.queue.Backlogged 0 ∧ r.queue.Backlogged 1)) = true := by
    decide
  obtain ⟨r₁, h₁, -⟩ := Machine.runs_of_ends hends₁
  obtain ⟨r₂, h₂, hr₂⟩ := Machine.runs_of_ends hends₂
  obtain ⟨hover, htime⟩ := of_decide_eq_true hr₂
  refine ⟨r₁, r₂, hover, htime, fairQueue_fair (by decide) h₁ h₂ (by decide) ?_⟩
  intro pre r hpre hr
  obtain ⟨r', hr', hback⟩ := Machine.runs_of_ends (hwaiting pre ((List.mem_inits _ _).mpr hpre))
  cases hr'.unique hr
  exact of_decide_eq_true hback

end

end Lightsocks.Flow
