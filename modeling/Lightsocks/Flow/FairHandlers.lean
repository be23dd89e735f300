import Lightsocks.Flow.FairQueue

/-!
# The handlers of a fair queue

`Core` is what holds of a `PacketPassFairQueue` between two handlers: the tree has the queued
flows in the order of their times, also after the times were put back, no flow has a time below
that of the flow that is sent, and a flow is in one place at a time. Each handler keeps it.
-/

namespace Lightsocks.Flow

open Lightsocks.Lib

/-! ## Times -/

namespace FairQueue

variable {m : FairQueue} {p q : Nat}

/-- The flows have other times. -/
def withTimes (m : FairQueue) (τ : Nat → Nat) : FairQueue :=
  { m with flow := fun q => { m.flow q with time := τ q } }

theorem setTime_withTimes (m : FairQueue) (τ : Nat → Nat) (p t : Nat) :
    (m.withTimes τ).setTime p t = m.withTimes fun q => if q = p then t else τ q := by
  unfold setTime setFlow withTimes
  congr 1
  funext q
  dsimp only
  split
  · rename_i hq
    rw [hq]
  · rfl

theorem withTimes_time (m : FairQueue) : m.withTimes m.time = m := rfl

theorem setTime_eq (m : FairQueue) (p t : Nat) :
    m.setTime p t = m.withTimes fun q => if q = p then t else m.time q := by
  rw [← setTime_withTimes, withTimes_time]

/-- The time that a round of the loop leaves. -/
def putBack (subtract p q t : Nat) : Nat :=
  if t < subtract ∧ q ≠ p then 0 else (t + uint64Size - subtract) % uint64Size

theorem putBack_le (subtract p q t : Nat) : putBack subtract p q t ≤ fairqueueMaxTime := by
  unfold putBack uint64Size fairqueueMaxTime
  split
  · omega
  · omega

theorem putBack_of_le {subtract p q t : Nat} (hle : subtract ≤ t) (hmax : t ≤ fairqueueMaxTime) :
    putBack subtract p q t + subtract = t := by
  unfold fairqueueMaxTime at hmax
  unfold putBack uint64Size
  rw [if_neg (by omega)]
  omega

/-- The time of the flow that was sent may wrap, and wraps back when it moves on. -/
theorem putBack_self {subtract p t amount : Nat} (hle : t ≤ subtract)
    (hmax : subtract ≤ fairqueueMaxTime) (hamount : amount ≤ fairqueueMaxTime)
    (hover : amount > fairqueueMaxTime - t) :
    (putBack subtract p p t + amount) % uint64Size + subtract = t + amount := by
  unfold fairqueueMaxTime at hmax hamount hover
  unfold putBack uint64Size
  rw [if_neg (by omega)]
  omega

/-- The loop passes each flow once. -/
theorem subtractTimes_loop (m : FairQueue) (subtract p : Nat) (flows : List Nat)
    (hnodup : flows.Nodup) (τ : Nat → Nat)
    (hqueued : ∀ q ∈ flows, τ q < subtract → q ≠ p → (m.flow q).isQueued = false) :
    flows.foldlM (subtractTime subtract p) (m.withTimes τ) =
      .ok (m.withTimes fun q => if q ∈ flows then putBack subtract p q (τ q) else τ q) := by
  induction flows generalizing τ with
  | nil => rfl
  | cons q flows ih =>
    obtain ⟨hq, hnodup⟩ := List.nodup_cons.mp hnodup
    have hround : subtractTime subtract p (m.withTimes τ) q =
        .ok (m.withTimes fun q' => if q' = q then putBack subtract p q (τ q) else τ q') := by
      rw [← setTime_withTimes]
      show (if τ q < subtract ∧ q ≠ p then _ else _) = _
      unfold putBack
      by_cases hless : τ q < subtract ∧ q ≠ p
      · have hnot := hqueued q (by simp) hless.1 hless.2
        rw [if_pos hless, if_pos hless]
        show (assert (!(m.flow q).isQueued) >>= fun _ => _) = _
        rw [hnot]
        rfl
      · rw [if_neg hless, if_neg hless]
        rfl
    rw [List.foldlM_cons, hround, ok_bind, ih hnodup]
    · congr 2
      funext q'
      by_cases hq' : q' = q
      · rw [hq', if_neg hq, if_pos rfl, if_pos (by simp)]
      · by_cases hmem : q' ∈ flows
        · rw [if_pos hmem, if_neg hq', if_pos (List.mem_cons_of_mem q hmem)]
        · rw [if_neg hmem, if_neg hq', if_neg (by simp [hq', hmem])]
    · intro q' hq' hless hne
      have hq'q : q' ≠ q := fun heq => hq (heq ▸ hq')
      rw [if_neg hq'q] at hless
      exact hqueued q' (by simp [hq']) hless hne

/-- The tree, the list and the flags of the flows agree. -/
structure Linked (m : FairQueue) : Prop where
  flows_nodup : m.flowsList.Nodup
  mem_flows : ∀ p ∈ m.queuedTree, p ∈ m.flowsList
  isQueued : ∀ p ∈ m.flowsList, (m.flow p).isQueued = true ↔ p ∈ m.queuedTree
  ordered : Ordered m.time m.queuedTree
  time_le : ∀ p ∈ m.flowsList, m.time p ≤ fairqueueMaxTime

theorem Linked.not_queued (h : m.Linked) (hp : p ∈ m.flowsList) (htree : p ∉ m.queuedTree) :
    (m.flow p).isQueued = false :=
  Bool.eq_false_iff.mpr fun hq => htree ((h.isQueued p hp).mp hq)

/-- All times are put back by one number, as far as the flows with a packet are concerned, and
the flow that was sent moves on; so the differences between them are as if times had no bound. -/
theorem Linked.incrementSentFlow {amount : Nat} (h : m.Linked) (hp : p ∈ m.flowsList)
    (htree : p ∉ m.queuedTree) (hfirst : ∀ q ∈ m.queuedTree, m.time p ≤ m.time q)
    (hsending : m.sendingFlow = none) (hamount : amount ≤ fairqueueMaxTime) :
    Returns (m.incrementSentFlow p amount) fun m' => ∃ τ d, m' = m.withTimes τ ∧
      (∀ q ∈ m.flowsList, τ q ≤ fairqueueMaxTime) ∧
      (∀ q ∈ m.queuedTree, τ q + d = m.time q) ∧ τ p + d = m.time p + amount := by
  have hsize : uint64Size = fairqueueMaxTime + 1 := rfl
  have htime := h.time_le p hp
  apply Returns.bind_eq (assert_ok (decide_eq_true hamount))
  apply Returns.bind_eq (assert_ok (by rw [h.not_queued hp htree]; rfl))
  apply Returns.bind_eq (assert_ok (by rw [hsending]; rfl))
  by_cases hover : amount > fairqueueMaxTime - m.time p
  · rw [if_pos hover]
    -- `s` is what the times are put back by
    have hsub : ∃ s, s ≤ fairqueueMaxTime ∧ m.time p ≤ s ∧ (∀ q ∈ m.queuedTree, s ≤ m.time q) ∧
        m.subtractTimes p = m.flowsList.foldlM (subtractTime s p) m := by
      unfold subtractTimes
      cases hq : m.queuedTree with
      | nil => exact ⟨m.time p, htime, Nat.le_refl _, by simp, rfl⟩
      | cons q tree =>
        have hmem : q ∈ m.queuedTree := by rw [hq]; simp
        have hflow := h.mem_flows q hmem
        have hordered := h.ordered
        rw [hq] at hordered
        refine ⟨m.time q, h.time_le q hflow, hfirst q hmem, ?_, ?_⟩
        · intro q' hq'
          exact hordered.head_le hq'
        · show (assert (m.flow q).isQueued >>= fun _ => _) = _
          rw [(h.isQueued q hflow).mpr hmem]
          rfl
    obtain ⟨s, hs, hps, htrees, hsub⟩ := hsub
    have hloop := subtractTimes_loop m s p m.flowsList h.flows_nodup m.time
    rw [withTimes_time] at hloop
    rw [hsub, hloop]
    · apply Returns.bind_eq rfl
      rw [setTime_withTimes]
      refine Returns.pure ⟨_, s, rfl, fun q hq => ?_, fun q hq => ?_, ?_⟩
      · by_cases hqp : q = p
        · rw [if_pos hqp]
          exact Nat.le_of_lt_succ (Nat.mod_lt _ (by unfold uint64Size; omega))
        · rw [if_neg hqp, if_pos hq]
          exact putBack_le s p q (m.time q)
      · have hne : q ≠ p := fun heq => htree (heq ▸ hq)
        have hflow := h.mem_flows q hq
        rw [if_neg hne, if_pos hflow]
        exact putBack_of_le (htrees q hq) (h.time_le q hflow)
      · rw [if_pos rfl]
        show ((if p ∈ m.flowsList then _ else _) + amount) % uint64Size + s = _
        rw [if_pos hp]
        exact putBack_self hps hs hamount hover
    · intro q hq hless hne
      apply h.not_queued hq
      intro hmem
      have hle := htrees q hmem
      omega
  · rw [if_neg hover]
    apply Returns.bind_eq rfl
    rw [setTime_eq]
    refine Returns.pure ⟨_, 0, rfl, fun q hq => ?_, fun q hq => ?_, ?_⟩
    · by_cases hqp : q = p
      · rw [if_pos hqp]
        exact Nat.le_of_lt_succ (Nat.mod_lt _ (by unfold uint64Size; omega))
      · rw [if_neg hqp]
        exact h.time_le q hq
    · rw [if_neg fun heq : q = p => htree (heq ▸ hq)]
      rfl
    · rw [if_pos rfl]
      exact Nat.mod_eq_of_lt (by omega)

/-! ## The invariant -/

/-- The state of the flows and of the output agree. The input of the flow `hole` is busy while a
handler has it in its hands. -/
structure Core (m : FairQueue) (hole : Option Nat) : Prop extends Linked m where
  weight : m.packetWeight + m.mtu ≤ fairqueueMaxTime
  busy : ∀ p ∈ m.flowsList, some p ≠ hole →
    ((m.flow p).input = .busy ↔ p ∈ m.queuedTree ∨ m.sendingFlow = some p)
  queued_le : ∀ p ∈ m.queuedTree, (m.flow p).queued.length ≤ m.mtu
  pending_le : ∀ p ∈ m.flowsList, ∀ data, (m.flow p).input = .operationPending data →
    data.length ≤ m.mtu
  sending : ∀ p, m.sendingFlow = some p → p ∈ m.flowsList ∧ p ∉ m.queuedTree ∧
    m.sendingLen = (m.flow p).queued.length ∧ m.sendingLen ≤ m.mtu ∧
    ∀ q ∈ m.queuedTree, m.time p ≤ m.time q
  alone : ∀ p, m.sendingFlow = some p → m.previousFlow = none ∧ m.scheduleJob = false
  previous : ∀ p, m.previousFlow = some p → p ∈ m.flowsList ∧ m.scheduleJob = true
  outputBusy : m.freeing = false → m.outputBusy = m.sendingFlow.isSome

/-- With a flow queued, a packet is on its way to the output, or the schedule job is set. -/
def Working (m : FairQueue) : Prop :=
  m.freeing = false → m.sendingFlow = none → m.scheduleJob = false → m.queuedTree = []

/-- What the handlers leave alone. -/
structure Same (m m' : FairQueue) : Prop where
  mtu : m'.mtu = m.mtu
  packetWeight : m'.packetWeight = m.packetWeight
  flowsList : m'.flowsList = m.flowsList
  freeing : m'.freeing = m.freeing

/-- The flow with the smallest time is passed to the output. -/
def scheduled (m : FairQueue) (p : Nat) (tree : List Nat) : FairQueue :=
  { m.setFlow p { m.flow p with isQueued := false } with
    queuedTree := tree
    outputBusy := true
    sendingFlow := some p
    sendingLen := (m.flow p).queued.length }

theorem scheduled_time (m : FairQueue) (p : Nat) (tree : List Nat) :
    (m.scheduled p tree).time = m.time := by
  funext q
  show (if q = p then _ else m.flow q).time = (m.flow q).time
  split
  · rename_i hq
    rw [hq]
  · rfl

theorem scheduled_input (m : FairQueue) (p : Nat) (tree : List Nat) (q : Nat) :
    ((m.scheduled p tree).flow q).input = (m.flow q).input := by
  show (if q = p then _ else m.flow q).input = (m.flow q).input
  split
  · rename_i hq
    rw [hq]
  · rfl

theorem scheduled_queued (m : FairQueue) (p : Nat) (tree : List Nat) (q : Nat) :
    ((m.scheduled p tree).flow q).queued = (m.flow q).queued := by
  show (if q = p then _ else m.flow q).queued = (m.flow q).queued
  split
  · rename_i hq
    rw [hq]
  · rfl

theorem Core.schedule (h : m.Core none) (hsending : m.sendingFlow = none)
    (hprevious : m.previousFlow = none) (hjob : m.scheduleJob = false)
    (hfreeing : m.freeing = false) (hne : m.queuedTree ≠ []) :
    Returns m.schedule fun m' => ∃ p tree, m.queuedTree = p :: tree ∧ m' = m.scheduled p tree ∧
      m'.Core none := by
  obtain ⟨p, tree, htree⟩ := List.exists_cons_of_ne_nil hne
  have hp : p ∈ m.queuedTree := by rw [htree]; simp
  have hflow := h.mem_flows p hp
  have hlen := h.queued_le p hp
  have hordered := h.ordered
  have hbusy := h.outputBusy hfreeing
  rw [hsending] at hbusy
  rw [htree] at hordered
  obtain ⟨hnot, hnodup⟩ := List.nodup_cons.mp hordered.nodup
  apply Returns.bind_eq (assert_ok (by rw [hsending]; rfl))
  apply Returns.bind_eq (assert_ok (by rw [hprevious]; rfl))
  apply Returns.bind_eq (assert_ok (by rw [hfreeing]; rfl))
  rw [htree]
  apply Returns.bind_eq (assert_ok ((h.isQueued p hflow).mpr hp))
  apply Returns.bind_eq (assert_ok (decide_eq_true hlen))
  apply Returns.bind_eq (assert_ok (by rw [hbusy]; rfl))
  have hself : (m.setFlow p { m.flow p with isQueued := false }).flow p
      = { m.flow p with isQueued := false } := if_pos rfl
  have heq : ({ m.setFlow p { m.flow p with isQueued := false } with
      queuedTree := tree
      outputBusy := true
      sendingFlow := some p
      sendingLen := ((m.setFlow p { m.flow p with isQueued := false }).flow p).queued.length } :
      FairQueue) = m.scheduled p tree := by
    rw [hself]
    rfl
  refine Returns.pure ⟨p, tree, rfl, heq, ?_⟩
  rw [heq]
  exact {
    flows_nodup := h.flows_nodup
    mem_flows := by
      intro q hq
      exact h.mem_flows q (by rw [htree]; exact List.mem_cons_of_mem p hq)
    isQueued := by
      intro q hq
      show (if q = p then _ else m.flow q).isQueued = true ↔ q ∈ tree
      by_cases hqp : q = p
      · rw [if_pos hqp, hqp]
        exact iff_of_false Bool.false_ne_true hnot
      · rw [if_neg hqp, h.isQueued q hq, htree, List.mem_cons]
        exact or_iff_right hqp
    ordered := by
      rw [scheduled_time]
      exact (List.pairwise_cons.mp hordered).2
    time_le := by
      rw [scheduled_time]
      exact h.time_le
    weight := h.weight
    busy := by
      intro q hq _
      rw [scheduled_input, h.busy q hq (by simp), htree, List.mem_cons, hsending]
      show _ ↔ q ∈ tree ∨ some p = some q
      rw [Option.some_inj]
      constructor
      · rintro ((rfl | hq) | hq)
        · exact Or.inr rfl
        · exact Or.inl hq
        · cases hq
      · rintro (hq | rfl)
        · exact Or.inl (Or.inr hq)
        · exact Or.inl (Or.inl rfl)
    queued_le := by
      intro q hq
      rw [scheduled_queued]
      exact h.queued_le q (by rw [htree]; exact List.mem_cons_of_mem p hq)
    pending_le := by
      intro q hq data hdata
      rw [scheduled_input] at hdata
      exact h.pending_le q hq data hdata
    sending := by
      intro q hq
      cases hq
      refine ⟨hflow, hnot, ?_, hlen, fun q hq => ?_⟩
      · rw [scheduled_queued]
        rfl
      · rw [scheduled_time]
        exact hordered.head_le (List.mem_cons_of_mem p hq)
    alone := fun q _ => ⟨hprevious, hjob⟩
    previous := by
      intro q hq
      cases hprevious.symm.trans hq
    outputBusy := fun _ => rfl }

/-- The flow `p` is queued at the time `t`. -/
def queuedAt (m : FairQueue) (previous : Option Nat) (p t : Nat) (data : List UInt8) :
    FairQueue :=
  { m with
    previousFlow := previous
    queuedTree := insertOrdered (fun q => if q = p then t else m.time q) p m.queuedTree
    flow := fun q =>
      if q = p then { m.flow p with time := t, queued := data, isQueued := true } else m.flow q }

section

variable {previous : Option Nat} {t : Nat} {data : List UInt8}

theorem queuedAt_time (m : FairQueue) (q : Nat) :
    (m.queuedAt previous p t data).time q = if q = p then t else m.time q := by
  show (if q = p then _ else m.flow q).time = _
  split
  · rfl
  · rfl

theorem queuedAt_self (m : FairQueue) :
    (m.queuedAt previous p t data).flow p
      = { m.flow p with time := t, queued := data, isQueued := true } :=
  if_pos rfl

theorem queuedAt_ne (m : FairQueue) (hq : q ≠ p) :
    (m.queuedAt previous p t data).flow q = m.flow q :=
  if_neg hq

theorem queuedAt_input (m : FairQueue) (q : Nat) :
    ((m.queuedAt previous p t data).flow q).input = (m.flow q).input := by
  by_cases hq : q = p
  · rw [hq, queuedAt_self]
  · rw [queuedAt_ne m hq]

/-- The time at which a flow is queued: its own one when it was sent just before, and at least
the current one otherwise. -/
theorem Core.raiseTime (h : m.Core (some p)) (hp : p ∈ m.flowsList) :
    Returns (m.raiseTime p) fun m' => ∃ previous t,
      m' = FairQueue.setTime { m with previousFlow := previous } p t ∧ t ≤ fairqueueMaxTime ∧
      (∀ s, m.sendingFlow = some s → m.time s ≤ t) ∧
      (m.previousFlow = some p → t = m.time p) ∧
      (previous = none ∨ previous = m.previousFlow) := by
  have htime := h.time_le p hp
  unfold FairQueue.raiseTime
  by_cases hprev : m.previousFlow = some p
  · rw [if_pos hprev]
    refine Returns.pure ⟨none, m.time p, ?_, htime, fun s hs => ?_, fun _ => rfl, Or.inl rfl⟩
    · rw [setTime_eq]
      unfold withTimes
      congr 1
      funext q
      show m.flow q = { m.flow q with time := if q = p then m.time p else m.time q }
      split
      · rename_i hq
        rw [hq]
        rfl
      · rfl
    · cases hprev.symm.trans (h.alone s hs).1
  · rw [if_neg hprev]
    have hcur : Returns m.getCurrentTime fun cur => cur ≤ fairqueueMaxTime ∧
        ∀ s, m.sendingFlow = some s → m.time s ≤ cur := by
      unfold getCurrentTime
      cases hsend : m.sendingFlow with
      | some s =>
        refine Returns.pure ⟨h.time_le s (h.sending s hsend).1, ?_⟩
        intro s' hs'
        cases hs'
        exact Nat.le_refl _
      | none =>
        cases htree : m.queuedTree with
        | nil =>
          refine Returns.pure ⟨?_, by simp⟩
          cases hprevious : m.previousFlow with
          | none => exact Nat.zero_le _
          | some s => exact h.time_le s (h.previous s hprevious).1
        | cons q tree =>
          have hq : q ∈ m.queuedTree := by rw [htree]; simp
          have hflow := h.mem_flows q hq
          apply Returns.bind_eq (assert_ok ((h.isQueued q hflow).mpr hq))
          cases hprevious : m.previousFlow with
          | none => exact Returns.pure ⟨h.time_le q hflow, by simp⟩
          | some s =>
            have hs := h.time_le s (h.previous s hprevious).1
            refine Returns.pure ⟨?_, by simp⟩
            split
            · exact hs
            · exact h.time_le q hflow
    apply Returns.bind hcur
    rintro cur ⟨hcur, hsend⟩
    refine Returns.pure ⟨m.previousFlow, max (m.time p) cur, rfl, ?_, fun s hs => ?_,
      fun hp => absurd hp hprev, Or.inr rfl⟩
    · exact Nat.max_le.mpr ⟨htime, hcur⟩
    · exact Nat.le_trans (hsend s hs) (Nat.le_max_right _ _)

theorem enqueue_eq (htree : p ∉ m.queuedTree) :
    (FairQueue.setTime { m with previousFlow := previous } p t).enqueue p data
      = .ok (m.queuedAt previous p t data) := by
  have hnot : (!m.queuedTree.contains p) = true := by
    rw [Bool.not_eq_true', ← Bool.not_eq_true, List.contains_iff_mem]
    exact htree
  show (assert (!m.queuedTree.contains p) >>= fun _ => _) = _
  rw [assert_ok hnot, ok_bind]
  unfold queuedAt setFlow setTime setFlow time
  simp only [if_true]
  apply congrArg Except.ok
  simp only [FairQueue.mk.injEq, true_and]
  constructor
  · congr 1
    funext q
    by_cases hq : q = p
    · rw [if_pos hq, if_pos hq]
    · rw [if_neg hq, if_neg hq, if_neg hq]
  · funext q
    by_cases hq : q = p
    · rw [if_pos hq, if_pos hq]
    · rw [if_neg hq, if_neg hq, if_neg hq, if_neg hq]

theorem mem_queuedAt (m : FairQueue) :
    q ∈ (m.queuedAt previous p t data).queuedTree ↔ q = p ∨ q ∈ m.queuedTree :=
  mem_insertOrdered

theorem Core.queuedAt (h : m.Core (some p)) (hp : p ∈ m.flowsList) (htree : p ∉ m.queuedTree)
    (hsending : m.sendingFlow ≠ some p) (hinput : (m.flow p).input = .busy)
    (hdata : data.length ≤ m.mtu) (ht : t ≤ fairqueueMaxTime)
    (hcur : ∀ s, m.sendingFlow = some s → m.time s ≤ t)
    (hprevious : previous = none ∨ previous = m.previousFlow) :
    (m.queuedAt previous p t data).Core none where
  flows_nodup := h.flows_nodup
  mem_flows q hq := by
    rcases (mem_queuedAt m).mp hq with rfl | hq
    · exact hp
    · exact h.mem_flows q hq
  isQueued q hq := by
    rw [mem_queuedAt]
    by_cases hqp : q = p
    · rw [hqp, queuedAt_self]
      simp
    · rw [queuedAt_ne m hqp, h.isQueued q hq]
      exact (or_iff_right hqp).symm
  ordered := by
    rw [funext (queuedAt_time m)]
    apply Ordered.insert _ htree
    apply h.ordered.congr
    intro q hq q' hq' hbefore
    unfold Before at hbefore ⊢
    dsimp only
    rw [if_neg fun heq : q = p => htree (heq ▸ hq), if_neg fun heq : q' = p => htree (heq ▸ hq')]
    exact hbefore
  time_le q hq := by
    rw [queuedAt_time]
    by_cases hqp : q = p
    · rw [if_pos hqp]
      exact ht
    · rw [if_neg hqp]
      exact h.time_le q hq
  weight := h.weight
  busy q hq _ := by
    rw [mem_queuedAt, queuedAt_input]
    by_cases hqp : q = p
    · rw [hqp, hinput]
      simp
    · rw [h.busy q hq fun heq => hqp (Option.some_inj.mp heq), or_iff_right hqp]
      rfl
  queued_le q hq := by
    by_cases hqp : q = p
    · rw [hqp, queuedAt_self]
      exact hdata
    · rw [queuedAt_ne m hqp]
      exact h.queued_le q (((mem_queuedAt m).mp hq).resolve_left hqp)
  pending_le q hq data' hdata' := by
    rw [queuedAt_input] at hdata'
    exact h.pending_le q hq data' hdata'
  sending s hs := by
    obtain ⟨hflow, hnot, hlen, hle, htimes⟩ := h.sending s hs
    have hsp : s ≠ p := fun heq => hsending (heq ▸ hs)
    rw [queuedAt_ne m hsp]
    refine ⟨hflow, ?_, hlen, hle, fun q hq => ?_⟩
    · rw [mem_queuedAt]
      exact not_or.mpr ⟨hsp, hnot⟩
    · rw [queuedAt_time, queuedAt_time, if_neg hsp]
      by_cases hqp : q = p
      · rw [if_pos hqp]
        exact hcur s hs
      · rw [if_neg hqp]
        exact htimes q (((mem_queuedAt m).mp hq).resolve_left hqp)
  alone s hs := by
    obtain ⟨hnone, hjob⟩ := h.alone s hs
    refine ⟨?_, hjob⟩
    rcases hprevious with hprevious | hprevious
    · exact hprevious
    · exact hprevious.trans hnone
  previous s hs := by
    rcases hprevious with hprevious | hprevious
    · cases hprevious.symm.trans hs
    · exact h.previous s (hprevious.symm.trans hs)
  outputBusy := h.outputBusy

end

/-- What a handler leaves: times of flows that it did not queue, inputs and packets. -/
structure Queues (m m' : FairQueue) (p : Nat) (data : List UInt8) : Prop extends Same m m' where
  time_ne : ∀ q, q ≠ p → m'.time q = m.time q
  time_self : m.previousFlow = some p → m'.time p = m.time p
  input : ∀ q, (m'.flow q).input = (m.flow q).input
  queued_ne : ∀ q, q ≠ p → (m'.flow q).queued = (m.flow q).queued
  queued_self : (m'.flow p).queued = data

/-- `input_handler_send`, of a flow whose job was taken. -/
theorem Core.inputHandlerSend {data : List UInt8} (h : m.Core (some p)) (hp : p ∈ m.flowsList)
    (htree : p ∉ m.queuedTree) (hsending : m.sendingFlow ≠ some p)
    (hinput : (m.flow p).input = .busy) (hdata : data.length ≤ m.mtu)
    (hfreeing : m.freeing = false) :
    Returns (m.inputHandlerSend p data) fun m' => m'.Core none ∧ m'.Working ∧
      m.Queues m' p data := by
  apply Returns.bind_eq (assert_ok (by simpa using hsending))
  apply Returns.bind_eq (assert_ok (by rw [h.not_queued hp htree]; rfl))
  apply Returns.bind_eq (assert_ok (by rw [hfreeing]; rfl))
  apply Returns.bind (h.raiseTime hp)
  rintro m₁ ⟨previous, t, rfl, ht, hcur, hkeep, hprevious⟩
  apply Returns.bind_eq (enqueue_eq htree)
  have hcore := h.queuedAt hp htree hsending hinput hdata ht hcur hprevious
  have hqueues : m.Queues (m.queuedAt previous p t data) p data := {
    mtu := rfl
    packetWeight := rfl
    flowsList := rfl
    freeing := rfl
    time_ne := by
      intro q hq
      rw [queuedAt_time, if_neg hq]
    time_self := by
      intro hprev
      rw [queuedAt_time, if_pos rfl, hkeep hprev]
    input := queuedAt_input m
    queued_ne := by
      intro q hq
      rw [queuedAt_ne m hq]
    queued_self := by
      rw [queuedAt_self] }
  by_cases hidle : m.sendingFlow = none ∧ m.scheduleJob = false
  · obtain ⟨hnone, hjob⟩ := hidle
    have hcond : ((m.queuedAt previous p t data).sendingFlow.isNone &&
        !(m.queuedAt previous p t data).scheduleJob) = true := by
      show (m.sendingFlow.isNone && !m.scheduleJob) = true
      rw [hnone, hjob]
      rfl
    have hprev : previous = none := by
      cases previous with
      | none => rfl
      | some s => cases hjob.symm.trans (hcore.previous s rfl).2
    have hne : (m.queuedAt previous p t data).queuedTree ≠ [] :=
      List.ne_nil_of_mem ((mem_queuedAt m).mpr (Or.inl rfl))
    rw [if_pos hcond]
    apply Returns.mono (hcore.schedule hnone hprev hjob hfreeing hne)
    rintro m' ⟨p', tree, -, rfl, hcore'⟩
    have hworking : ((m.queuedAt previous p t data).scheduled p' tree).Working := by
      intro _ hnone'
      cases hnone'
    refine ⟨hcore', hworking, ?_⟩
    exact {
      mtu := rfl
      packetWeight := rfl
      flowsList := rfl
      freeing := rfl
      time_ne := by
        rw [scheduled_time]
        exact hqueues.time_ne
      time_self := by
        rw [scheduled_time]
        exact hqueues.time_self
      input := by
        intro q
        rw [scheduled_input]
        exact hqueues.input q
      queued_ne := by
        intro q hq
        rw [scheduled_queued]
        exact hqueues.queued_ne q hq
      queued_self := by
        rw [scheduled_queued]
        exact hqueues.queued_self }
  · have hcond : ¬ ((m.queuedAt previous p t data).sendingFlow.isNone &&
        !(m.queuedAt previous p t data).scheduleJob) = true := by
      intro hcond
      obtain ⟨hnone, hjob⟩ := Bool.and_eq_true_iff.mp hcond
      rw [Bool.not_eq_true'] at hjob
      exact hidle ⟨Option.isNone_iff_eq_none.mp hnone, hjob⟩
    rw [if_neg hcond]
    refine Returns.pure ⟨hcore, fun _ hnone hjob => absurd ⟨hnone, hjob⟩ hidle, hqueues⟩

/-- The state after the packet of `p` was sent, with the times `τ`. -/
def sent (m : FairQueue) (p : Nat) (τ : Nat → Nat) : FairQueue :=
  { m with
    sendingFlow := none
    previousFlow := some p
    outputBusy := false
    scheduleJob := true
    flow := fun q =>
      if q = p then { m.flow p with time := τ p, input := .donePending }
      else { m.flow q with time := τ q } }

theorem sent_time (m : FairQueue) (p : Nat) (τ : Nat → Nat) : (m.sent p τ).time = τ := by
  funext q
  show (if q = p then _ else _ : QueueFlow).time = τ q
  split
  · rename_i hq
    rw [hq]
  · rfl

theorem sent_self (m : FairQueue) (p : Nat) (τ : Nat → Nat) :
    (m.sent p τ).flow p = { m.flow p with time := τ p, input := .donePending } :=
  if_pos rfl

theorem sent_ne (m : FairQueue) (τ : Nat → Nat) (hq : q ≠ p) :
    (m.sent p τ).flow q = { m.flow q with time := τ q } :=
  if_neg hq

theorem sent_queued (m : FairQueue) (p : Nat) (τ : Nat → Nat) (q : Nat) :
    ((m.sent p τ).flow q).queued = (m.flow q).queued := by
  by_cases hq : q = p
  · rw [hq, sent_self]
  · rw [sent_ne m τ hq]

theorem sent_isQueued (m : FairQueue) (p : Nat) (τ : Nat → Nat) (q : Nat) :
    ((m.sent p τ).flow q).isQueued = (m.flow q).isQueued := by
  by_cases hq : q = p
  · rw [hq, sent_self]
  · rw [sent_ne m τ hq]

/-- `output_handler_done`: the flow that was sent moves on by its packet and the weight. -/
theorem Core.outputHandlerDone (h : m.Core none) (hsending : m.sendingFlow = some p)
    (hfreeing : m.freeing = false) :
    Returns m.outputHandlerDone fun m' => m'.Core none ∧ m'.Working ∧ ∃ τ d, m' = m.sent p τ ∧
      (∀ q ∈ m.queuedTree, τ q + d = m.time q) ∧
      τ p + d = m.time p + (m.packetWeight + m.sendingLen) := by
  obtain ⟨hflow, hnot, hlen, hle, htimes⟩ := h.sending p hsending
  obtain ⟨hprevious, hjob⟩ := h.alone p hsending
  have hweight := h.weight
  have hbusy := (h.busy p hflow (by simp)).mpr (Or.inr hsending)
  unfold FairQueue.outputHandlerDone
  rw [hsending]
  apply Returns.bind_eq (assert_ok (by rw [hprevious]; rfl))
  apply Returns.bind_eq (assert_ok (by rw [hjob]; rfl))
  apply Returns.bind_eq (assert_ok (by rw [hfreeing]; rfl))
  apply Returns.bind_eq (assert_ok (by rw [h.not_queued hflow hnot]; rfl))
  have hlinked : Linked
      { m with sendingFlow := none, previousFlow := some p, outputBusy := false } :=
    ⟨h.flows_nodup, h.mem_flows, h.isQueued, h.ordered, h.time_le⟩
  have hamount : m.packetWeight + m.sendingLen ≤ fairqueueMaxTime := by omega
  apply Returns.bind (hlinked.incrementSentFlow hflow hnot htimes rfl hamount)
  rintro m' ⟨τ, d, rfl, hτ, htree, hself⟩
  apply Returns.bind_eq (assert_ok (beq_iff_eq.mpr hbusy))
  have hcore : (m.sent p τ).Core none := {
    flows_nodup := h.flows_nodup
    mem_flows := h.mem_flows
    isQueued := by
      intro q hq
      show ((m.sent p τ).flow q).isQueued = true ↔ _
      rw [sent_isQueued]
      exact h.isQueued q hq
    ordered := by
      show Ordered (m.sent p τ).time m.queuedTree
      rw [sent_time]
      apply h.ordered.congr
      intro q hq q' hq' hbefore
      have hq := htree q hq
      have hq' := htree q' hq'
      change τ q + d = m.time q at hq
      change τ q' + d = m.time q' at hq'
      unfold Before at hbefore ⊢
      omega
    time_le := by
      show ∀ q ∈ m.flowsList, (m.sent p τ).time q ≤ _
      rw [sent_time]
      exact hτ
    weight := hweight
    busy := by
      intro q hq _
      show ((m.sent p τ).flow q).input = .busy ↔ q ∈ m.queuedTree ∨ none = some q
      by_cases hqp : q = p
      · rw [hqp, sent_self]
        simp [hnot]
      · rw [sent_ne m τ hqp]
        show (m.flow q).input = .busy ↔ _
        rw [h.busy q hq (by simp), hsending, Option.some_inj]
        simp [Ne.symm hqp]
    queued_le := by
      intro q hq
      show ((m.sent p τ).flow q).queued.length ≤ _
      rw [sent_queued]
      exact h.queued_le q hq
    pending_le := by
      intro q hq data hdata
      change ((m.sent p τ).flow q).input = .operationPending data at hdata
      by_cases hqp : q = p
      · rw [hqp, sent_self] at hdata
        cases hdata
      · rw [sent_ne m τ hqp] at hdata
        exact h.pending_le q hq data hdata
    sending := fun q hq => by cases hq
    alone := fun q hq => by cases hq
    previous := by
      intro q hq
      cases hq
      exact ⟨hflow, rfl⟩
    outputBusy := fun _ => rfl }
  have hworking : (m.sent p τ).Working := by
    intro _ _ hnojob
    cases hnojob
  exact Returns.pure ⟨hcore, hworking, τ, d, rfl, htree, hself⟩

/-- `schedule_job_handler`. -/
theorem Core.scheduleJobHandler (h : m.Core none) (hjob : m.scheduleJob = true)
    (hfreeing : m.freeing = false) :
    Returns (FairQueue.scheduleJobHandler { m with scheduleJob := false }) fun m' =>
      m'.Core none ∧ m'.Working ∧ m.Same m' ∧ (∀ q, m'.time q = m.time q) ∧
      (∀ q, (m'.flow q).input = (m.flow q).input) ∧
      ∀ q, (m'.flow q).queued = (m.flow q).queued := by
  have hsending : m.sendingFlow = none := by
    cases hs : m.sendingFlow with
    | none => rfl
    | some p => cases hjob.symm.trans (h.alone p hs).2
  have hcore : Core { m with scheduleJob := false, previousFlow := none } none :=
    { h with
      alone := fun p hp => ⟨rfl, rfl⟩
      previous := fun p hp => by cases hp }
  apply Returns.bind_eq (assert_ok (by rw [hsending]; rfl))
  apply Returns.bind_eq (assert_ok (by rw [hfreeing]; rfl))
  by_cases hempty : m.queuedTree = []
  · rw [if_pos (by rw [hempty]; rfl)]
    exact Returns.pure ⟨hcore, fun _ _ _ => hempty, ⟨rfl, rfl, rfl, rfl⟩, fun _ => rfl,
      fun _ => rfl, fun _ => rfl⟩
  · rw [if_neg (by simpa using hempty)]
    apply Returns.mono (hcore.schedule hsending rfl rfl hfreeing hempty)
    rintro m' ⟨p, tree, -, rfl, hcore'⟩
    have hworking : FairQueue.Working
        (FairQueue.scheduled { m with scheduleJob := false, previousFlow := none } p tree) := by
      intro _ hnone
      cases hnone
    refine ⟨hcore', hworking, ⟨rfl, rfl, rfl, rfl⟩, fun q => ?_, fun q => ?_, fun q => ?_⟩
    · rw [scheduled_time]
      rfl
    · rw [scheduled_input]
    · rw [scheduled_queued]

/-! ## Flows that come and go -/

/-- A flow with another input. -/
def setInput (m : FairQueue) (p : Nat) (input : PassState) : FairQueue :=
  m.setFlow p { m.flow p with input }

section

variable {input : PassState}

theorem setInput_self (m : FairQueue) : ((m.setInput p input).flow p).input = input := by
  show (if p = p then _ else m.flow p).input = input
  rw [if_pos rfl]

theorem setInput_ne (m : FairQueue) (hq : q ≠ p) : (m.setInput p input).flow q = m.flow q :=
  if_neg hq

theorem setInput_time (m : FairQueue) : (m.setInput p input).time = m.time := by
  funext q
  show (if q = p then _ else m.flow q).time = (m.flow q).time
  split
  · rename_i hq
    rw [hq]
  · rfl

theorem setInput_queued (m : FairQueue) (q : Nat) :
    ((m.setInput p input).flow q).queued = (m.flow q).queued := by
  show (if q = p then _ else m.flow q).queued = (m.flow q).queued
  split
  · rename_i hq
    rw [hq]
  · rfl

theorem setInput_isQueued (m : FairQueue) (q : Nat) :
    ((m.setInput p input).flow q).isQueued = (m.flow q).isQueued := by
  show (if q = p then _ else m.flow q).isQueued = (m.flow q).isQueued
  split
  · rename_i hq
    rw [hq]
  · rfl

theorem Core.setInput (h : m.Core none)
    (hinput : ∀ data, input = .operationPending data → data.length ≤ m.mtu) :
    (m.setInput p input).Core (some p) where
  flows_nodup := h.flows_nodup
  mem_flows := h.mem_flows
  isQueued q hq := by
    rw [setInput_isQueued]
    exact h.isQueued q hq
  ordered := by
    rw [setInput_time]
    exact h.ordered
  time_le := by
    rw [setInput_time]
    exact h.time_le
  weight := h.weight
  busy q hq hne := by
    rw [setInput_ne m fun heq => hne (congrArg some heq)]
    exact h.busy q hq (by simp)
  queued_le q hq := by
    rw [setInput_queued]
    exact h.queued_le q hq
  pending_le q hq data hdata := by
    by_cases hqp : q = p
    · rw [hqp, setInput_self] at hdata
      exact hinput data hdata
    · rw [setInput_ne m hqp] at hdata
      exact h.pending_le q hq data hdata
  sending s hs := by
    rw [setInput_queued, setInput_time]
    exact h.sending s hs
  alone := h.alone
  previous := h.previous
  outputBusy := h.outputBusy

end

theorem Core.fill (h : m.Core (some p))
    (hbusy : (m.flow p).input = .busy ↔ p ∈ m.queuedTree ∨ m.sendingFlow = some p) :
    m.Core none :=
  { h with
    busy := by
      intro q hq _
      by_cases hqp : q = p
      · rw [hqp]
        exact hbusy
      · exact h.busy q hq fun heq => hqp (Option.some_inj.mp heq) }

/-- The input of a flow that is not queued and not sent. -/
theorem Core.setIdle {input : PassState} (h : m.Core none) (htree : p ∉ m.queuedTree)
    (hsending : m.sendingFlow ≠ some p) (hidle : input ≠ .busy)
    (hinput : ∀ data, input = .operationPending data → data.length ≤ m.mtu) :
    (m.setInput p input).Core none := by
  apply (h.setInput hinput).fill
  rw [setInput_self]
  exact iff_of_false hidle (not_or.mpr ⟨htree, hsending⟩)

/-- A flow whose input is not busy is not queued and not sent. -/
theorem Core.idle (h : m.Core none) (hp : p ∈ m.flowsList) (hinput : (m.flow p).input ≠ .busy) :
    p ∉ m.queuedTree ∧ m.sendingFlow ≠ some p :=
  not_or.mp fun hor => hinput ((h.busy p hp (by simp)).mpr hor)

/-- `PacketPassFairQueueFlow_Init`. -/
theorem Core.flowInit (h : m.Core none) (hp : p ∉ m.flowsList) (hfreeing : m.freeing = false) :
    Returns (m.flowInit p) fun m' => m'.Core none ∧ m'.mtu = m.mtu ∧
      m'.packetWeight = m.packetWeight ∧ m'.flowsList = m.flowsList ++ [p] ∧
      (m.Working → m'.Working) ∧
      (m'.flow p).input = .none ∧ ∀ q, q ≠ p → m'.flow q = m.flow q := by
  apply Returns.bind_eq (assert_ok (by rw [hfreeing]; rfl))
  have hne : ∀ q ∈ m.flowsList, q ≠ p := fun q hq heq => hp (heq ▸ hq)
  generalize hm' : m.setFlow p { input := .none, time := 0, isQueued := false, queued := [] } = m'
  have hother : ∀ q, q ≠ p → m'.flow q = m.flow q := by
    intro q hq
    rw [← hm']
    exact if_neg hq
  have hself : m'.flow p = { input := .none, time := 0, isQueued := false, queued := [] } := by
    rw [← hm']
    exact if_pos rfl
  have htree : m'.queuedTree = m.queuedTree := by rw [← hm']; rfl
  have hflows : m'.flowsList = m.flowsList := by rw [← hm']; rfl
  have hsend : m'.sendingFlow = m.sendingFlow := by rw [← hm']; rfl
  have htime : ∀ q ∈ m.flowsList, m'.time q = m.time q :=
    fun q hq => congrArg QueueFlow.time (hother q (hne q hq))
  have hcore : Core { m' with flowsList := m'.flowsList ++ [p] } none := {
    flows_nodup := by
      show (m'.flowsList ++ [p]).Nodup
      rw [hflows]
      exact List.nodup_append.mpr ⟨h.flows_nodup, List.nodup_singleton p, by
        rintro q hq q' hq' rfl
        exact hne q hq (List.mem_singleton.mp hq')⟩
    mem_flows := by
      show ∀ q ∈ m'.queuedTree, q ∈ m'.flowsList ++ [p]
      rw [htree, hflows]
      exact fun q hq => List.mem_append_left _ (h.mem_flows q hq)
    isQueued := by
      show ∀ q ∈ m'.flowsList ++ [p], (m'.flow q).isQueued = true ↔ q ∈ m'.queuedTree
      rw [htree, hflows]
      intro q hq
      rcases List.mem_append.mp hq with hq | hq
      · rw [hother q (hne q hq)]
        exact h.isQueued q hq
      · rw [List.mem_singleton.mp hq, hself]
        exact iff_of_false Bool.false_ne_true fun hmem => hp (h.mem_flows p hmem)
    ordered := by
      show Ordered m'.time m'.queuedTree
      rw [htree]
      apply h.ordered.congr
      intro q hq q' hq' hbefore
      unfold Before
      rw [htime q (h.mem_flows q hq), htime q' (h.mem_flows q' hq')]
      exact hbefore
    time_le := by
      show ∀ q ∈ m'.flowsList ++ [p], m'.time q ≤ _
      rw [hflows]
      intro q hq
      rcases List.mem_append.mp hq with hq | hq
      · rw [htime q hq]
        exact h.time_le q hq
      · rw [List.mem_singleton.mp hq, time, hself]
        exact Nat.zero_le _
    weight := by
      rw [← hm']
      exact h.weight
    busy := by
      show ∀ q ∈ m'.flowsList ++ [p], _ → ((m'.flow q).input = .busy ↔
        q ∈ m'.queuedTree ∨ m'.sendingFlow = some q)
      rw [htree, hflows, hsend]
      intro q hq hhole
      rcases List.mem_append.mp hq with hq | hq
      · rw [hother q (hne q hq)]
        exact h.busy q hq hhole
      · rw [List.mem_singleton.mp hq, hself]
        refine iff_of_false (by simp) (not_or.mpr ⟨fun hmem => hp (h.mem_flows p hmem), ?_⟩)
        exact fun hs => hp (h.sending p hs).1
    queued_le := by
      show ∀ q ∈ m'.queuedTree, (m'.flow q).queued.length ≤ m'.mtu
      rw [htree]
      intro q hq
      rw [hother q (hne q (h.mem_flows q hq)), ← hm']
      exact h.queued_le q hq
    pending_le := by
      show ∀ q ∈ m'.flowsList ++ [p], ∀ data, (m'.flow q).input = .operationPending data → _
      rw [hflows]
      intro q hq data hdata
      rcases List.mem_append.mp hq with hq | hq
      · rw [hother q (hne q hq)] at hdata
        rw [← hm']
        exact h.pending_le q hq data hdata
      · rw [List.mem_singleton.mp hq, hself] at hdata
        cases hdata
    sending := by
      show ∀ s, m'.sendingFlow = some s → s ∈ m'.flowsList ++ [p] ∧ s ∉ m'.queuedTree ∧
        m'.sendingLen = (m'.flow s).queued.length ∧ m'.sendingLen ≤ m'.mtu ∧
        ∀ q ∈ m'.queuedTree, m'.time s ≤ m'.time q
      rw [htree, hflows, hsend]
      intro s hs
      obtain ⟨hflow, hnot, hlen, hle, htimes⟩ := h.sending s hs
      rw [hother s (hne s hflow), htime s hflow, ← hm']
      refine ⟨List.mem_append_left _ hflow, hnot, hlen, hle, fun q hq => ?_⟩
      rw [hm', htime q (h.mem_flows q hq)]
      exact htimes q hq
    alone := by
      rw [← hm']
      exact h.alone
    previous := by
      rw [← hm']
      exact fun s hs => ⟨List.mem_append_left _ (h.previous s hs).1, (h.previous s hs).2⟩
    outputBusy := by
      rw [← hm']
      exact h.outputBusy }
  refine Returns.pure ⟨hcore, ?_, ?_, ?_, ?_, ?_, hother⟩
  · rw [← hm']
    rfl
  · rw [← hm']
    rfl
  · rw [hflows]
  · rw [← hm']
    exact fun hworking => hworking
  · show (m'.flow p).input = .none
    rw [hself]

/-- `PacketPassFairQueueFlow_Free`. -/
theorem Core.flowFree (h : m.Core none) (hp : p ∈ m.flowsList)
    (hfree : m.freeing = true ∨ m.sendingFlow ≠ some p) :
    Returns (m.flowFree p) fun m' => m'.Core none ∧ m'.mtu = m.mtu ∧
      m'.packetWeight = m.packetWeight ∧ m'.flowsList = m.flowsList.erase p ∧
      (m.Working → m'.Working) ∧
      ∀ q, m'.flow q = m.flow q := by
  have hassert : (m.freeing || m.sendingFlow != some p) = true := by
    rw [Bool.or_eq_true, bne_iff_ne]
    exact hfree
  apply Returns.bind_eq (assert_ok hassert)
  have htree : (if (m.flow p).isQueued then unlink m.queuedTree p else return m.queuedTree)
      = .ok (m.queuedTree.erase p) := by
    by_cases hq : p ∈ m.queuedTree
    · rw [if_pos ((h.isQueued p hp).mpr hq), unlink_ok hq]
    · rw [h.not_queued hp hq, List.erase_of_not_mem hq]
      rfl
  apply Returns.bind_eq htree
  apply Returns.bind_eq (unlink_ok hp)
  have hmem : ∀ q, q ∈ m.flowsList.erase p ↔ q ≠ p ∧ q ∈ m.flowsList := by
    intro q
    exact h.flows_nodup.mem_erase_iff
  have hmemTree : ∀ q, q ∈ m.queuedTree.erase p ↔ q ≠ p ∧ q ∈ m.queuedTree := by
    intro q
    exact h.ordered.nodup.mem_erase_iff
  have hsend : ∀ s, (if m.sendingFlow = some p then none else m.sendingFlow) = some s →
      m.sendingFlow = some s ∧ s ≠ p := by
    intro s hs
    split at hs
    · cases hs
    · rename_i hne
      exact ⟨hs, fun heq => hne (heq ▸ hs)⟩
  have hprev : ∀ s, (if m.previousFlow = some p then none else m.previousFlow) = some s →
      m.previousFlow = some s ∧ s ≠ p := by
    intro s hs
    split at hs
    · cases hs
    · rename_i hne
      exact ⟨hs, fun heq => hne (heq ▸ hs)⟩
  refine Returns.pure ⟨?_, rfl, rfl, rfl, fun hworking hnot hnone hjob => ?_, fun q => rfl⟩
  · exact {
      flows_nodup := h.flows_nodup.erase p
      mem_flows := by
        intro q hq
        obtain ⟨hne, hq⟩ := (hmemTree q).mp hq
        exact (hmem q).mpr ⟨hne, h.mem_flows q hq⟩
      isQueued := by
        intro q hq
        obtain ⟨hne, hq⟩ := (hmem q).mp hq
        show (m.flow q).isQueued = true ↔ q ∈ m.queuedTree.erase p
        rw [hmemTree, h.isQueued q hq, and_iff_right hne]
      ordered := h.ordered.erase p
      time_le := fun q hq => h.time_le q ((hmem q).mp hq).2
      weight := h.weight
      busy := by
        intro q hq _
        obtain ⟨hne, hq⟩ := (hmem q).mp hq
        show (m.flow q).input = .busy ↔ q ∈ m.queuedTree.erase p ∨
          (if m.sendingFlow = some p then none else m.sendingFlow) = some q
        rw [h.busy q hq (by simp), hmemTree, and_iff_right hne]
        apply or_congr_right
        constructor
        · intro hs
          rw [if_neg fun heq => hne (Option.some_inj.mp (hs.symm.trans heq))]
          exact hs
        · exact fun hs => (hsend q hs).1
      queued_le := fun q hq => h.queued_le q ((hmemTree q).mp hq).2
      pending_le := fun q hq => h.pending_le q ((hmem q).mp hq).2
      sending := by
        intro s hs
        obtain ⟨hs, hne⟩ := hsend s hs
        obtain ⟨hflow, hnot, hlen, hle, htimes⟩ := h.sending s hs
        refine ⟨(hmem s).mpr ⟨hne, hflow⟩, fun hq => hnot ((hmemTree s).mp hq).2, hlen, hle, ?_⟩
        exact fun q hq => htimes q ((hmemTree q).mp hq).2
      alone := by
        intro s hs
        obtain ⟨hnone, hjob⟩ := h.alone s (hsend s hs).1
        refine ⟨?_, hjob⟩
        show (if m.previousFlow = some p then none else m.previousFlow) = none
        rw [hnone]
        rfl
      previous := by
        intro s hs
        obtain ⟨hs, hne⟩ := hprev s hs
        obtain ⟨hflow, hjob⟩ := h.previous s hs
        exact ⟨(hmem s).mpr ⟨hne, hflow⟩, hjob⟩
      outputBusy := by
        intro hnot
        have hne := hfree.resolve_left (by rw [show m.freeing = false from hnot]; decide)
        show m.outputBusy = (if m.sendingFlow = some p then none else m.sendingFlow).isSome
        rw [if_neg hne]
        exact h.outputBusy hnot }
  · have hne := hfree.resolve_left (by rw [show m.freeing = false from hnot]; decide)
    change (if m.sendingFlow = some p then none else m.sendingFlow) = none at hnone
    rw [if_neg hne] at hnone
    show m.queuedTree.erase p = []
    rw [hworking hnot hnone hjob]
    rfl

end FairQueue

end Lightsocks.Flow
