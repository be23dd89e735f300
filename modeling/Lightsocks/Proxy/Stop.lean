import Lightsocks.Proxy.Lifecycle

/-!
# When stopping the proxy is safe and effective

Two things go wrong on some schedules. A `stop_proxy_server` that runs before the base of the
run exists leaves no trace in it, and the run goes on to wait for events. One that runs after
a run has returned uses the base that was freed. `stop_iff` gives the exact condition on a
run, together with the other null pointer on the way out: `evconnlistener_free` after a bind
that failed. Its second half is the condition for the filters, which follow `encryptor` after
it has been cleared.
-/

namespace Lightsocks.Proxy

open Lightsocks.Lib

/-! ## The invariant -/

/-- What `base` and the history say, by where `start_proxy_server` is: outside a run there is
no live base; before the loop a signal is a loopexit that is still queued; in the loop it is
anything that makes the loop end. -/
def Coherent (pc : StartPc) (base : BasePtr) (signalled : Bool) : Prop :=
  match pc with
  | .idle => ∀ b, base ≠ .live b
  | .signal | .eventBaseNew => (∀ b, base ≠ .live b) ∧ signalled = false
  | .evconnlistenerNewBind | .eventBaseDispatch =>
    ∃ b, base = .live b ∧ (signalled = true ↔ 0 < b.loopexits)
  | .loopHead | .waiting | .polling | .processing | .callback =>
    ∃ b, base = .live b ∧ (signalled = true ↔ b.quiet = false)
  | .evconnlistenerFree | .eventBaseFree => ∃ b, base = .live b

def State.Coherent (s : State) : Prop := Proxy.Coherent s.pc s.base s.signalled

theorem quiet_iff (b : EventBase) :
    b.quiet = true ↔ b.eventBreak = false ∧ b.eventGotterm = false ∧ b.loopexits = 0 := by
  simp [EventBase.quiet, and_assoc]

theorem quiet_eq_false_iff (b : EventBase) :
    b.quiet = false ↔ b.eventBreak = true ∨ b.eventGotterm = true ∨ 0 < b.loopexits := by
  rw [← Bool.not_eq_true, quiet_iff]
  simp only [Nat.pos_iff_ne_zero]
  cases b.eventBreak <;> cases b.eventGotterm <;> simp

theorem Coherent.loopbreak {pc : StartPc} {b : EventBase} {signalled : Bool}
    (h : Coherent pc (.live b) signalled) :
    Coherent pc (.live { b with eventBreak := true }) (signalled || pc.inLoop) := by
  cases pc <;> simp_all [Coherent, StartPc.inLoop, quiet_eq_false_iff]

theorem Coherent.loopexit {pc : StartPc} {b : EventBase} {signalled : Bool}
    (h : Coherent pc (.live b) signalled) :
    Coherent pc (.live { b with loopexits := b.loopexits + 1 }) true := by
  cases pc <;> simp_all [Coherent, quiet_eq_false_iff]

/-- In the loop there is a base, and it is quiet exactly if the run has not been signalled. -/
theorem State.Coherent.in_loop {s : State} (h : s.Coherent) (hpc : s.pc.inLoop = true) :
    ∃ b, s.base = .live b ∧ (s.signalled = true ↔ b.quiet = false) := by
  unfold State.Coherent Proxy.Coherent at h
  cases hs : s.pc <;> rw [hs] at h hpc <;> first | exact h | cases hpc

theorem State.Coherent.signalled_iff {s : State} {b : EventBase} (h : s.Coherent)
    (hpc : s.pc.inLoop = true) (hb : s.base = .live b) :
    s.signalled = true ↔ b.quiet = false := by
  obtain ⟨b', hb', hsig⟩ := h.in_loop hpc
  cases hb.symm.trans hb'
  exact hsig

theorem coherent_afterCallback {s : State} {b : EventBase} (hb : s.base = .live b)
    (h : s.signalled = true ↔ b.quiet = false) : (afterCallback s b).Coherent := by
  unfold afterCallback
  split
  · exact ⟨b, hb, h⟩
  · exact ⟨b, hb, h⟩

theorem coherent_iterate {s : State} {b : EventBase} (hb : s.base = .live b)
    (h : s.signalled = true ↔ b.quiet = false) : (iterate s b).Coherent := by
  unfold iterate
  split
  · exact ⟨b, hb⟩
  · split
    · exact ⟨b, hb⟩
    · split <;> exact ⟨b, hb, h⟩

theorem Step.coherent {s s' : State} {e : Event} (hstep : Step s e s') (h : s.Coherent) :
    s'.Coherent := by
  have hat : ∀ pc, s.pc = pc → Proxy.Coherent pc s.base s.signalled := by
    rintro _ rfl
    exact h
  cases hstep with
  | start _ _ _ hpc => exact ⟨hat _ hpc, rfl⟩
  | signal hpc => exact hat .signal hpc
  | signalFails hpc => exact (hat _ hpc).1
  | eventBaseNew hpc => exact ⟨_, rfl, by simp [(hat _ hpc).2]⟩
  | eventBaseNewFails | eventBaseFree =>
    intro b hb
    cases hb
  | evconnlistenerNewBind ok hpc => exact hat .evconnlistenerNewBind hpc
  | dispatch b hpc hb =>
    obtain ⟨b', hb', hsig⟩ := hat _ hpc
    cases hb.symm.trans hb'
    exact ⟨_, rfl, hsig.trans (by simp [quiet_eq_false_iff])⟩
  | iterate b hpc hb => exact coherent_iterate hb (h.signalled_iff (by rw [hpc]; rfl) hb)
  | wake hpc =>
    obtain ⟨b, hb, hsig⟩ := h.in_loop (by rcases hpc with hpc | hpc <;> rw [hpc] <;> rfl)
    exact ⟨b, hb, hsig⟩
  | wakeFails hpc =>
    obtain ⟨b, hb, -⟩ := h.in_loop (by rcases hpc with hpc | hpc <;> rw [hpc] <;> rfl)
    exact ⟨b, hb⟩
  | loopexitCb b b' hpc hb hpos hb' =>
    subst hb'
    have hs : s.signalled = true :=
      (h.signalled_iff (by rw [hpc]; rfl) hb).mpr ((quiet_eq_false_iff b).mpr (.inr (.inr hpos)))
    exact coherent_afterCallback rfl (iff_of_true hs ((quiet_eq_false_iff _).mpr (.inr (.inl rfl))))
  | callback hpc | processed hpc =>
    obtain ⟨b, hb, hsig⟩ := h.in_loop (by rw [hpc]; rfl)
    exact ⟨b, hb, hsig⟩
  | callbackReturns b hpc hb =>
    exact coherent_afterCallback hb (h.signalled_iff (by rw [hpc]; rfl) hb)
  | evconnlistenerFree hpc => exact hat .evconnlistenerFree hpc
  | loopbreak b _ _ hb =>
    unfold State.Coherent at h
    rw [hb] at h
    exact h.loopbreak
  | loopexit b _ _ hb =>
    unfold State.Coherent at h
    rw [hb] at h
    exact h.loopexit
  | _ => exact h

theorem coherent_of_runs {es : List Event} {s : State} (h : proxy.Runs es (.ok s)) :
    s.Coherent :=
  Machine.Runs.invariant (I := fun _ s => s.Coherent) (fun _ hb => nomatch hb)
    (fun _ _ _ _ _ hc he hs' => (step_of_exec he hs').coherent hc) h

/-! ## Safe and effective -/

/-- `event_base` or `evconnlistener` is used wrongly. -/
def Misuse (f : Fault) : Prop := f = .nullBase ∨ f = .freedBase ∨ f = .nullListener

/-- If a `stop_proxy_server` returned since the run began, the loop does not wait with nothing
that asks it to end. -/
def Effective (s : State) : Prop :=
  s.stopped = true → s.pc = .waiting → ∀ b, s.base = .live b → b.quiet = false

/-- The condition on a step of `stop_proxy_server`: a base that it uses has not been freed,
and it does not return, without having signalled the run, while the loop waits. -/
def Stop.InTime (s : State) (stop : Stop) : Prop :=
  match stop.pc with
  | .loopbreak | .loopexit => s.base ≠ .freed
  | .clearClientCallback => s.pc = .waiting → s.signalled = true
  | _ => True

/-- The condition on a step: besides that of `Stop.InTime`, the loop is not continued after a
stop that did not signal it, and the listener was bound. -/
def InTime (s : State) : Event → Prop
  | .iterate => s.listener = true → s.stopped = true → s.signalled = true
  | .evconnlistenerFree => s.listener = true
  | .stopStep i _ => ∀ stop, s.stops[i]? = some stop → stop.InTime s
  | _ => True

instance (s : State) (stop : Stop) : Decidable (stop.InTime s) :=
  match stop with
  | ⟨.loopbreak, _⟩ | ⟨.loopexit, _⟩ => inferInstanceAs (Decidable (s.base ≠ .freed))
  | ⟨.clearClientCallback, _⟩ => inferInstanceAs (Decidable (s.pc = .waiting → _))
  | ⟨.clearEncryptor, _⟩ | ⟨.clearServerPort, _⟩ | ⟨.returned, _⟩ => isTrue trivial

instance (s : State) (e : Event) : Decidable (InTime s e) :=
  match e with
  | .iterate => inferInstanceAs (Decidable (s.listener = true → s.stopped = true → _))
  | .evconnlistenerFree => inferInstanceAs (Decidable (s.listener = true))
  | .stopStep i _ => inferInstanceAs (Decidable (∀ stop ∈ s.stops[i]?, stop.InTime s))
  | .start _ _ _ | .signal _ | .eventBaseNew _ | .evconnlistenerNewBind _ | .dispatch | .wake _
  | .loopexitCb | .callback | .lookup | .callbackReturns | .processed | .eventBaseFree | .stop =>
    isTrue trivial

theorem effective_of_pc {s : State} (h : s.pc ≠ .waiting) : Effective s :=
  fun _ hpc => absurd hpc h

/-- A step is no misuse of what libevent gave, and keeps the stops effective. -/
def Good (r : Except Fault State) : Prop :=
  (∀ f, r = .error f → ¬ Misuse f) ∧ ∀ s', r = .ok s' → Effective s'

theorem good_ok {s : State} : Good (.ok s) ↔ Effective s := by
  constructor
  · exact fun h => h.2 s rfl
  · refine fun h => ⟨fun f hf => (nomatch hf), fun s' hs' => ?_⟩
    cases hs'
    exact h

theorem good_error {f : Fault} : Good (.error f) ↔ ¬ Misuse f := by
  constructor
  · exact fun h => h.1 f rfl
  · refine fun h => ⟨fun f' hf' => ?_, fun s' hs' => nomatch hs'⟩
    cases hf'
    exact h

theorem good_iterate_iff {s : State} (hc : s.Coherent) (hpc : s.pc = .loopHead) :
    Good (exec s .iterate) ↔ InTime s .iterate := by
  obtain ⟨b, hb, hsig⟩ := hc.in_loop (by rw [hpc]; rfl)
  simp only [exec, State.useBase, hb, good_ok, InTime, iterate]
  cases hq : b.quiet with
  | false =>
    -- the run has been signalled: the loop ends, or polls
    refine iff_of_true ?_ (fun _ _ => hsig.mpr hq)
    split
    · exact effective_of_pc (by simp)
    · rename_i hgo
      split
      · exact effective_of_pc (by simp)
      · have hpos : b.loopexits ≠ 0 := by
          rcases (quiet_eq_false_iff b).mp hq with h | h | h
          · simp [h] at hgo
          · simp [h] at hgo
          · omega
        rw [if_neg (by simpa using hpos)]
        exact effective_of_pc (by simp)
  | true =>
    obtain ⟨hbreak, hgot, hexits⟩ := (quiet_iff b).mp hq
    have hns : s.signalled = false := by
      rw [← Bool.not_eq_true, hsig, hq]
      decide
    cases hl : s.listener with
    | false =>
      simp only [hbreak, hgot, hexits]
      exact iff_of_true (effective_of_pc (by simp)) (fun h => by cases h)
    | true =>
      simp only [hbreak, hgot, hexits, hns]
      simp only [Effective, hq, Bool.or_self, Bool.not_true, Bool.false_and, Bool.false_eq_true,
        if_false, beq_self_eq_true, if_true, forall_const, imp_false, BasePtr.live.injEq,
        forall_eq', Bool.true_eq_false]

theorem good_stopStep_iff {s : State} (hc : s.Coherent) (hs : Effective s) (i : Nat)
    (stop : Stop) : Good (stopStep s i stop) ↔ stop.InTime s := by
  unfold stopStep Stop.InTime
  cases hpc : stop.pc with
  | loopbreak =>
    simp only [eventBaseLoopbreak]
    cases hb : s.base with
    | freed => exact iff_of_false (fun h => h.1 _ rfl (.inr (.inl rfl))) (fun h => h rfl)
    | null =>
      refine iff_of_true (good_ok.mpr fun _ _ b hb' => ?_) (by simp)
      cases hb.symm.trans hb'
    | live b =>
      refine iff_of_true (good_ok.mpr fun _ _ b' hb' => ?_) (by simp)
      cases hb'
      exact (quiet_eq_false_iff _).mpr (.inl rfl)
  | loopexit =>
    simp only [eventBaseLoopexit]
    cases hb : s.base with
    | freed => exact iff_of_false (fun h => h.1 _ rfl (.inr (.inl rfl))) (fun h => h rfl)
    | null =>
      refine iff_of_true (good_ok.mpr fun _ _ b hb' => ?_) (by simp)
      cases hb.symm.trans hb'
    | live b =>
      refine iff_of_true (good_ok.mpr fun _ _ b' hb' => ?_) (by simp)
      cases hb'
      exact (quiet_eq_false_iff _).mpr (.inr (.inr (Nat.succ_pos _)))
  | clearClientCallback =>
    rw [good_ok]
    constructor
    · intro heff hw
      obtain ⟨b, hb, hsig⟩ := hc.in_loop (by rw [hw]; rfl)
      exact hsig.mpr (heff (by simp [hw]) hw b hb)
    · intro hsig _ hw b hb
      obtain ⟨b', hb', hsig'⟩ := hc.in_loop (by rw [show s.pc = .waiting from hw]; rfl)
      cases hb'.symm.trans hb
      exact hsig'.mp (hsig hw)
  | _ => exact iff_of_true (good_ok.mpr hs) trivial

/-- A step is good exactly if it is in time. -/
theorem good_iff {s : State} (hc : s.Coherent) (hs : Effective s) {e : Event}
    (he : enabled s e = true) : Good (exec s e) ↔ InTime s e := by
  have hbase : ∀ k : EventBase → State, s.pc.inLoop = true → (∀ b, (k b).pc ≠ .waiting) →
      Good (s.useBase k) := by
    intro k hpc hk
    obtain ⟨b, hb, -⟩ := hc.in_loop hpc
    simp only [State.useBase, hb]
    exact good_ok.mpr (effective_of_pc (hk b))
  have hafter : ∀ s₁ b, (afterCallback s₁ b).pc ≠ .waiting := by
    intro s₁ b
    unfold afterCallback
    split <;> simp
  cases e with
  | iterate => exact good_iterate_iff hc (eq_of_beq he)
  | evconnlistenerFree =>
    simp only [exec, InTime]
    cases hl : s.listener with
    | true => exact iff_of_true (good_ok.mpr (effective_of_pc (by simp))) rfl
    | false =>
      exact iff_of_false (fun h => good_error.mp h (.inr (.inr rfl))) (by simp)
  | stopStep i pc =>
    simp only [exec, InTime]
    cases hi : s.stops[i]? with
    | none => exact iff_of_true (good_ok.mpr hs) (fun _ h => by cases h)
    | some stop =>
      simp only [Option.some.injEq, forall_eq']
      exact good_stopStep_iff hc hs i stop
  | dispatch =>
    have hpc : s.pc = .eventBaseDispatch := eq_of_beq he
    unfold State.Coherent at hc
    rw [hpc] at hc
    obtain ⟨b, hb, -⟩ := hc
    simp only [exec, State.useBase, hb]
    exact iff_of_true (good_ok.mpr (effective_of_pc (by simp))) trivial
  | eventBaseFree =>
    have hpc : s.pc = .eventBaseFree := eq_of_beq he
    unfold State.Coherent at hc
    rw [hpc] at hc
    obtain ⟨b, hb⟩ := hc
    simp only [exec, State.useBase, hb]
    exact iff_of_true (good_ok.mpr (effective_of_pc (by simp [State.return_]))) trivial
  | loopexitCb =>
    obtain ⟨hpc, -⟩ := Bool.and_eq_true_iff.mp he
    exact iff_of_true (hbase _ (by rw [eq_of_beq hpc]; rfl) (fun b => hafter _ _)) trivial
  | callbackReturns =>
    exact iff_of_true (hbase _ (by rw [show s.pc = .callback from eq_of_beq he]; rfl)
      (fun b => hafter _ _)) trivial
  | lookup =>
    simp only [exec, InTime]
    cases s.encryptor with
    | true => exact iff_of_true (good_ok.mpr hs) trivial
    | false => exact iff_of_true (good_error.mpr (by rintro (h | h | h) <;> cases h)) trivial
  | stop => exact iff_of_true (good_ok.mpr hs) trivial
  | signal ok =>
    refine iff_of_true (good_ok.mpr (effective_of_pc ?_)) trivial
    cases ok <;> simp [State.return_]
  | eventBaseNew ok =>
    refine iff_of_true (good_ok.mpr (effective_of_pc ?_)) trivial
    cases ok <;> simp [State.return_]
  | wake ok =>
    refine iff_of_true (good_ok.mpr (effective_of_pc ?_)) trivial
    cases ok <;> simp
  | _ => exact iff_of_true (good_ok.mpr (effective_of_pc (by simp))) trivial

/-! ## Lookups -/

/-- What a step makes of the pointer `encryptor`: only a start sets it, and only its step of a
stop clears it. -/
def encryptorAfter (encryptor : Bool) : Event → Bool
  | .start _ _ _ => true
  | .stopStep _ .clearEncryptor => false
  | _ => encryptor

/-- Since the last `start_proxy_server` among the events, no stop has cleared `encryptor`. -/
def encryptorKept (es : List Event) : Bool := es.foldl encryptorAfter false

theorem afterCallback_encryptor (s : State) (b : EventBase) :
    (afterCallback s b).encryptor = s.encryptor := by
  unfold afterCallback
  split <;> rfl

theorem iterate_encryptor (s : State) (b : EventBase) :
    (iterate s b).encryptor = s.encryptor := by
  unfold iterate
  split
  · rfl
  · split
    · rfl
    · split <;> rfl

theorem Step.encryptor {s s' : State} {e : Event} (hstep : Step s e s') :
    s'.encryptor = encryptorAfter s.encryptor e := by
  cases hstep with
  | iterate b => exact iterate_encryptor s b
  | loopexitCb | callbackReturns => exact afterCallback_encryptor _ _
  | _ => rfl

theorem encryptor_of_runs {es : List Event} {s : State} (h : proxy.Runs es (.ok s)) :
    s.encryptor = encryptorKept es := by
  refine Machine.Runs.invariant (I := fun es s => s.encryptor = encryptorKept es) rfl ?_ h
  intro es s e s' _ hI he hs'
  rw [(step_of_exec he hs').encryptor, hI, encryptorKept, encryptorKept, List.foldl_append]
  rfl

theorem useBase_ne_nullEncryptor (s : State) (k : EventBase → State) :
    s.useBase k ≠ .error .nullEncryptor := by
  unfold State.useBase
  split <;> simp

theorem stopStep_ne_nullEncryptor (s : State) (i : Nat) (stop : Stop) :
    stopStep s i stop ≠ .error .nullEncryptor := by
  unfold stopStep
  cases hpc : stop.pc with
  | loopbreak =>
    simp only [eventBaseLoopbreak]
    cases s.base <;> simp [bind, Except.bind, pure, Except.pure]
  | loopexit =>
    simp only [eventBaseLoopexit]
    cases s.base <;> simp [bind, Except.bind, pure, Except.pure]
  | _ => simp

/-- Only a lookup follows the pointer `encryptor`. -/
theorem exec_ne_nullEncryptor_iff (s : State) (e : Event) :
    exec s e ≠ .error .nullEncryptor ↔ (e = .lookup → s.encryptor = true) := by
  cases e with
  | lookup =>
    simp only [exec]
    cases s.encryptor <;> simp
  | dispatch => exact iff_of_true (useBase_ne_nullEncryptor _ _) (by simp)
  | iterate => exact iff_of_true (useBase_ne_nullEncryptor _ _) (by simp)
  | loopexitCb => exact iff_of_true (useBase_ne_nullEncryptor _ _) (by simp)
  | callbackReturns => exact iff_of_true (useBase_ne_nullEncryptor _ _) (by simp)
  | eventBaseFree => exact iff_of_true (useBase_ne_nullEncryptor _ _) (by simp)
  | evconnlistenerFree =>
    simp only [exec]
    cases s.listener <;> simp
  | stopStep i pc =>
    simp only [exec]
    cases s.stops[i]? with
    | none => simp
    | some stop => simpa using stopStep_ne_nullEncryptor s i stop
  | _ => simp [exec]

/-! ## Runs -/

/-- A run uses no base that has been freed and no null listener, and every stop is effective,
exactly if its steps are in time. It follows no null `encryptor` exactly if no filter looks
up after a stop has cleared it. -/
theorem stop_iff {es : List Event} {r : Except Fault State} (h : proxy.Runs es r) :
    (((∀ f, r = .error f → ¬ Misuse f) ∧ proxy.Always (fun _ s => Effective s) es) ↔
      proxy.Along (fun _ s e => InTime s e) es) ∧
    (r ≠ .error .nullEncryptor ↔
      proxy.Along (fun es _ e => e = .lookup → encryptorKept es = true) es) := by
  constructor
  · apply h.safe_iff_along (fun hs => nomatch hs)
    intro es s e hs he heff
    exact good_iff (coherent_of_runs hs) heff he
  · refine Machine.Runs.iff_along (P := fun _ r => r ≠ .error .nullEncryptor) (by simp) ?_ ?_ h
    · intro es s e _ _ _
      simp
    · intro es s e hs he _
      rw [← encryptor_of_runs hs]
      exact exec_ne_nullEncryptor_iff s e

/-- `1.2.3.4`. -/
def serverText : List UInt8 := [49, 46, 50, 46, 51, 46, 52]

/-- A run of the proxy up to its loop. -/
def upToLoop : List Event :=
  [.start serverText 8388 6666, .signal true, .eventBaseNew true, .evconnlistenerNewBind true,
    .dispatch]

/-- The steps of the `i`-th call of `stop_proxy_server`, in order. -/
def stopSteps (i : Nat) : List Event :=
  [.stopStep i .loopbreak, .stopStep i .loopexit, .stopStep i .clearEncryptor,
    .stopStep i .clearServerPort, .stopStep i .clearClientCallback]

/-- The loop waits, is stopped, and the run returns. -/
def stoppedOnce : List Event :=
  upToLoop ++ [.iterate, .stop] ++ stopSteps 0 ++
    [.wake true, .loopexitCb, .iterate, .evconnlistenerFree, .eventBaseFree]

/-- Its steps are in time, and no filter runs. -/
theorem stop_once :
    ∃ r, proxy.Runs stoppedOnce r ∧ (∀ f, r = .error f → ¬ Misuse f) ∧
      proxy.Always (fun _ s => Effective s) stoppedOnce ∧ r ≠ .error .nullEncryptor := by
  have hends : proxy.ends stoppedOnce (fun _ => true) = true := by decide
  obtain ⟨s, hr, -⟩ := Machine.runs_of_ends hends
  have hiff := stop_iff hr
  obtain ⟨hmisuse, heffective⟩ := hiff.1.mpr (Machine.along_of_ends (by decide +kernel))
  exact ⟨.ok s, hr, hmisuse, heffective, hiff.2.mpr (Machine.along_of_ends (by decide +kernel))⟩

/-- The stop that follows a stop after the run has returned. -/
def stoppedTwice : List Event := stoppedOnce ++ [.stop, .stopStep 1 .loopbreak]

/-- A stop that runs before the base exists; the run then waits. -/
def stoppedEarly : List Event :=
  [.start serverText 8388 6666, .stop] ++ stopSteps 0 ++
    [.signal true, .eventBaseNew true, .evconnlistenerNewBind true, .dispatch, .iterate]

/-- The port is taken, and the loop has no events. -/
def bindFails : List Event :=
  [.start serverText 8388 6666, .signal true, .eventBaseNew true, .evconnlistenerNewBind false,
    .dispatch, .iterate, .evconnlistenerFree]

/-- A stop in the middle of a read callback. -/
def stoppedInCallback : List Event :=
  upToLoop ++ [.iterate, .wake true, .callback, .stop, .stopStep 0 .loopbreak,
    .stopStep 0 .loopexit, .stopStep 0 .clearEncryptor, .lookup]

/-- A second stop uses the base of the run that has returned, an early stop is lost, a failed
bind frees a null listener, and a stop pulls the encryptor from under a filter. -/
theorem stop_unsafe :
    proxy.Runs stoppedTwice (.error .freedBase) ∧
    (∃ s, proxy.Runs stoppedEarly (.ok s) ∧ ¬ Effective s) ∧
    proxy.Runs bindFails (.error .nullListener) ∧
    proxy.Runs stoppedInCallback (.error .nullEncryptor) := by
  refine ⟨Machine.runs_of_faults (by decide), ?_, Machine.runs_of_faults (by decide),
    Machine.runs_of_faults (by decide)⟩
  have hends : proxy.ends stoppedEarly (fun s =>
      s.stopped && s.pc == .waiting && s.base == .live ⟨false, false, 0⟩) = true := by decide
  obtain ⟨s, hr, hs⟩ := Machine.runs_of_ends hends
  obtain ⟨hs, hbase⟩ := Bool.and_eq_true_iff.mp hs
  obtain ⟨hstopped, hpc⟩ := Bool.and_eq_true_iff.mp hs
  exact ⟨s, hr, fun heff =>
    absurd (heff hstopped (eq_of_beq hpc) _ (eq_of_beq hbase)) (by decide)⟩

end Lightsocks.Proxy
