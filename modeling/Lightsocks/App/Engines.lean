import Lightsocks.Proxy.Stop
import Lightsocks.Tunnel.Stop
import Lightsocks.App.Service

/-!
# The engines under the service

What the service has to know about the two engines is little: which events make a native call
return or enter its loop, and that a request to stop which has not yet reached a loop does not
get lost there. `Service.Step` says once what a step of the service can be, and
`Service.Coherent` is what holds of the service at any time.
-/

namespace Lightsocks.App

open Lightsocks.Lib

/-- The event makes the start function of an engine return. -/
def Event.returns : Event → Option Engine
  | .tunnel (.cleanup .fail0) => some .tun
  | .proxy (.signal false) | .proxy (.eventBaseNew false) | .proxy .eventBaseFree => some .proxy
  | _ => none

/-- The event makes the start function of an engine enter its loop. -/
def Event.entersLoop : Event → Option Engine
  | .tunnel (.setup .loopState _) => some .tun
  | .proxy .dispatch => some .proxy
  | _ => none

/-- The native call of `stopTun2socks` has not returned. -/
def tunnelStopPending (t : Tunnel.State) (i : Nat) : Bool :=
  match t.stops[i]? with
  | some (some _) => true
  | _ => false

/-- The native call of `stop_proxy_server` has not yet made both of its requests. -/
def proxyStopPending (p : Proxy.State) (i : Nat) : Bool :=
  match p.stops[i]? with
  | some stop => stop.pc == .loopbreak || stop.pc == .loopexit
  | none => false

/-! ## The tunnel -/

theorem tunnel_returns {t t' : Tunnel.State} {e : Tunnel.Event} (hstep : Tunnel.Step t e t')
    (hpc : t.pc ≠ .idle) (hpc' : t'.pc = .idle) : e = .cleanup .fail0 := by
  cases hstep with
  | start | setupFails | exitLoop | iterate | waitForEvents => cases hpc'
  | @setup step =>
    cases step <;> simp only [Tunnel.SetupStep.next] at hpc'
    case udpMode => split at hpc' <;> cases hpc'
    all_goals cases hpc'
  | lwipInit | lwipInitFail =>
    dsimp only at hpc'
    split at hpc' <;> cases hpc'
  | @handle d => cases d <;> cases hpc'
  | terminate pc _ hloop =>
    rw [show pc = .idle from hpc'] at hloop
    cases hloop.1
  | @cleanup label => cases label <;> first | rfl | cases hpc'
  | stop | stopStep => exact absurd hpc' hpc

/-- A loop that nothing has asked to end was in its loop before, or enters it now, and the
calls of `stopTun2socks` that were under way still are. -/
theorem tunnel_unattended {t t' : Tunnel.State} {e : Tunnel.Event}
    (hstep : Tunnel.Step t e t') (hloop : t'.pc.inLoop = true) (hexit : t'.exiting = false) :
    (t.pc.inLoop = true ∨ (Event.tunnel e).entersLoop = some .tun) ∧ t.exiting = false ∧
      ∀ i, tunnelStopPending t i = true → tunnelStopPending t' i = true := by
  cases hstep with
  | start | setupFails | exitLoop => cases hloop
  | @setup step hpc =>
    by_cases hstep : step = .loopState
    · subst hstep
      exact ⟨.inr rfl, hexit, fun _ h => h⟩
    · have := Tunnel.SetupStep.next_usesLwip t hstep
      rw [Tunnel.Pc.usesLwip_of_inLoop hloop] at this
      cases this
  | iterate hpc | lwipInit _ hpc | handle hpc | waitForEvents hpc | lwipInitFail hpc =>
    exact ⟨.inl (by rw [hpc]; rfl), hexit, fun _ h => h⟩
  | terminate pc hpc =>
    have hexit : t.exiting = false := (Bool.or_eq_false_iff.mp hexit).1
    exact ⟨.inl (by rw [hpc]; rfl), hexit, fun _ h => h⟩
  | @cleanup label => cases label <;> cases hloop
  | stop =>
    refine ⟨.inl hloop, hexit, fun i hi => ?_⟩
    unfold tunnelStopPending at hi
    split at hi
    · rename_i step hi'
      have hlt := (List.getElem?_eq_some_iff.mp hi').1
      simp [tunnelStopPending, List.getElem?_append_left hlt, hi']
    · cases hi
  | @stopStep i step hi =>
    obtain ⟨hexit, hquit⟩ := Bool.or_eq_false_iff.mp hexit
    refine ⟨.inl hloop, hexit, fun j hj => ?_⟩
    by_cases hij : i = j
    · -- this call has not yet made its request
      subst hij
      have hlt := (List.getElem?_eq_some_iff.mp hi).1
      cases step with
      | reactorQuit => cases hquit
      | _ => simp [tunnelStopPending, hlt, Tunnel.TerminateStep.next]
    · simpa [tunnelStopPending, List.getElem?_set_ne hij] using hj

/-! ## The proxy -/

theorem proxy_iterate (p : Proxy.State) (b : Proxy.EventBase) :
    (Proxy.iterate p b).pc ≠ .idle ∧ (Proxy.iterate p b).signalled = p.signalled ∧
      (Proxy.iterate p b).stops = p.stops := by
  unfold Proxy.iterate
  split
  · simp
  · split
    · simp
    · split <;> simp

theorem proxy_afterCallback (p : Proxy.State) (b : Proxy.EventBase) :
    (Proxy.afterCallback p b).pc ≠ .idle ∧ (Proxy.afterCallback p b).signalled = p.signalled ∧
      (Proxy.afterCallback p b).stops = p.stops := by
  unfold Proxy.afterCallback
  split <;> simp

theorem proxy_returns {p p' : Proxy.State} {e : Proxy.Event} (hstep : Proxy.Step p e p')
    (hpc : p.pc ≠ .idle) (hpc' : p'.pc = .idle) : (Event.proxy e).returns = some .proxy := by
  cases hstep with
  | signalFails | eventBaseNewFails | eventBaseFree => rfl
  | iterate b => exact absurd hpc' (proxy_iterate p b).1
  | loopexitCb | callbackReturns => exact absurd hpc' (proxy_afterCallback _ _).1
  | start | signal | eventBaseNew | evconnlistenerNewBind | dispatch | wake | wakeFails
  | callback | processed | evconnlistenerFree => cases hpc'
  | _ => exact absurd hpc' hpc

/-- A call of `stop_proxy_server` that has not made both of its requests still has not, if the
step that it makes is not its loopexit. -/
theorem proxyStopPending_set {p p' : Proxy.State} {i j : Nat} {stop stop' : Proxy.Stop}
    (hi : p.stops[i]? = some stop) (hstops : p'.stops = p.stops.set i stop')
    (hpc : stop.pc = .loopbreak ∨ stop.pc = .loopexit → stop'.pc = .loopexit)
    (hj : proxyStopPending p j = true) : proxyStopPending p' j = true := by
  by_cases hij : i = j
  · subst hij
    have hlt := (List.getElem?_eq_some_iff.mp hi).1
    simp only [proxyStopPending, hi, Bool.or_eq_true, beq_iff_eq] at hj
    simp [proxyStopPending, hstops, hlt, hpc hj]
  · simpa [proxyStopPending, hstops, List.getElem?_set_ne hij] using hj

/-- A loop that nothing has asked to end was in its loop before, or enters it now, and the
calls of `stop_proxy_server` that still had to ask it still have to. -/
theorem proxy_unattended {p p' : Proxy.State} {e : Proxy.Event} (h : p.Coherent)
    (hstep : Proxy.Step p e p') (hloop : p'.pc.inLoop = true) (hsig : p'.signalled = false) :
    (p.pc.inLoop = true ∨ (Event.proxy e).entersLoop = some .proxy) ∧ p.signalled = false ∧
      ∀ i, proxyStopPending p i = true → proxyStopPending p' i = true := by
  cases hstep with
  | start | signal | signalFails | eventBaseNew | eventBaseNewFails | evconnlistenerNewBind
  | wakeFails | evconnlistenerFree | eventBaseFree => cases hloop
  | dispatch => exact ⟨.inr rfl, hsig, fun _ h => h⟩
  | iterate b hpc =>
    obtain ⟨-, hs, hstops⟩ := proxy_iterate p b
    refine ⟨.inl (by rw [hpc]; rfl), hs ▸ hsig, fun i hi => ?_⟩
    simpa [proxyStopPending, hstops] using hi
  | wake hpc =>
    exact ⟨.inl (by rcases hpc with hpc | hpc <;> rw [hpc] <;> rfl), hsig, fun _ h => h⟩
  | loopexitCb b b' hpc =>
    obtain ⟨-, hs, hstops⟩ := proxy_afterCallback { p with base := .live b' } b'
    refine ⟨.inl (by rw [hpc]; rfl), hs ▸ hsig, fun i hi => ?_⟩
    simpa [proxyStopPending, hstops] using hi
  | callbackReturns b hpc =>
    obtain ⟨-, hs, hstops⟩ := proxy_afterCallback p b
    refine ⟨.inl (by rw [hpc]; rfl), hs ▸ hsig, fun i hi => ?_⟩
    simpa [proxyStopPending, hstops] using hi
  | callback hpc | lookup hpc | processed hpc =>
    exact ⟨.inl (by rw [hpc]; rfl), hsig, fun _ h => h⟩
  | stop =>
    refine ⟨.inl hloop, hsig, fun i hi => ?_⟩
    unfold proxyStopPending at hi
    split at hi
    · rename_i stop hi'
      have hlt := (List.getElem?_eq_some_iff.mp hi').1
      simpa [proxyStopPending, List.getElem?_append_left hlt, hi'] using hi
    · cases hi
  | loopbreakNull hi =>
    exact ⟨.inl hloop, hsig, fun _ => proxyStopPending_set hi rfl (fun _ => rfl)⟩
  | loopbreak b hi =>
    exact ⟨.inl hloop, (Bool.or_eq_false_iff.mp hsig).1,
      fun _ => proxyStopPending_set hi rfl (fun _ => rfl)⟩
  | loopexitNull _ _ hb =>
    -- in the loop there is a base
    obtain ⟨b, hb', -⟩ := h.in_loop hloop
    cases hb.symm.trans hb'
  | loopexit => cases hsig
  | clearEncryptor hi hpc | clearServerPort hi hpc | clearClientCallback hi hpc =>
    exact ⟨.inl hloop, hsig, fun _ => proxyStopPending_set hi rfl (by simp [hpc])⟩

/-! ## The service -/

theorem mem_set_self {α : Type} {l : List α} {i : Nat} {a b : α} (hi : l[i]? = some a) :
    b ∈ l.set i b :=
  List.mem_set (List.getElem?_eq_some_iff.mp hi).1 b

/-- An element that is replaced keeps what the new one has too. -/
theorem exists_mem_set {α : Type} {P : α → Prop} {l : List α} {i : Nat} {a b : α}
    (hi : l[i]? = some a) (hP : P a → P b) (h : ∃ x ∈ l, P x) : ∃ x ∈ l.set i b, P x := by
  obtain ⟨x, hx, hPx⟩ := h
  obtain ⟨j, hj⟩ := List.mem_iff_getElem?.mp hx
  by_cases hij : i = j
  · subst hij
    rw [hi] at hj
    cases hj
    exact ⟨b, mem_set_self hi, hP hPx⟩
  · refine ⟨x, List.mem_iff_getElem?.mpr ⟨j, ?_⟩, hPx⟩
    rwa [List.getElem?_set_ne hij]

/-- The part of the state that belongs to an engine is the same. -/
def SameEngine (s s' : Service) : Engine → Prop
  | .tun => s'.tunnel = s.tunnel
  | .proxy => s'.proxy = s.proxy

theorem SameEngine.running {s s' : Service} {g : Engine} (h : SameEngine s s' g) :
    s'.running g = s.running g := by
  cases g with
  | tun => simp [Service.running, show s'.tunnel = s.tunnel from h]
  | proxy => simp [Service.running, show s'.proxy = s.proxy from h]

/-- An async that has entered its native call waits for it, and the proxy keeps its invariant. -/
structure Service.Coherent (s : Service) : Prop where
  proxy : s.proxy.Coherent
  running : ∀ c ∈ s.coroutines, ∀ g, c.async g = .entered → s.running g = true

theorem coherent_initial (n : Nat) : ({ Service.initial with deaths := n } : Service).Coherent :=
  ⟨fun _ h => (nomatch h), fun _ hc => (nomatch hc)⟩

/-- A coroutine after `noticeReturn` is one from before, or its native call has returned. -/
theorem mem_noticeReturn {s : Service} {g : Engine} {c' : Coroutine}
    (h : c' ∈ (s.noticeReturn g).coroutines) :
    (c' ∈ s.coroutines ∧ (s.running g = true ∨ c'.async g ≠ .entered)) ∨
      ∃ c ∈ s.coroutines, s.running g = false ∧ c.async g = .entered ∧
        c' = c.setAsync g .returned := by
  unfold Service.noticeReturn at h
  split at h
  · rename_i hrun
    exact .inl ⟨h, .inl hrun⟩
  · rename_i hrun
    obtain ⟨c, hc, rfl⟩ := List.mem_map.mp h
    split
    · rename_i hentered
      exact .inr ⟨c, hc, by simpa using hrun, hentered, rfl⟩
    · rename_i hentered
      exact .inl ⟨hc, .inr hentered⟩

@[simp]
theorem noticeReturn_tunnel (s : Service) (g : Engine) : (s.noticeReturn g).tunnel = s.tunnel := by
  unfold Service.noticeReturn
  split <;> rfl

@[simp]
theorem noticeReturn_proxy (s : Service) (g : Engine) : (s.noticeReturn g).proxy = s.proxy := by
  unfold Service.noticeReturn
  split <;> rfl

@[simp]
theorem noticeReturn_stops (s : Service) (g : Engine) : (s.noticeReturn g).stops = s.stops := by
  unfold Service.noticeReturn
  split <;> rfl

/-- After its own step an engine has the invariant if the other one is untouched. -/
theorem coherent_noticeReturn {s s' : Service} {g : Engine} (h : s.Coherent)
    (hproxy : s'.proxy.Coherent) (hco : s'.coroutines = s.coroutines)
    (hother : SameEngine s s' g.other) : (s'.noticeReturn g).Coherent := by
  refine ⟨by simpa using hproxy, fun c' hc' g' hentered => ?_⟩
  have hrun : (s'.noticeReturn g).running g' = s'.running g' := by
    cases g' <;> simp [Service.running]
  rw [hrun]
  rcases mem_noticeReturn hc' with ⟨hc, hg⟩ | ⟨c, hc, -, -, rfl⟩
  · rcases g.eq_or_other g' with rfl | rfl
    · exact hg.resolve_right (not_not_intro hentered)
    · rw [hother.running]
      exact h.running c' (hco ▸ hc) _ hentered
  · rcases g.eq_or_other g' with rfl | rfl
    · simp at hentered
    · rw [Coroutine.async_setAsync_other] at hentered
      rw [hother.running]
      exact h.running c (hco ▸ hc) _ hentered

/-- The start function of an engine is entered: the engine runs, outside of its loop. -/
theorem nativeStart_spec {s s' : Service} {c : Coroutine} {g : Engine}
    (h : s.nativeStart c g = .ok s') :
    s'.running g = true ∧ SameEngine s s' g.other ∧ s'.coroutines = s.coroutines ∧
      s'.stops = s.stops ∧ (g = .tun → s'.tunnel.pc = .setup .blogInit) ∧
      (g = .proxy → s'.proxy.pc = .signal) := by
  cases g with
  | tun =>
    cases h
    exact ⟨rfl, rfl, rfl, rfl, fun _ => rfl, fun hg => (nomatch hg)⟩
  | proxy =>
    cases h
    exact ⟨rfl, rfl, rfl, rfl, fun hg => (nomatch hg), fun _ => rfl⟩

/-- The events of an engine that are enabled in the service are enabled in the engine. -/
theorem enabled_tunnel {s : Service} {e : Tunnel.Event} (h : s.enabled (.tunnel e) = true) :
    Tunnel.enabled s.tunnel e = true := by
  cases e <;> first | exact h | cases h

theorem enabled_proxy {s : Service} {e : Proxy.Event} (h : s.enabled (.proxy e) = true) :
    Proxy.enabled s.proxy e = true := by
  cases e <;> first | exact h | cases h

theorem stopExec_frame {s s' : Service} {i : Nat} {pc : StopPc}
    (h : s.stopExec i pc = .ok s') :
    s'.coroutines = s.coroutines ∧ (∀ g, s'.running g = s.running g) ∧
      (s.proxy.Coherent → s'.proxy.Coherent) := by
  cases pc <;> cases h <;> exact ⟨rfl, fun g => by cases g <;> rfl, id⟩

/-- `serviceJob.cancel()`. -/
def Coroutine.cancel (c : Coroutine) : Coroutine :=
  { c with
    tun := if c.tun = .pending then .cancelled else c.tun
    proxy := if c.proxy = .pending then .cancelled else c.proxy
    stage := if c.stage = .awaiting then .cancelled else c.stage }

theorem Coroutine.async_cancel_eq {c : Coroutine} {g : Engine} {a : Async}
    (ha : a ≠ .cancelled) (h : c.cancel.async g = a) : c.async g = a := by
  cases g <;> dsimp only [Coroutine.cancel, Coroutine.async] at h ⊢ <;> split at h <;>
    first | exact h | exact absurd h.symm ha

theorem Coroutine.async_cancel_of_entered {c : Coroutine} {g : Engine}
    (h : c.async g = .entered) : c.cancel.async g = .entered := by
  cases g <;> dsimp only [Coroutine.cancel, Coroutine.async] at h ⊢ <;> rw [h] <;> rfl

/-- What a step of the service can be, if it does not fail. -/
inductive Service.Step (s : Service) : Event → Service → Prop
  | died (e : Event) : Step s e s.died
  | onStartCommand (intent : Intent) (fd : Int) :
      Step s (.onStartCommand (some intent) (some fd)) { s with
        coroutines := s.coroutines ++ [⟨intent, fd, .pending, .pending, .awaiting⟩] }
  | enter {g : Engine} {i : Nat} {c : Coroutine} (s₁ : Service)
      (hi : s.coroutines[i]? = some c) (hpending : c.async g = .pending)
      (hidle : s.running g = false) (hs₁ : s.nativeStart c g = .ok s₁) :
      Step s (.enter g i)
        { s₁ with coroutines := s₁.coroutines.set i (c.setAsync g .entered) }
  | tunnel {e : Tunnel.Event} (t : Tunnel.State) (hstart : ∀ o, e ≠ .start o)
      (hstep : Tunnel.Step s.tunnel e t) :
      Step s (.tunnel e) (({ s with tunnel := t } : Service).noticeReturn .tun)
  | proxy {e : Proxy.Event} (p : Proxy.State)
      (hstart : ∀ ip port lport, e ≠ .start ip port lport) (hstep : Proxy.Step s.proxy e p) :
      Step s (.proxy e) (({ s with proxy := p } : Service).noticeReturn .proxy)
  | finish {i : Nat} {c : Coroutine} (hi : s.coroutines[i]? = some c) :
      Step s (.finish i) { s with
        coroutines := s.coroutines.set i { c with stage := .finished }
        selfStopped := true }
  | stop : Step s .stop { s with stops := s.stops ++ [.stopSelf] }
  | stopStep {i : Nat} {pc : StopPc} {s' : Service} (hi : s.stops[i]? = some pc)
      (hen : s.stopEnabled pc = true) (hs' : s.stopExec i pc = .ok s') :
      Step s (.stopStep i) s'
  | onDestroy : Step s .onDestroy { s with
      coroutines := s.coroutines.map Coroutine.cancel
      stops := s.stops ++ [.stopSelf] }

theorem tunnelExec_step {s : Service} {e : Tunnel.Event} (he : s.enabled (.tunnel e) = true) :
    s.Step (.tunnel e) ((s.tunnelExec e).noticeReturn .tun) := by
  unfold Service.tunnelExec
  split
  · rename_i t ht
    refine .tunnel t ?_ (Tunnel.step_of_exec (enabled_tunnel he) ht)
    rintro o rfl
    cases he
  · exact .died _

theorem proxyExec_step {s s₁ : Service} {e : Proxy.Event} (he : s.enabled (.proxy e) = true)
    (hs₁ : s.proxyExec e = .ok s₁) : s.Step (.proxy e) (s₁.noticeReturn .proxy) := by
  unfold Service.proxyExec at hs₁
  split at hs₁ <;> cases hs₁
  · rename_i p hp
    refine .proxy p ?_ (Proxy.step_of_exec (enabled_proxy he) hp)
    rintro ip port lport rfl
    cases he
  · exact .died _

/-- A step of the service is one of the cases. -/
theorem service_step {s s' : Service} {e : Event} (he : s.enabled e = true)
    (hs' : s.exec e = .ok s') : s.Step e s' := by
  cases e with
  | onStartCommand intent fd =>
    cases intent <;> cases fd <;> cases hs' <;> first
      | exact .died _
      | exact .onStartCommand _ _
  | enter g i =>
    simp only [Service.exec] at hs'
    simp only [Service.enabled] at he
    split at hs'
    · rename_i c hi
      rw [hi] at he
      split at hs'
      · cases hs'
      · rename_i hrun
        obtain ⟨s₁, hs₁, hs'⟩ := bind_ok hs'
        cases hs'
        exact .enter s₁ hi (by simpa using he) (by simpa using hrun) hs₁
    · rename_i hi
      rw [hi] at he
      cases he
  | tunnel e =>
    cases hs'
    exact tunnelExec_step he
  | proxy e =>
    obtain ⟨s₁, hs₁, hs'⟩ := bind_ok hs'
    cases hs'
    exact proxyExec_step he hs₁
  | finish i =>
    simp only [Service.exec] at hs'
    simp only [Service.enabled] at he
    split at hs'
    · rename_i c hi
      cases hs'
      exact .finish hi
    · rename_i hi
      rw [hi] at he
      cases he
  | stop =>
    cases hs'
    exact .stop
  | stopStep i =>
    simp only [Service.exec] at hs'
    simp only [Service.enabled] at he
    split at hs'
    · rename_i pc hi
      rw [hi] at he
      exact .stopStep hi he hs'
    · rename_i hi
      rw [hi] at he
      cases he
  | onDestroy =>
    cases hs'
    exact .onDestroy
  | killProcess =>
    cases hs'
    exact .died _

theorem Service.Step.coherent {s s' : Service} {e : Event} (hstep : s.Step e s')
    (h : s.Coherent) : s'.Coherent := by
  cases hstep with
  | died => exact coherent_initial _
  | onStartCommand intent fd =>
    refine ⟨h.proxy, fun c hc g hentered => ?_⟩
    rcases List.mem_append.mp hc with hc | hc
    · exact h.running c hc g hentered
    · obtain rfl := List.mem_singleton.mp hc
      cases g <;> cases hentered
  | @enter g i c s₁ hi _ hidle hs₁ =>
    obtain ⟨hrun, hother, hco, -, -⟩ := nativeStart_spec hs₁
    refine ⟨?_, fun c' hc' g' hentered => ?_⟩
    · cases g with
      | tun =>
        rw [show s₁.proxy = s.proxy from hother]
        exact h.proxy
      | proxy =>
        cases hs₁
        exact (Proxy.Step.start _ _ _ (by simpa [Service.running] using hidle)).coherent h.proxy
    · change s₁.running g' = true
      rw [hco] at hc'
      rcases g.eq_or_other g' with rfl | rfl
      · exact hrun
      · rw [hother.running]
        rcases List.mem_or_eq_of_mem_set hc' with hc' | rfl
        · exact h.running c' hc' _ hentered
        · rw [Coroutine.async_setAsync_other] at hentered
          exact h.running c (List.mem_of_getElem? hi) _ hentered
  | tunnel t => exact coherent_noticeReturn h h.proxy rfl rfl
  | proxy p _ hstep => exact coherent_noticeReturn h (hstep.coherent h.proxy) rfl rfl
  | @finish i c hi =>
    refine ⟨h.proxy, fun c' hc' g hentered => ?_⟩
    rcases List.mem_or_eq_of_mem_set hc' with hc' | rfl
    · exact h.running c' hc' g hentered
    · exact h.running c (List.mem_of_getElem? hi) g (by cases g <;> exact hentered)
  | stop => exact ⟨h.proxy, h.running⟩
  | stopStep _ _ hs' =>
    obtain ⟨hco, hrun, hproxy⟩ := stopExec_frame hs'
    refine ⟨hproxy h.proxy, fun c hc g hentered => ?_⟩
    rw [hrun]
    exact h.running c (hco ▸ hc) g hentered
  | onDestroy =>
    refine ⟨h.proxy, fun c' hc' g hentered => ?_⟩
    obtain ⟨c, hc, rfl⟩ := List.mem_map.mp hc'
    exact h.running c hc g (Coroutine.async_cancel_eq (by simp) hentered)

theorem service_coherent {es : List Event} {s : Service} (h : service.Runs es (.ok s)) :
    s.Coherent := by
  refine Machine.Runs.invariant (I := fun _ s => s.Coherent) (coherent_initial 0) ?_ h
  intro _ s e s' _ hI he hs'
  exact (service_step he hs').coherent hI

end Lightsocks.App
