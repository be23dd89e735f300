import Lightsocks.App.Engines

/-!
# When one engine outlives the other

The coroutine of a start awaits both engines and does nothing when the first of them returns.
If the other one is in its loop by then, or gets there later, only a call of `stop` can still
end it, and nothing in the service makes one. The conditions of `stranded_iff` are about the
two kinds of steps at which this is decided: an engine returns, or an engine enters its loop.
-/

namespace Lightsocks.App

open Lightsocks.Lib

/-- The engine is in its event loop. -/
def Service.looping (s : Service) : Engine → Bool
  | .tun => s.tunnel.pc.inLoop
  | .proxy => s.proxy.pc.inLoop

/-- A request to end its loop has reached the engine. -/
def Service.told (s : Service) : Engine → Bool
  | .tun => s.tunnel.exiting
  | .proxy => s.proxy.signalled

/-- This call of `stop` still has to call the stop function of the engine, or is inside it. -/
def Service.willStop (s : Service) (g : Engine) : StopPc → Bool
  | .stopSelf | .stopProxy => true
  | .stopTun2socks i =>
    match g with
    | .tun => tunnelStopPending s.tunnel i
    | .proxy => true
  | .stopTunSocks => g == .proxy
  | .stopProxyServer i =>
    match g with
    | .tun => false
    | .proxy => proxyStopPending s.proxy i
  | .postKill | .returned => false

def Service.stopPending (s : Service) (g : Engine) : Bool := s.stops.any (s.willStop g)

/-- The engine is in its loop, and no step of the service will end it. -/
def Service.unattended (s : Service) (g : Engine) : Prop :=
  s.looping g = true ∧ s.told g = false ∧ s.stopPending g = false

/-- One engine of a start has returned, and the other one is left in its loop. -/
def Stranded (s : Service) : Prop :=
  ∃ c ∈ s.coroutines, ∃ g : Engine,
    c.async g.other = .returned ∧ c.async g = .entered ∧ s.unattended g

/-- An engine returns only if the other one is not left in its loop, and it enters its loop
only if the other one has not returned, or if the stop is on its way. -/
def Accompanied (s : Service) (e : Event) : Prop :=
  (∀ g, e.returns = some g → ∀ c ∈ s.coroutines, c.async g = .entered →
    c.async g.other = .entered → ¬ s.unattended g.other) ∧
  (∀ g, e.entersLoop = some g → ∀ c ∈ s.coroutines, c.async g = .entered →
    c.async g.other = .returned → s.told g = true ∨ s.stopPending g = true)

instance (p : Engine → Prop) [DecidablePred p] : Decidable (∀ g, p g) :=
  decidable_of_iff (p .tun ∧ p .proxy) ⟨fun h g => g.casesOn h.1 h.2, fun h => ⟨h _, h _⟩⟩

instance (s : Service) (g : Engine) : Decidable (s.unattended g) :=
  inferInstanceAs (Decidable (_ ∧ _ ∧ _))

instance (s : Service) (e : Event) : Decidable (Accompanied s e) :=
  inferInstanceAs (Decidable (_ ∧ _))

/-! ## What becomes of the calls of `stop` -/

/-- `unattended` is about one engine and the calls of `stop`. -/
theorem unattended_congr {s s' : Service} {g : Engine} (hg : SameEngine s s' g)
    (hstops : s'.stops = s.stops) : s'.unattended g ↔ s.unattended g := by
  have hwill : s'.willStop g = s.willStop g := by
    funext pc
    cases g with
    | tun => cases pc <;> simp [Service.willStop, show s'.tunnel = s.tunnel from hg]
    | proxy => cases pc <;> simp [Service.willStop, show s'.proxy = s.proxy from hg]
  unfold Service.unattended Service.stopPending
  rw [hstops, hwill]
  cases g with
  | tun => simp [Service.looping, Service.told, show s'.tunnel = s.tunnel from hg]
  | proxy => simp [Service.looping, Service.told, show s'.proxy = s.proxy from hg]

/-- If every call that will stop the engine still will, none did before. -/
theorem stopPending_mono {s s' : Service} {g : Engine} (h : s'.stopPending g = false)
    (hstops : s'.stops = s.stops)
    (hwill : ∀ pc, s.willStop g pc = true → s'.willStop g pc = true) :
    s.stopPending g = false := by
  simp only [Service.stopPending, List.any_eq_false] at h ⊢
  intro pc hpc hw
  exact h pc (hstops ▸ hpc) (hwill pc hw)

theorem unattended_died (s : Service) (g : Engine) : ¬ s.died.unattended g := by
  rintro ⟨hloop, -⟩
  cases g <;> cases hloop

theorem unattended_tunnel {s : Service} {e : Tunnel.Event} {t : Tunnel.State} {g : Engine}
    (hstep : Tunnel.Step s.tunnel e t) (h : ({ s with tunnel := t } : Service).unattended g) :
    (s.looping g = true ∨ (Event.tunnel e).entersLoop = some g) ∧ s.told g = false ∧
      s.stopPending g = false := by
  cases g with
  | proxy =>
    have hsame : SameEngine s { s with tunnel := t } .proxy := rfl
    have hs := (unattended_congr hsame rfl).mp h
    exact ⟨.inl hs.1, hs.2⟩
  | tun =>
    obtain ⟨hloop, htold, hpending⟩ := h
    obtain ⟨hloop₀, hexit, hstops⟩ := tunnel_unattended hstep hloop htold
    refine ⟨hloop₀, hexit, stopPending_mono hpending rfl fun pc hw => ?_⟩
    cases pc with
    | stopTun2socks i => exact hstops i hw
    | _ => exact hw

theorem unattended_proxy {s : Service} {e : Proxy.Event} {p : Proxy.State} {g : Engine}
    (hc : s.proxy.Coherent) (hstep : Proxy.Step s.proxy e p)
    (h : ({ s with proxy := p } : Service).unattended g) :
    (s.looping g = true ∨ (Event.proxy e).entersLoop = some g) ∧ s.told g = false ∧
      s.stopPending g = false := by
  cases g with
  | tun =>
    have hsame : SameEngine s { s with proxy := p } .tun := rfl
    have hs := (unattended_congr hsame rfl).mp h
    exact ⟨.inl hs.1, hs.2⟩
  | proxy =>
    obtain ⟨hloop, htold, hpending⟩ := h
    obtain ⟨hloop₀, hsig, hstops⟩ := proxy_unattended hc hstep hloop htold
    refine ⟨hloop₀, hsig, stopPending_mono hpending rfl fun pc hw => ?_⟩
    cases pc with
    | stopProxyServer i => exact hstops i hw
    | _ => exact hw

theorem any_set_of_false {α : Type} {p : α → Bool} {l : List α} {i : Nat} {a b : α}
    (h : (l.set i b).any p = false) (hi : l[i]? = some a) (ha : p a = false) :
    l.any p = false := by
  rw [List.any_eq_false] at h ⊢
  intro x hx
  obtain ⟨j, hj⟩ := List.mem_iff_getElem?.mp hx
  by_cases hij : i = j
  · subst hij
    rw [hi] at hj
    cases hj
    simpa using ha
  · refine h x (List.mem_iff_getElem?.mpr ⟨j, ?_⟩)
    rwa [List.getElem?_set_ne hij]

/-- A step of a call of `stop` leaves no engine unattended that was not. -/
theorem unattended_stopExec {s s' : Service} {i : Nat} {pc : StopPc} {g : Engine}
    (hi : s.stops[i]? = some pc) (he : s.stopEnabled pc = true)
    (hs' : s.stopExec i pc = .ok s') (h : s'.unattended g) : s.unattended g := by
  have hmem : ∀ pc', s'.stops = s.stops.set i pc' → s'.willStop g pc' = false := by
    intro pc' hstops
    have := List.any_eq_false.mp h.2.2 pc' (hstops ▸ mem_set_self hi)
    simpa using this
  cases pc with
  | stopSelf =>
    cases hs'
    exact absurd (hmem .stopProxy rfl) (by simp [Service.willStop])
  | stopProxy =>
    cases hs'
    have := hmem (.stopTun2socks s.tunnel.stops.length) rfl
    cases g with
    | proxy => cases this
    | tun => simp [Service.willStop, tunnelStopPending, Service.tunnelExec, Tunnel.exec] at this
  | stopTun2socks j =>
    cases hs'
    cases g with
    | proxy => exact absurd (hmem .stopTunSocks rfl) (by simp [Service.willStop])
    | tun =>
      refine ⟨h.1, h.2.1, any_set_of_false h.2.2 hi ?_⟩
      simp [Service.willStop, tunnelStopPending, eq_of_beq (show _ == _ from he)]
  | stopTunSocks =>
    cases hs'
    cases g with
    | proxy =>
      have := hmem (.stopProxyServer s.proxy.stops.length) rfl
      simp [Service.willStop, proxyStopPending] at this
    | tun => exact ⟨h.1, h.2.1, any_set_of_false h.2.2 hi rfl⟩
  | stopProxyServer j =>
    cases hs'
    refine ⟨h.1, h.2.1, any_set_of_false h.2.2 hi ?_⟩
    cases g with
    | tun => rfl
    | proxy =>
      obtain ⟨stop, hj, hpc⟩ := Option.map_eq_some_iff.mp (eq_of_beq (show _ == _ from he))
      simp [Service.willStop, proxyStopPending, hj, hpc]
  | postKill =>
    cases hs'
    exact ⟨h.1, h.2.1, any_set_of_false h.2.2 hi rfl⟩
  | returned => cases he

/-! ## Steps -/

/-- An engine that has only just been entered is not in its loop. -/
theorem looping_nativeStart {s s' : Service} {c : Coroutine} {g : Engine}
    (h : s.nativeStart c g = .ok s') : s'.looping g = false := by
  obtain ⟨-, -, -, -, htun, hproxy⟩ := nativeStart_spec h
  cases g with
  | tun => simp [Service.looping, htun rfl, Tunnel.Pc.inLoop]
  | proxy => simp [Service.looping, hproxy rfl, Proxy.StartPc.inLoop]

/-- An engine left in its loop was left there before, or enters it now. -/
theorem Service.Step.unattended {s s' : Service} {e : Event} {g : Engine} (hstep : s.Step e s')
    (hc : s.Coherent) (h : s'.unattended g) :
    (s.looping g = true ∨ e.entersLoop = some g) ∧ s.told g = false ∧
      s.stopPending g = false := by
  have hkeep : s.unattended g → (s.looping g = true ∨ e.entersLoop = some g) ∧
      s.told g = false ∧ s.stopPending g = false := fun hs => ⟨.inl hs.1, hs.2⟩
  have hnotice : ∀ (s₁ : Service) (g' : Engine), (s₁.noticeReturn g').unattended g →
      s₁.unattended g := fun s₁ g' =>
    (unattended_congr (by cases g <;> simp [SameEngine]) (by simp)).mp
  have hstop : ({ s with stops := s.stops ++ [.stopSelf] } : Service).stopPending g = true :=
    List.any_eq_true.mpr ⟨.stopSelf, by simp, rfl⟩
  cases hstep with
  | died => exact absurd h (unattended_died s g)
  | onStartCommand => exact hkeep h
  | @enter g' i c s₁ _ _ _ hs₁ =>
    obtain ⟨-, hother, -, hstops, -, -⟩ := nativeStart_spec hs₁
    have h₁ : s₁.unattended g := h
    rcases g'.eq_or_other g with rfl | rfl
    · rw [Service.unattended, looping_nativeStart hs₁] at h₁
      cases h₁.1
    · exact hkeep ((unattended_congr hother hstops).mp h₁)
  | tunnel t _ hstep => exact unattended_tunnel hstep (hnotice _ _ h)
  | proxy p _ hstep => exact unattended_proxy hc.proxy hstep (hnotice _ _ h)
  | finish => exact hkeep h
  | stop | onDestroy => cases hstop.symm.trans h.2.2
  | stopStep hi hen hs' => exact hkeep (unattended_stopExec hi hen hs' h)

/-- A coroutine of which one engine has returned was such a coroutine before, or that engine
returns now. -/
theorem Service.Step.returned {s s' : Service} {e : Event} {c' : Coroutine} {g : Engine}
    (hstep : s.Step e s') (hc : s.Coherent) (hmem : c' ∈ s'.coroutines)
    (hret : c'.async g.other = .returned) (hent : c'.async g = .entered)
    (hloop : s'.looping g = true) :
    ∃ c ∈ s.coroutines, c.async g = .entered ∧
      (c.async g.other = .returned ∨
        (e.returns = some g.other ∧ c.async g.other = .entered)) := by
  have hkeep : c' ∈ s.coroutines → ∃ c ∈ s.coroutines, c.async g = .entered ∧
      (c.async g.other = .returned ∨
        (e.returns = some g.other ∧ c.async g.other = .entered)) :=
    fun hmem => ⟨c', hmem, hent, .inl hret⟩
  have hnotice : ∀ (s₁ : Service) (g' : Engine), s₁.coroutines = s.coroutines →
      (s₁.running g' = false → s.running g' = true → e.returns = some g') →
      c' ∈ (s₁.noticeReturn g').coroutines →
      ∃ c ∈ s.coroutines, c.async g = .entered ∧
        (c.async g.other = .returned ∨
          (e.returns = some g.other ∧ c.async g.other = .entered)) := by
    intro s₁ g' hco hreturns hmem₁
    rcases mem_noticeReturn hmem₁ with ⟨hmem₁, -⟩ | ⟨c, hmemc, hrun, hentered, rfl⟩
    · exact hkeep (hco ▸ hmem₁)
    · rw [hco] at hmemc
      rcases g'.eq_or_other g with rfl | rfl
      · simp at hent
      · rw [Coroutine.async_setAsync_other] at hent
        rw [Engine.other_other] at hret ⊢
        exact ⟨c, hmemc, hent, .inr ⟨hreturns hrun (hc.running c hmemc _ hentered), hentered⟩⟩
  cases hstep with
  | died => cases hmem
  | onStartCommand intent fd =>
    rcases List.mem_append.mp hmem with hmem | hmem
    · exact hkeep hmem
    · obtain rfl := List.mem_singleton.mp hmem
      cases g <;> cases hent
  | @enter g' i c s₁ _ _ _ hs₁ =>
    obtain ⟨-, -, hco, -, -, -⟩ := nativeStart_spec hs₁
    have hmem' := List.mem_or_eq_of_mem_set hmem
    rw [hco] at hmem'
    rcases hmem' with hmem' | rfl
    · exact hkeep hmem'
    · rcases g'.eq_or_other g with rfl | rfl
      · cases (looping_nativeStart hs₁).symm.trans hloop
      · simp at hret
  | tunnel t _ hstep =>
    refine hnotice { s with tunnel := t } .tun rfl (fun hrun' hrun => ?_) hmem
    rw [tunnel_returns hstep (by simpa [Service.running] using hrun)
      (by simpa [Service.running] using hrun')]
    rfl
  | proxy p _ hstep =>
    refine hnotice { s with proxy := p } .proxy rfl (fun hrun' hrun => ?_) hmem
    exact proxy_returns hstep (by simpa [Service.running] using hrun)
      (by simpa [Service.running] using hrun')
  | @finish i c hi =>
    rcases List.mem_or_eq_of_mem_set hmem with hmem | rfl
    · exact hkeep hmem
    · refine ⟨c, List.mem_of_getElem? hi, ?_, .inl ?_⟩
      · cases g <;> exact hent
      · cases g <;> exact hret
  | stop => exact hkeep hmem
  | stopStep _ _ hs' => exact hkeep ((stopExec_frame hs').1 ▸ hmem)
  | onDestroy =>
    obtain ⟨c, hmemc, rfl⟩ := List.mem_map.mp hmem
    exact ⟨c, hmemc, Coroutine.async_cancel_eq (by simp) hent,
      .inl (Coroutine.async_cancel_eq (by simp) hret)⟩

/-- The events by which an engine returns, and the state they lead to. -/
theorem exec_returns {s : Service} {e : Event} {g : Engine} (hc : s.Coherent)
    (he : s.enabled e = true) (hg : e.returns = some g) :
    ∃ s₁, s.exec e = .ok (s₁.noticeReturn g) ∧ s₁.running g = false ∧
      SameEngine s s₁ g.other ∧ s₁.coroutines = s.coroutines ∧ s₁.stops = s.stops := by
  cases e with
  | tunnel e =>
    cases e with
    | cleanup label =>
      cases label <;> cases hg
      exact ⟨_, rfl, rfl, rfl, rfl, rfl⟩
    | _ => cases hg
  | proxy e =>
    cases e with
    | signal ok | eventBaseNew ok =>
      cases ok <;> cases hg
      exact ⟨_, rfl, rfl, rfl, rfl, rfl⟩
    | eventBaseFree =>
      cases hg
      have hpc : s.proxy.pc = .eventBaseFree := eq_of_beq (enabled_proxy he)
      have hbase := hc.proxy
      unfold Proxy.State.Coherent at hbase
      rw [hpc] at hbase
      obtain ⟨b, hb⟩ := hbase
      refine ⟨{ s with proxy := { s.proxy with base := .freed }.return_ 0 }, ?_, rfl, rfl, rfl, rfl⟩
      simp only [Service.exec, Service.proxyExec, Proxy.exec, Proxy.State.useBase, hb]
      rfl
    | _ => cases hg
  | _ => cases hg

/-- The events by which an engine enters its loop, and the state they lead to. -/
theorem exec_entersLoop {s : Service} {e : Event} {g : Engine} (hc : s.Coherent)
    (he : s.enabled e = true) (hg : e.entersLoop = some g) :
    ∃ s', s.exec e = .ok s' ∧ s'.looping g = true ∧ s'.told g = s.told g ∧
      s'.stopPending g = s.stopPending g ∧ s'.coroutines = s.coroutines := by
  cases e with
  | tunnel e =>
    cases e with
    | setup step ok =>
      cases step <;> cases hg
      cases ok <;> exact ⟨_, rfl, rfl, rfl, rfl, rfl⟩
    | _ => cases hg
  | proxy e =>
    cases e with
    | dispatch =>
      cases hg
      have hpc : s.proxy.pc = .eventBaseDispatch := eq_of_beq (enabled_proxy he)
      have hbase := hc.proxy
      unfold Proxy.State.Coherent at hbase
      rw [hpc] at hbase
      obtain ⟨b, hb, -⟩ := hbase
      refine ⟨{ s with proxy := { s.proxy with
        base := .live { b with eventBreak := false, eventGotterm := false }
        pc := .loopHead } }, ?_, rfl, rfl, rfl, rfl⟩
      simp only [Service.exec, Service.proxyExec, Proxy.exec, Proxy.State.useBase, hb]
      rfl
    | _ => cases hg
  | _ => cases hg

theorem returns_of_entersLoop {e : Event} {g g' : Engine} (h : e.entersLoop = some g) :
    e.returns ≠ some g' := by
  cases e with
  | tunnel e =>
    cases e with
    | setup => simp [Event.returns]
    | _ => cases h
  | proxy e =>
    cases e with
    | dispatch => simp [Event.returns]
    | _ => cases h
  | _ => cases h

/-- A step keeps every engine out of this trouble exactly if it is accompanied. -/
theorem accompanied_iff {s : Service} {e : Event} (hc : s.Coherent) (he : s.enabled e = true)
    (hs : ¬ Stranded s) :
    (∀ s', s.exec e = .ok s' → ¬ Stranded s') ↔ Accompanied s e := by
  constructor
  · intro hgood
    constructor
    · rintro g hg c hmem hent hother hun
      obtain ⟨s₁, hs₁, hrun, hsame, hco, hstops⟩ := exec_returns hc he hg
      refine hgood _ hs₁ ⟨c.setAsync g .returned, ?_, g.other, by simp, by simpa using hother, ?_⟩
      · rw [Service.noticeReturn, if_neg (by simp [hrun]), hco]
        exact List.mem_map.mpr ⟨c, hmem, if_pos hent⟩
      · have hun₁ := (unattended_congr hsame hstops).mpr hun
        exact (unattended_congr (by cases g <;> simp [SameEngine, Engine.other]) (by simp)).mpr hun₁
    · rintro g hg c hmem hent hret
      obtain ⟨s', hs', hloop, htold, hpending, hco⟩ := exec_entersLoop hc he hg
      by_contra hno
      simp only [not_or, Bool.not_eq_true] at hno
      exact hgood s' hs' ⟨c, hco ▸ hmem, g, hret, hent, hloop, htold.trans hno.1,
        hpending.trans hno.2⟩
  · rintro ⟨hreturns, henters⟩ s' hs' ⟨c', hmem', g, hret', hent', hun'⟩
    have hstep := service_step he hs'
    obtain ⟨hloop, htold, hpending⟩ := hstep.unattended hc hun'
    obtain ⟨c, hmem, hent, hret⟩ := hstep.returned hc hmem' hret' hent' hun'.1
    rcases hloop with hloop | hloop
    · rcases hret with hret | ⟨hg, hother⟩
      · exact hs ⟨c, hmem, g, hret, hent, hloop, htold, hpending⟩
      · apply hreturns g.other hg c hmem hother
        · rw [Engine.other_other]
          exact hent
        · rw [Engine.other_other]
          exact ⟨hloop, htold, hpending⟩
    · have hret := hret.resolve_right fun h => returns_of_entersLoop hloop h.1
      rcases henters g hloop c hmem hent hret with h | h
      · rw [htold] at h
        cases h
      · rw [hpending] at h
        cases h

/-! ## Runs -/

/-- No engine is ever stranded exactly if every return of an engine, and every entry into a
loop, is accompanied. -/
theorem stranded_iff {es : List Event} {r : Except Fault Service} (h : service.Runs es r) :
    service.Always (fun _ s => ¬ Stranded s) es ↔
      service.Along (fun _ s e => Accompanied s e) es := by
  apply h.always_iff_along
  · rintro ⟨c, hc, -⟩
    cases hc
  · intro es s e hs he hno
    exact accompanied_iff (service_coherent hs) he hno

/-- A start command, and both native calls are entered. -/
def started : List Event :=
  [.onStartCommand (some ⟨"1.2.3.4", 8388, "127.0.0.1:7300"⟩) (some 3), .enter .proxy 0,
    .enter .tun 0]

/-- Both engines go into their loops. -/
def looping : List Event :=
  started ++ (Tunnel.upToLoop.drop 1).map .tunnel ++
    ([.signal true, .eventBaseNew true, .evconnlistenerNewBind true, .dispatch].map .proxy)

theorem stranded_iff_looping :
    ∃ r, service.Runs looping r ∧ service.Always (fun _ s => ¬ Stranded s) looping := by
  have hends : service.ends looping (fun _ => true) = true := by decide +kernel
  obtain ⟨s, hr, -⟩ := Machine.runs_of_ends hends
  exact ⟨.ok s, hr, (stranded_iff hr).mpr (Machine.along_of_ends (by decide +kernel))⟩

/-- `signal` fails in `start_proxy_server`, and the tunnel goes into its loop. -/
def proxyFails : List Event :=
  started ++ [.proxy (.signal false)] ++ (Tunnel.upToLoop.drop 1).map .tunnel

/-- Both engines are in their loops, and the device reports an error. -/
def deviceFails : List Event :=
  looping ++
    ([.checkExiting, .dispatch (.lwipInit true true), .checkExiting, .dispatch .deviceError,
      .terminate .assertNotQuitting, .terminate .log, .terminate .setQuitting,
      .terminate .reactorQuit].map .tunnel) ++
    Tunnel.leave.map .tunnel

/-- In both runs one engine has returned, and the other one is in its loop for good. -/
theorem engines_stranded :
    (∃ s, service.Runs proxyFails (.ok s) ∧ Stranded s) ∧
    (∃ s, service.Runs deviceFails (.ok s) ∧ Stranded s) := by
  have hstranded : ∀ es g, service.ends es (fun s =>
      (s.coroutines.any fun c => c.async g.other == .returned && c.async g == .entered) &&
        (s.looping g && (!s.told g && !s.stopPending g))) = true →
      ∃ s, service.Runs es (.ok s) ∧ Stranded s := by
    intro es g hends
    obtain ⟨s, hr, hs⟩ := Machine.runs_of_ends hends
    obtain ⟨hany, hun⟩ := Bool.and_eq_true_iff.mp hs
    obtain ⟨c, hc, hasync⟩ := List.any_eq_true.mp hany
    obtain ⟨hret, hent⟩ := Bool.and_eq_true_iff.mp hasync
    obtain ⟨hloop, hun⟩ := Bool.and_eq_true_iff.mp hun
    obtain ⟨htold, hpending⟩ := Bool.and_eq_true_iff.mp hun
    exact ⟨s, hr, c, hc, g, eq_of_beq hret, eq_of_beq hent, hloop, by simpa using htold,
      by simpa using hpending⟩
  exact ⟨hstranded _ .tun (by decide +kernel), hstranded _ .proxy (by decide +kernel)⟩

end Lightsocks.App
