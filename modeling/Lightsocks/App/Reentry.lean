import Lightsocks.App.Activity

/-!
# One pair of engines at a time

Nothing in the service or in the engines keeps a second start command from entering them
again. What decides is when the activity calls `startService`: with nothing left of an earlier
start there is only ever one coroutine whose engines may be entered, and otherwise there is
a way on into an engine that has not returned, without any more clicks.

A new activity enables its start button whatever the service does, so the user can get there
by a rotation of the screen and a click.
-/

namespace Lightsocks.App

open Lightsocks.Lib

/-- The native call of this async is still to come, or has not returned. -/
def Async.live (a : Async) : Bool := a == .pending || a == .entered

/-- One of the native calls of the coroutine is still to come, or has not returned. -/
def Coroutine.live (c : Coroutine) : Bool := c.tun.live || c.proxy.live

theorem Coroutine.live_iff (c : Coroutine) :
    c.live = true ↔ ∃ g, (c.async g).live = true := by
  rw [Coroutine.live, Bool.or_eq_true]
  constructor
  · rintro (h | h)
    · exact ⟨.tun, h⟩
    · exact ⟨.proxy, h⟩
  · rintro ⟨g, h⟩
    cases g with
    | tun => exact .inl h
    | proxy => exact .inr h

/-- The event makes the activity call `startService`. -/
def SystemEvent.startsService : SystemEvent → Bool
  | .clickStart (some _) true | .onActivityResult true (some _) true => true
  | _ => false

/-- The event needs no user: a start command is delivered, or a native call is entered. -/
def SystemEvent.internal : SystemEvent → Bool
  | .deliver _ | .service (.enter _ _) => true
  | _ => false

/-- Nothing is left of an earlier start. -/
def Quiet (s : System) : Prop :=
  s.commands = [] ∧ ∀ c ∈ s.service.coroutines, c.live = false

instance (s : System) : Decidable (Quiet s) :=
  inferInstanceAs (Decidable (_ ∧ _))

/-- The starts of which something is left. -/
def System.outstanding (s : System) : Nat :=
  s.commands.length + s.service.coroutines.countP Coroutine.live

theorem outstanding_eq_zero (s : System) : s.outstanding = 0 ↔ Quiet s := by
  simp [System.outstanding, Quiet, List.countP_eq_zero]

/-! ## Counting -/

theorem countP_set_le {α : Type} {p : α → Bool} {l : List α} {i : Nat} {a b : α}
    (hi : l[i]? = some a) (hp : p b = true → p a = true) :
    (l.set i b).countP p ≤ l.countP p := by
  obtain ⟨hlt, ha⟩ := List.getElem?_eq_some_iff.mp hi
  rw [List.countP_set hlt, ha]
  have hpos : p a = true → 0 < l.countP p := fun h =>
    List.countP_pos_iff.mpr ⟨a, List.mem_of_getElem? hi, h⟩
  cases hb : p b with
  | true =>
    have := hpos (hp hb)
    simp only [hp hb, if_true]
    omega
  | false =>
    simp only [Bool.false_eq_true, if_false]
    omega

theorem countP_map_le {α : Type} {p : α → Bool} {f : α → α} {l : List α}
    (hp : ∀ a, p (f a) = true → p a = true) : (l.map f).countP p ≤ l.countP p := by
  rw [List.countP_map]
  exact List.countP_mono_left fun a _ h => hp a h

/-- Two places of a list count twice. -/
theorem two_le_countP {α : Type} {p : α → Bool} {l : List α} {i j : Nat} {a b : α}
    (hi : l[i]? = some a) (hj : l[j]? = some b) (hij : i < j) (ha : p a = true)
    (hb : p b = true) : 2 ≤ l.countP p := by
  have hsplit : l.countP p = (l.take j).countP p + (l.drop j).countP p := by
    rw [← List.countP_append, List.take_append_drop]
  have htake : 0 < (l.take j).countP p := by
    refine List.countP_pos_iff.mpr ⟨a, List.mem_of_getElem? (i := i) ?_, ha⟩
    rw [List.getElem?_take_of_lt hij]
    exact hi
  have hdrop : 0 < (l.drop j).countP p := by
    refine List.countP_pos_iff.mpr ⟨b, List.mem_of_getElem? (i := 0) ?_, hb⟩
    rw [List.getElem?_drop]
    exact hj
  omega

/-- How many coroutines a step of the service launches. -/
def Event.launches : Event → Nat
  | .onStartCommand (some _) (some _) => 1
  | _ => 0

theorem countP_noticeReturn_le (s : Service) (g : Engine) :
    (s.noticeReturn g).coroutines.countP Coroutine.live ≤
      s.coroutines.countP Coroutine.live := by
  unfold Service.noticeReturn
  split
  · exact Nat.le_refl _
  · apply countP_map_le
    intro c hc
    split at hc
    · rename_i hentered
      exact c.live_iff.mpr ⟨g, by rw [hentered]; rfl⟩
    · exact hc

theorem Coroutine.live_of_cancel {c : Coroutine} (h : c.cancel.live = true) : c.live = true := by
  obtain ⟨g, hg⟩ := (Coroutine.live_iff _).mp h
  refine c.live_iff.mpr ⟨g, ?_⟩
  rw [Async.live, Bool.or_eq_true, beq_iff_eq, beq_iff_eq] at hg ⊢
  exact hg.imp (Coroutine.async_cancel_eq (by simp)) (Coroutine.async_cancel_eq (by simp))

/-- A step of the service adds no live coroutine, but for a start command. -/
theorem Service.Step.countP_live_le {s s' : Service} {e : Event} (hstep : s.Step e s') :
    s'.coroutines.countP Coroutine.live ≤
      s.coroutines.countP Coroutine.live + e.launches := by
  cases hstep with
  | died => exact Nat.zero_le _
  | onStartCommand intent fd =>
    simp only [List.countP_append, List.countP_singleton]
    split <;> simp [Event.launches]
  | @enter g i c s₁ hi hpending _ hs₁ =>
    obtain ⟨-, -, hco, -, -, -⟩ := nativeStart_spec hs₁
    simp only [hco]
    refine countP_set_le hi fun _ => c.live_iff.mpr ⟨g, ?_⟩
    rw [hpending]
    rfl
  | tunnel => exact countP_noticeReturn_le _ _
  | proxy => exact countP_noticeReturn_le _ _
  | finish hi => exact countP_set_le hi id
  | stop => exact Nat.le_refl _
  | stopStep _ _ hs' =>
    rw [(stopExec_frame hs').1]
    exact Nat.le_refl _
  | onDestroy => exact countP_map_le fun c => Coroutine.live_of_cancel

/-! ## An engine that runs belongs to a coroutine -/

def Service.Occupied (s : Service) : Prop :=
  ∀ g, s.running g = true → ∃ c ∈ s.coroutines, c.async g = .entered

theorem tunnel_idle {t t' : Tunnel.State} {e : Tunnel.Event} (hstep : Tunnel.Step t e t')
    (hstart : ∀ o, e ≠ .start o) (hpc : t.pc = .idle) : t'.pc = .idle := by
  cases hstep with
  | start options => exact absurd rfl (hstart options)
  | stop | stopStep => exact hpc
  | setup h | setupFails h | exitLoop h | iterate h | lwipInit _ h | handle h
  | waitForEvents h | lwipInitFail h | terminate _ h | cleanup _ h =>
    rw [hpc] at h
    cases h

theorem proxy_idle {p p' : Proxy.State} {e : Proxy.Event} (hstep : Proxy.Step p e p')
    (hstart : ∀ ip port lport, e ≠ .start ip port lport) (hpc : p.pc = .idle) :
    p'.pc = .idle := by
  cases hstep with
  | start ip port lport => exact absurd rfl (hstart ip port lport)
  | signal h | signalFails h | eventBaseNew h | eventBaseNewFails h
  | evconnlistenerNewBind _ h | dispatch _ h | iterate _ h | loopexitCb _ _ h | callback h
  | lookup h | callbackReturns _ h | processed h | evconnlistenerFree h | eventBaseFree _ h =>
    rw [hpc] at h
    cases h
  | wake h | wakeFails h =>
    rw [hpc] at h
    rcases h with h | h <;> cases h
  | _ => exact hpc

theorem occupied_died (s : Service) : s.died.Occupied := by
  intro g hrun
  cases g <;> cases hrun

/-- A native call that goes on still has its async. -/
theorem occupied_noticeReturn {s s₁ : Service} {g : Engine} (h : s.Occupied)
    (hco : s₁.coroutines = s.coroutines) (hrun : s₁.running g = true → s.running g = true)
    (hother : SameEngine s s₁ g.other) : (s₁.noticeReturn g).Occupied := by
  intro g' hrun'
  have hrun₁ : s₁.running g' = true := by
    cases g' <;> simpa [Service.running] using hrun'
  rcases g.eq_or_other g' with rfl | rfl
  · obtain ⟨c, hc, hent⟩ := h _ (hrun hrun₁)
    refine ⟨c, ?_, hent⟩
    rw [Service.noticeReturn, if_pos hrun₁, hco]
    exact hc
  · obtain ⟨c, hc, hent⟩ := h _ (hother.running ▸ hrun₁)
    unfold Service.noticeReturn
    split
    · exact ⟨c, hco ▸ hc, hent⟩
    · refine ⟨_, List.mem_map.mpr ⟨c, hco ▸ hc, rfl⟩, ?_⟩
      split
      · rw [Coroutine.async_setAsync_other]
        exact hent
      · exact hent

theorem Service.Step.occupied {s s' : Service} {e : Event} (hstep : s.Step e s')
    (h : s.Occupied) : s'.Occupied := by
  cases hstep with
  | died => exact occupied_died s
  | onStartCommand =>
    intro g hrun
    obtain ⟨c, hc, hent⟩ := h g hrun
    exact ⟨c, List.mem_append_left _ hc, hent⟩
  | @enter g i c s₁ hi _ _ hs₁ =>
    obtain ⟨-, hother, hco, -, -, -⟩ := nativeStart_spec hs₁
    intro g' hrun'
    change s₁.running g' = true at hrun'
    simp only [hco]
    rcases g.eq_or_other g' with rfl | rfl
    · exact ⟨_, mem_set_self hi, by simp⟩
    · rw [hother.running] at hrun'
      exact exists_mem_set hi (by simp) (h _ hrun')
  | tunnel t hstart hstep =>
    refine occupied_noticeReturn h rfl (fun hrun => ?_) rfl
    by_contra hidle
    have hpc : s.tunnel.pc = .idle := by simpa [Service.running] using hidle
    simp [Service.running, tunnel_idle hstep hstart hpc] at hrun
  | proxy p hstart hstep =>
    refine occupied_noticeReturn h rfl (fun hrun => ?_) rfl
    by_contra hidle
    have hpc : s.proxy.pc = .idle := by simpa [Service.running] using hidle
    simp [Service.running, proxy_idle hstep hstart hpc] at hrun
  | finish hi =>
    intro g hrun
    exact exists_mem_set hi (by cases g <;> exact id) (h g hrun)
  | stop => exact h
  | stopStep _ _ hs' =>
    obtain ⟨hco, hrun, -⟩ := stopExec_frame hs'
    intro g hrun'
    obtain ⟨c, hc, hent⟩ := h g (hrun g ▸ hrun')
    exact ⟨c, hco ▸ hc, hent⟩
  | onDestroy =>
    intro g hrun
    obtain ⟨c, hc, hent⟩ := h g hrun
    exact ⟨c.cancel, List.mem_map.mpr ⟨c, hc, rfl⟩, Coroutine.async_cancel_of_entered hent⟩

/-! ## Steps of the system -/

@[simp]
theorem observe_service (s : System) (service : Service) (e : Event) :
    (s.observe service e).service = service := by
  unfold System.observe
  split
  · rfl
  · split
    · rfl
    · split
      · split <;> rfl
      · rfl

@[simp]
theorem observe_commands (s : System) (service : Service) (e : Event) :
    (s.observe service e).commands = s.commands := by
  unfold System.observe
  split
  · rfl
  · split
    · rfl
    · split
      · split <;> rfl
      · rfl

/-- `startVPN` leaves the service alone, and sends one start command at most. -/
theorem startVPN_spec (s : System) (a : Activity) (form : Option Intent) (prepared : Bool) :
    (s.startVPN a form prepared).service = s.service ∧
      (s.startVPN a form prepared).commands.length =
        s.commands.length + (if form.isSome && prepared then 1 else 0) := by
  cases form with
  | none => exact ⟨rfl, rfl⟩
  | some intent =>
    cases prepared with
    | false => exact ⟨rfl, rfl⟩
    | true => exact ⟨rfl, by simp [System.startVPN, System.bindVPNService]⟩

theorem enabled_service {s : System} {e : Event} (h : s.enabled (.service e) = true) :
    s.service.enabled e = true ∧ e.launches = 0 := by
  cases e <;> first | exact ⟨h, rfl⟩ | cases h

/-- What a step of the system does to the service and to the start commands. -/
theorem exec_cases {s s' : System} {e : SystemEvent} (he : s.enabled e = true)
    (hs' : s.exec e = .ok s') :
    (s'.service = s.service ∧
      s'.commands.length ≤ s.commands.length + (if e.startsService then 1 else 0)) ∨
    ∃ e', s.service.enabled e' = true ∧ s.service.exec e' = .ok s'.service ∧
      s'.commands.length + e'.launches ≤ s.commands.length := by
  cases e with
  | onCreate fromService =>
    cases hs'
    refine .inl ?_
    unfold System.onCreate
    dsimp only
    split <;> exact ⟨rfl, Nat.le_refl _⟩
  | onDestroy =>
    cases hs'
    exact .inl ⟨rfl, Nat.le_refl _⟩
  | clickStart form prepared =>
    simp only [System.exec] at hs'
    split at hs' <;> cases hs'
    · rename_i a _
      obtain ⟨hservice, hcommands⟩ := startVPN_spec s a form prepared
      refine .inl ⟨hservice, ?_⟩
      rw [hcommands]
      cases form <;> cases prepared <;> simp [SystemEvent.startsService]
    · exact .inl ⟨rfl, Nat.le_add_right _ _⟩
  | clickStop =>
    simp only [System.exec] at hs'
    split at hs'
    · split at hs'
      · cases hs'
        exact .inl ⟨rfl, Nat.le_refl _⟩
      · split at hs'
        · cases hs'
          exact .inl ⟨rfl, Nat.le_refl _⟩
        · obtain ⟨service, hservice, hs'⟩ := bind_ok hs'
          cases hs'
          exact .inr ⟨.stop, rfl, hservice, Nat.le_refl _⟩
    · cases hs'
      exact .inl ⟨rfl, Nat.le_refl _⟩
  | onActivityResult ok form prepared =>
    simp only [System.exec] at hs'
    split at hs'
    · rename_i a _
      cases ok <;> cases hs'
      · exact .inl ⟨rfl, Nat.le_add_right _ _⟩
      · obtain ⟨hservice, hcommands⟩ :=
          startVPN_spec { s with permissions := s.permissions - 1 } a form prepared
        refine .inl ⟨hservice, ?_⟩
        change (System.startVPN _ a form prepared).commands.length ≤ _
        rw [hcommands]
        cases form <;> cases prepared <;> simp [SystemEvent.startsService]
    · cases hs'
      exact .inl ⟨rfl, Nat.le_add_right _ _⟩
  | onServiceConnected | onServiceDisconnected =>
    simp only [System.exec] at hs'
    split at hs' <;> cases hs' <;> exact .inl ⟨rfl, Nat.le_refl _⟩
  | deliver fd =>
    simp only [System.exec] at hs'
    split at hs'
    · rename_i intent commands hcommands
      obtain ⟨service, hservice, hs'⟩ := bind_ok hs'
      cases hs'
      refine .inr ⟨.onStartCommand (some intent) fd, rfl, by simpa using hservice, ?_⟩
      rw [hcommands, observe_commands, List.length_cons]
      cases fd <;> simp [Event.launches]
    · cases hs'
      exact .inl ⟨rfl, Nat.le_refl _⟩
  | restart =>
    obtain ⟨service, hservice, hs'⟩ := bind_ok hs'
    cases hs'
    exact .inr ⟨.onStartCommand none none, rfl, by simpa using hservice, by simp [Event.launches]⟩
  | service e =>
    obtain ⟨he, hlaunches⟩ := enabled_service he
    obtain ⟨service, hservice, hs'⟩ := bind_ok hs'
    cases hs'
    exact .inr ⟨e, he, by simpa using hservice, by simp [hlaunches]⟩

theorem outstanding_exec {s s' : System} {e : SystemEvent} (he : s.enabled e = true)
    (hs' : s.exec e = .ok s') :
    s'.outstanding ≤ s.outstanding + (if e.startsService then 1 else 0) := by
  unfold System.outstanding
  rcases exec_cases he hs' with ⟨hservice, hcommands⟩ | ⟨e', he', hexec, hcommands⟩
  · rw [hservice]
    omega
  · have := (service_step he' hexec).countP_live_le
    omega

/-- What holds of the service whatever the activity does. -/
theorem service_of_runs {es : List SystemEvent} {s : System} (h : system.Runs es (.ok s)) :
    s.service.Coherent ∧ s.service.Occupied := by
  refine Machine.Runs.invariant (I := fun _ s => s.service.Coherent ∧ s.service.Occupied)
    ⟨coherent_initial 0, fun g hrun => by cases g <;> cases hrun⟩ ?_ h
  intro _ s e s' _ hI he hs'
  rcases exec_cases he hs' with ⟨hservice, -⟩ | ⟨e', he', hexec, -⟩
  · rw [hservice]
    exact hI
  · have hstep := service_step he' hexec
    exact ⟨hstep.coherent hI.1, hstep.occupied hI.2⟩

/-! ## Runs -/

/-- If every start finds the service quiet, at most one start is outstanding at any time. -/
theorem outstanding_le_one {es : List SystemEvent} {s : System} (h : system.Runs es (.ok s))
    (hquiet : system.Along (fun _ s e => e.startsService = true → Quiet s) es) :
    s.outstanding ≤ 1 := by
  refine Machine.Runs.invariant (I := fun es s =>
    system.Along (fun _ s e => e.startsService = true → Quiet s) es → s.outstanding ≤ 1)
    (fun _ => Nat.zero_le _) ?_ h hquiet
  intro es s e s' hs hI he hs' hal
  obtain ⟨hal, hC⟩ := (Machine.along_snoc hs).mp hal
  have hle := outstanding_exec he hs'
  cases hstart : e.startsService with
  | true =>
    rw [(outstanding_eq_zero s).mpr (hC hstart), hstart] at hle
    exact hle
  | false =>
    rw [hstart] at hle
    exact Nat.le_trans hle (hI hal)

/-- Only a step of the service fails. -/
theorem exec_error {s : System} {e : SystemEvent} {f : Fault} (he : s.enabled e = true)
    (h : s.exec e = .error f) :
    ∃ e', s.service.enabled e' = true ∧ s.service.exec e' = .error f := by
  cases e with
  | onCreate | onDestroy => cases h
  | clickStart | onActivityResult | onServiceConnected | onServiceDisconnected =>
    simp only [System.exec] at h
    split at h <;> cases h
  | clickStop =>
    simp only [System.exec] at h
    split at h
    · split at h
      · cases h
      · split at h <;> cases h
    · cases h
  | deliver fd =>
    simp only [System.exec] at h
    split at h
    · rename_i intent commands _
      refine ⟨.onStartCommand (some intent) fd, rfl, ?_⟩
      cases fd <;> cases h
    · cases h
  | restart => cases h
  | service e =>
    refine ⟨e, (enabled_service he).1, ?_⟩
    simp only [System.exec] at h
    cases hexec : s.service.exec e with
    | ok service =>
      rw [hexec] at h
      cases h
    | error f' =>
      rw [hexec] at h
      cases h
      rfl

/-- The only step that enters a native call again. -/
theorem reentered_enter {s : Service} {e : Event} {g : Engine}
    (h : s.exec e = .error (.reentered g)) :
    ∃ i, e = .enter g i ∧ s.running g = true ∧ s.coroutines[i]?.isSome = true := by
  cases e with
  | onStartCommand intent fd => cases intent <;> cases fd <;> cases h
  | enter g' i =>
    simp only [Service.exec] at h
    split at h
    · rename_i c hi
      split at h
      · rename_i hrun
        cases h
        exact ⟨i, rfl, hrun, by rw [hi]; rfl⟩
      · cases g' <;> cases h
    · cases h
  | proxy e =>
    simp only [Service.exec, Service.proxyExec] at h
    cases hp : Proxy.exec s.proxy e with
    | ok p =>
      rw [hp] at h
      cases h
    | error f =>
      rw [hp] at h
      cases f <;> cases h
  | finish i =>
    simp only [Service.exec] at h
    split at h <;> cases h
  | stopStep i =>
    simp only [Service.exec] at h
    split at h
    · rename_i pc _
      cases pc <;> cases h
    · cases h
  | tunnel | stop | onDestroy | killProcess => cases h

/-- A native call is entered again only if two coroutines are live. -/
theorem reentered_live {s : Service} {e : Event} {g : Engine} (ho : s.Occupied)
    (he : s.enabled e = true) (h : s.exec e = .error (.reentered g)) :
    2 ≤ s.coroutines.countP Coroutine.live := by
  obtain ⟨i, rfl, hrun, hi⟩ := reentered_enter h
  obtain ⟨c, hi⟩ := Option.isSome_iff_exists.mp hi
  simp only [Service.enabled, hi] at he
  have hpending : c.async g = .pending := by simpa using he
  obtain ⟨c₂, hc₂, hent⟩ := ho g hrun
  obtain ⟨j, hj⟩ := List.mem_iff_getElem?.mp hc₂
  have hlive : c.live = true := c.live_iff.mpr ⟨g, by rw [hpending]; rfl⟩
  have hlive₂ : c₂.live = true := c₂.live_iff.mpr ⟨g, by rw [hent]; rfl⟩
  rcases Nat.lt_trichotomy i j with hij | rfl | hij
  · exact two_le_countP hi hj hij hlive hlive₂
  · rw [hi] at hj
    cases hj
    rw [hpending] at hent
    cases hent
  · exact two_le_countP hj hi hij hlive₂ hlive

/-- With one start outstanding no native call is entered again. -/
theorem no_reentry {es : List SystemEvent} {g : Engine}
    (h : system.Runs es (.error (.reentered g)))
    (hquiet : system.Along (fun _ s e => e.startsService = true → Quiet s) es) : False := by
  generalize hr : (Except.error (Fault.reentered g) : Except Fault System) = r at h
  cases h with
  | nil => cases hr
  | snoc e hs he =>
    rename_i es s
    have hle := outstanding_le_one hs ((Machine.along_snoc hs).mp hquiet).1
    obtain ⟨e', he', hexec⟩ := exec_error he hr.symm
    have := reentered_live (service_of_runs hs).2 he' hexec
    unfold System.outstanding at hle
    omega

/-! ## The way into an engine that has not returned -/

theorem enter_running {es : List SystemEvent} {s : System} (hs : system.Runs es (.ok s))
    {g : Engine} {k : Nat} {c : Coroutine} (hk : s.service.coroutines[k]? = some c)
    (hpending : c.async g = .pending) (hrun : s.service.running g = true) :
    system.Runs (es ++ [.service (.enter g k)]) (.error (.reentered g)) := by
  have hen : system.enabled s (.service (.enter g k)) = true := by
    simp [system, System.enabled, Service.enabled, hk, hpending]
  have hexec : system.exec s (.service (.enter g k)) = .error (.reentered g) := by
    simp [system, System.exec, Service.exec, hk, hrun, bind, Except.bind]
  exact hexec ▸ hs.snoc _ hen

/-- An engine that is idle can be entered. -/
theorem enter_idle {es : List SystemEvent} {s : System} (hs : system.Runs es (.ok s))
    {g : Engine} {i : Nat} {c : Coroutine} (hi : s.service.coroutines[i]? = some c)
    (hpending : c.async g = .pending) (hidle : s.service.running g = false) :
    ∃ s', system.Runs (es ++ [.service (.enter g i)]) (.ok s') ∧ s'.service.running g = true ∧
      s'.service.coroutines = s.service.coroutines.set i (c.setAsync g .entered) := by
  have hen : system.enabled s (.service (.enter g i)) = true := by
    simp [system, System.enabled, Service.enabled, hi, hpending]
  obtain ⟨s₁, hs₁⟩ : ∃ s₁, s.service.nativeStart c g = .ok s₁ := by
    cases g <;> exact ⟨_, rfl⟩
  obtain ⟨hrun, -, hco, -⟩ := nativeStart_spec hs₁
  have hexec : ∃ service, s.service.exec (.enter g i) = .ok service ∧
      service.running g = true ∧
      service.coroutines = s.service.coroutines.set i (c.setAsync g .entered) := by
    refine ⟨{ s₁ with coroutines := s₁.coroutines.set i (c.setAsync g .entered) }, ?_, ?_, ?_⟩
    · simp [Service.exec, hi, hidle, hs₁, bind, Except.bind, pure, Except.pure]
    · cases g <;> exact hrun
    · rw [hco]
  obtain ⟨service, hservice, hrun, hco⟩ := hexec
  have hexec : system.exec s (.service (.enter g i)) = .ok (s.observe service (.enter g i)) := by
    simp [system, System.exec, hservice, bind, Except.bind, pure, Except.pure]
  exact ⟨_, hexec ▸ hs.snoc _ hen, by simpa using hrun, by simpa using hco⟩

/-- Two live asyncs of one engine, the second of which has not entered it, are on the way. -/
theorem reenter {es : List SystemEvent} {s : System} (hs : system.Runs es (.ok s))
    {g : Engine} {i k : Nat} {c c' : Coroutine} (hi : s.service.coroutines[i]? = some c)
    (hk : s.service.coroutines[k]? = some c') (hik : i ≠ k)
    (hlive : (c.async g).live = true) (hpending : c'.async g = .pending) :
    ∃ es', (∀ e ∈ es', e.internal = true) ∧
      system.Runs (es ++ es') (.error (.reentered g)) := by
  cases hrun : s.service.running g with
  | true => exact ⟨_, by simp [SystemEvent.internal], enter_running hs hk hpending hrun⟩
  | false =>
    have hfirst : c.async g = .pending := by
      rcases Bool.or_eq_true_iff.mp hlive with h | h
      · exact eq_of_beq h
      · have := (service_of_runs hs).1.running c (List.mem_of_getElem? hi) g (eq_of_beq h)
        rw [hrun] at this
        cases this
    obtain ⟨s', hs', hrun', hco⟩ := enter_idle hs hi hfirst hrun
    have hk' : s'.service.coroutines[k]? = some c' := by
      rw [hco, List.getElem?_set_ne hik]
      exact hk
    have hend := enter_running hs' hk' hpending hrun'
    rw [List.append_assoc] at hend
    exact ⟨_, by simp [SystemEvent.internal], hend⟩

theorem deliver_command {es : List SystemEvent} {s : System} (hs : system.Runs es (.ok s))
    {intent : Intent} {commands : List Intent} (h : s.commands = intent :: commands) :
    ∃ s', system.Runs (es ++ [.deliver (some 3)]) (.ok s') ∧ s'.commands = commands ∧
      s'.service.coroutines =
        s.service.coroutines ++ [⟨intent, 3, .pending, .pending, .awaiting⟩] := by
  have hen : system.enabled s (.deliver (some 3)) = true := by
    simp [system, System.enabled, h]
  have hexec : ∃ s', system.exec s (.deliver (some 3)) = .ok s' ∧ s'.commands = commands ∧
      s'.service.coroutines =
        s.service.coroutines ++ [⟨intent, 3, .pending, .pending, .awaiting⟩] := by
    simp [system, System.exec, h, Service.exec, bind, Except.bind, pure, Except.pure]
  obtain ⟨s', hs', hcommands, hco⟩ := hexec
  exact ⟨s', hs' ▸ hs.snoc _ hen, hcommands, hco⟩

/-- What a start does: it sends a start command. -/
theorem startsService_exec {s : System} {e : SystemEvent} (he : s.enabled e = true)
    (hstart : e.startsService = true) :
    ∃ s' intent, s.exec e = .ok s' ∧ s'.service = s.service ∧
      s'.commands = s.commands ++ [intent] := by
  cases e with
  | clickStart form prepared =>
    simp only [System.enabled] at he
    split at he
    · rename_i a ha
      cases form with
      | none => cases hstart
      | some intent =>
        cases prepared with
        | false => cases hstart
        | true =>
          exact ⟨s.startVPN a (some intent) true, intent, by simp only [System.exec, ha],
            rfl, rfl⟩
    · cases he
  | onActivityResult ok form prepared =>
    obtain ⟨ha, -⟩ := Bool.and_eq_true_iff.mp he
    obtain ⟨a, ha⟩ := Option.isSome_iff_exists.mp ha
    cases ok with
    | false => cases hstart
    | true =>
      cases form with
      | none => cases hstart
      | some intent =>
        cases prepared with
        | false => cases hstart
        | true =>
          refine ⟨{ s with permissions := s.permissions - 1 }.startVPN a (some intent) true,
            intent, ?_, rfl, rfl⟩
          simp only [System.exec, ha, if_true]
  | _ => cases hstart

/-- A start that finds something left of an earlier one can go on, without any more events of
the user, into an engine that has not returned. -/
theorem reentry_of_start {es : List SystemEvent} {s : System} {e : SystemEvent}
    (hs : system.Runs es (.ok s)) (he : system.enabled s e = true)
    (hstart : e.startsService = true) (hquiet : ¬ Quiet s) :
    ∃ es' g, (∀ e' ∈ es', e'.internal = true) ∧
      system.Runs (es ++ e :: es') (.error (.reentered g)) := by
  obtain ⟨s₁, intent, hexec, hservice, hcommands⟩ := startsService_exec he hstart
  have hs₁ : system.Runs (es ++ [e]) (.ok s₁) := hexec ▸ hs.snoc e he
  -- it is enough to go on from there
  suffices h : ∃ es' g, (∀ e' ∈ es', e'.internal = true) ∧
      system.Runs (es ++ [e] ++ es') (.error (.reentered g)) by
    obtain ⟨es', g, hes', hrun⟩ := h
    exact ⟨es', g, hes', by simpa using hrun⟩
  cases hold : s.commands with
  | cons first rest =>
    -- an earlier start command is not delivered yet: deliver it and the next one
    rw [hold, List.cons_append] at hcommands
    obtain ⟨s₂, hs₂, hcommands₂, hco₂⟩ := deliver_command hs₁ hcommands
    obtain ⟨next, rest', hnext⟩ : ∃ next rest', s₂.commands = next :: rest' := by
      rw [hcommands₂]
      cases rest with
      | nil => exact ⟨_, _, rfl⟩
      | cons next rest => exact ⟨_, _, rfl⟩
    obtain ⟨s₃, hs₃, -, hco₃⟩ := deliver_command hs₂ hnext
    have hi : s₃.service.coroutines[s₁.service.coroutines.length]? =
        some ⟨first, 3, .pending, .pending, .awaiting⟩ := by
      simp [hco₃, hco₂]
    have hk : s₃.service.coroutines[s₁.service.coroutines.length + 1]? =
        some ⟨next, 3, .pending, .pending, .awaiting⟩ := by
      simp [hco₃, hco₂]
    obtain ⟨es', hes', hrun⟩ := reenter (g := .tun) hs₃ hi hk (by omega) rfl rfl
    refine ⟨[.deliver (some 3), .deliver (some 3)] ++ es', .tun, ?_, by simpa using hrun⟩
    intro e' he'
    rcases List.mem_append.mp he' with he' | he'
    · simp only [List.mem_cons, List.not_mem_nil, or_false, or_self] at he'
      subst he'
      rfl
    · exact hes' e' he'
  | nil =>
    -- a native call of an earlier start is still to come, or has not returned
    rw [hold, List.nil_append] at hcommands
    obtain ⟨c, hc, hlive⟩ : ∃ c ∈ s.service.coroutines, c.live = true := by
      by_contra hno
      refine hquiet ⟨hold, fun c hc => ?_⟩
      by_contra hlive
      exact hno ⟨c, hc, by simpa using hlive⟩
    obtain ⟨g, hg⟩ := c.live_iff.mp hlive
    obtain ⟨i, hi⟩ := List.mem_iff_getElem?.mp hc
    have hlt := (List.getElem?_eq_some_iff.mp hi).1
    obtain ⟨s₂, hs₂, -, hco₂⟩ := deliver_command hs₁ hcommands
    rw [hservice] at hco₂
    have hi₂ : s₂.service.coroutines[i]? = some c := by
      rw [hco₂, List.getElem?_append_left hlt]
      exact hi
    have hk₂ : s₂.service.coroutines[s.service.coroutines.length]? =
        some ⟨intent, 3, .pending, .pending, .awaiting⟩ := by
      simp [hco₂]
    obtain ⟨es', hes', hrun⟩ := reenter hs₂ hi₂ hk₂ (by omega) hg (by cases g <;> rfl)
    refine ⟨.deliver (some 3) :: es', g, ?_, by simpa using hrun⟩
    intro e' he'
    rcases List.mem_cons.mp he' with rfl | he'
    · rfl
    · exact hes' e' he'

/-- If every start finds nothing left of the earlier ones, no native call is entered while
another one has not returned. A start that finds something left can lead there without any
more events of the user. -/
theorem one_pair {es : List SystemEvent} {r : Except Fault System} (h : system.Runs es r) :
    (system.Along (fun _ s e => e.startsService = true → Quiet s) es →
      ∀ g, r ≠ .error (.reentered g)) ∧
    (∀ s e, r = .ok s → system.enabled s e = true → e.startsService = true → ¬ Quiet s →
      ∃ es' g, (∀ e' ∈ es', e'.internal = true) ∧
        system.Runs (es ++ e :: es') (.error (.reentered g))) := by
  constructor
  · rintro hquiet g rfl
    exact no_reentry h hquiet
  · rintro s e rfl he hstart hquiet
    exact reentry_of_start h he hstart hquiet

/-- The form of the examples. -/
def filledForm : Option Intent := some ⟨"1.2.3.4", 8388, "127.0.0.1:7300"⟩

/-- The user starts the service, and both engines are entered. -/
def startedOnce : List SystemEvent :=
  [.onCreate false, .clickStart filledForm true, .onServiceConnected, .deliver (some 3),
    .service (.enter .proxy 0), .service (.enter .tun 0)]

/-- The screen is rotated, and the start button is enabled again. -/
def rotated : List SystemEvent := startedOnce ++ [.onDestroy, .onCreate false]

/-- The start finds nothing left of an earlier one. After the rotation another start would find
it, and leads to a second entry. -/
theorem one_pair_rotated :
    ∃ r, system.Runs rotated r ∧ (∀ g, r ≠ .error (.reentered g)) ∧
      ∃ es g, system.Runs (rotated ++ .clickStart filledForm true :: es)
        (.error (.reentered g)) := by
  have hends : system.ends rotated (fun s =>
      system.enabled s (.clickStart filledForm true) && !decide (Quiet s)) = true := by
    decide +kernel
  obtain ⟨s, hr, hs⟩ := Machine.runs_of_ends hends
  obtain ⟨henabled, hquiet⟩ := Bool.and_eq_true_iff.mp hs
  obtain ⟨hfirst, hsecond⟩ := one_pair hr
  obtain ⟨es, g, -, hrun⟩ := hsecond s _ rfl henabled rfl (by simpa using hquiet)
  exact ⟨.ok s, hr, hfirst (Machine.along_of_ends (by decide +kernel)), es, g, hrun⟩

/-- The user starts the service again. -/
def startedTwice : List SystemEvent :=
  rotated ++ [.clickStart filledForm true, .deliver (some 3)]

/-- Both engines are entered while their first calls have not returned. -/
theorem engines_entered_twice :
    system.Runs (startedTwice ++ [.service (.enter .tun 1)]) (.error (.reentered .tun)) ∧
    system.Runs (startedTwice ++ [.service (.enter .proxy 1)]) (.error (.reentered .proxy)) := by
  exact ⟨Machine.runs_of_faults (by decide +kernel), Machine.runs_of_faults (by decide +kernel)⟩

end Lightsocks.App
