import Lightsocks.App.Reentry
import Mathlib.Tactic.MkIffOfInductiveProp

/-!
# The buttons and the service

The buttons are not computed from anything: each callback of the activity sets them to what
should be right by then. They are right whenever nothing is outstanding, as long as four kinds of
steps do not happen: a permission is denied while the activity waits for nothing else, a late
permission finds the form invalid in an activity that is connected, a connection is made to a
service that nobody has started, and a coroutine calls back, upon which the activity unbinds
and is told nothing more.
-/

namespace Lightsocks.App

open Lightsocks.Lib

/-! ## At rest -/

/-- A call of `stop` has not returned, or the service is still to be destroyed or killed. -/
def Service.stopOutstanding (s : Service) : Bool :=
  s.stops.any (fun pc => pc != .returned) || s.selfStopped || s.killPosted

/-- The coroutine awaits its engines and is inside neither of them. -/
def Coroutine.betweenCalls (c : Coroutine) : Bool :=
  c.stage == .awaiting && c.tun != .entered && c.proxy != .entered

/-- No permission result, no connection and no disconnection is to come, no start command and
no stop is under way. -/
@[mk_iff]
structure System.Settled (s : System) : Prop where
  permissions : s.permissions = 0
  connecting : s.connecting = false
  disconnecting : s.disconnecting = false
  commands : s.commands = []
  coroutines : ∀ c ∈ s.service.coroutines, c.betweenCalls = false
  stop : s.service.stopOutstanding = false

/-- `remoteLightsocksService` is set, and its process is alive. -/
def System.liveBinder (s : System) (a : Activity) : Bool :=
  a.remote && a.process == s.service.deaths

def Service.engineRuns (s : Service) : Bool := s.running .tun || s.running .proxy

/-- Exactly one of the buttons is enabled, and it is the stop button exactly if there is an
engine to stop and a binder to stop it with. -/
@[mk_iff]
structure System.Matches (s : System) (a : Activity) : Prop where
  one : a.btnStart = !a.btnStop
  stop : a.btnStop = (s.service.engineRuns && s.liveBinder a)

instance (s : System) : Decidable s.Settled :=
  decidable_of_iff _ (System.settled_iff s).symm

instance (s : System) (a : Activity) : Decidable (s.Matches a) :=
  decidable_of_iff _ (System.matches_iff s a).symm

/-! ## What is still to come -/

/-- Something will still set the buttons. -/
def System.awaited (s : System) (a : Activity) : Prop :=
  0 < s.permissions ∨ s.connecting = true ∨ s.disconnecting = true ∨
    (a.remote = true ∧ s.service.stopOutstanding = true)

/-- The service has been started, and has not been stopped. -/
def System.busy (s : System) : Prop :=
  s.commands ≠ [] ∨ (∃ c ∈ s.service.coroutines, c.stage = .awaiting) ∨
    s.service.stopOutstanding = true

/-- Denied, a permission leaves something that will set the buttons; granted, it finds a valid
form or an activity without a service. -/
def System.resultAttended (s : System) (ok : Bool) (form : Option Intent) : Prop :=
  ∀ a ∈ s.activity,
    (ok = false → a.loading = true → { s with permissions := s.permissions - 1 }.awaited a) ∧
      (ok = true → form = none → a.remote = false)

/-- A permission result meets its condition, a service that gets connected is busy, and no
coroutine calls back. -/
def Attended (s : System) : SystemEvent → Prop
  | .onActivityResult ok form _ => s.resultAttended ok form
  | .onServiceConnected => s.busy
  | .service (.finish _) => s.callback = false
  | _ => True

instance (s : System) (a : Activity) : Decidable (s.awaited a) :=
  inferInstanceAs (Decidable (_ ∨ _ ∨ _ ∨ _))

instance (s : System) : Decidable s.busy :=
  inferInstanceAs (Decidable (_ ∨ (∃ c ∈ s.service.coroutines, c.stage = .awaiting) ∨ _))

instance (s : System) (ok : Bool) (form : Option Intent) :
    Decidable (s.resultAttended ok form) :=
  inferInstanceAs (Decidable (∀ a ∈ s.activity, _ ∧ _))

instance (s : System) : (e : SystemEvent) → Decidable (Attended s e)
  | .onActivityResult ok form _ => inferInstanceAs (Decidable (s.resultAttended ok form))
  | .onServiceConnected => inferInstanceAs (Decidable s.busy)
  | .service (.finish _) => inferInstanceAs (Decidable (s.callback = false))
  | .onCreate _ | .onDestroy | .clickStart _ _ | .clickStop | .onServiceDisconnected
  | .deliver _ | .restart | .service (.onStartCommand _ _) | .service (.enter _ _)
  | .service (.tunnel _) | .service (.proxy _) | .service .stop | .service (.stopStep _)
  | .service .onDestroy | .service .killProcess => .isTrue trivial

/-! ## What the activity shows -/

/-- What `updateUI` with these arguments leaves. -/
structure Activity.Shows (a : Activity) (busy startEnabled : Bool) : Prop where
  loading : a.loading = busy
  btnStop : a.btnStop = (!startEnabled && !busy)
  btnStart : a.btnStart = (startEnabled && !busy)

theorem Activity.shows_updateUI (a : Activity) (busy startEnabled : Bool) :
    (a.updateUI busy startEnabled).Shows busy startEnabled :=
  ⟨rfl, rfl, rfl⟩

/-- The activity is ready for a start, waits for something, or has a service that is busy. -/
inductive System.Display (s : System) (a : Activity) : Prop
  | ready (h : a.Shows false true) (hremote : a.remote = false)
  | loading (h : a.Shows true false) (hawaited : s.awaited a)
  | started (h : a.Shows false false) (hremote : a.remote = true)
      (hbusy : s.disconnecting = true ∨ s.busy)

/-- An activity with a binder is bound, and is going to be told when the process dies. -/
structure System.Kept (s : System) (a : Activity) : Prop where
  display : s.Display a
  bound : a.remote = true → a.bound = true
  live : a.remote = true → s.disconnecting = false →
    a.process = s.service.deaths ∧ s.callback = true
  disconnecting : s.disconnecting = true → a.remote = true

structure System.Sound (s : System) : Prop where
  gone : s.activity = none → s.disconnecting = false
  kept : ∀ a, s.activity = some a → s.Kept a

theorem System.Kept.sound {s : System} {a : Activity} (h : s.Kept a)
    (ha : s.activity = some a) : s.Sound where
  gone hno := by cases ha.symm.trans hno
  kept a' ha' := by
    cases ha.symm.trans ha'
    exact h

/-- Without a binder there is nothing to be told. -/
theorem System.Kept.of_unbound {s : System} {a : Activity} (hdisplay : s.Display a)
    (hremote : a.remote = false) (hdisconnecting : s.disconnecting = false) : s.Kept a where
  display := hdisplay
  bound hr := by cases hremote.symm.trans hr
  live hr := by cases hremote.symm.trans hr
  disconnecting hd := by cases hdisconnecting.symm.trans hd

theorem System.sound_of_gone {s : System} (ha : s.activity = none)
    (hdisconnecting : s.disconnecting = false) : s.Sound where
  gone _ := hdisconnecting
  kept a ha' := by cases ha.symm.trans ha'

/-- At rest the buttons are right. -/
theorem System.Kept.matches {s : System} {a : Activity} (h : s.Kept a) (hset : s.Settled)
    (hc : s.service.Coherent) : s.Matches a := by
  cases h.display with
  | ready hshows hremote =>
    refine ⟨?_, ?_⟩
    · rw [hshows.btnStart, hshows.btnStop]
      rfl
    · rw [hshows.btnStop, System.liveBinder, hremote, Bool.false_and, Bool.and_false]
      rfl
  | loading _ hawaited =>
    rcases hawaited with h' | h' | h' | ⟨-, h'⟩
    · rw [hset.permissions] at h'
      exact absurd h' (Nat.lt_irrefl 0)
    · cases hset.connecting.symm.trans h'
    · cases hset.disconnecting.symm.trans h'
    · cases hset.stop.symm.trans h'
  | started hshows hremote hbusy =>
    have hlive : s.liveBinder a = true := by
      simp [System.liveBinder, hremote, (h.live hremote hset.disconnecting).1]
    have hruns : s.service.engineRuns = true := by
      rcases hbusy with h' | h' | ⟨c, hmem, hstage⟩ | h'
      · cases hset.disconnecting.symm.trans h'
      · exact absurd hset.commands h'
      · -- the coroutine is inside an engine
        have hinside := hset.coroutines c hmem
        rw [Coroutine.betweenCalls, hstage] at hinside
        simp only [beq_self_eq_true, Bool.true_and, Bool.and_eq_false_iff, bne_eq_false_iff_eq]
          at hinside
        rw [Service.engineRuns, Bool.or_eq_true]
        exact hinside.imp (hc.running c hmem .tun) (hc.running c hmem .proxy)
      · cases hset.stop.symm.trans h'
    refine ⟨?_, ?_⟩
    · rw [hshows.btnStart, hshows.btnStop]
      rfl
    · rw [hshows.btnStop, hlive, hruns]
      rfl

/-! ## Steps of the service -/

theorem stopOutstanding_of_mem {s : Service} {pc : StopPc} (hmem : pc ∈ s.stops)
    (hpc : pc ≠ .returned) : s.stopOutstanding = true := by
  have : s.stops.any (fun pc => pc != .returned) = true :=
    List.any_eq_true.mpr ⟨pc, hmem, by simpa using hpc⟩
  rw [Service.stopOutstanding, this]
  rfl

/-- A stop has just been called. -/
theorem stopOutstanding_of_append {s : Service} {pcs : List StopPc}
    (h : s.stops = pcs ++ [.stopSelf]) : s.stopOutstanding = true := by
  have hmem : .stopSelf ∈ s.stops := by
    rw [h]
    exact List.mem_append_right _ (List.mem_singleton.mpr rfl)
  exact stopOutstanding_of_mem hmem (by simp)

theorem nativeStart_frame {s s' : Service} {c : Coroutine} {g : Engine}
    (h : s.nativeStart c g = .ok s') :
    s'.stopOutstanding = s.stopOutstanding ∧ s'.deaths = s.deaths := by
  cases g <;> cases h <;> exact ⟨rfl, rfl⟩

theorem noticeReturn_frame (s : Service) (g : Engine) :
    (s.noticeReturn g).stopOutstanding = s.stopOutstanding ∧
      (s.noticeReturn g).deaths = s.deaths := by
  unfold Service.noticeReturn
  split <;> exact ⟨rfl, rfl⟩

/-- The stage of a coroutine is not changed by its native calls. -/
theorem awaiting_noticeReturn {s : Service} (g : Engine)
    (h : ∃ c ∈ s.coroutines, c.stage = .awaiting) :
    ∃ c ∈ (s.noticeReturn g).coroutines, c.stage = .awaiting := by
  unfold Service.noticeReturn
  split
  · exact h
  · obtain ⟨c, hmem, hstage⟩ := h
    refine ⟨_, List.mem_map.mpr ⟨c, hmem, rfl⟩, ?_⟩
    split
    · cases g <;> exact hstage
    · exact hstage

/-- A call of `stop` goes on, or has the process killed. -/
theorem stopOutstanding_stopExec {s s' : Service} {i : Nat} {pc : StopPc}
    (hi : s.stops[i]? = some pc) (hen : s.stopEnabled pc = true)
    (hs' : s.stopExec i pc = .ok s') : s'.stopOutstanding = true ∧ s'.deaths = s.deaths := by
  cases pc with
  | returned => cases hen
  | postKill =>
    cases hs'
    exact ⟨by simp [Service.stopOutstanding], rfl⟩
  | _ =>
    cases hs'
    exact ⟨stopOutstanding_of_mem (mem_set_self hi) (by simp), rfl⟩

/-- Unless the process dies, a stop stays outstanding, and what was started stays so until it
is stopped. -/
theorem Service.Step.busy {s s' : Service} {e : Event} (hstep : s.Step e s')
    (hdeaths : s'.deaths = s.deaths) :
    (s.stopOutstanding = true → s'.stopOutstanding = true) ∧
      ((∃ c ∈ s.coroutines, c.stage = .awaiting) →
        (∃ c ∈ s'.coroutines, c.stage = .awaiting) ∨ s'.stopOutstanding = true) := by
  cases hstep with
  | died => exact absurd hdeaths (Nat.succ_ne_self _)
  | onStartCommand intent fd =>
    refine ⟨id, fun h => .inl ?_⟩
    obtain ⟨c, hmem, hstage⟩ := h
    exact ⟨c, List.mem_append_left _ hmem, hstage⟩
  | @enter g i c s₁ hi _ _ hs₁ =>
    obtain ⟨-, -, hco, -, -, -⟩ := nativeStart_spec hs₁
    have hstop : s₁.stopOutstanding = s.stopOutstanding := (nativeStart_frame hs₁).1
    refine ⟨fun h => hstop.trans h, fun h => .inl ?_⟩
    simp only [hco]
    exact exists_mem_set hi (by cases g <;> exact id) h
  | tunnel t =>
    refine ⟨fun h => ?_, fun h => .inl (awaiting_noticeReturn .tun h)⟩
    rw [(noticeReturn_frame _ _).1]
    exact h
  | proxy p =>
    refine ⟨fun h => ?_, fun h => .inl (awaiting_noticeReturn .proxy h)⟩
    rw [(noticeReturn_frame _ _).1]
    exact h
  | finish hi =>
    have hstop : ∀ cs, ({ s with coroutines := cs, selfStopped := true } : Service).stopOutstanding
        = true := by simp [Service.stopOutstanding]
    exact ⟨fun _ => hstop _, fun _ => .inr (hstop _)⟩
  | stop =>
    have hstop : ({ s with stops := s.stops ++ [.stopSelf] } : Service).stopOutstanding = true :=
      stopOutstanding_of_append rfl
    exact ⟨fun _ => hstop, fun _ => .inr hstop⟩
  | stopStep hi hen hs' =>
    have hstop := (stopOutstanding_stopExec hi hen hs').1
    exact ⟨fun _ => hstop, fun _ => .inr hstop⟩
  | onDestroy =>
    have hstop : ({ s with
        coroutines := s.coroutines.map Coroutine.cancel
        stops := s.stops ++ [.stopSelf] } : Service).stopOutstanding = true :=
      stopOutstanding_of_append rfl
    exact ⟨fun _ => hstop, fun _ => .inr hstop⟩

/-! ## Steps of the system -/

/-- `startVPN` sets the buttons in each of its branches. -/
theorem System.Kept.startVPN {s : System} {a : Activity} (h : s.Kept a) (permissions : Nat)
    (form : Option Intent) (prepared : Bool) (hform : form = none → a.remote = false) :
    (({ s with permissions } : System).startVPN a form prepared).Sound := by
  cases form with
  | none =>
    refine System.Kept.sound ?_ rfl
    exact ⟨.ready (Activity.shows_updateUI _ _ _) (hform rfl), h.bound, h.live, h.disconnecting⟩
  | some intent =>
    cases prepared with
    | true =>
      refine System.Kept.sound ?_ rfl
      exact ⟨.loading ⟨rfl, rfl, rfl⟩ (.inr (.inl rfl)), fun _ => rfl, h.live, h.disconnecting⟩
    | false =>
      refine System.Kept.sound ?_ rfl
      exact ⟨.loading ⟨rfl, rfl, rfl⟩ (.inl (Nat.succ_pos _)), h.bound, h.live, h.disconnecting⟩

/-- The process dies: a connected activity is going to be told. -/
theorem System.Kept.died {s s' : System} {a : Activity} (h : s.Kept a)
    (hpermissions : s'.permissions = s.permissions) (hconnecting : s'.connecting = s.connecting)
    (hdisconnecting : s'.disconnecting = (a.bound && a.remote)) : s'.Kept a := by
  have hdisc : a.remote = true → s'.disconnecting = true := fun hremote => by
    rw [hdisconnecting, h.bound hremote, hremote]
    rfl
  refine ⟨?_, h.bound, fun hremote hno => ?_, fun htrue => ?_⟩
  · cases h.display with
    | ready hshows hremote => exact .ready hshows hremote
    | loading hshows hawaited =>
      refine .loading hshows ?_
      rcases hawaited with h' | h' | h' | ⟨h', -⟩
      · exact .inl (hpermissions ▸ h')
      · exact .inr (.inl (hconnecting.trans h'))
      · exact .inr (.inr (.inl (hdisc (h.disconnecting h'))))
      · exact .inr (.inr (.inl (hdisc h')))
    | started hshows hremote _ => exact .started hshows hremote (.inl (hdisc hremote))
  · cases (hdisc hremote).symm.trans hno
  · rw [hdisconnecting, Bool.and_eq_true] at htrue
    exact htrue.2

/-- A step of the service that the activity does not notice. -/
theorem System.Kept.unnoticed {s s' : System} {a : Activity} (h : s.Kept a)
    (hs' : s' = { s with commands := s'.commands, service := s'.service })
    (hdeaths : s'.service.deaths = s.service.deaths)
    (hstop : s.service.stopOutstanding = true → s'.service.stopOutstanding = true)
    (hbusy : s.busy → s'.busy) : s'.Kept a := by
  rw [hs']
  refine ⟨?_, h.bound, fun hremote hno => ?_, h.disconnecting⟩
  · cases h.display with
    | ready hshows hremote => exact .ready hshows hremote
    | loading hshows hawaited =>
      exact .loading hshows (hawaited.imp_right (.imp_right (.imp_right (.imp_right hstop))))
    | started hshows hremote h' => exact .started hshows hremote (h'.imp_right hbusy)
  · rw [hdeaths]
    exact h.live hremote hno

/-- The activity after a step of the service, with or without a start command delivered. -/
theorem System.Sound.observe {s : System} (h : s.Sound) (commands : List Intent)
    {service : Service} {e : Event} (he : s.service.enabled e = true)
    (hexec : s.service.exec e = .ok service) (hfinish : ∀ i, e = .finish i → s.callback = false)
    (hcommands : service.deaths = s.service.deaths → s.commands ≠ [] →
      commands ≠ [] ∨ ∃ c ∈ service.coroutines, c.stage = .awaiting) :
    (({ s with commands } : System).observe service e).Sound := by
  unfold System.observe
  cases ha : s.activity with
  | none => exact System.sound_of_gone rfl (h.gone ha)
  | some a =>
    have hkept := h.kept a ha
    dsimp only
    split
    · refine System.Kept.sound ?_ rfl
      exact hkept.died rfl rfl rfl
    · rename_i hdeaths
      have hdeaths : service.deaths = s.service.deaths := not_not.mp hdeaths
      obtain ⟨hstop, hawaiting⟩ := (service_step he hexec).busy hdeaths
      have hkept' : ({ s with activity := some a, commands, service } : System).Kept a := by
        apply hkept.unnoticed (by rw [← ha]) hdeaths hstop
        rintro (hc | hc | hc)
        · rcases hcommands hdeaths hc with hc' | hc'
          · exact .inl hc'
          · exact .inr (.inl hc')
        · exact .inr (hawaiting hc)
        · exact .inr (.inr (hstop hc))
      split
      · rename_i i
        rw [if_neg (by simp [hfinish i rfl])]
        exact hkept'.sound rfl
      · exact hkept'.sound rfl

namespace System.Sound

variable {s s' : System}

theorem onCreate {fromService : Bool} (h : s.Sound) (hno : s.activity = none)
    (hs' : s.exec (.onCreate fromService) = .ok s') : s'.Sound := by
  have hdisconnecting := h.gone hno
  cases hs'
  cases fromService with
  | false =>
    refine System.Kept.sound ?_ rfl
    exact .of_unbound (.ready ⟨rfl, rfl, rfl⟩ rfl) rfl hdisconnecting
  | true =>
    refine System.Kept.sound ?_ rfl
    exact .of_unbound (.loading ⟨rfl, rfl, rfl⟩ (.inr (.inl rfl))) rfl hdisconnecting

/-- The stop button is left disabled until the process of the service dies. -/
theorem clickStop (h : s.Sound) {a : Activity} (ha : s.activity = some a)
    (hs' : s.exec .clickStop = .ok s') : s'.Sound := by
  have hkept := h.kept a ha
  simp only [System.exec, ha] at hs'
  split at hs'
  · cases hs'
    exact h
  · split at hs'
    · cases hs'
      exact System.sound_of_gone rfl rfl
    · rename_i hremote _
      have hremote : a.remote = true := by simpa using hremote
      cases hs'
      refine System.Kept.sound ?_ rfl
      refine ⟨.loading ⟨rfl, rfl, rfl⟩ (.inr (.inr (.inr ⟨hremote, ?_⟩))), hkept.bound,
        hkept.live, hkept.disconnecting⟩
      exact stopOutstanding_of_append rfl

theorem onActivityResult {ok : Bool} {form : Option Intent} {prepared : Bool} (h : s.Sound)
    (hC : Attended s (.onActivityResult ok form prepared))
    (hs' : s.exec (.onActivityResult ok form prepared) = .ok s') : s'.Sound := by
  simp only [System.exec] at hs'
  cases ha : s.activity with
  | none =>
    rw [ha] at hs'
    cases hs'
    exact System.sound_of_gone rfl (h.gone ha)
  | some a =>
    rw [ha] at hs'
    have hkept := h.kept a ha
    obtain ⟨hdenied, hgranted⟩ := hC a ha
    cases ok with
    | true =>
      cases hs'
      exact hkept.startVPN (s.permissions - 1) form prepared (hgranted rfl)
    | false =>
      cases hs'
      refine System.Kept.sound ?_ rfl
      refine ⟨?_, hkept.bound, hkept.live, hkept.disconnecting⟩
      cases hkept.display with
      | ready hshows hremote => exact .ready hshows hremote
      | loading hshows _ => exact .loading hshows (hdenied rfl hshows.loading)
      | started hshows hremote hbusy => exact .started hshows hremote hbusy

theorem onServiceDisconnected (h : s.Sound) (hs' : s.exec .onServiceDisconnected = .ok s') :
    s'.Sound := by
  simp only [System.exec] at hs'
  cases ha : s.activity with
  | none =>
    rw [ha] at hs'
    cases hs'
    exact h
  | some a =>
    rw [ha] at hs'
    cases hs'
    refine System.Kept.sound ?_ rfl
    exact .of_unbound (.ready ⟨rfl, rfl, rfl⟩ rfl) rfl rfl

/-- The command has become a coroutine, or the process has died of it. -/
theorem deliver {fd : Option Int} (h : s.Sound) (hs' : s.exec (.deliver fd) = .ok s') :
    s'.Sound := by
  simp only [System.exec] at hs'
  split at hs'
  · rename_i intent commands _
    obtain ⟨service, hservice, hs'⟩ := bind_ok hs'
    cases hs'
    apply h.observe commands rfl hservice
    · rintro i ⟨⟩
    · intro hdeaths _
      cases fd with
      | none =>
        cases hservice
        exact absurd hdeaths (Nat.succ_ne_self _)
      | some fd =>
        cases hservice
        exact .inr ⟨_, List.mem_append_right _ (List.mem_singleton.mpr rfl), rfl⟩
  · cases hs'
    exact h

/-- A step that meets its condition keeps the activity's side right. -/
theorem step {e : SystemEvent} (h : s.Sound) (hC : Attended s e) (he : s.enabled e = true)
    (hs' : s.exec e = .ok s') : s'.Sound := by
  cases e with
  | onCreate fromService => exact h.onCreate (Option.isNone_iff_eq_none.mp he) hs'
  | onDestroy =>
    cases hs'
    exact System.sound_of_gone rfl rfl
  | clickStart form prepared =>
    simp only [System.enabled] at he
    simp only [System.exec] at hs'
    cases ha : s.activity with
    | none => rw [ha] at he; cases he
    | some a =>
      rw [ha] at he hs'
      cases hs'
      apply (h.kept a ha).startVPN s.permissions form prepared
      intro _
      -- the start button is only enabled in an activity that is ready
      cases (h.kept a ha).display with
      | ready _ hremote => exact hremote
      | loading hshows | started hshows => cases hshows.btnStart.symm.trans he
  | clickStop =>
    cases ha : s.activity with
    | none => rw [System.enabled, ha] at he; cases he
    | some a => exact h.clickStop ha hs'
  | onActivityResult ok form prepared => exact h.onActivityResult hC hs'
  | onServiceConnected =>
    simp only [System.enabled] at he
    simp only [System.exec] at hs'
    cases ha : s.activity with
    | none => rw [ha] at he; cases he
    | some a =>
      rw [ha] at he hs'
      cases hs'
      refine System.Kept.sound ?_ rfl
      exact ⟨.started ⟨rfl, rfl, rfl⟩ rfl (.inr hC), fun _ => (Bool.and_eq_true_iff.mp he).2,
        fun _ _ => ⟨rfl, rfl⟩, fun _ => rfl⟩
  | onServiceDisconnected => exact h.onServiceDisconnected hs'
  | deliver fd => exact h.deliver hs'
  | restart =>
    obtain ⟨service, hservice, hs'⟩ := bind_ok hs'
    cases hs'
    apply h.observe s.commands rfl hservice
    · rintro i ⟨⟩
    · exact fun _ hc => .inl hc
  | service e =>
    obtain ⟨service, hservice, hs'⟩ := bind_ok hs'
    cases hs'
    apply h.observe s.commands (enabled_service he).1 hservice
    · rintro i rfl
      exact hC
    · exact fun _ hc => .inl hc

end System.Sound

theorem sound_of_runs {es : List SystemEvent} {s : System} (h : system.Runs es (.ok s))
    (hC : system.Along (fun _ s e => Attended s e) es) : s.Sound := by
  refine Machine.Runs.invariant
    (I := fun es s => system.Along (fun _ s e => Attended s e) es → s.Sound)
    (fun _ => System.sound_of_gone rfl rfl) ?_ h hC
  intro es s e s' hs hI he hs' hal
  obtain ⟨hal, hC⟩ := (Machine.along_snoc hs).mp hal
  exact (hI hal).step hC he hs'

/-- The VPN permission is denied. -/
def permissionDenied : List SystemEvent :=
  [.onCreate false, .clickStart filledForm false, .onActivityResult false none false]

/-- The activity is opened from the notification of a service that is gone. -/
def openedTooLate : List SystemEvent := [.onCreate true, .onServiceConnected]

/-- Both engines fail at once; the coroutine calls back, and the service is destroyed. -/
def enginesFailed : List SystemEvent :=
  startedOnce ++
    [.service (.proxy (.signal false)), .service (.tunnel (.setup .blogInit true)),
      .service (.tunnel (.setup .clearPassword true)),
      .service (.tunnel (.setup .networkInit false)), .service (.tunnel (.cleanup .fail1)),
      .service (.tunnel (.cleanup .fail0)), .service (.finish 0), .service .onDestroy,
      .service (.stopStep 0), .service (.stopStep 0),
      .service (.tunnel (.stopStep 0 .assertNotQuitting)),
      .service (.tunnel (.stopStep 0 .log))]

end Lightsocks.App
