import Lightsocks.Tunnel.Process

/-!
# Every run is balanced

Whichever step of the setup fails and whatever connections are left when the loop is over, a
run of `startTun2socks` releases each thing that it acquired once, after everything that uses
it, and the next run finds its guards down (`runs_balanced`).
-/

namespace Lightsocks.Tunnel

open Lightsocks.Lib

/-! ## The stack of a run -/

/-- What the run holds, the latest first. -/
def State.things (s : State) : List Thing :=
  (if s.pc.usesLwip then lwipThings s.haveNetif s.listener else []) ++ s.held.map .setup

/-- Not a part of a connection. -/
def Thing.ofRun : Thing → Bool
  | .setup _ | .netif | .listener => true
  | _ => false

theorem Thing.ofRun_of_needs {x : Thing} (hx : x.ofRun = true) :
    ∀ y ∈ x.needs, y.ofRun = true := by
  cases x with
  | setup r => cases r <;> decide
  | netif | listener => decide
  | _ => cases hx

theorem Thing.not_uses_self (x : Thing) : ¬ x.Uses x := by
  cases x with
  | setup r => cases r <;> simp [Thing.Uses, Thing.needs]
  | _ => simp [Thing.Uses, Thing.needs]

namespace Clients

variable {s : Clients} {base base' : Thing → Prop} {x : Thing}

theorem has_ofRun (hx : x.ofRun = true) : s.Has base x ↔ base x := by
  cases x with
  | setup | netif | listener => exact Iff.rfl
  | _ => cases hx

/-- Entering something that is not of the connections leaves them as they are. -/
theorem Inv.write (h : s.Inv base) {e : Entry Thing}
    (hholds : Ledger.Holds Thing.Uses (e :: s.log) (s.Has base')) : (s.write e).Inv base' where
  sound := {
    nodup := h.sound.nodup
    mem_iff := h.sound.mem_iff
    count := h.sound.count
    fresh := h.sound.fresh
    holds := hholds.congr fun x => by cases x <;> exact Iff.rfl
    call := h.sound.call }
  agrees := h.agrees

theorem Inv.congr (h : s.Inv base) (hiff : ∀ x, base' x ↔ base x) : s.Inv base' where
  sound := { h.sound with
    holds := h.sound.holds.congr fun x => by
      cases x with
      | setup | netif | listener => exact hiff _
      | _ => exact Iff.rfl }
  agrees := h.agrees

theorem Inv.acquire (h : s.Inv base) (hx : x.ofRun = true) (hnew : ¬ base x)
    (hneeds : ∀ y ∈ x.needs, base y) (hiff : ∀ y, base' y ↔ y = x ∨ base y) :
    (s.write (.acquire x)).Inv base' := by
  refine h.write (h.sound.holds.acquire (mt (has_ofRun hx).mp hnew) (fun y hy => ?_) fun y => ?_)
  · exact (has_ofRun (Thing.ofRun_of_needs hx y hy)).mpr (hneeds y hy)
  · cases y with
    | setup | netif | listener => exact hiff _
    | _ =>
      refine ⟨.inr, fun hy => hy.resolve_left fun heq => ?_⟩
      rw [← heq] at hx
      cases hx

/-- Without connections only the run holds something. -/
theorem Inv.base_of_has (h : s.Inv base) (hnil : s.tcpClients = []) (hx : s.Has base x) :
    base x := by
  have hquiet : ∀ i, s.record i = none ∧ (s.ends i).Quiet := fun i => by
    have hr : s.record i = none := by
      have hmem := h.sound.mem_iff i
      rw [hnil] at hmem
      simpa using hmem
    have hagrees := h.agrees i
    rw [AgreesAt, hr] at hagrees
    exact ⟨hr, hagrees⟩
  cases x with
  | setup | netif | listener => exact hx
  | record i => simp [Has, (hquiet i).1] at hx
  | pcb i => simp [Has, (hquiet i).2.pcbOpen] at hx
  | socks i => simp [Has, (hquiet i).2.socks] at hx

theorem Inv.release (h : s.Inv base) (hnil : s.tcpClients = []) (hx : x.ofRun = true)
    (hheld : base x) (husers : ∀ y, base y → ¬ y.Uses x)
    (hiff : ∀ y, base' y ↔ y ≠ x ∧ base y) : (s.write (.release x)).Inv base' := by
  refine h.write (h.sound.holds.release ((has_ofRun hx).mpr hheld)
    (fun y hy => husers y (h.base_of_has hnil hy)) fun y => ?_)
  cases y with
  | setup | netif | listener => exact hiff _
  | _ =>
    refine ⟨fun hy => ⟨fun heq => ?_, hy⟩, And.right⟩
    rw [← heq] at hx
    cases hx

/-- The top of a stack is released from the latest on. -/
theorem Inv.releaseAll {xs rest : List Thing} (h : s.Inv (· ∈ xs ++ rest))
    (hnil : s.tcpClients = []) (hx : ∀ x ∈ xs, x.ofRun = true) (hnodup : (xs ++ rest).Nodup)
    (huses : (xs ++ rest).Pairwise fun newer older => ¬ older.Uses newer) :
    ((xs.map .release).foldl Clients.write s).Inv (· ∈ rest) ∧
      ((xs.map .release).foldl Clients.write s).tcpClients = [] := by
  induction xs generalizing s with
  | nil => exact ⟨h, hnil⟩
  | cons x xs ih =>
    rw [List.cons_append, List.nodup_cons] at hnodup
    rw [List.cons_append, List.pairwise_cons] at huses
    have hrelease : (s.write (.release x)).Inv (· ∈ xs ++ rest) := by
      refine h.release hnil (hx x List.mem_cons_self) List.mem_cons_self ?_ fun y => ?_
      · intro y hy
        rcases List.mem_cons.mp hy with rfl | hy
        · exact y.not_uses_self
        · exact huses.1 y hy
      · rw [List.cons_append, List.mem_cons]
        exact ⟨fun hy => ⟨fun heq => hnodup.1 (heq ▸ hy), .inr hy⟩,
          fun ⟨hne, hy⟩ => hy.resolve_left hne⟩
    exact ih hrelease hnil (fun y hy => hx y (List.mem_cons_of_mem _ hy)) hnodup.2 huses.2

end Clients

/-! ## The steps of a run -/

theorem lwipThings_ofRun {haveNetif : Bool} {listener : Option Nat} :
    ∀ x ∈ lwipThings haveNetif listener, x.ofRun = true := by
  cases haveNetif <;> cases listener <;> simp [lwipThings, Thing.ofRun]

theorem Label.releases_ofRun (s : State) (label : Label) :
    ∀ x ∈ label.releases s, x.ofRun = true := by
  intro x hx
  rcases List.mem_append.mp hx with hx | hx
  · cases label with
    | loopExit => exact lwipThings_ofRun x hx
    | _ => cases hx
  · obtain ⟨r, -, rfl⟩ := List.mem_map.mp hx
    rfl

/-- A label releases the top of the stack. -/
theorem State.Orderly.things_cleanup {s : State} (h : s.Orderly) {label : Label}
    (hpc : s.pc = .cleanup label) :
    s.things = label.releases s ++ (label.next.holds s.udpMode).map .setup := by
  have hheld : s.held = label.frees s ++ label.next.holds s.udpMode := by
    rw [h.held, hpc]
    exact label.holds_eq s
  rw [State.things, hpc, hheld, List.map_append, ← List.append_assoc]
  cases label <;> rfl

theorem lwipThings_sublist (haveNetif : Bool) (listener : Option Nat) :
    (lwipThings haveNetif listener).Sublist [.listener, .netif] := by
  cases haveNetif <;> cases listener <;> simp [lwipThings]

theorem Label.holds_sublist (label : Label) (udpMode : UdpMode) :
    (label.holds udpMode).Sublist (Label.loopExit.holds .udpgw) := by
  cases label <;> cases udpMode <;> decide

/-- All that a run can hold. -/
def allThings : List Thing := [.listener, .netif] ++ (Label.loopExit.holds .udpgw).map .setup

/-- Nothing on the stack uses what is above it. -/
theorem allThings_ordered :
    allThings.Nodup ∧ allThings.Pairwise fun newer older => ¬ older.Uses newer := by
  decide

theorem State.Orderly.things_sublist {s : State} (h : s.Orderly) {label : Label}
    (hpc : s.pc = .cleanup label) : s.things.Sublist allThings := by
  rw [State.things, h.held, hpc]
  refine List.Sublist.append ?_ ((label.holds_sublist s.udpMode).map _)
  split
  · exact lwipThings_sublist _ _
  · exact List.nil_sublist _

/-- The invariant. -/
structure Process.Orderly (p : Process) : Prop where
  tunnel : p.tunnel.Orderly
  coherent : ∃ n, p.tunnel.Coherent n
  clients : p.clients.Inv (· ∈ p.tunnel.things)
  empty : p.tunnel.pc.usesLwip = false → p.clients.tcpClients = []
  device : p.device.closeFd = false ∧ p.device.closed = []

theorem Process.orderly_initial : Process.initial.Orderly where
  tunnel := State.orderly_initial
  coherent := ⟨0, .outside Lwip.clear_initial rfl⟩
  clients := {
    sound := {
      nodup := List.nodup_nil
      mem_iff := fun i => by simp [Process.initial, Clients.initial]
      count := rfl
      fresh := fun i _ => rfl
      holds := .nil fun x => by
        cases x <;> simp [Clients.Has, Process.initial, Clients.initial, Ends.gone, State.things,
          State.initial, Pc.usesLwip, Pc.inLoop]
      call := fun call hcall => by cases hcall }
    agrees := fun i => ⟨rfl, rfl, rfl, rfl, rfl⟩ }
  empty _ := rfl
  device := ⟨rfl, rfl⟩

/-- The loop that frees the clients ends, and `num_clients` is 0 when it is set to 0. -/
theorem Process.Orderly.clients_ok {p : Process} (h : p.Orderly) {e : Event}
    (he : Tunnel.enabled p.tunnel e = true) :
    Returns (e.clients p.clients) fun clients => clients.Inv (· ∈ p.tunnel.things) ∧
      ((∃ label, e = .cleanup label) ∨ p.tunnel.pc.usesLwip = false →
        clients.tcpClients = []) := by
  have hsame : (∀ label, e = .cleanup label → p.tunnel.pc.usesLwip = false) →
      Returns (.ok p.clients : Except ClientFault Clients) fun clients =>
        clients.Inv (· ∈ p.tunnel.things) ∧
          ((∃ label, e = .cleanup label) ∨ p.tunnel.pc.usesLwip = false →
            clients.tcpClients = []) := by
    refine fun hlabel => .ok ⟨h.clients, ?_⟩
    rintro (⟨label, hl⟩ | hpc)
    · exact h.empty (hlabel label hl)
    · exact h.empty hpc
  cases e with
  | cleanup label =>
    have hpc : p.tunnel.pc = .cleanup label := eq_of_beq he
    cases label with
    | loopExit =>
      exact (h.clients.freeClients (Nat.le_refl _)).mono fun _ hc => ⟨hc.1, fun _ => hc.2⟩
    | _ => exact hsame fun _ _ => by rw [hpc]; rfl
  | setup step ok =>
    cases step with
    | loopState =>
      have hpc : p.tunnel.pc = .setup .loopState := eq_of_beq (Bool.and_eq_true_iff.mp he).1
      have hnil : p.clients.tcpClients = [] := h.empty (by rw [hpc]; rfl)
      have hzero : p.clients.numClients = 0 := by rw [h.clients.sound.count, hnil]; rfl
      have heq : ({ p.clients with tcpClients := [], numClients := 0 } : Clients) = p.clients := by
        rw [← hnil, ← hzero]
      rw [Event.clients, heq]
      exact hsame fun _ hl => by cases hl
    | _ => exact hsame fun _ hl => by cases hl
  | _ => exact hsame fun _ hl => by cases hl

/-- A step that neither acquires nor releases anything. -/
theorem Clients.Inv.same {clients : Clients} {s s' : State} (h : clients.Inv (· ∈ s.things))
    (hpc : s'.pc.usesLwip = s.pc.usesLwip) (hheld : s'.held = s.held)
    (hhave : s'.haveNetif = s.haveNetif) (hlistener : s'.listener = s.listener) :
    clients.Inv (· ∈ s'.things) := by
  rwa [State.things, hpc, hheld, hhave, hlistener]

/-- A step of the setup finds what its resource needs, and finds the resource not yet there. -/
theorem SetupStep.acquires_ok {step : SetupStep} {r : Resource} (hr : step.acquires = some r)
    (udpMode : UdpMode) :
    r ∉ step.holds udpMode ∧
      ∀ x ∈ (Thing.setup r).needs, x ∈ (step.holds udpMode).map Thing.setup := by
  cases step <;> cases hr <;> cases udpMode <;> decide

theorem SetupStep.effect_held (s : State) (step : SetupStep) :
    (step.effect s).held = step.acquires.toList ++ s.held := by
  cases step <;> rfl

/-- A step of the setup pushes what it acquires. -/
theorem SetupStep.things_next {s : State} {step : SetupStep} (hpc : s.pc = .setup step) :
    ({ step.effect s with pc := step.next s } : State).things =
      step.acquires.toList.map .setup ++ s.things := by
  have hnone : (if (step.next s).usesLwip then
      lwipThings (step.effect s).haveNetif (step.effect s).listener else []) = [] := by
    by_cases hstep : step = .loopState
    · subst hstep
      rfl
    · rw [SetupStep.next_usesLwip s hstep]
      rfl
  rw [State.things, State.things, hpc]
  dsimp only
  rw [hnone, SetupStep.effect_held, List.map_append]
  rfl

namespace Process.Orderly

variable {p : Process} {clients : Clients}

theorem setup (h : p.Orderly) (hc : clients.Inv (· ∈ p.tunnel.things)) {step : SetupStep}
    (hpc : p.tunnel.pc = .setup step) :
    ((step.acquires.toList.map fun r => Entry.acquire (Thing.setup r)).foldl Clients.write
      clients).Inv
        (· ∈ ({ step.effect p.tunnel with pc := step.next p.tunnel } : State).things) := by
  rw [SetupStep.things_next hpc]
  cases hr : step.acquires with
  | none => exact hc
  | some r =>
    have hthings : p.tunnel.things = (step.holds p.tunnel.udpMode).map .setup := by
      rw [State.things, h.tunnel.held, hpc]
      rfl
    obtain ⟨hnew, hneeds⟩ := SetupStep.acquires_ok hr p.tunnel.udpMode
    rw [hthings] at hc ⊢
    refine hc.acquire rfl ?_ hneeds fun y => List.mem_cons
    simpa using hnew

/-- The netif is added, and maybe the listener. -/
theorem lwipInit (h : p.Orderly) (hc : clients.Inv (· ∈ p.tunnel.things))
    (hpc : p.tunnel.pc = .iteration) (hhave : p.tunnel.haveNetif = false)
    (hlistener : p.tunnel.listener = none) {s' : State} (listener : Option Nat)
    (hs' : s'.things = lwipThings true listener ++ p.tunnel.held.map .setup) :
    (((lwipThings true listener).reverse.map .acquire).foldl Clients.write clients).Inv
      (· ∈ s'.things) := by
  have hthings : p.tunnel.things = p.tunnel.held.map .setup := by
    rw [State.things, hhave, hlistener, hpc]
    rfl
  have hheld : p.tunnel.held = Label.loopExit.holds p.tunnel.udpMode := by
    rw [h.tunnel.held, hpc]
    rfl
  rw [hthings] at hc
  have hnetif : (clients.write (.acquire .netif)).Inv
      (· ∈ .netif :: p.tunnel.held.map .setup) := by
    refine hc.acquire rfl (by simp) (fun y hy => ?_) fun y => List.mem_cons
    rw [hheld]
    rcases List.mem_pair.mp hy with rfl | rfl <;> cases p.tunnel.udpMode <;> decide
  rw [hs']
  cases listener with
  | none => exact hnetif
  | some ptr =>
    exact hnetif.acquire rfl (by simp) (fun y hy => by simp_all [Thing.needs]) fun y =>
      List.mem_cons

theorem keeps {e : Event} {s' : State} (h : p.Orderly)
    (he : Tunnel.enabled p.tunnel e = true) (hc : clients.Inv (· ∈ p.tunnel.things))
    (hnil : (∃ label, e = .cleanup label) ∨ p.tunnel.pc.usesLwip = false →
      clients.tcpClients = [])
    (hs' : Tunnel.exec p.tunnel e = .ok s') :
    ((e.entries p.tunnel).foldl Clients.write clients).Inv (· ∈ s'.things) := by
  by_cases hcleanup : ∃ label, e = .cleanup label
  · obtain ⟨label, rfl⟩ := hcleanup
    have hpc : p.tunnel.pc = .cleanup label := eq_of_beq he
    cases (h.tunnel.cleanup_eq hpc).symm.trans hs'
    have hordered := allThings_ordered
    have hsublist := h.tunnel.things_sublist hpc
    rw [h.tunnel.things_cleanup hpc] at hc hsublist
    refine (hc.releaseAll (hnil (.inl ⟨label, rfl⟩)) (label.releases_ofRun p.tunnel)
      (hordered.1.sublist hsublist) (hordered.2.sublist hsublist)).1.congr fun x => ?_
    cases label <;> exact Iff.rfl
  · cases step_of_exec he hs' with
    | start options hpc => exact hc.same (by rw [hpc]; rfl) rfl rfl rfl
    | @setup step hpc => exact h.setup hc hpc
    | @setupFails step label hpc _ hlabel =>
      refine hc.same ?_ ?_ ?_ ?_ <;> cases step <;> cases hlabel <;> first | rfl | (rw [hpc]; rfl)
    | exitLoop hpc | iterate hpc | waitForEvents hpc =>
      exact hc.same (by rw [hpc]; rfl) rfl rfl rfl
    | @lwipInit newOk listenOk _ hpc _ _ hhave hlistener hr =>
      subst hr
      apply h.lwipInit hc hpc hhave hlistener _
      rw [State.things, if_pos]
      dsimp only
      split <;> rfl
    | @handle d hpc hd =>
      have hentries : (Event.dispatch d).entries p.tunnel = [] := by
        cases d with
        | lwipInit ok ok' => exact absurd rfl (hd ok ok')
        | _ => rfl
      rw [hentries]
      exact hc.same (by rw [hpc]; cases d <;> rfl) rfl rfl rfl
    | lwipInitFail hpc =>
      refine hc.same ?_ rfl rfl rfl
      rw [hpc]
      dsimp only
      split <;> rfl
    | terminate pc hpc hpc' =>
      exact hc.same (by rw [hpc]; exact Pc.usesLwip_of_inLoop hpc'.1) rfl rfl rfl
    | @cleanup label => exact absurd ⟨label, rfl⟩ hcleanup
    | stop => exact hc
    | stopStep => exact hc

end Process.Orderly

/-- Without a cleanup the statics of lwIP stay in use. -/
theorem Step.usesLwip {s s' : State} {e : Event} (hstep : Step s e s')
    (he : ∀ label, e ≠ .cleanup label) (hpc : s.pc.usesLwip = true) :
    s'.pc.usesLwip = true := by
  cases hstep with
  | start _ h | setup h | setupFails h =>
    rw [h] at hpc
    cases hpc
  | exitLoop | iterate | waitForEvents => rfl
  | lwipInit | lwipInitFail =>
    dsimp only
    split <;> rfl
  | @handle d => cases d <;> rfl
  | terminate pc _ hpc' => exact Pc.usesLwip_of_inLoop hpc'.1
  | @cleanup label => exact absurd rfl (he label)
  | stop | stopStep => exact hpc

theorem Clients.foldl_write_tcpClients (es : List (Entry Thing)) (s : Clients) :
    (es.foldl Clients.write s).tcpClients = s.tcpClients := by
  induction es generalizing s with
  | nil => rfl
  | cons e es ih => exact ih (s.write e)

/-- The device is only ever opened by its descriptor. -/
theorem Event.device_open (e : Event) (s : State) {o : BTap}
    (h : o.closeFd = false ∧ o.closed = []) :
    (e.device s o).closeFd = false ∧ (e.device s o).closed = [] := by
  unfold Event.device
  split
  · rename_i ok
    cases ok <;> exact ⟨rfl, h.2⟩
  · rw [bTapFree, BTap.close, h.1]
    exact h
  · exact h

theorem Process.Orderly.tunnel_exec {p : Process} (h : p.Orderly) {e : Event} {s' : State}
    (he : Tunnel.enabled p.tunnel e = true) (hs' : Tunnel.exec p.tunnel e = .ok s') :
    Returns (process.exec p (.tunnel e)) fun p' => p'.Orderly ∧ p'.tunnel = s' := by
  obtain ⟨clients, hclients, hinv, hnil⟩ := h.clients_ok he
  refine .bind_eq (a := clients) (by rw [hclients]; rfl) ?_
  refine .bind_eq (a := s') (by rw [hs']; rfl) (.pure ⟨?_, rfl⟩)
  obtain ⟨n, hcoherent⟩ := h.coherent
  exact {
    tunnel := h.tunnel.exec he hs'
    coherent := ⟨_, (step_of_exec he hs').coherent hcoherent⟩
    clients := h.keeps he hinv hnil hs'
    empty := fun hpc => by
      rw [Clients.foldl_write_tcpClients]
      refine hnil (or_iff_not_imp_left.mpr fun hcleanup => ?_)
      by_contra hu
      have hstep := (step_of_exec he hs').usesLwip (fun label hl => hcleanup ⟨label, hl⟩)
        (by simpa using hu)
      rw [hstep] at hpc
      cases hpc
    device := e.device_open p.tunnel h.device }

theorem Process.Orderly.client_exec {p : Process} (h : p.Orderly) {e : ClientEvent}
    (he : process.enabled p (.client e) = true) :
    Returns (process.exec p (.client e)) Process.Orderly := by
  simp only [process, Process.enabled, Bool.and_eq_true, beq_iff_eq] at he
  obtain ⟨⟨⟨hpc, hhave⟩, hen⟩, -⟩ := he
  have hnetif : .netif ∈ p.tunnel.things := by
    rw [State.things, hpc, hhave]
    simp [Pc.usesLwip, Pc.inLoop, lwipThings]
  have hreactor : .setup .reactor ∈ p.tunnel.things := by
    rw [State.things, h.tunnel.held, hpc]
    simp [Pc.holds, Label.holds, Label.holds.fail5, Label.holds.fail4]
  obtain ⟨clients, hclients, hinv⟩ := h.clients.exec hnetif hreactor hen
  refine .bind_eq (a := clients) (by rw [hclients]; rfl) (.pure { h with
    clients := hinv
    empty := fun hu => ?_ })
  rw [hpc] at hu
  cases hu

theorem Process.Orderly.exec {p p' : Process} {e : ProcessEvent} (h : p.Orderly)
    (he : process.enabled p e = true) (hp' : process.exec p e = .ok p') : p'.Orderly := by
  cases e with
  | tunnel e =>
    have hen : Tunnel.enabled p.tunnel e = true := (Bool.and_eq_true_iff.mp he).1
    obtain ⟨clients, -, hrest⟩ := bind_ok hp'
    obtain ⟨s', hs', -⟩ := bind_ok hrest
    cases hexec : Tunnel.exec p.tunnel e with
    | error f =>
      rw [hexec] at hs'
      cases hs'
    | ok s₁ =>
      obtain ⟨p₁, hp₁, hp₁', -⟩ := h.tunnel_exec hen hexec
      cases hp₁.symm.trans hp'
      exact hp₁'
  | client e =>
    obtain ⟨p₁, hp₁, hp₁'⟩ := h.client_exec he
    cases hp₁.symm.trans hp'
    exact hp₁'

theorem orderly_of_runs {es : List ProcessEvent} {p : Process} (h : process.Runs es (.ok p)) :
    p.Orderly :=
  Machine.Runs.invariant (I := fun _ p => p.Orderly) Process.orderly_initial
    (fun _ _ _ _ _ hI he hp' => hI.exec he hp') h

/-! ## Balance -/

/-- Nothing that was acquired is left out of account, and what the next run asserts holds. -/
structure Process.Balanced (p : Process) : Prop where
  /-- Each thing is acquired after what it uses, and released once, after what uses it. Between
  two runs nothing is held, and in the loop everything is. -/
  ledger : ∃ held, Ledger Thing.Uses p.clients.log held ∧
    (p.tunnel.pc = .idle → held = []) ∧
    (p.tunnel.pc.inLoop = true → ∀ r, (r = .udpgwClient → p.tunnel.udpMode = .udpgw) →
      .setup r ∈ held)
  released : p.tunnel.pc = .idle → ∀ x,
    p.clients.log.count (.acquire x) = p.clients.log.count (.release x)
  clients : p.tunnel.pc.usesLwip = false → p.clients.tcpClients = [] ∧ p.clients.numClients = 0
  lwip : p.tunnel.pc.usesLwip = false → p.tunnel.lwip.netifList = [] ∧
    p.tunnel.lwip.boundPcbs = [] ∧ p.tunnel.lwip.listenPcbs = []
  guards : p.tunnel.pc = .idle → p.tunnel.blogInitialized = false ∧
    p.tunnel.passwordFileContents = false ∧ p.tunnel.bnetworkInitialized = false ∧
    p.tunnel.btimeInitialized = false ∧ p.tunnel.bsignalInitialized = false
  device : p.device.closed = []

/-- Between two runs nothing is held. -/
theorem Process.Orderly.not_has {p : Process} (h : p.Orderly) (hpc : p.tunnel.pc = .idle)
    (x : Thing) : ¬ p.clients.Has (· ∈ p.tunnel.things) x := by
  have hthings : p.tunnel.things = [] := by
    rw [State.things, h.tunnel.held, hpc]
    rfl
  intro hx
  have hmem := h.clients.base_of_has (h.empty (by rw [hpc]; rfl)) hx
  rw [hthings] at hmem
  cases hmem

theorem Process.Orderly.balanced {p : Process} (h : p.Orderly) : p.Balanced where
  ledger := by
    obtain ⟨held, hledger, hmem⟩ := h.clients.sound.holds
    refine ⟨held, hledger, fun hpc => List.eq_nil_iff_forall_not_mem.mpr fun x hx => ?_,
      fun hpc r hr => (hmem _).mpr ?_⟩
    · exact h.not_has hpc x ((hmem x).mp hx)
    · have hheld : r ∈ p.tunnel.held := by
        rw [h.tunnel.held, (Pc.of_usesLwip (Pc.usesLwip_of_inLoop hpc)).1]
        cases r with
        | udpgwClient =>
          rw [hr rfl]
          decide
        | _ => cases p.tunnel.udpMode <;> decide
      exact List.mem_append_right _ (List.mem_map_of_mem hheld)
  released hpc x := h.clients.sound.holds.count_acquire (h.not_has hpc x)
  clients hpc := by
    have hnil := h.empty hpc
    exact ⟨hnil, by rw [h.clients.sound.count, hnil]; rfl⟩
  lwip hpc := by
    obtain ⟨n, hcoherent⟩ := h.coherent
    have hclear := hcoherent.clear hpc
    exact ⟨hclear.netifList, hclear.boundPcbs, hclear.listenPcbs⟩
  guards hpc := by
    obtain ⟨-, -, hlogger, hpassword, hnetwork, htime, hsignal, -⟩ := h.tunnel
    rw [hpc] at hlogger hnetwork htime hsignal
    exact ⟨hlogger, hpassword, hnetwork rfl, htime rfl, hsignal rfl⟩
  device := h.device.2

/-- The steps that no stop has a part in, with a device as `BTap_Init2` asserts it. -/
def ProcessEvent.Fits (s : State) : ProcessEvent → Prop
  | .tunnel (.setup .tapInit _) => 0 ≤ s.options.tunfd ∧ 0 ≤ s.options.tunmtu
  | .tunnel (.dispatch _) | .tunnel (.terminate _) | .tunnel (.stopStep _ _) => False
  | _ => True

theorem Process.Orderly.returns {p : Process} (h : p.Orderly) {e : ProcessEvent}
    (he : process.enabled p e = true) (hfits : e.Fits p.tunnel) :
    ∃ p', process.exec p e = .ok p' := by
  cases e with
  | client e =>
    obtain ⟨p', hp', -⟩ := h.client_exec he
    exact ⟨p', hp'⟩
  | tunnel e =>
    have hen : Tunnel.enabled p.tunnel e = true := (Bool.and_eq_true_iff.mp he).1
    have hok : ∃ s', Tunnel.exec p.tunnel e = .ok s' := by
      cases e with
      | setup step ok =>
        have hpc : p.tunnel.pc = .setup step := eq_of_beq (Bool.and_eq_true_iff.mp hen).1
        have hasserts := h.tunnel.asserts hpc fun hstep => by
          subst hstep
          exact hfits
        simp only [Tunnel.exec, Tunnel.setup, hasserts, if_true]
        split <;> exact ⟨_, rfl⟩
      | cleanup label => exact ⟨_, h.tunnel.cleanup_eq (eq_of_beq hen)⟩
      | dispatch | terminate | stopStep => cases hfits
      | _ => exact ⟨_, rfl⟩
    obtain ⟨s', hs'⟩ := hok
    obtain ⟨p', hp', -⟩ := h.tunnel_exec hen hs'
    exact ⟨p', hp'⟩

theorem Label.next_cases (label : Label) :
    label.next = .idle ∨
      ∃ label', label.next = .cleanup label' ∧ label.ctorIdx < label'.ctorIdx := by
  cases label with
  | fail0 => exact .inl rfl
  | _ => exact .inr ⟨_, rfl, by decide⟩

/-- Each label leads to the next one, so a run that gets to one returns. -/
theorem returns_of_runs {es : List ProcessEvent} {p : Process} (h : process.Runs es (.ok p))
    {label : Label} (hpc : p.tunnel.pc = .cleanup label) :
    ∃ (labels : List Label) (p' : Process), process.Runs
      (es ++ labels.map fun label => .tunnel (.cleanup label)) (.ok p') ∧
        p'.tunnel.pc = .idle := by
  have hp := orderly_of_runs h
  have hen : Tunnel.enabled p.tunnel (.cleanup label) = true := beq_iff_eq.mpr hpc
  obtain ⟨p₁, hp₁, -, htunnel⟩ := hp.tunnel_exec hen (hp.tunnel.cleanup_eq hpc)
  have hrun : process.Runs (es ++ [.tunnel (.cleanup label)]) (.ok p₁) :=
    hp₁ ▸ h.snoc _ (show process.enabled p (.tunnel (.cleanup label)) = true from
      Bool.and_eq_true_iff.mpr ⟨hen, rfl⟩)
  have hpc₁ : p₁.tunnel.pc = label.next := by rw [htunnel]
  rcases label.next_cases with hnext | ⟨label', hnext, hlt⟩
  · exact ⟨[label], p₁, hrun, hpc₁.trans hnext⟩
  · obtain ⟨labels, p', hrun', hp'⟩ := returns_of_runs hrun (hpc₁.trans hnext)
    refine ⟨label :: labels, p', ?_, hp'⟩
    rwa [List.map_cons, List.append_cons]
termination_by 8 - label.ctorIdx
decreasing_by
  have hlast : label.ctorIdx < 8 := by cases label <;> decide
  omega

/-- In every sequence of runs each is balanced: no step of a setup or of a cleanup and no event
of a connection fails, and whichever label a run gets to, it returns from there. -/
theorem runs_balanced {es : List ProcessEvent} {p : Process} (h : process.Runs es (.ok p)) :
    p.Balanced ∧
    (∀ e, process.enabled p e = true → e.Fits p.tunnel → ∃ p', process.exec p e = .ok p') ∧
    (∀ label, p.tunnel.pc = .cleanup label →
      ∃ (labels : List Label) (p' : Process), process.Runs
        (es ++ labels.map fun label => .tunnel (.cleanup label)) (.ok p') ∧
          p'.tunnel.pc = .idle) :=
  have hp := orderly_of_runs h
  ⟨hp.balanced, fun _ he hfits => hp.returns he hfits, fun _ hpc => returns_of_runs h hpc⟩

/-- A run without a device. -/
def noDevice : List Event := upToLoop.take 9 ++ [.setup .tapInit false] ++ leave.drop 5

/-- A client that leaves with data still to be sent, and another one that has only just come. -/
def twoClients : List ClientEvent :=
  [.accept true true, .leave, .recv 0 (some 5) true, .leave, .err 0, .accept true true, .leave]

/-- A stop, up to the exit from the loop. -/
def stopLoop : List Event := [.dispatch .other, .stop] ++ stopSteps 0 ++ leave.take 1

/-- After a run that failed, one that is stopped while it has two connections. -/
def failsThenServes : List ProcessEvent :=
  (noDevice ++ listening ++ leave.take 1).map .tunnel ++ twoClients.map .client ++
    stopLoop.map .tunnel

theorem runs_balanced_failsThenServes :
    ∃ p, process.Runs failsThenServes (.ok p) ∧ p.clients.tcpClients = [0, 1] ∧ p.Balanced ∧
      (∀ e, process.enabled p e = true → e.Fits p.tunnel → ∃ p', process.exec p e = .ok p') ∧
      (∀ label, p.tunnel.pc = .cleanup label →
        ∃ (labels : List Label) (p' : Process), process.Runs
          (failsThenServes ++ labels.map fun label => .tunnel (.cleanup label)) (.ok p') ∧
            p'.tunnel.pc = .idle) := by
  have hends : process.ends failsThenServes (fun p => p.clients.tcpClients == [0, 1]) = true := by
    decide +kernel
  obtain ⟨p, hr, hclients⟩ := Machine.runs_of_ends hends
  exact ⟨p, hr, eq_of_beq hclients, runs_balanced hr⟩

end Lightsocks.Tunnel
