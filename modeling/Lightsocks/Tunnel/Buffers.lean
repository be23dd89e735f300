import Lightsocks.Tunnel.Streams

/-!
# What closing a connection does to its buffers

The functions that free a part of a connection leave its buffers as they are (`Clients.Frees`),
so what is in them stays to be sent if a record is left. SOCKS is freed because the client is gone
only when nothing is left for it, and the pcb because SOCKS is gone only when nothing is left for
the client.
-/

namespace Lightsocks.Tunnel

open Lightsocks.Lib

/-- `c'` has what `c` has in its buffers, and may be closed. -/
structure TcpClient.Keeps (c c' : TcpClient) : Prop where
  bufUsed : c'.bufUsed = c.bufUsed
  socksUp : c'.socksUp = c.socksUp
  socksRecvBufUsed : c'.socksRecvBufUsed = c.socksRecvBufUsed
  socksRecvBufSent : c'.socksRecvBufSent = c.socksRecvBufSent
  pending : c'.socksRecvTcpPending = c.socksRecvTcpPending
  clientClosed : c.clientClosed = true → c'.clientClosed = true
  socksClosed : c.socksClosed = true → c'.socksClosed = true

theorem TcpClient.Keeps.refl (c : TcpClient) : c.Keeps c := ⟨rfl, rfl, rfl, rfl, rfl, id, id⟩

theorem TcpClient.Keeps.trans {c c' c'' : TcpClient} (h : c.Keeps c') (h' : c'.Keeps c'') :
    c.Keeps c'' where
  bufUsed := h'.bufUsed.trans h.bufUsed
  socksUp := h'.socksUp.trans h.socksUp
  socksRecvBufUsed := h'.socksRecvBufUsed.trans h.socksRecvBufUsed
  socksRecvBufSent := h'.socksRecvBufSent.trans h.socksRecvBufSent
  pending := h'.pending.trans h.pending
  clientClosed hc := h'.clientClosed (h.clientClosed hc)
  socksClosed hc := h'.socksClosed (h.socksClosed hc)

/-- Parts of the `i`-th connection were freed, perhaps with its record. -/
structure Clients.Frees (s : Clients) (i : Nat) (s' : Clients) : Prop where
  frame : s.Frame i s'
  record : ∀ c', s'.record i = some c' → ∃ c, s.record i = some c ∧ c.Keeps c'
  pcbOpen : (s'.ends i).pcbOpen = true → (s.ends i).pcbOpen = true
  socks : (s'.ends i).socks = true → (s.ends i).socks = true
  unacked : (s'.ends i).unacked = (s.ends i).unacked

namespace Clients

variable {s s₁ s' : Clients} {i d : Nat} {c c' : TcpClient} {closeOk : Bool}

theorem client_ok (h : s.client i = .ok c) : s.record i = some c := by
  unfold client at h
  split at h
  · rename_i hr
    cases h
    exact hr
  · cases h

theorem pcb_ok {e : Ends} (h : s.pcb i = .ok e) : e = s.ends i ∧ (s.ends i).pcbOpen = true := by
  unfold pcb at h
  split at h
  · rename_i hopen
    cases h
    exact ⟨rfl, hopen⟩
  · cases h

theorem assertClient_ok {b : Bool} {u : Unit} (h : assertClient b = .ok u) : b = true := by
  unfold assertClient at h
  split at h
  · assumption
  · cases h

theorem ends_setEnds (e : Ends) : (s.setEnds i e).ends i = e := Function.update_self ..

theorem record_setClient (c : TcpClient) : (s.setClient i c).record i = some c :=
  Function.update_self ..

namespace Frees

theorem refl (s : Clients) (i : Nat) : s.Frees i s :=
  ⟨⟨fun _ _ => rfl, fun _ _ => rfl⟩, fun c' hc' => ⟨c', hc', .refl c'⟩, id, id, rfl⟩

theorem trans (h : s.Frees i s₁) (h' : s₁.Frees i s') : s.Frees i s' where
  frame := ⟨fun j hj => (h'.frame.record j hj).trans (h.frame.record j hj),
    fun j hj => (h'.frame.ends j hj).trans (h.frame.ends j hj)⟩
  record c' hc' := by
    obtain ⟨c₁, hc₁, hkeeps₁⟩ := h'.record c' hc'
    obtain ⟨c, hc, hkeeps⟩ := h.record c₁ hc₁
    exact ⟨c, hc, hkeeps.trans hkeeps₁⟩
  pcbOpen ho := h.pcbOpen (h'.pcbOpen ho)
  socks ho := h.socks (h'.socks ho)
  unacked := h'.unacked.trans h.unacked

/-- The records and the ends are what it is about. -/
theorem congr (h : s.Frees i s₁) (hrecord : s'.record = s₁.record) (hends : s'.ends = s₁.ends) :
    s.Frees i s' where
  frame := ⟨hrecord ▸ h.frame.record, hends ▸ h.frame.ends⟩
  record := hrecord ▸ h.record
  pcbOpen := hends ▸ h.pcbOpen
  socks := hends ▸ h.socks
  unacked := hends ▸ h.unacked

theorem setEnds {e : Ends} (hpcb : e.pcbOpen = true → (s.ends i).pcbOpen = true)
    (hsocks : e.socks = true → (s.ends i).socks = true)
    (hunacked : e.unacked = (s.ends i).unacked) : s.Frees i (s.setEnds i e) where
  frame := ⟨fun _ _ => rfl, fun _ hj => Function.update_of_ne hj _ _⟩
  record c' hc' := ⟨c', hc', .refl c'⟩
  pcbOpen ho := hpcb (ends_setEnds e ▸ ho)
  socks ho := hsocks (ends_setEnds e ▸ ho)
  unacked := (congrArg Ends.unacked (ends_setEnds e)).trans hunacked

theorem setClient (hr : s.record i = some c) (hkeeps : c.Keeps c') :
    s.Frees i (s.setClient i c') where
  frame := ⟨fun _ hj => Function.update_of_ne hj _ _, fun _ _ => rfl⟩
  record c'' hc'' := by
    rw [record_setClient] at hc''
    cases hc''
    exact ⟨c, hr, hkeeps⟩
  pcbOpen := id
  socks := id
  unacked := rfl

end Frees

/-! ## One part -/

theorem tcpCallbacks_frees {set : Callbacks → Callbacks} (h : s.tcpCallbacks i set = .ok s') :
    s.Frees i s' ∧ s'.record = s.record ∧ (s'.ends i).socks = (s.ends i).socks ∧
      (s'.ends i).pcbOpen = (s.ends i).pcbOpen := by
  obtain ⟨e, he, h⟩ := bind_ok h
  obtain ⟨rfl, -⟩ := pcb_ok he
  cases h
  exact ⟨.setEnds id id rfl, rfl, by simp [setEnds], by simp [setEnds]⟩

theorem tcpClose_frees (h : s.tcpClose i = .ok s') :
    s.Frees i s' ∧ s'.record = s.record ∧ (s'.ends i).socks = (s.ends i).socks := by
  obtain ⟨e, he, h⟩ := bind_ok h
  obtain ⟨rfl, -⟩ := pcb_ok he
  cases h
  have hfrees : s.Frees i (s.setEnds i { s.ends i with pcbOpen := false }) :=
    .setEnds (fun hf => by cases hf) id rfl
  exact ⟨hfrees.congr rfl rfl, rfl, by simp [setEnds, write]⟩

theorem bSocksClientFree_frees (h : bSocksClientFree s i = .ok s') :
    s.Frees i s' ∧ s'.record = s.record ∧ (s'.ends i).pcbOpen = (s.ends i).pcbOpen := by
  unfold bSocksClientFree at h
  split at h
  · cases h
    have hfrees : s.Frees i (s.setEnds i
        { s.ends i with socks := false, sending := none, receiving := false }) :=
      .setEnds id (fun hf => by cases hf) rfl
    exact ⟨hfrees.congr rfl rfl, rfl, by simp [setEnds, write]⟩
  · cases h

theorem clientAbortPcb_frees (h : clientAbortPcb s i = .ok s') : s.Frees i s' ∧
    (s'.ends i).socks = (s.ends i).socks := by
  obtain ⟨c, hc, h⟩ := bind_ok h
  obtain ⟨u, -, h⟩ := bind_ok h
  obtain ⟨s₁, hs₁, h⟩ := bind_ok h
  cases h
  obtain ⟨e, he, hs₁⟩ := bind_ok hs₁
  obtain ⟨rfl, -⟩ := pcb_ok he
  dsimp only at hs₁
  split at hs₁
  · cases hs₁
  · cases hs₁
    have hfrees : s.Frees i (s.setEnds i { s.ends i with pcbOpen := false }) :=
      .setEnds (fun hf => by cases hf) id rfl
    have hkeeps : c.Keeps { c with aborted := true } := ⟨rfl, rfl, rfl, rfl, rfl, id, id⟩
    refine ⟨?_, by simp [deadKillWith, onCall, setClient, setEnds, write]⟩
    exact (hfrees.trans (.setClient (client_ok hc) hkeeps)).congr rfl rfl

theorem clientDealloc_frees (h : clientDealloc s i = .ok s') :
    s.Frees i s' ∧ s'.record i = none ∧ s'.ends = s.ends := by
  obtain ⟨c, -, h⟩ := bind_ok h
  iterate 3 (obtain ⟨_, -, h⟩ := bind_ok h)
  dsimp only at h
  split at h
  · cases h
  · cases h
    have hrecord : ∀ {s₀ : Clients} {b : Bool},
        (if b then s₀ else deadKillWith s₀ i (-1)).record = s₀.record := by
      intro s₀ b
      cases b <;> rfl
    have hends : ∀ {s₀ : Clients} {b : Bool},
        (if b then s₀ else deadKillWith s₀ i (-1)).ends = s₀.ends := by
      intro s₀ b
      cases b <;> rfl
    have hnone : s.Frees i { s with record := Function.update s.record i none } := {
      frame := ⟨fun _ hj => Function.update_of_ne hj _ _, fun _ _ => rfl⟩
      record := fun c' hc' => by
        simp at hc'
      pcbOpen := id
      socks := id
      unacked := rfl }
    refine ⟨hnone.congr ?_ hends, Function.update_self .., hends⟩
    exact congrArg (Function.update · i none) hrecord

/-! ## What follows it -/

theorem frees_all (d : Nat) : ∀ {s s' : Clients},
    (clientHandleFreedClient closeOk d s i = .ok s' → s.Frees i s') ∧
      (clientFreeClient closeOk d s i = .ok s' → s.Frees i s') ∧
        (clientFreeSocks closeOk d s i = .ok s' → s.Frees i s') := by
  induction d with
  | zero =>
    intro s s'
    exact ⟨fun h => (by cases h), fun h => (by cases h), fun h => (by cases h)⟩
  | succ d ih =>
    intro s s'
    refine ⟨fun h => ?_, fun h => ?_, fun h => ?_⟩
    · obtain ⟨c, hc, h⟩ := bind_ok h
      obtain ⟨_, -, h⟩ := bind_ok h
      have hfrees : s.Frees i (s.setClient i { c with clientClosed := true }) :=
        .setClient (client_ok hc) ⟨rfl, rfl, rfl, rfl, rfl, fun _ => rfl, id⟩
      dsimp only at h
      split at h
      · cases h
        exact hfrees
      · split at h
        · exact hfrees.trans (ih.2.2 h)
        · exact hfrees.trans (clientDealloc_frees h).1
    · obtain ⟨c, hc, h⟩ := bind_ok h
      obtain ⟨_, -, h⟩ := bind_ok h
      obtain ⟨s₁, hs₁, h⟩ := bind_ok h
      obtain ⟨s₂, hs₂, h⟩ := bind_ok h
      refine ((tcpCallbacks_frees hs₁).1.trans ?_).trans (ih.1 h)
      split at hs₂
      · exact (tcpClose_frees hs₂).1
      · exact (clientAbortPcb_frees hs₂).1
    · obtain ⟨c, hc, h⟩ := bind_ok h
      obtain ⟨_, -, h⟩ := bind_ok h
      obtain ⟨s₁, hs₁, h⟩ := bind_ok h
      obtain ⟨s₂, hs₂, h⟩ := bind_ok h
      have h₁ : s.Frees i s₁ ∧ s₁.record = s.record := by
        split at hs₁
        · obtain ⟨hfrees, hrecord, -⟩ := tcpCallbacks_frees hs₁
          exact ⟨hfrees, hrecord⟩
        · cases hs₁
          exact ⟨.refl s i, rfl⟩
      obtain ⟨h₂, hrecord₂, -⟩ := bSocksClientFree_frees hs₂
      have hc₂ : s₂.record i = some c := by rw [hrecord₂, h₁.2, client_ok hc]
      have hkeeps : c.Keeps { c with socksClosed := true } :=
        ⟨rfl, rfl, rfl, rfl, rfl, id, fun _ => rfl⟩
      have hfrees := (h₁.1.trans h₂).trans (.setClient hc₂ hkeeps)
      dsimp only at h
      split at h
      · cases h
        exact hfrees
      · split at h
        · exact hfrees.trans (ih.2.1 h)
        · exact hfrees.trans (clientDealloc_frees h).1

/-- The pcb of the `i`-th connection is gone, for a reason on its side. -/
structure LosesClient (s : Clients) (i : Nat) (s' : Clients) : Prop extends s.Frees i s' where
  closed : ∀ c', s'.record i = some c' →
    c'.clientClosed = true ∧ c'.socksClosed = false ∧ 0 < c'.bufUsed
  /-- SOCKS is freed with it only if nothing is left to be sent there. -/
  drained : (s.ends i).socks = true → (s'.ends i).socks = false →
    ∃ c, s.record i = some c ∧ c.bufUsed ≤ 0

/-- SOCKS was freed. -/
structure LosesSocks (s : Clients) (i : Nat) (s' : Clients) : Prop extends s.Frees i s' where
  closed : ∀ c', s'.record i = some c' → c'.clientClosed = false ∧ c'.socksClosed = true ∧
    c'.socksUp = true ∧ (0 ≤ c'.socksRecvBufUsed ∨ 0 < c'.socksRecvTcpPending)
  socksGone : (s'.ends i).socks = false
  /-- The pcb is freed with it only if nothing is left to be sent there or to be confirmed. -/
  drained : (s.ends i).pcbOpen = true → (s'.ends i).pcbOpen = false →
    ∃ c, s.record i = some c ∧
      (c.socksUp = false ∨ (c.socksRecvBufUsed < 0 ∧ c.socksRecvTcpPending ≤ 0))

theorem Frees.losesClient (h : s.Frees i s₁) (hsocks : (s₁.ends i).socks = (s.ends i).socks)
    (h' : s₁.LosesClient i s') : s.LosesClient i s' where
  toFrees := h.trans h'.toFrees
  closed := h'.closed
  drained hopen hgone := by
    obtain ⟨c₁, hc₁, hle⟩ := h'.drained (hsocks.trans hopen) hgone
    obtain ⟨c, hc, hkeeps⟩ := h.record c₁ hc₁
    exact ⟨c, hc, hkeeps.bufUsed ▸ hle⟩

/-- If the client is gone already, then the record goes, too. -/
theorem clientFreeSocks_of_closed (h : clientFreeSocks closeOk d s i = .ok s')
    (hr : s.record i = some c) (hclient : c.clientClosed = true) : s'.record i = none := by
  cases d with
  | zero => cases h
  | succ d =>
    obtain ⟨c', hc', h⟩ := bind_ok h
    cases hr.symm.trans (client_ok hc')
    iterate 3 (obtain ⟨_, -, h⟩ := bind_ok h)
    dsimp only at h
    rw [if_neg (by simp [hclient]), if_neg (by simp [hclient])] at h
    exact (clientDealloc_frees h).2.1

theorem clientHandleFreedClient_spec (h : clientHandleFreedClient closeOk d s i = .ok s') :
    s.LosesClient i s' := by
  cases d with
  | zero => cases h
  | succ d =>
    have hfrees := ((frees_all (d + 1)).1 h)
    obtain ⟨c, hc, h⟩ := bind_ok h
    obtain ⟨_, -, h⟩ := bind_ok h
    have hc := client_ok hc
    have hc₁ : (s.setClient i { c with clientClosed := true }).record i = _ := record_setClient _
    dsimp only at h
    split at h
    · rename_i hwaits
      cases h
      refine ⟨hfrees, fun c' hc' => ?_, fun hopen hgone => ?_⟩
      · cases hc₁.symm.trans hc'
        exact ⟨rfl, hwaits.2, hwaits.1⟩
      · cases hopen.symm.trans hgone
    · rename_i hempty
      split at h
      · rename_i hsocks
        refine ⟨hfrees, fun c' hc' => ?_, fun _ _ => ⟨c, hc, ?_⟩⟩
        · cases (clientFreeSocks_of_closed h hc₁ rfl).symm.trans hc'
        · exact Int.not_lt.mp fun hlt => hempty ⟨hlt, hsocks⟩
      · obtain ⟨-, hnone, hends⟩ := clientDealloc_frees h
        refine ⟨hfrees, fun c' hc' => ?_, fun hopen hgone => ?_⟩
        · cases hnone.symm.trans hc'
        · rw [hends] at hgone
          cases hopen.symm.trans hgone

theorem clientFreeClient_spec (h : clientFreeClient closeOk d s i = .ok s') :
    s.LosesClient i s' := by
  cases d with
  | zero => cases h
  | succ d =>
    obtain ⟨c, -, h⟩ := bind_ok h
    obtain ⟨_, -, h⟩ := bind_ok h
    obtain ⟨s₁, hs₁, h⟩ := bind_ok h
    obtain ⟨s₂, hs₂, h⟩ := bind_ok h
    obtain ⟨h₁, -, hsocks₁, -⟩ := tcpCallbacks_frees hs₁
    have h₂ : s₁.Frees i s₂ ∧ (s₂.ends i).socks = (s₁.ends i).socks := by
      split at hs₂
      · obtain ⟨hfrees, -, hsocks⟩ := tcpClose_frees hs₂
        exact ⟨hfrees, hsocks⟩
      · exact clientAbortPcb_frees hs₂
    exact (h₁.trans h₂.1).losesClient (h₂.2.trans hsocks₁) (clientHandleFreedClient_spec h)

theorem clientAbortClient_spec (h : clientAbortClient s i = .ok s') : s.LosesClient i s' := by
  obtain ⟨c, -, h⟩ := bind_ok h
  obtain ⟨_, -, h⟩ := bind_ok h
  obtain ⟨s₁, hs₁, h⟩ := bind_ok h
  obtain ⟨s₂, hs₂, h⟩ := bind_ok h
  obtain ⟨h₁, -, hsocks₁, -⟩ := tcpCallbacks_frees hs₁
  obtain ⟨h₂, hsocks₂⟩ := clientAbortPcb_frees hs₂
  exact (h₁.trans h₂).losesClient (hsocks₂.trans hsocks₁) (clientHandleFreedClient_spec h)

theorem clientFreeSocks_spec (h : clientFreeSocks closeOk d s i = .ok s') :
    s.LosesSocks i s' := by
  cases d with
  | zero => cases h
  | succ d =>
    have hfrees := ((frees_all (d + 1)).2.2 h)
    obtain ⟨c, hc, h⟩ := bind_ok h
    obtain ⟨_, -, h⟩ := bind_ok h
    obtain ⟨s₁, hs₁, h⟩ := bind_ok h
    obtain ⟨s₂, hs₂, h⟩ := bind_ok h
    have hc := client_ok hc
    have hopen₁ : (s₁.ends i).pcbOpen = (s.ends i).pcbOpen := by
      split at hs₁
      · exact (tcpCallbacks_frees hs₁).2.2.2
      · cases hs₁
        rfl
    obtain ⟨-, -, hopen₂⟩ := bSocksClientFree_frees hs₂
    have hgone₂ : (s₂.ends i).socks = false := by
      unfold bSocksClientFree at hs₂
      split at hs₂
      · cases hs₂
        simp [setEnds, write]
      · cases hs₂
    have hc₂ : (s₂.setClient i { c with socksClosed := true }).record i = _ := record_setClient _
    dsimp only at h
    split at h
    · rename_i hwaits
      cases h
      refine ⟨hfrees, fun c' hc' => ?_, hgone₂, fun hopen hgone => ?_⟩
      · cases hc₂.symm.trans hc'
        exact ⟨hwaits.2.2, rfl, hwaits.1, hwaits.2.1⟩
      · cases ((hopen₂.trans hopen₁).trans hopen).symm.trans hgone
    · rename_i hdrained
      split at h
      · rename_i hclient
        have hrest := clientFreeClient_spec h
        refine ⟨hfrees, fun c' hc' => ?_, ?_, fun _ _ => ⟨c, hc, ?_⟩⟩
        · obtain ⟨c₁, hc₁, hkeeps⟩ := hrest.record c' hc'
          cases hc₂.symm.trans hc₁
          cases (hkeeps.socksClosed rfl).symm.trans (hrest.closed c' hc').2.1
        · exact Bool.eq_false_iff.mpr fun ho => by
            cases hgone₂.symm.trans (hrest.socks ho)
        · rcases Bool.eq_false_or_eq_true c.socksUp with hup | hup
          · refine Or.inr ?_
            have : ¬ (0 ≤ c.socksRecvBufUsed ∨ 0 < c.socksRecvTcpPending) :=
              fun hwait => hdrained ⟨hup, hwait, hclient⟩
            omega
          · exact Or.inl hup
      · obtain ⟨-, hnone, hends⟩ := clientDealloc_frees h
        refine ⟨hfrees, fun c' hc' => ?_, ?_, fun hopen hgone => ?_⟩
        · cases hnone.symm.trans hc'
        · rw [hends]
          exact hgone₂
        · rw [hends] at hgone
          cases ((hopen₂.trans hopen₁).trans hopen).symm.trans hgone

theorem clientSocksHandler_fails {event : SocksEvent}
    (hevent : event = .error ∨ event = .errorClosed)
    (h : clientSocksHandler s i event closeOk = .ok s') : s.LosesSocks i s' := by
  obtain ⟨c, -, h⟩ := bind_ok h
  obtain ⟨_, -, h⟩ := bind_ok h
  rcases hevent with rfl | rfl
  · exact clientFreeSocks_spec h
  · obtain ⟨_, -, h⟩ := bind_ok h
    exact clientFreeSocks_spec h

end Clients

end Lightsocks.Tunnel
