import Lightsocks.Lib.Returns
import Lightsocks.Tunnel.Clients

/-!
# What the connections own

Between two events a record agrees with its pcb and its SOCKS client (`TcpClient.Agrees`).
Inside of an event this fails for the connection at hand, while the list, the count and the
ledger are right all the time (`Clients.Sound`). `Clients.To` follows one connection through
the steps of an event, and `Clients.Settled` is the end of it.
-/

namespace Lightsocks.Tunnel

open Lightsocks.Lib

/-! ## Soundness -/

/-- What is held: `base`, and what the connections have. -/
def Clients.Has (s : Clients) (base : Thing → Prop) : Thing → Prop
  | .record i => (s.record i).isSome = true
  | .pcb i => (s.ends i).pcbOpen = true
  | .socks i => (s.ends i).socks = true
  | x => base x

/-- The callback will tell lwIP what happened to its pcb, and will not touch a record that is
gone. -/
def Call.Sound (call : Call) (record : Option TcpClient) : Prop :=
  (call.aborted = true ↔ 0 < call.killed) ∧
    match record with
    | some c => call.killed = if c.aborted then 1 else 0
    | none => call.killed ≠ 0

/-- The list and the count are those of the records, and the ledger is in order. -/
structure Clients.Sound (s : Clients) (base : Thing → Prop) : Prop where
  nodup : s.tcpClients.Nodup
  mem_iff : ∀ i, i ∈ s.tcpClients ↔ (s.record i).isSome = true
  count : s.numClients = s.tcpClients.length
  fresh : ∀ i, s.next ≤ i → (s.record i).isSome = false
  holds : Ledger.Holds Thing.Uses s.log (s.Has base)
  call : ∀ call, s.call = some call → call.Sound (s.record call.client)

theorem Thing.not_uses_end (x : Thing) (i : Nat) : ¬ x.Uses (.pcb i) ∧ ¬ x.Uses (.socks i) := by
  cases x with
  | setup r => cases r <;> simp [Thing.Uses, Thing.needs]
  | _ => simp [Thing.Uses, Thing.needs]

theorem Thing.uses_record {x : Thing} {i : Nat} (h : x.Uses (.record i)) :
    x = .pcb i ∨ x = .socks i := by
  cases x with
  | setup r => cases r <;> simp [Thing.Uses, Thing.needs] at h
  | pcb j => simp_all [Thing.Uses, Thing.needs]
  | socks j => simp_all [Thing.Uses, Thing.needs]
  | _ => simp [Thing.Uses, Thing.needs] at h

namespace Clients

variable {s s₀ s₁ : Clients} {base : Thing → Prop} {i : Nat} {c c' : TcpClient} {e e' : Ends}

theorem isSome_setClient (c' : TcpClient) (hr : s.record i = some c) (j : Nat) :
    ((s.setClient i c').record j).isSome = (s.record j).isSome := by
  by_cases hj : j = i
  · subst hj
    simp [setClient, hr]
  · simp [setClient, Function.update_of_ne hj]

theorem has_setClient (c' : TcpClient) (hr : s.record i = some c) (x : Thing) :
    (s.setClient i c').Has base x ↔ s.Has base x := by
  cases x with
  | record j => rw [Has, Has, isSome_setClient c' hr]
  | _ => exact Iff.rfl

theorem has_setEnds (e : Ends) (x : Thing) :
    (s.setEnds i e).Has base x ↔
      (x = .pcb i ∧ e.pcbOpen = true) ∨ (x = .socks i ∧ e.socks = true) ∨
        (x ≠ .pcb i ∧ x ≠ .socks i ∧ s.Has base x) := by
  cases x with
  | pcb j | socks j =>
    by_cases hj : j = i
    · subst hj
      simp [Has, setEnds]
    · simp [Has, setEnds, hj]
  | _ => simp [Has, setEnds]

namespace Sound

theorem setClient (h : s.Sound base) (hr : s.record i = some c)
    (hab : c'.aborted = c.aborted) : (s.setClient i c').Sound base where
  nodup := h.nodup
  mem_iff j := by
    rw [isSome_setClient c' hr]
    exact h.mem_iff j
  count := h.count
  fresh j hj := by
    rw [isSome_setClient c' hr]
    exact h.fresh j hj
  holds := h.holds.congr (has_setClient c' hr)
  call call hcall := by
    have hsound := h.call call hcall
    by_cases hi : call.client = i
    · rw [hi, hr] at hsound
      simpa [Clients.setClient, hi, Call.Sound, hab] using hsound
    · simpa [Clients.setClient, Function.update_of_ne hi] using hsound

/-- The parts of a connection are held as before. -/
theorem setEnds (h : s.Sound base) (hpcb : e.pcbOpen = (s.ends i).pcbOpen)
    (hsocks : e.socks = (s.ends i).socks) : (s.setEnds i e).Sound base where
  nodup := h.nodup
  mem_iff := h.mem_iff
  count := h.count
  fresh := h.fresh
  holds := by
    apply h.holds.congr
    intro x
    rw [has_setEnds, hpcb, hsocks]
    cases x with
    | pcb j | socks j =>
      by_cases hj : j = i
      · subst hj
        simp [Has]
      · simp [hj]
    | _ => simp
  call := h.call

/-- One of the two ends is released. -/
theorem releaseEnd (h : s.Sound base) {x : Thing} (husers : ∀ y : Thing, ¬ y.Uses x)
    (hheld : s.Has base x) (hiff : ∀ y, (s.setEnds i e).Has base y ↔ y ≠ x ∧ s.Has base y) :
    ((s.setEnds i e).write (.release x)).Sound base where
  nodup := h.nodup
  mem_iff := h.mem_iff
  count := h.count
  fresh := h.fresh
  holds := h.holds.release hheld (fun y _ => husers y) hiff
  call := h.call

theorem closePcb (h : s.Sound base) (hopen : (s.ends i).pcbOpen = true)
    (hpcb : e.pcbOpen = false) (hsocks : e.socks = (s.ends i).socks) :
    ((s.setEnds i e).write (.release (.pcb i))).Sound base := by
  apply h.releaseEnd (fun y => (y.not_uses_end i).1) hopen
  intro y
  rw [has_setEnds, hpcb, hsocks]
  by_cases hy : y = .socks i
  · subst hy
    simp [Has]
  · simp [hy]

theorem freeSocks (h : s.Sound base) (hopen : (s.ends i).socks = true)
    (hsocks : e.socks = false) (hpcb : e.pcbOpen = (s.ends i).pcbOpen) :
    ((s.setEnds i e).write (.release (.socks i))).Sound base := by
  apply h.releaseEnd (fun y => (y.not_uses_end i).2) hopen
  intro y
  rw [has_setEnds, hpcb, hsocks]
  by_cases hy : y = .pcb i
  · subst hy
    simp [Has]
  · simp [hy]

/-- The pcb was aborted, in a callback or not: the record and the callback agree on it. -/
theorem abort (h : s.Sound base) (hr : s.record i = some c) :
    (deadKillWith ((s.onCall i fun call => { call with aborted := true }).setClient i
      { c with aborted := true }) i 1).Sound base where
  nodup := h.nodup
  mem_iff j := (h.mem_iff j).trans (by rw [← isSome_setClient { c with aborted := true } hr]; rfl)
  count := h.count
  fresh j hj := (isSome_setClient _ hr j).trans (h.fresh j hj)
  holds := h.holds.congr (has_setClient _ hr)
  call call hcall := by
    cases hs : s.call with
    | none => simp [deadKillWith, onCall, Clients.setClient, hs] at hcall
    | some call₀ =>
      have hsound := h.call call₀ hs
      by_cases hi : call₀.client = i
      · simp only [deadKillWith, onCall, Clients.setClient, hs, Option.map_some, if_pos hi,
          Option.some.injEq] at hcall
        subst hcall
        simp [deadKillWith, onCall, Clients.setClient, Call.Sound, hi]
      · simp only [deadKillWith, onCall, Clients.setClient, hs, Option.map_some, if_neg hi,
          Option.some.injEq] at hcall
        subst hcall
        simpa [deadKillWith, onCall, Clients.setClient, Function.update_of_ne hi] using hsound

/-- The callback learns that the record is gone, unless it knows that the pcb was aborted. -/
theorem call_dealloc (h : s.Sound base) (hr : s.record i = some c) {call : Call}
    (hcall : (if c.aborted then s.call else (deadKillWith s i (-1)).call) = some call) :
    call.Sound (Function.update s.record i none call.client) := by
  cases hs : s.call with
  | none =>
    have hnone : (deadKillWith s i (-1)).call = none := by
      rw [deadKillWith, onCall, hs]
      rfl
    rw [hs, hnone, ite_self] at hcall
    cases hcall
  | some call₀ =>
    obtain ⟨hkilled, hrecord⟩ := h.call call₀ hs
    by_cases hi : call₀.client = i
    · rw [hi, hr] at hrecord
      cases hab : c.aborted with
      | true =>
        simp only [hab, if_true, hs, Option.some.injEq] at hcall hrecord
        subst hcall
        simp [Call.Sound, hi, hkilled, hrecord]
      | false =>
        simp only [hab, deadKillWith, onCall, hs, Option.map_some, if_pos hi, Option.some.injEq,
          Bool.false_eq_true, if_false] at hcall hrecord
        subst hcall
        simp [Call.Sound, hi, hkilled, hrecord]
    · have hsame : call = call₀ := by
        cases hab : c.aborted <;>
          simp [hab, deadKillWith, onCall, hs, if_neg hi] at hcall <;> exact hcall.symm
      subst hsame
      rw [Function.update_of_ne hi]
      exact ⟨hkilled, hrecord⟩

theorem dealloc (h : s.Sound base) (hr : s.record i = some c)
    (hpcb : (s.ends i).pcbOpen = false) (hsocks : (s.ends i).socks = false)
    {call : Option Call}
    (hcall : call = if c.aborted then s.call else (deadKillWith s i (-1)).call) :
    ({ s with
        numClients := s.numClients - 1
        tcpClients := s.tcpClients.erase i
        call := call
        record := Function.update s.record i none }.write (.release (.record i))).Sound base where
  nodup := h.nodup.erase i
  mem_iff j := by
    change j ∈ s.tcpClients.erase i ↔ (Function.update s.record i none j).isSome = true
    rw [h.nodup.mem_erase_iff, h.mem_iff]
    by_cases hj : j = i
    · subst hj
      simp
    · simp [hj]
  count := by
    have hmem : i ∈ s.tcpClients := (h.mem_iff i).mpr (by rw [hr]; rfl)
    have hpos : 0 < s.tcpClients.length := List.length_pos_of_mem hmem
    change s.numClients - 1 = ((s.tcpClients.erase i).length : Int)
    rw [h.count, List.length_erase_of_mem hmem]
    omega
  fresh j hj := by
    change (Function.update s.record i none j).isSome = false
    by_cases hji : j = i
    · subst hji
      simp
    · rw [Function.update_of_ne hji]
      exact h.fresh j hj
  holds := by
    refine h.holds.release (x := .record i) (by rw [Has, hr]; rfl) ?_ fun x => ?_
    · intro x hx huses
      rcases Thing.uses_record huses with rfl | rfl
      · simp [Has, hpcb] at hx
      · simp [Has, hsocks] at hx
    · cases x with
      | record j =>
        by_cases hj : j = i
        · subst hj
          simp [Has, write]
        · simp [Has, write, hj]
      | _ => simp [Has, write]
  call call' hcall' := by
    subst hcall
    exact h.call_dealloc hr hcall'

theorem deadEnter (h : s.Sound base) (hr : s.record i = some c) (hab : c.aborted = false) :
    (deadEnter s i).Sound base where
  nodup := h.nodup
  mem_iff := h.mem_iff
  count := h.count
  fresh := h.fresh
  holds := h.holds.congr fun x => by cases x <;> exact Iff.rfl
  call call hcall := by
    cases hcall
    simp [Call.Sound, Tunnel.deadEnter, hr, hab]

end Sound

end Clients

/-! ## Agreement -/

/-- A connection that nothing can be heard of any more. -/
structure Ends.Quiet (e : Ends) : Prop where
  callbacks : e.callbacks = .none
  pcbOpen : e.pcbOpen = false
  socks : e.socks = false
  sending : e.sending = none
  receiving : e.receiving = false

/-- A record agrees with its pcb and its SOCKS client. -/
structure TcpClient.Agrees (c : TcpClient) (e : Ends) : Prop where
  pcbOpen : e.pcbOpen = !c.clientClosed
  socks : e.socks = !c.socksClosed
  alive : c.clientClosed = true → c.socksClosed = false
  callbacks : e.callbacks =
    ⟨!c.clientClosed, !c.clientClosed && !c.socksClosed, !c.clientClosed && c.socksUp⟩
  aborted : c.clientClosed = false → c.aborted = false
  up : e.up = c.socksUp
  bufUsed : 0 ≤ c.bufUsed ∧ c.bufUsed ≤ tcpWnd
  sending : ∀ len, e.sending = some len →
    c.socksUp = true ∧ c.socksClosed = false ∧ 0 < len ∧ len ≤ c.bufUsed
  notSending : e.sending = none → c.socksUp = true → c.socksClosed = false → c.bufUsed = 0
  receiving : e.receiving = true →
    c.socksUp = true ∧ c.socksClosed = false ∧ c.socksRecvBufUsed = -1
  /-- What is in `socks_recv_buf` waits for room in the send buffer. -/
  recvBuf : c.clientClosed = false → c.socksUp = true →
    c.socksRecvBufUsed = -1 ∨
      (0 < c.socksRecvBufUsed ∧ c.socksRecvBufSent < c.socksRecvBufUsed ∧
        c.socksRecvWaiting = true)
  pending : c.clientClosed = false → c.socksUp = true →
    c.socksRecvTcpPending = e.unacked ∧ 0 ≤ e.unacked
  unacked : c.socksUp = false → e.unacked = 0

def Clients.AgreesAt (s : Clients) (i : Nat) : Prop :=
  match s.record i with
  | some c => c.Agrees (s.ends i)
  | none => (s.ends i).Quiet

/-- What holds between two events. -/
structure Clients.Inv (s : Clients) (base : Thing → Prop) : Prop where
  sound : s.Sound base
  agrees : ∀ i, s.AgreesAt i

/-- Nothing happened to the connections other than the `i`-th. -/
structure Clients.Frame (s : Clients) (i : Nat) (s' : Clients) : Prop where
  record : ∀ j, j ≠ i → s'.record j = s.record j
  ends : ∀ j, j ≠ i → s'.ends j = s.ends j

/-- In an event of the `i`-th connection that began at `s`, its record and its ends are `c`
and `e` by now. -/
structure Clients.To (s : Clients) (base : Thing → Prop) (i : Nat) (c : TcpClient) (e : Ends)
    (s' : Clients) : Prop where
  sound : s'.Sound base
  frame : s.Frame i s'
  tcpClients : s'.tcpClients = s.tcpClients
  record : s'.record i = some c
  ends : s'.ends i = e

/-- An event of the `i`-th connection that began at `s` is over. -/
structure Clients.Settled (s : Clients) (base : Thing → Prop) (i : Nat) (s' : Clients) :
    Prop where
  sound : s'.Sound base
  frame : s.Frame i s'
  agrees : s'.AgreesAt i

/-- It is over with the record. -/
structure Clients.Freed (s : Clients) (base : Thing → Prop) (i : Nat) (s' : Clients) : Prop
    extends s.Settled base i s' where
  tcpClients : s'.tcpClients = s.tcpClients.erase i

theorem Clients.Inv.of_settled {s s' : Clients} {base : Thing → Prop} {i : Nat} (h : s.Inv base)
    (hs' : s.Settled base i s') : s'.Inv base where
  sound := hs'.sound
  agrees j := by
    by_cases hj : j = i
    · subst hj
      exact hs'.agrees
    · have hsame := h.agrees j
      rwa [AgreesAt, ← hs'.frame.record j hj, ← hs'.frame.ends j hj] at hsame

namespace Clients.To

variable {s s₀ : Clients} {base : Thing → Prop} {i : Nat} {c c' : TcpClient} {e e' : Ends}

theorem refl (h : s.Sound base) (hr : s.record i = some c) : s.To base i c (s.ends i) s :=
  ⟨h, ⟨fun _ _ => rfl, fun _ _ => rfl⟩, rfl, hr, rfl⟩

theorem settled (h : s.To base i c e s₀) (hagrees : c.Agrees e) : s.Settled base i s₀ :=
  ⟨h.sound, h.frame, by rwa [AgreesAt, h.record, h.ends]⟩

/-! ### Steps -/

theorem client (h : s.To base i c e s₀) : s₀.client i = .ok c := by
  rw [Clients.client, h.record]

theorem pcb (h : s.To base i c e s₀) (hpcb : e.pcbOpen = true) : s₀.pcb i = .ok e := by
  rw [Clients.pcb, h.ends, if_pos hpcb]

theorem frame_update (h : s.To base i c e s₀) (o : Option TcpClient) :
    s.Frame i { s₀ with record := Function.update s₀.record i o } :=
  ⟨fun j hj => (Function.update_of_ne hj _ _).trans (h.frame.record j hj), h.frame.ends⟩

theorem setClient (h : s.To base i c e s₀) (c' : TcpClient) (hab : c'.aborted = c.aborted) :
    s.To base i c' e (s₀.setClient i c') where
  sound := h.sound.setClient h.record hab
  frame := h.frame_update _
  tcpClients := h.tcpClients
  record := Function.update_self ..
  ends := h.ends

theorem frame_setEnds (h : s.To base i c e s₀) (e' : Ends) : s.Frame i (s₀.setEnds i e') :=
  ⟨h.frame.record, fun j hj => (Function.update_of_ne hj _ _).trans (h.frame.ends j hj)⟩

theorem setEnds (h : s.To base i c e s₀) (e' : Ends) (hpcb : e'.pcbOpen = e.pcbOpen)
    (hsocks : e'.socks = e.socks) : s.To base i c e' (s₀.setEnds i e') where
  sound := h.sound.setEnds (by rw [h.ends, hpcb]) (by rw [h.ends, hsocks])
  frame := h.frame_setEnds e'
  tcpClients := h.tcpClients
  record := h.record
  ends := Function.update_self ..

theorem closePcb (h : s.To base i c e s₀) (e' : Ends) (hopen : e.pcbOpen = true)
    (hpcb : e'.pcbOpen = false) (hsocks : e'.socks = e.socks) :
    s.To base i c e' ((s₀.setEnds i e').write (.release (.pcb i))) where
  sound := h.sound.closePcb (by rw [h.ends, hopen]) hpcb (by rw [h.ends, hsocks])
  frame := ⟨h.frame.record, (h.frame_setEnds e').ends⟩
  tcpClients := h.tcpClients
  record := h.record
  ends := Function.update_self ..

theorem tcpCallbacks (h : s.To base i c e s₀) (hpcb : e.pcbOpen = true)
    (set : Callbacks → Callbacks) :
    Returns (s₀.tcpCallbacks i set) (s.To base i c { e with callbacks := set e.callbacks }) :=
  .bind_eq (h.pcb hpcb) (.ok (h.setEnds _ rfl rfl))

theorem tcpClose (h : s.To base i c e s₀) (hpcb : e.pcbOpen = true) :
    Returns (s₀.tcpClose i) (s.To base i c { e with pcbOpen := false }) :=
  .bind_eq (h.pcb hpcb) (.ok (h.closePcb _ hpcb rfl rfl))

theorem tcpAbort (h : s.To base i c e s₀) (hpcb : e.pcbOpen = true)
    (herr : e.callbacks.err = false) :
    s₀.tcpAbort i = .ok (((s₀.setEnds i { e with pcbOpen := false }).write
      (.release (.pcb i))).onCall i fun call => { call with aborted := true }) := by
  apply (congrArg (· >>= _) (h.pcb hpcb)).trans
  simp only [bind, Except.bind, herr]
  rfl

theorem clientAbortPcb (h : s.To base i c e s₀) (hpcb : e.pcbOpen = true)
    (herr : e.callbacks.err = false) (hab : c.aborted = false) :
    Returns (clientAbortPcb s₀ i)
      (s.To base i { c with aborted := true } { e with pcbOpen := false }) := by
  have hclose := h.closePcb { e with pcbOpen := false } hpcb rfl rfl
  refine .bind_eq h.client (.guard (by rw [hab]; rfl) ?_)
  refine .bind_eq (h.tcpAbort hpcb herr) (.ok ?_)
  exact {
    sound := hclose.sound.abort hclose.record
    frame := ⟨(h.frame_update _).record, hclose.frame.ends⟩
    tcpClients := h.tcpClients
    record := Function.update_self ..
    ends := hclose.ends }

theorem bSocksClientFree (h : s.To base i c e s₀) (hsocks : e.socks = true) :
    Returns (bSocksClientFree s₀ i)
      (s.To base i c { e with socks := false, sending := none, receiving := false }) := by
  refine ⟨_, if_pos (by rw [h.ends, hsocks]), ?_⟩
  rw [h.ends]
  exact {
    sound := h.sound.freeSocks (by rw [h.ends, hsocks]) rfl (by rw [h.ends])
    frame := ⟨h.frame.record, (h.frame_setEnds _).ends⟩
    tcpClients := h.tcpClients
    record := h.record
    ends := Function.update_self .. }

theorem senderSend (h : s.To base i c e s₀) {dataLen : Int} (hsocks : e.socks = true)
    (hidle : e.sending = none) (hlen : 0 < dataLen) :
    Returns (senderSend s₀ i dataLen) (s.To base i c { e with sending := some dataLen }) := by
  refine ⟨_, ?_, h.setEnds { e with sending := some dataLen } rfl rfl⟩
  simp [Tunnel.senderSend, h.ends, hsocks, hidle, hlen]

theorem receiverRecv (h : s.To base i c e s₀) (hsocks : e.socks = true)
    (hidle : e.receiving = false) :
    Returns (receiverRecv s₀ i) (s.To base i c { e with receiving := true }) := by
  refine ⟨_, ?_, h.setEnds { e with receiving := true } rfl rfl⟩
  simp [Tunnel.receiverRecv, h.ends, hsocks, hidle]

theorem deadEnter (h : s.To base i c e s₀) (hab : c.aborted = false) :
    s.To base i c e (deadEnter s₀ i) :=
  ⟨h.sound.deadEnter h.record hab, ⟨h.frame.record, h.frame.ends⟩, h.tcpClients, h.record, h.ends⟩

theorem clientDealloc (h : s.To base i c e s₀) (hclient : c.clientClosed = true)
    (hsocks : c.socksClosed = true) (hquiet : e.Quiet) :
    Returns (clientDealloc s₀ i) (s.Freed base i) := by
  have hmem : i ∈ s₀.tcpClients := (h.sound.mem_iff i).mpr (by rw [h.record]; rfl)
  have hpos : 0 < s₀.numClients := by
    rw [h.sound.count]
    exact_mod_cast List.length_pos_of_mem hmem
  refine .bind_eq h.client (.guard hclient ?_)
  refine .guard hsocks ?_
  refine .guard (decide_eq_true hpos) ?_
  have hsound := h.sound.dealloc h.record (h.ends ▸ hquiet.pcbOpen) (h.ends ▸ hquiet.socks) rfl
  refine ⟨_, if_neg (not_not.mpr hmem), ?_⟩
  have hquiet' : (s₀.ends i).Quiet := h.ends ▸ hquiet
  cases hab : c.aborted <;> simp only [hab] at hsound ⊢
  all_goals exact {
    sound := hsound
    frame := ⟨(h.frame_update none).record, h.frame.ends⟩
    tcpClients := congrArg (List.erase · i) h.tcpClients
    agrees := by simpa [AgreesAt, write, deadKillWith, onCall] using hquiet' }

end Clients.To

/-! ## Freeing -/

namespace TcpClient

variable {c : TcpClient} {e : Ends}

/-- `c` has lost its pcb. -/
structure Lost (c : TcpClient) (e : Ends) : Prop where
  agrees : c.socksClosed = false → ∀ aborted,
    ({ c with clientClosed := true, aborted } : TcpClient).Agrees e
  quiet : c.socksClosed = true → e.Quiet

theorem Agrees.sending_eq_none (h : c.Agrees e)
    (hidle : c.socksUp = false ∨ c.socksClosed = true) : e.sending = none := by
  cases hs : e.sending with
  | none => rfl
  | some len =>
    obtain ⟨hup, hsocks, -⟩ := h.sending len hs
    rcases hidle with hidle | hidle
    · cases hidle.symm.trans hup
    · cases hidle.symm.trans hsocks

theorem Agrees.receiving_eq_false (h : c.Agrees e)
    (hidle : c.socksUp = false ∨ c.socksClosed = true ∨ c.socksRecvBufUsed ≠ -1) :
    e.receiving = false := by
  cases hr : e.receiving with
  | false => rfl
  | true =>
    obtain ⟨hup, hsocks, hbuf⟩ := h.receiving hr
    rcases hidle with hidle | hidle | hidle
    · cases hidle.symm.trans hup
    · cases hidle.symm.trans hsocks
    · exact absurd hbuf hidle

theorem Agrees.lost (h : c.Agrees e) :
    c.Lost { e with callbacks := .none, pcbOpen := false } where
  agrees hsocks aborted := {
    pcbOpen := rfl
    socks := h.socks
    alive := fun _ => hsocks
    callbacks := rfl
    aborted := fun hc => by cases hc
    up := h.up
    bufUsed := h.bufUsed
    sending := h.sending
    notSending := h.notSending
    receiving := h.receiving
    recvBuf := fun hc => by cases hc
    pending := fun hc => by cases hc
    unacked := h.unacked }
  quiet hsocks :=
    ⟨rfl, rfl, by rw [h.socks, hsocks]; rfl, h.sending_eq_none (.inr hsocks),
      h.receiving_eq_false (.inr (.inl hsocks))⟩

theorem Agrees.lost_of_closed (h : c.Agrees e) (hclient : c.clientClosed = true) :
    c.Lost e where
  agrees hsocks aborted := by
    have hc : ({ c with clientClosed := true, aborted := c.aborted } : TcpClient) = c := by
      rw [← hclient]
    exact { hc ▸ h with aborted := fun hc => by cases hc }
  quiet hsocks := by
    rw [h.alive hclient] at hsocks
    cases hsocks

end TcpClient

namespace Clients.To

variable {s s₀ : Clients} {base : Thing → Prop} {i : Nat} {c : TcpClient} {e : Ends}
  {closeOk : Bool}

/-- `client_free_socks`, up to the decision about the other side. -/
theorem clientFreeSocks_of {d : Nat} {P : Clients → Prop} (h : s.To base i c e s₀)
    (hagrees : c.Agrees e) (hsocks : c.socksClosed = false)
    (hrest : ∀ s₁, s.To base i { c with socksClosed := true }
        { e with
          callbacks := ⟨!c.clientClosed, !c.clientClosed && !c.socksUp,
            !c.clientClosed && c.socksUp⟩
          socks := false, sending := none, receiving := false } s₁ →
      Returns (if c.socksUp = true ∧ (0 ≤ c.socksRecvBufUsed ∨ 0 < c.socksRecvTcpPending) ∧
          c.clientClosed = false then Pure.pure s₁
        else if c.clientClosed = false then Tunnel.clientFreeClient closeOk d s₁ i
        else Tunnel.clientDealloc s₁ i) P) :
    Returns (clientFreeSocks closeOk (d + 1) s₀ i) P := by
  rw [clientFreeSocks]
  refine .bind_eq h.client (.guard (by rw [hsocks]; rfl) ?_)
  refine .bind (P := s.To base i c { e with
    callbacks := ⟨!c.clientClosed, !c.clientClosed && !c.socksUp,
      !c.clientClosed && c.socksUp⟩ }) ?_ fun s₁ h₁ => ?_
  · split
    · rename_i hup
      apply (h.tcpCallbacks (by rw [hagrees.pcbOpen, hup.2]; rfl) _).mono
      intro s₁ h₁
      simpa [hagrees.callbacks, hup.1, hup.2] using h₁
    · rename_i hup
      refine .pure ?_
      have hsame : e.callbacks = ⟨!c.clientClosed, !c.clientClosed && !c.socksUp,
          !c.clientClosed && c.socksUp⟩ := by
        rw [hagrees.callbacks, hsocks]
        cases hu : c.socksUp <;> cases hc : c.clientClosed <;> simp_all
      rwa [← hsame]
  · exact (h₁.bSocksClientFree (by rw [hagrees.socks, hsocks]; rfl)).bind fun s₂ h₂ =>
      hrest _ (h₂.setClient _ rfl)

/-- The record is all that is left. -/
theorem clientFreeSocks_of_closed (d : Nat) (h : s.To base i c e s₀) (hagrees : c.Agrees e)
    (hclient : c.clientClosed = true) :
    Returns (clientFreeSocks closeOk (d + 1) s₀ i) (s.Settled base i) := by
  apply h.clientFreeSocks_of hagrees (hagrees.alive hclient)
  intro s₁ h₁
  rw [if_neg (by simp [hclient]), if_neg (by simp [hclient])]
  refine (h₁.clientDealloc hclient rfl ⟨?_, ?_, rfl, rfl, rfl⟩).mono fun _ hs => hs.toSettled
  · simp [hclient, Callbacks.none]
  · simp [hagrees.pcbOpen, hclient]

theorem clientHandleFreedClient (d : Nat) (h : s.To base i c e s₀)
    (hclient : c.clientClosed = false) (hlost : c.Lost e)
    (hd : c.socksClosed = false → 0 < d) :
    Returns (clientHandleFreedClient closeOk (d + 1) s₀ i) (s.Settled base i) := by
  rw [Tunnel.clientHandleFreedClient]
  refine .bind_eq h.client (.guard (by rw [hclient]; rfl) ?_)
  have h₁ := h.setClient { c with clientClosed := true } rfl
  split
  · rename_i hbuf
    exact .pure (h₁.settled (hlost.agrees hbuf.2 _))
  · split
    · rename_i hsocks
      obtain ⟨k, rfl⟩ := Nat.exists_eq_add_one.mpr (hd hsocks)
      exact h₁.clientFreeSocks_of_closed k (hlost.agrees hsocks _) rfl
    · rename_i hsocks
      have hsocks' : c.socksClosed = true := by simpa using hsocks
      exact (h₁.clientDealloc rfl hsocks' (hlost.quiet hsocks')).mono fun _ hs => hs.toSettled

theorem clientFreeClient (d : Nat) (h : s.To base i c e s₀) (hclient : c.clientClosed = false)
    (hab : c.aborted = false) (hpcb : e.pcbOpen = true)
    (hlost : c.Lost { e with callbacks := .none, pcbOpen := false })
    (hd : c.socksClosed = false → 0 < d) :
    Returns (clientFreeClient closeOk (d + 2) s₀ i) (s.Settled base i) := by
  rw [Tunnel.clientFreeClient]
  refine .bind_eq h.client (.guard (by rw [hclient]; rfl) ?_)
  apply (h.tcpCallbacks hpcb _).bind
  intro s₁ h₁
  cases closeOk with
  | true =>
    apply (h₁.tcpClose hpcb).bind
    intro s₂ h₂
    exact h₂.clientHandleFreedClient d hclient hlost hd
  | false =>
    apply (h₁.clientAbortPcb hpcb rfl hab).bind
    intro s₂ h₂
    exact h₂.clientHandleFreedClient d hclient ⟨hlost.agrees, hlost.quiet⟩ hd

theorem clientFreeSocks (d : Nat) (h : s.To base i c e s₀) (hagrees : c.Agrees e)
    (hsocks : c.socksClosed = false) :
    Returns (clientFreeSocks closeOk (d + 3) s₀ i) (s.Settled base i) := by
  cases hclient : c.clientClosed with
  | true => exact h.clientFreeSocks_of_closed _ hagrees hclient
  | false =>
    apply h.clientFreeSocks_of hagrees hsocks
    intro s₁ h₁
    split
    · -- what SOCKS has sent is still to be sent to the client
      rename_i hwait
      refine .pure (h₁.settled ?_)
      simp only [hclient, hwait.1, Bool.not_false, Bool.not_true, Bool.true_and]
      exact {
        pcbOpen := by rw [hagrees.pcbOpen, hclient]
        socks := rfl
        alive := fun hc => by cases hc
        callbacks := rfl
        aborted := fun _ => hagrees.aborted hclient
        up := hagrees.up.trans hwait.1
        bufUsed := hagrees.bufUsed
        sending := fun len hlen => by cases hlen
        notSending := fun _ _ hs => by cases hs
        receiving := fun hr => by cases hr
        recvBuf := fun _ _ => hagrees.recvBuf hclient hwait.1
        pending := fun _ _ => hagrees.pending hclient hwait.1
        unacked := fun hup => by cases hup }
    · refine h₁.clientFreeClient d hclient (hagrees.aborted hclient) ?_ ?_ (fun hs => by cases hs)
      · rw [hagrees.pcbOpen, hclient]
        rfl
      · exact ⟨fun hs => (by cases hs), fun _ => ⟨rfl, rfl, rfl, rfl, rfl⟩⟩

theorem clientAbortClient (h : s.To base i c e s₀) (hclient : c.clientClosed = false)
    (hab : c.aborted = false) (hpcb : e.pcbOpen = true)
    (hlost : c.Lost { e with callbacks := .none, pcbOpen := false }) :
    Returns (clientAbortClient s₀ i) (s.Settled base i) := by
  refine .bind_eq h.client (.guard (by rw [hclient]; rfl) ?_)
  apply (h.tcpCallbacks hpcb _).bind
  intro s₁ h₁
  apply (h₁.clientAbortPcb hpcb rfl hab).bind
  intro s₂ h₂
  exact h₂.clientHandleFreedClient 2 hclient ⟨hlost.agrees, hlost.quiet⟩ (fun _ => by decide)

theorem clientMurder (h : s.To base i c e s₀) (hagrees : c.Agrees e) :
    Returns (clientMurder s₀ i) (s.Freed base i) := by
  refine .bind_eq h.client ?_
  refine .bind (P := fun s₁ => ∃ c₁ e₁, s.To base i c₁ e₁ s₁ ∧ c₁.clientClosed = true ∧
    c₁.Lost e₁) ?_ ?_
  · split
    · rename_i hclient
      have hpcb : e.pcbOpen = true := by rw [hagrees.pcbOpen, hclient]; rfl
      apply (h.tcpCallbacks hpcb _).bind
      intro s₁ h₁
      apply (h₁.clientAbortPcb hpcb rfl (hagrees.aborted hclient)).bind
      intro s₂ h₂
      exact .bind_eq h₂.client
        (.ok ⟨_, _, h₂.setClient _ rfl, rfl, hagrees.lost.agrees, hagrees.lost.quiet⟩)
    · rename_i hclient
      have hclient' : c.clientClosed = true := by simpa using hclient
      exact .pure ⟨c, e, h, hclient', hagrees.lost_of_closed hclient'⟩
  · rintro s₁ ⟨c₁, e₁, h₁, hclient, hlost⟩
    refine .bind_eq h₁.client ?_
    refine .bind (P := fun s₂ => ∃ c₂ e₂, s.To base i c₂ e₂ s₂ ∧ c₂.clientClosed = true ∧
      c₂.socksClosed = true ∧ e₂.Quiet) ?_ ?_
    · split
      · rename_i hsocks
        have hopen := hlost.agrees hsocks true
        apply (h₁.bSocksClientFree (by rw [hopen.socks, hsocks]; rfl)).bind
        intro s₂ h₂
        exact .ok ⟨_, _, h₂.setClient _ rfl, hclient, rfl, hopen.callbacks, hopen.pcbOpen, rfl, rfl,
          rfl⟩
      · rename_i hsocks
        have hsocks' : c₁.socksClosed = true := by simpa using hsocks
        exact .pure ⟨c₁, e₁, h₁, hclient, hsocks', hlost.quiet hsocks'⟩
    · rintro s₂ ⟨c₂, e₂, h₂, hclient, hsocks, hquiet⟩
      exact h₂.clientDealloc hclient hsocks hquiet

end Clients.To

/-- The loop that frees the clients ends, and it ends with none. -/
theorem Clients.Inv.freeClients {s : Clients} {base : Thing → Prop} (h : s.Inv base) {fuel : Nat}
    (hfuel : s.tcpClients.length ≤ fuel) :
    Returns (freeClients fuel s) fun s' => s'.Inv base ∧ s'.tcpClients = [] := by
  induction fuel generalizing s with
  | zero =>
    have hnil : s.tcpClients = [] := List.length_eq_zero_iff.mp (Nat.le_zero.mp hfuel)
    rw [Tunnel.freeClients, hnil]
    exact .ok ⟨h, hnil⟩
  | succ fuel ih =>
    rw [Tunnel.freeClients]
    split
    · rename_i hnil
      exact .ok ⟨h, hnil⟩
    · rename_i i rest hcons
      have hmem : i ∈ s.tcpClients := by simp [hcons]
      obtain ⟨c, hr⟩ := Option.isSome_iff_exists.mp ((h.sound.mem_iff i).mp hmem)
      have hagrees := h.agrees i
      rw [AgreesAt, hr] at hagrees
      apply ((To.refl h.sound hr).clientMurder hagrees).bind
      intro s₁ h₁
      apply ih (h.of_settled h₁.toSettled)
      rw [h₁.tcpClients, List.length_erase_of_mem hmem]
      omega

end Lightsocks.Tunnel
