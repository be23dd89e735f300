import Lightsocks.Relay.Invariant

/-!
# The byte streams of a connection

As long as no EOF or error is reported on a connection, what was received from one endpoint
is what was written to the other, followed by what the six buffers hold, once each and in
order, and each byte is transformed once, in the filter. Both equations are the conservation
laws of the lanes of the connection's session.
-/

namespace Lightsocks.Relay

open Lightsocks.Lib

variable {g : Globals}

/-- A filter leaves nothing in its source, appends the image of every byte to its
destination, and reports `BEV_OK`. -/
def Drains (filter : List UInt8 → List UInt8 →
      Except Cipher.VecFault (BuffereventFilterResult × List UInt8 × List UInt8))
    (lookup : UInt8 → Except Cipher.VecFault UInt8) : Prop :=
  ∀ src dst, filter src dst = (src.mapM lookup).map (fun out => (.ok, [], dst ++ out))

/-- Both directions of the connection `c` conserve their bytes. -/
def StreamInvariant (g : Globals) (s : State) (c : Conn) : Prop :=
  ∃ src dst filter, s.bevs[c.src]? = some src ∧ s.bevs[c.dst]? = some dst ∧
    s.bevs[c.filter]? = some filter ∧
    (dst.sent ++ dst.output).map Except.ok ++
        (filter.output ++ src.input).map g.encryptor.encrypt =
      src.received.map g.encryptor.encrypt ∧
    (src.sent ++ src.output ++ filter.input).map Except.ok ++
        dst.input.map g.encryptor.decrypt =
      dst.received.map g.encryptor.decrypt

/-- A connection that is alive conserves its bytes. -/
theorem State.Carries.streamInvariant {s : State} {c : Conn} {σ : Session g.encryptor}
    (h : s.Carries c σ) : StreamInvariant g s c := by
  refine ⟨_, _, _, h.src, h.dst, h.filter, ?_, ?_⟩
  · have hup := σ.up.conserve
    rw [σ.up_pending] at hup
    exact hup
  · have hdown := σ.down.conserve
    rw [σ.down_ready, ← List.append_assoc] at hdown
    exact hdown

theorem stream_invariant {es : List Event} {s : State} (h : (relay g).Runs es (.ok s)) {c : Conn}
    (hc : c ∈ s.conns)
    (hquiet : ∀ p ∈ c.ptrs, ∀ what, Event.event p what ∈ es → ¬ closing what) :
    StreamInvariant g s c ∧ Drains (destFilterIn g.encryptor) g.encryptor.decrypt ∧
      Drains (destFilterOut g.encryptor) g.encryptor.encrypt := by
  refine ⟨?_, destFilter_eq, destFilter_eq⟩
  obtain ⟨⟨e, he, hcl, p, hp, ht⟩, -⟩ | ⟨-, σ, hσ⟩ := phase_of_runs h c hc
  · cases e with
    | event q what =>
      cases ht
      exact absurd (of_decide_eq_true hcl) (hquiet p hp what he)
    | _ => cases hcl
  · exact hσ.streamInvariant

/-! ## A run -/

/-- The table that adds one to every byte, and its inverse. -/
def successorTable : Cipher.LightsocksAndroidEncryptor where
  encryptVec := (List.range 256).map (fun i => UInt8.ofNat (i + 1))
  decryptVec := (List.range 256).map (fun i => UInt8.ofNat (i + 255))

def successorGlobals : Globals where
  encryptor := .ofEncryptor .unsigned successorTable
  clientCallback := true
  serverIp := [49, 50, 55, 46, 48, 46, 48, 46, 49]
  serverPort := 5001

/-- A byte goes each way, and a second one is still in the client's buffer. -/
def oneByteEachWay : List Event :=
  [.accept true, .connected 1, .arrive 0 [7], .read 0, .output 2, .drain 1 1,
    .arrive 1 [9], .read 1, .read 2, .drain 0 1, .arrive 0 [8]]

theorem stream_invariant_one_byte_each_way :
    ∃ s, (relay successorGlobals).Runs oneByteEachWay (.ok s) ∧
      StreamInvariant successorGlobals s ⟨0, 1, 2⟩ := by
  have hends : (relay successorGlobals).ends oneByteEachWay
      (fun s => s.conns == [⟨0, 1, 2⟩]) = true := by decide
  obtain ⟨s, hr, hconns⟩ := Machine.runs_of_ends hends
  have hconns : s.conns = [⟨0, 1, 2⟩] := eq_of_beq hconns
  refine ⟨s, hr, (stream_invariant hr (by simp [hconns]) ?_).1⟩
  intro p _ what hmem
  simp [oneByteEachWay] at hmem

end Lightsocks.Relay
