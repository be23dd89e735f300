import Mathlib.Data.List.Basic

/-!
# Lanes

A `Lane f` is one direction of a transforming relay: the elements received so far, those
still to be transformed, those transformed and not yet written, and those written. The
structure carries the conservation law as a field, so a lane that lost, duplicated,
reordered or retransformed an element cannot be built. `f` may fail on some elements; a lane
only holds outputs of elements on which it succeeded.
-/

namespace Lightsocks.Lib

variable {α β φ : Type}

/-- `mapM` in `Except` succeeds with `out` exactly if the function succeeds on each element,
with the elements of `out`. -/
theorem mapM_ok_iff (f : α → Except φ β) (xs : List α) (out : List β) :
    xs.mapM f = .ok out ↔ xs.map f = out.map Except.ok := by
  induction xs generalizing out with
  | nil =>
    rw [List.mapM_nil, List.map_nil]
    constructor
    · intro h
      cases h
      rfl
    · intro h
      rw [List.map_eq_nil_iff.mp h.symm]
      rfl
  | cons x xs ih =>
    rw [List.mapM_cons, List.map_cons]
    cases hx : f x with
    | error e =>
      constructor
      · intro h
        cases h
      · intro h
        cases out with
        | nil => cases h
        | cons y ys => cases (List.cons.inj h).1
    | ok y =>
      cases hxs : xs.mapM f with
      | error e =>
        constructor
        · intro h
          cases h
        · intro h
          cases out with
          | nil => cases h
          | cons z zs =>
            rw [(ih zs).mpr (List.cons.inj h).2] at hxs
            cases hxs
      | ok ys =>
        constructor
        · intro h
          cases h
          rw [(ih ys).mp hxs, List.map_cons]
        · intro h
          cases out with
          | nil => cases h
          | cons z zs =>
            obtain ⟨hz, hzs⟩ := List.cons.inj h
            cases hz
            rw [(ih zs).mpr hzs] at hxs
            cases hxs
            rfl

/-- One direction of a relay that transforms with `f`. -/
structure Lane (f : α → Except φ β) where
  received : List α
  pending : List α
  ready : List β
  written : List β
  conserve : (written ++ ready).map Except.ok ++ pending.map f = received.map f

namespace Lane

variable {f : α → Except φ β}

def empty : Lane f where
  received := []
  pending := []
  ready := []
  written := []
  conserve := rfl

/-- Elements arrive at the back. -/
def receive (l : Lane f) (chunk : List α) : Lane f where
  received := l.received ++ chunk
  pending := l.pending ++ chunk
  ready := l.ready
  written := l.written
  conserve := by simp only [List.map_append, ← List.append_assoc, ← l.conserve]

/-- The front of the pending elements is transformed. -/
def transform (l : Lane f) {front rest : List α} {out : List β}
    (hp : l.pending = front ++ rest) (hout : front.mapM f = .ok out) : Lane f where
  received := l.received
  pending := rest
  ready := l.ready ++ out
  written := l.written
  conserve := by
    have hfront := (mapM_ok_iff f front out).mp hout
    simp only [← l.conserve, hp, List.map_append, hfront, List.append_assoc]

/-- The front of the transformed elements is written. -/
def write (l : Lane f) {front rest : List β} (hr : l.ready = front ++ rest) : Lane f where
  received := l.received
  pending := l.pending
  ready := rest
  written := l.written ++ front
  conserve := by rw [← l.conserve, hr, List.append_assoc]

/-- Everything received has been written exactly if nothing is under way. -/
theorem all_written_iff (l : Lane f) :
    l.written.map Except.ok = l.received.map f ↔ l.pending = [] ∧ l.ready = [] := by
  rw [← l.conserve]
  constructor
  · intro h
    have hlen := congrArg List.length h
    simp only [List.length_append, List.length_map] at hlen
    exact ⟨List.eq_nil_of_length_eq_zero (by omega), List.eq_nil_of_length_eq_zero (by omega)⟩
  · rintro ⟨hp, hr⟩
    simp [hp, hr]

end Lane

end Lightsocks.Lib
