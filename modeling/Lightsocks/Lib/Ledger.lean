import Mathlib.Data.List.Count
import Mathlib.Data.List.Nodup

/-!
# Ledgers of resources

A ledger lists what a program has acquired and released, the latest first. It is in order
(`Ledger`) if nothing is acquired while it is held, everything is acquired after what it uses
and released, once, after everything that uses it.

* `Ledger.count_acquire`: each acquisition has one release, unless the resource is still held.
* `Ledger.Holds`: what is held as a predicate, with a rule for each kind of entry.
-/

namespace Lightsocks.Lib

/-- An entry of a ledger. -/
inductive Entry (ρ : Type)
  | acquire (x : ρ)
  | release (x : ρ)
  deriving DecidableEq, Repr

variable {ρ : Type} [DecidableEq ρ] {uses : ρ → ρ → Prop}

/-- `Ledger uses log held`: the entries of `log` are in order, and leave `held`, the latest
first. -/
inductive Ledger (uses : ρ → ρ → Prop) : List (Entry ρ) → List ρ → Prop
  | nil : Ledger uses [] []
  | acquire {log : List (Entry ρ)} {held : List ρ} {x : ρ} (h : Ledger uses log held)
      (hx : x ∉ held) (huses : ∀ y, uses x y → y ∈ held) :
      Ledger uses (.acquire x :: log) (x :: held)
  | release {log : List (Entry ρ)} {held : List ρ} {x : ρ} (h : Ledger uses log held)
      (hx : x ∈ held) (husers : ∀ y ∈ held, ¬ uses y x) :
      Ledger uses (.release x :: log) (held.erase x)

namespace Ledger

variable {log : List (Entry ρ)} {held : List ρ} {x y : ρ}

theorem nodup (h : Ledger uses log held) : held.Nodup := by
  induction h with
  | nil => exact List.nodup_nil
  | acquire _ hx _ ih => exact List.nodup_cons.mpr ⟨hx, ih⟩
  | release _ _ _ ih => exact ih.erase _

/-- Each acquisition of a resource has one release, up to the last one if it is held. -/
theorem count_acquire (h : Ledger uses log held) (x : ρ) :
    log.count (.acquire x) = log.count (.release x) + held.count x := by
  induction h with
  | nil => rfl
  | @acquire log held y _ hy _ ih =>
    rw [List.count_cons, List.count_cons, List.count_cons, ih]
    by_cases hxy : y = x
    · simp [hxy]
      omega
    · simp [hxy]
  | @release log held y h hy _ ih =>
    rw [List.count_cons, List.count_cons, ih]
    by_cases hxy : y = x
    · subst hxy
      have hone : held.count y = 1 := List.count_eq_one_of_mem h.nodup hy
      have hzero : (held.erase y).count y = 0 :=
        List.count_eq_zero.mpr (h.nodup.not_mem_erase)
      simp [hone, hzero]
    · have hsame : (held.erase y).count x = held.count x :=
        List.count_erase_of_ne (fun heq => hxy heq.symm)
      simp [hxy, hsame]

/-! ## What is held -/

/-- The ledger is in order, and exactly the resources `has` are held. -/
def Holds (uses : ρ → ρ → Prop) (log : List (Entry ρ)) (has : ρ → Prop) : Prop :=
  ∃ held, Ledger uses log held ∧ ∀ x, x ∈ held ↔ has x

namespace Holds

variable {has has' : ρ → Prop}

theorem nil (h : ∀ x, ¬ has x) : Holds uses [] has :=
  ⟨[], .nil, fun x => ⟨fun hx => (nomatch hx), fun hx => absurd hx (h x)⟩⟩

theorem congr (h : Holds uses log has) (hiff : ∀ x, has' x ↔ has x) : Holds uses log has' := by
  obtain ⟨held, hledger, hmem⟩ := h
  exact ⟨held, hledger, fun x => (hmem x).trans (hiff x).symm⟩

theorem acquire (h : Holds uses log has) (hx : ¬ has x) (huses : ∀ y, uses x y → has y)
    (hiff : ∀ y, has' y ↔ y = x ∨ has y) : Holds uses (.acquire x :: log) has' := by
  obtain ⟨held, hledger, hmem⟩ := h
  refine ⟨x :: held, hledger.acquire ?_ ?_, fun y => ?_⟩
  · exact fun hx' => hx ((hmem x).mp hx')
  · exact fun y hy => (hmem y).mpr (huses y hy)
  · rw [List.mem_cons, hmem, hiff]

theorem release (h : Holds uses log has) (hx : has x) (husers : ∀ y, has y → ¬ uses y x)
    (hiff : ∀ y, has' y ↔ y ≠ x ∧ has y) : Holds uses (.release x :: log) has' := by
  obtain ⟨held, hledger, hmem⟩ := h
  refine ⟨held.erase x, hledger.release ?_ ?_, fun y => ?_⟩
  · exact (hmem x).mpr hx
  · exact fun y hy => husers y ((hmem y).mp hy)
  · rw [hledger.nodup.mem_erase_iff, hmem, hiff]

/-- What is not held was released as often as it was acquired. -/
theorem count_acquire (h : Holds uses log has) (hx : ¬ has x) :
    log.count (.acquire x) = log.count (.release x) := by
  obtain ⟨held, hledger, hmem⟩ := h
  rw [hledger.count_acquire, List.count_eq_zero.mpr fun hx' => hx ((hmem x).mp hx'),
    Nat.add_zero]

end Holds

end Ledger

end Lightsocks.Lib
