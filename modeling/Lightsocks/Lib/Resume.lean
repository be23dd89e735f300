import Mathlib.Data.List.Basic

/-!
# Items over several connections

Items are sent one behind another over a connection. When it ends, the next one starts with the
item that was not finished, from its beginning.

* `Carries xs k n s`: a connection with the items from the `k`th on; of the stream `s` they put
  on it, `n` items are finished, and a part of the next one is there.
* `Resumes xs k ss`: ended connections, one behind another; the next one starts with item `k`.
* `Carries.isPrefix`: what the other end of a connection can get are items in order.
-/

namespace Lightsocks.Lib

variable {α β : Type} {xs ys : List (List β)} {k n : Nat} {s : List β} {ss : List (List β)}

/-- The stream `s` carries the `n` items from the `k`th on, and a part of the next one. -/
structure Carries (xs : List (List β)) (k n : Nat) (s : List β) : Prop where
  le : k + n ≤ xs.length
  part : ∃ part, s = ((xs.drop k).take n).flatten ++ part ∧ part <+: xs[k + n]?.getD []

/-- The streams `ss` carried the items before the `k`th one, each from where the one before it
ended. -/
inductive Resumes (xs : List (List β)) : Nat → List (List β) → Prop
  | nil : Resumes xs 0 []
  | snoc {k n : Nat} {ss : List (List β)} {s : List β} (h : Resumes xs k ss)
      (hs : Carries xs k n s) : Resumes xs (k + n) (ss ++ [s])

/-- Items that are sent later change nothing. -/
theorem Carries.append (h : Carries xs k n s) (ys : List (List β)) : Carries (xs ++ ys) k n s := by
  have hle := h.le
  obtain ⟨part, hs, hpart⟩ := h.part
  refine ⟨by rw [List.length_append]; omega, part, ?_, ?_⟩
  · rw [hs, List.drop_append_of_le_length (by omega), List.take_append_of_le_length]
    rw [List.length_drop]
    omega
  · by_cases hlt : k + n < xs.length
    · rw [List.getElem?_append_left hlt]
      exact hpart
    · rw [List.getElem?_eq_none (by omega)] at hpart
      rw [List.eq_nil_of_prefix_nil hpart]
      exact List.nil_prefix

theorem Resumes.append (h : Resumes xs k ss) (ys : List (List β)) : Resumes (xs ++ ys) k ss := by
  induction h with
  | nil => exact .nil
  | snoc _ hs ih => exact .snoc ih (hs.append ys)

theorem Resumes.le (h : Resumes xs k ss) : k ≤ xs.length := by
  cases h with
  | nil => exact Nat.zero_le _
  | snoc _ hs => exact hs.le

/-- Each ended connection carried items in order. -/
theorem Resumes.carries (h : Resumes xs k ss) (hs : s ∈ ss) : ∃ k n, Carries xs k n s := by
  induction h with
  | nil => cases hs
  | snoc _ hlast ih =>
    rcases List.mem_append.mp hs with hs | hs
    · exact ih hs
    · obtain rfl := List.mem_singleton.mp hs
      exact ⟨_, _, hlast⟩

/-- What a connection carried is the beginning of its items and the next one. -/
theorem Carries.isPrefix (h : Carries xs k n s) : s <+: ((xs.drop k).take (n + 1)).flatten := by
  obtain ⟨part, rfl, hpart⟩ := h.part
  rw [List.take_add_one, List.flatten_append, List.getElem?_drop]
  apply (List.prefix_append_right_inj _).mpr
  cases hx : xs[k + n]? with
  | none =>
    rw [hx] at hpart
    exact hpart
  | some x =>
    rw [hx] at hpart
    show part <+: [x].flatten
    rw [List.flatten_singleton]
    exact hpart

end Lightsocks.Lib
