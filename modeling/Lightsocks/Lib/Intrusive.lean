import Lightsocks.Lib.Returns
import Lightsocks.Lib.CInt
import Mathlib.Data.List.Dedup
import Mathlib.Data.List.Perm.Subperm
import Mathlib.Tactic.Tauto

/-!
# Lists of nodes inside objects

A pointer is a number, and a list holds pointers.

* `Ordered time tree`: a tree that is searched for its first node has its nodes in the order of
  their keys; it was ordered when they were inserted, so a key may change only in this order.
* `touch`: a list that is kept in the order of use; `dedup_concat` and `dedup_cons` say what that
  order is.
* `findUnused`: the search for an unused id, around the ids below a bound.
-/

namespace Lightsocks.Lib

variable {tree : List Nat} {p q : Nat}

/-- A node is removed from a list that it is in. -/
def unlink (nodes : List Nat) (p : Nat) : Except CFault (List Nat) := do
  assert (nodes.contains p)
  return nodes.erase p

theorem unlink_ok {nodes : List Nat} (h : p ∈ nodes) : unlink nodes p = .ok (nodes.erase p) := by
  unfold unlink
  rw [List.contains_iff_mem.mpr h]
  rfl

/-! ## The order of keys -/

/-- Objects with one key are in the order of their pointers. -/
def Before (time : Nat → Nat) (p q : Nat) : Prop := time p < time q ∨ (time p = time q ∧ p < q)

instance (time : Nat → Nat) (p q : Nat) : Decidable (Before time p q) :=
  inferInstanceAs (Decidable (_ ∨ _))

def insertOrdered (time : Nat → Nat) (p : Nat) : List Nat → List Nat
  | [] => [p]
  | q :: tree => if Before time p q then p :: q :: tree else q :: insertOrdered time p tree

def Ordered (time : Nat → Nat) (tree : List Nat) : Prop := tree.Pairwise (Before time)

section

variable {time time' : Nat → Nat}

theorem mem_insertOrdered : q ∈ insertOrdered time p tree ↔ q = p ∨ q ∈ tree := by
  induction tree with
  | nil => simp [insertOrdered]
  | cons q' tree ih =>
    unfold insertOrdered
    split
    · rw [List.mem_cons]
    · rw [List.mem_cons, ih, List.mem_cons]
      tauto

theorem Ordered.insert (h : Ordered time tree) (hp : p ∉ tree) :
    Ordered time (insertOrdered time p tree) := by
  induction tree with
  | nil => exact List.pairwise_singleton _ p
  | cons q tree ih =>
    obtain ⟨hq, htree⟩ := List.pairwise_cons.mp h
    rw [List.mem_cons, not_or] at hp
    unfold insertOrdered
    split
    · rename_i hbefore
      apply List.pairwise_cons.mpr
      refine ⟨fun q' hq' => ?_, h⟩
      rcases List.mem_cons.mp hq' with rfl | hq'
      · exact hbefore
      · have hqq' := hq q' hq'
        unfold Before at hbefore hqq' ⊢
        omega
    · rename_i hbefore
      apply List.pairwise_cons.mpr
      refine ⟨fun q' hq' => ?_, ih htree hp.2⟩
      rcases mem_insertOrdered.mp hq' with rfl | hq'
      · have hne := hp.1
        unfold Before at hbefore ⊢
        omega
      · exact hq q' hq'

theorem Ordered.nodup (h : Ordered time tree) : tree.Nodup := by
  apply h.imp
  rintro p q hpq rfl
  unfold Before at hpq
  omega

theorem Ordered.erase (h : Ordered time tree) (p : Nat) : Ordered time (tree.erase p) :=
  h.sublist List.erase_sublist

/-- The keys change in their order. -/
theorem Ordered.congr (h : Ordered time tree)
    (hbefore : ∀ p ∈ tree, ∀ q ∈ tree, Before time p q → Before time' p q) : Ordered time' tree :=
  List.Pairwise.imp_of_mem (fun hp hq => hbefore _ hp _ hq) h

/-- The first node has the smallest key. -/
theorem Ordered.head_le (h : Ordered time (p :: tree)) (hq : q ∈ p :: tree) : time p ≤ time q := by
  rcases List.mem_cons.mp hq with rfl | hq
  · exact Nat.le_refl _
  · have hbefore := (List.pairwise_cons.mp h).1 q hq
    unfold Before at hbefore
    omega

end

/-! ## The order of use -/

/-- A node that is used moves to the end. -/
def touch (nodes : List Nat) (p : Nat) : List Nat := nodes.erase p ++ [p]

theorem mem_touch {nodes : List Nat} (h : p ∈ nodes) : q ∈ touch nodes p ↔ q ∈ nodes := by
  unfold touch
  by_cases hq : q = p
  · rw [hq]
    simp [h]
  · simp [List.mem_erase_of_ne hq, hq]

theorem touch_perm {nodes : List Nat} (h : p ∈ nodes) : (touch nodes p).Perm nodes :=
  (List.perm_append_singleton p _).trans (List.perm_cons_erase h).symm

/-- A list without duplicates, in the order of the last uses. -/
theorem dedup_concat (uses : List Nat) (p : Nat) :
    (uses ++ [p]).dedup = touch uses.dedup p := by
  induction uses with
  | nil => rfl
  | cons q uses ih =>
    rw [List.cons_append]
    by_cases hq : q ∈ uses
    · rw [List.dedup_cons_of_mem (List.mem_append_left _ hq), List.dedup_cons_of_mem hq, ih]
    · rw [List.dedup_cons_of_notMem hq]
      by_cases hqp : q = p
      · rw [List.dedup_cons_of_mem (by simp [hqp]), ih, hqp, touch, touch, List.erase_cons_head,
          List.erase_of_not_mem fun hp => hq (hqp ▸ List.mem_dedup.mp hp)]
      · rw [List.dedup_cons_of_notMem (by simp [hq, hqp]), ih, touch, touch,
          List.erase_cons_tail (by simpa using hqp), List.cons_append]

/-- The first node is the least recently used one: every other one was used after it. -/
theorem dedup_cons {uses rest : List Nat} (h : uses.dedup = p :: rest) :
    ∃ before after, uses = before ++ p :: after ∧ p ∉ after ∧ ∀ q ∈ rest, q ∈ after := by
  induction uses with
  | nil => cases h
  | cons q uses ih =>
    by_cases hq : q ∈ uses
    · rw [List.dedup_cons_of_mem hq] at h
      obtain ⟨before, after, rfl, hp, hafter⟩ := ih h
      exact ⟨q :: before, after, rfl, hp, hafter⟩
    · rw [List.dedup_cons_of_notMem hq] at h
      cases h
      exact ⟨[], uses, rfl, hq, fun q' hq' => List.mem_dedup.mp hq'⟩

/-! ## Unused ids -/

/-- The first unused id from `i` on, around the ids below `m`. -/
def findUnused (used : Nat → Bool) (m : Nat) : Nat → Nat → Option Nat
  | 0, _ => none
  | rounds + 1, i =>
    if used i then findUnused used m rounds (if i = m - 1 then 0 else i + 1) else some i

theorem findUnused_some {used : Nat → Bool} {m rounds i j : Nat} (hi : i < m)
    (h : findUnused used m rounds i = some j) : j < m ∧ used j = false := by
  induction rounds generalizing i with
  | zero => cases h
  | succ rounds ih =>
    unfold findUnused at h
    split at h
    · apply ih _ h
      split
      · omega
      · omega
    · rename_i hused
      cases h
      exact ⟨hi, Bool.eq_false_iff.mpr hused⟩

theorem findUnused_none {used : Nat → Bool} {m rounds i : Nat} (hi : i < m)
    (h : findUnused used m rounds i = none) : ∀ j < rounds, used ((i + j) % m) = true := by
  induction rounds generalizing i with
  | zero =>
    intro j hj
    exact absurd hj (Nat.not_lt_zero j)
  | succ rounds ih =>
    unfold findUnused at h
    split at h
    · rename_i hused
      have hnext : (if i = m - 1 then 0 else i + 1) = (i + 1) % m := by
        split
        · rename_i heq
          rw [heq, Nat.sub_add_cancel (by omega), Nat.mod_self]
        · exact (Nat.mod_eq_of_lt (by omega)).symm
      rw [hnext] at h
      intro j hj
      cases j with
      | zero =>
        rw [Nat.add_zero, Nat.mod_eq_of_lt hi]
        exact hused
      | succ j =>
        have hj' := ih (Nat.mod_lt _ (by omega)) h j (by omega)
        rw [Nat.mod_add_mod] at hj'
        rw [← hj']
        congr 2
        omega
    · cases h

/-- With fewer than `m` ids in use, one round around them finds an unused one. -/
theorem findUnused_of_lt {used : Nat → Bool} {m i : Nat} {ids : List Nat} (hi : i < m)
    (hids : ∀ j < m, used j = true → j ∈ ids) (hlen : ids.length < m) :
    ∃ j, findUnused used m m i = some j ∧ j < m ∧ used j = false := by
  cases h : findUnused used m m i with
  | some j => exact ⟨j, rfl, findUnused_some hi h⟩
  | none =>
    have hall : List.range m ⊆ ids := by
      intro j hj
      have hj := List.mem_range.mp hj
      apply hids j hj
      have hused := findUnused_none hi h ((j + (m - i)) % m) (Nat.mod_lt _ (by omega))
      rw [Nat.add_mod_mod, show i + (j + (m - i)) = j + m from by omega, Nat.add_mod_right,
        Nat.mod_eq_of_lt hj] at hused
      exact hused
    have hle := (List.nodup_range.subperm hall).length_le
    rw [List.length_range] at hle
    omega

end Lightsocks.Lib
