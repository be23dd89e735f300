import Mathlib.Data.List.Basic

/-!
# Queues side by side

A list of elements with keys stands for a queue for each key, next to each other: an element may
be taken if no element with its key is before it. `under key k` is the queue for `k`, and `pick`
takes the first element of a queue.
-/

namespace Lightsocks.Lib

variable {α κ : Type} [DecidableEq κ] {key : α → κ} {k : κ} {l : List α} {a : α} {i : Nat}

def under (key : α → κ) (k : κ) (l : List α) : List α := l.filter fun a => key a == k

/-- The element at `i`, if it is the first one with its key. -/
def pick (key : α → κ) (l : List α) (i : Nat) : Option α :=
  l[i]?.filter fun a => (l.take i).all fun b => key b != key a

theorem under_append (l l' : List α) : under key k (l ++ l') = under key k l ++ under key k l' :=
  List.filter_append _ _

theorem under_self (h : key a = k) : under key k [a] = [a] :=
  List.filter_cons_of_pos (beq_iff_eq.mpr h)

theorem under_ne (h : key a ≠ k) : under key k [a] = [] :=
  List.filter_cons_of_neg (by simpa using h)

theorem pick_eq_some (h : pick key l i = some a) :
    l = l.take i ++ a :: l.drop (i + 1) ∧ l.eraseIdx i = l.take i ++ l.drop (i + 1) ∧
      under key (key a) (l.take i) = [] := by
  unfold pick at h
  obtain ⟨hget, hfirst⟩ := Option.filter_eq_some_iff.mp h
  obtain ⟨hlt, hget⟩ := List.getElem?_eq_some_iff.mp hget
  refine ⟨?_, List.eraseIdx_eq_take_drop_succ l i, ?_⟩
  · rw [← hget, List.getElem_cons_drop, List.take_append_drop]
  · unfold under
    rw [List.filter_eq_nil_iff]
    intro b hb
    simpa using List.all_eq_true.mp hfirst b hb

theorem mem_of_pick (h : pick key l i = some a) : a ∈ l := by
  rw [(pick_eq_some h).1]
  simp

/-- The element is the first one of its queue. -/
theorem under_pick (h : pick key l i = some a) :
    under key (key a) l = a :: under key (key a) (l.eraseIdx i) := by
  obtain ⟨hl, herase, hnil⟩ := pick_eq_some h
  rw [herase, under_append, hnil, List.nil_append]
  conv_lhs => rw [hl]
  rw [under_append, hnil, List.nil_append]
  exact List.filter_cons_of_pos (beq_self_eq_true _)

/-- The other queues stay. -/
theorem under_pick_ne (h : pick key l i = some a) (hk : key a ≠ k) :
    under key k (l.eraseIdx i) = under key k l := by
  obtain ⟨hl, herase, -⟩ := pick_eq_some h
  rw [herase, under_append]
  conv_rhs => rw [hl]
  rw [under_append]
  congr 1
  exact (List.filter_cons_of_neg (by simpa using hk)).symm

/-- A place in a queue is a place in the list. -/
theorem under_eq_append {before after : List α} (h : under key k l = before ++ a :: after) :
    ∃ l₁ l₂, l = l₁ ++ a :: l₂ ∧ under key k l₁ = before ∧ key a = k := by
  obtain ⟨l₁, l', rfl, hbefore, hafter⟩ := List.filter_eq_append_iff.mp h
  obtain ⟨l₂, l₃, rfl, hskip, hkey, -⟩ := List.filter_eq_cons_iff.mp hafter
  refine ⟨l₁ ++ l₂, l₃, (List.append_assoc _ _ _).symm, ?_, eq_of_beq hkey⟩
  rw [under_append]
  have hnil : under key k l₂ = [] := List.filter_eq_nil_iff.mpr hskip
  rw [hnil, List.append_nil]
  exact hbefore

end Lightsocks.Lib
