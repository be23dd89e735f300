import Lightsocks.Lib.Returns
import Lightsocks.Lib.CInt
import Mathlib.Logic.Function.Basic

/-!
# Objects that are allocated and freed

A pointer is the number of an allocation, so it is never that of another object later, and an
access to an object that was freed is a fault. What a heap holds is the function `get`; every
operation changes it at one pointer.
-/

namespace Lightsocks.Lib

structure Heap (α : Type) where
  cells : List (Option α)
  deriving DecidableEq, Repr

namespace Heap

variable {α : Type} {h : Heap α} {p q : Nat} {a : α} {x : Option α}

/-- A heap from which nothing was allocated. -/
def empty : Heap α := ⟨[]⟩

/-- The next pointer. -/
def next (h : Heap α) : Nat := h.cells.length

def get (h : Heap α) (p : Nat) : Option α := h.cells[p]?.join

def set (h : Heap α) (p : Nat) (x : Option α) : Heap α := ⟨h.cells.set p x⟩

def alloc (h : Heap α) (a : α) : Heap α := ⟨h.cells ++ [some a]⟩

def read (h : Heap α) (p : Nat) : Except CFault α :=
  match h.get p with
  | none => throw (.outOfBounds p h.next)
  | some a => return a

def write (h : Heap α) (p : Nat) (a : α) : Except CFault (Heap α) := do
  let _ ← h.read p
  return h.set p (some a)

def free (h : Heap α) (p : Nat) : Except CFault (Heap α) := do
  let _ ← h.read p
  return h.set p none

theorem lt_next (hp : h.get p = some a) : p < h.next := by
  unfold get at hp
  rw [Option.join_eq_some_iff] at hp
  exact (List.getElem?_eq_some_iff.mp hp).1

theorem get_next : h.get h.next = none := by
  unfold get next
  rw [List.getElem?_eq_none (Nat.le_refl _)]
  rfl

@[simp] theorem next_set : (h.set p x).next = h.next := List.length_set

@[simp] theorem next_alloc : (h.alloc a).next = h.next + 1 := by
  unfold next alloc
  rw [List.length_append, List.length_singleton]

theorem get_set (hp : p < h.next) : (h.set p x).get = Function.update h.get p x := by
  ext q : 1
  by_cases hq : q = p
  · rw [hq, Function.update_self, get, set, List.getElem?_set_self hp]
    rfl
  · rw [Function.update_of_ne hq, get, set, List.getElem?_set_ne (Ne.symm hq), get]

theorem set_self (hp : h.get p = some a) : h.set p (some a) = h := by
  unfold get at hp
  rw [Option.join_eq_some_iff] at hp
  obtain ⟨hlt, hcell⟩ := List.getElem?_eq_some_iff.mp hp
  unfold set
  rw [← hcell, List.set_getElem_self]

theorem get_alloc : (h.alloc a).get = Function.update h.get h.next (some a) := by
  ext q : 1
  by_cases hq : q = h.next
  · rw [hq, Function.update_self, get, alloc, next,
      List.getElem?_append_right (Nat.le_refl _), Nat.sub_self]
    rfl
  · rw [Function.update_of_ne hq, get, get, alloc, List.getElem?_append]
    split
    · rfl
    · rename_i hlt
      unfold next at hq
      have hlen : [some a].length ≤ q - h.cells.length := by
        rw [List.length_singleton]
        omega
      rw [List.getElem?_eq_none hlen, List.getElem?_eq_none (Nat.le_of_not_lt hlt)]

theorem read_ok (hp : h.get p = some a) : h.read p = .ok a := by
  unfold read
  rw [hp]
  rfl

theorem write_ok (hp : h.get p = some a) (b : α) : h.write p b = .ok (h.set p (some b)) := by
  unfold write
  rw [read_ok hp]
  rfl

theorem free_ok (hp : h.get p = some a) : h.free p = .ok (h.set p none) := by
  unfold free
  rw [read_ok hp]
  rfl

end Heap

end Lightsocks.Lib
