import Mathlib.Algebra.Group.Nat.Defs
import Mathlib.Data.List.Basic
import Mathlib.Tactic.Ring

/-!
# Streams of bits

A word of `w` bits, most significant bit first, and the words of another width that a stream
of bits is cut into. A last word that is not complete is dropped.
-/

namespace Lightsocks.Lib

/-! ## Words -/

/-- The `w` low bits of `n`, most significant first. -/
def toBits : Nat → Nat → List Bool
  | 0, _ => []
  | w + 1, n => (n / 2 ^ w % 2 == 1) :: toBits w n

/-- The number that a list of bits writes, most significant first. -/
def ofBits : List Bool → Nat
  | [] => 0
  | b :: bs => b.toNat * 2 ^ bs.length + ofBits bs

@[simp] theorem length_toBits (w n : Nat) : (toBits w n).length = w := by
  induction w with
  | zero => rfl
  | succ w ih => simp [toBits, ih]

theorem ofBits_append (xs ys : List Bool) :
    ofBits (xs ++ ys) = ofBits xs * 2 ^ ys.length + ofBits ys := by
  induction xs with
  | nil => simp [ofBits]
  | cons x xs ih =>
    simp only [List.cons_append, ofBits, ih, List.length_append]
    ring

theorem ofBits_toBits (w n : Nat) : ofBits (toBits w n) = n % 2 ^ w := by
  induction w with
  | zero => simp [toBits, ofBits, Nat.mod_one]
  | succ w ih =>
    have hbit : (n / 2 ^ w % 2 == 1).toNat = n / 2 ^ w % 2 := by
      rcases Nat.mod_two_eq_zero_or_one (n / 2 ^ w) with h | h <;> simp [h]
    rw [toBits, ofBits, length_toBits, ih, hbit, Nat.pow_succ, Nat.mod_mul]
    ring

theorem ofBits_lt (bits : List Bool) : ofBits bits < 2 ^ bits.length := by
  induction bits with
  | nil => simp [ofBits]
  | cons b bits ih =>
    have hb : b.toNat ≤ 1 := Bool.toNat_le b
    have hmul : b.toNat * 2 ^ bits.length ≤ 1 * 2 ^ bits.length := Nat.mul_le_mul_right _ hb
    rw [ofBits, List.length_cons, Nat.pow_succ]
    omega

/-- The high bits and then the low bits. -/
theorem toBits_add (v w n : Nat) : toBits (v + w) n = toBits v (n / 2 ^ w) ++ toBits w n := by
  induction v with
  | zero => simp [toBits]
  | succ v ih =>
    have hdiv : n / 2 ^ (v + w) = n / 2 ^ w / 2 ^ v := by
      rw [Nat.div_div_eq_div_mul, Nat.pow_add, Nat.mul_comm]
    rw [Nat.succ_add, toBits, toBits, ih, hdiv, List.cons_append]

/-- A word whose bits are the low bits of one word behind the high bits of another. -/
theorem ofBits_toBits_append (v w m n : Nat) :
    ofBits (toBits v m ++ toBits w n) = m % 2 ^ v * 2 ^ w + n % 2 ^ w := by
  rw [ofBits_append, ofBits_toBits, ofBits_toBits, length_toBits]

/-! ## Cutting a stream into words -/

/-- The complete words of `w` bits of a stream, in order. -/
def words (w : Nat) (bits : List Bool) : List Nat :=
  (List.range (bits.length / w)).map fun i => ofBits ((bits.drop (w * i)).take w)

@[simp] theorem length_words (w : Nat) (bits : List Bool) :
    (words w bits).length = bits.length / w := by
  simp [words]

theorem words_eq_nil {w : Nat} {bits : List Bool} (h : bits.length < w) : words w bits = [] := by
  simp [words, Nat.div_eq_of_lt h]

/-- The first word and the words of the rest. -/
theorem words_append {w : Nat} {word rest : List Bool} (h : word.length = w) (hw : 0 < w) :
    words w (word ++ rest) = ofBits word :: words w rest := by
  have hlen : (word ++ rest).length / w = rest.length / w + 1 := by
    rw [List.length_append, h, Nat.add_comm, Nat.add_div_right _ hw]
  unfold words
  rw [hlen, List.range_succ_eq_map, List.map_cons, List.map_map]
  congr 1
  · rw [Nat.mul_zero, List.drop_zero, List.take_left' h]
  · apply List.map_congr_left
    intro i hi
    have hdrop : (word ++ rest).drop (w * (i + 1)) = rest.drop (w * i) := by
      rw [Nat.mul_succ, Nat.add_comm, ← List.drop_drop, List.drop_left' h]
    simp only [Function.comp_apply, Nat.succ_eq_add_one, hdrop]

/-- Bits that do not complete a word add nothing. -/
theorem words_append_short {w : Nat} {bits rest : List Bool}
    (h : (bits ++ rest).length / w = bits.length / w) : words w (bits ++ rest) = words w bits := by
  unfold words
  rw [h]
  apply List.map_congr_left
  intro i hi
  have hle : w * i + w ≤ bits.length := calc
    w * i + w = w * (i + 1) := (Nat.mul_succ w i).symm
    _ ≤ w * (bits.length / w) := Nat.mul_le_mul_left w (List.mem_range.mp hi)
    _ ≤ bits.length := Nat.mul_div_le bits.length w
  rw [List.drop_append_of_le_length (by omega), List.take_append_of_le_length]
  rw [List.length_drop]
  omega

theorem lt_of_mem_words {w n : Nat} {bits : List Bool} (h : n ∈ words w bits) : n < 2 ^ w := by
  obtain ⟨i, -, rfl⟩ := List.mem_map.mp h
  apply Nat.lt_of_lt_of_le (ofBits_lt _)
  exact Nat.pow_le_pow_right (by omega) (List.length_take_le w _)

end Lightsocks.Lib
