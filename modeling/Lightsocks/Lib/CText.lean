import Mathlib.Algebra.Group.Nat.Defs
import Mathlib.Data.List.TakeWhile

/-!
# Numbers in C strings

`strtol`, and the conversion `%u` of `sscanf`. A C string is the list of its bytes, without the
terminating `0`, which `cStr` finds. A number in a text is white space, perhaps a sign, and
digits; both functions skip what is before them and leave what is behind.
-/

namespace Lightsocks.Lib

/-- What a C function sees of the bytes at a `char *`. -/
def cStr (bytes : List UInt8) : List UInt8 := bytes.takeWhile (· != 0)

def isspace (c : UInt8) : Bool := c.toNat == 32 || (9 ≤ c.toNat && c.toNat ≤ 13)

def isdigit (c : UInt8) : Bool := 48 ≤ c.toNat && c.toNat ≤ 57

/-- The number that decimal digits write. -/
def decimal (digits : List UInt8) : Nat :=
  digits.foldl (fun n c => 10 * n + (c.toNat - 48)) 0

/-- The sign, and what is behind it. -/
def strtolSign : List UInt8 → Bool × List UInt8
  | 45 :: s => (true, s)
  | 43 :: s => (false, s)
  | s => (false, s)

/-- `strtol(s, &err, 10)`: the value and what `err` points to. The value is not cut to `long`. -/
def strtol (s : List UInt8) : Int × List UInt8 :=
  let (negative, body) := strtolSign (s.dropWhile isspace)
  let digits := body.takeWhile isdigit
  if digits = [] then (0, s)
  else (if negative then -(decimal digits : Int) else decimal digits, body.dropWhile isdigit)

/-- `%u` of `sscanf`: the value of `strtoumax`, which is the largest one when the number is too
large for 64 bits, cut to 32 bits. There has to be a digit. -/
def scanUnsigned (s : List UInt8) : Option (UInt32 × List UInt8) :=
  let (value, err) := strtol s
  if err = s then none
  else if 2 ^ 64 ≤ value.natAbs then some (0xffffffff, err)
  else some (UInt32.ofInt value, err)

/-! ## What `strtol` reads to the end -/

theorem isdigit_lt {c : UInt8} (h : isdigit c = true) : c.toNat < 128 := by
  simp only [isdigit, Bool.and_eq_true, decide_eq_true_eq] at h
  omega

theorem isspace_lt {c : UInt8} (h : isspace c = true) : c.toNat < 128 := by
  simp only [isspace, Bool.or_eq_true, Bool.and_eq_true, beq_iff_eq, decide_eq_true_eq] at h
  omega

theorem lt_of_mem_strtolSign {s : List UInt8} (h : ∀ c ∈ (strtolSign s).2, c.toNat < 128) :
    ∀ c ∈ s, c.toNat < 128 := by
  unfold strtolSign at h
  split at h
  · intro c hc
    rcases List.mem_cons.mp hc with rfl | hc
    · decide
    · exact h c hc
  · intro c hc
    rcases List.mem_cons.mp hc with rfl | hc
    · decide
    · exact h c hc
  · exact h

/-- All that is read is ASCII, so a text that is read to the end is. -/
theorem ascii_of_strtol {s : List UInt8} (hne : s ≠ []) (h : (strtol s).2 = []) :
    ∀ c ∈ s, c.toNat < 128 := by
  unfold strtol at h
  dsimp only at h
  split at h
  · exact absurd h hne
  · have hbody : ∀ c ∈ (strtolSign (s.dropWhile isspace)).2, c.toNat < 128 := by
      intro c hc
      exact isdigit_lt (List.dropWhile_eq_nil_iff.mp h c hc)
    have hdrop := lt_of_mem_strtolSign hbody
    intro c hc
    rw [← List.takeWhile_append_dropWhile (p := isspace) (l := s)] at hc
    rcases List.mem_append.mp hc with hc | hc
    · exact isspace_lt (List.mem_takeWhile_imp hc)
    · exact hdrop c hc

/-- A text that begins with digits is read up to their end. -/
theorem strtol_digits {s rest : List UInt8} (hne : s ≠ []) (h : ∀ c ∈ s, isdigit c = true)
    (hrest : ∀ c ∈ rest.head?, isdigit c = false) :
    strtol (s ++ rest) = ((decimal s : Int), rest) := by
  obtain ⟨c, s', rfl⟩ := List.exists_cons_of_ne_nil hne
  have hc := h c (by simp)
  have hspace : isspace c = false := by
    simp only [isdigit, Bool.and_eq_true, decide_eq_true_eq] at hc
    simp only [isspace, Bool.or_eq_false_iff, Bool.and_eq_false_iff, beq_eq_false_iff_ne,
      decide_eq_false_iff_not]
    omega
  have hsign : strtolSign (c :: (s' ++ rest)) = (false, c :: (s' ++ rest)) := by
    unfold strtolSign
    split
    · rename_i heq
      cases heq
      exact absurd hc (by decide)
    · rename_i heq
      cases heq
      exact absurd hc (by decide)
    · rfl
  have hstop : rest.takeWhile isdigit = [] ∧ rest.dropWhile isdigit = rest := by
    cases rest with
    | nil => exact ⟨rfl, rfl⟩
    | cons c' rest =>
      have hc' := hrest c' rfl
      simp [hc']
  have htake : (c :: s' ++ rest).takeWhile isdigit = c :: s' := by
    rw [List.takeWhile_append_of_pos h, hstop.1, List.append_nil]
  have hdrop : (c :: s' ++ rest).dropWhile isdigit = rest := by
    rw [List.dropWhile_append_of_pos h, hstop.2]
  unfold strtol
  rw [List.cons_append, List.dropWhile_cons_of_neg (by rw [hspace]; decide), hsign]
  dsimp only
  rw [← List.cons_append, htake, hdrop, if_neg (by simp)]
  rfl

/-- A number of 32 bits is read by `%u` as it is. -/
theorem scanUnsigned_digits {s rest : List UInt8} (hne : s ≠ [])
    (h : ∀ c ∈ s, isdigit c = true) (hrest : ∀ c ∈ rest.head?, isdigit c = false)
    (hlt : decimal s < 2 ^ 32) :
    scanUnsigned (s ++ rest) = some (UInt32.ofNat (decimal s), rest) := by
  have herr : rest ≠ s ++ rest := by
    intro heq
    have hlen := congrArg List.length heq
    rw [List.length_append] at hlen
    exact hne (List.length_eq_zero_iff.mp (by omega))
  have hvalue : UInt32.ofInt (decimal s) = UInt32.ofNat (decimal s) := by
    apply UInt32.toNat_inj.mp
    rw [UInt32.ofInt, UInt32.toNat_ofNat', UInt32.toNat_ofNat']
    omega
  unfold scanUnsigned
  rw [strtol_digits hne h hrest]
  dsimp only
  rw [if_neg herr, if_neg (by omega), hvalue]

end Lightsocks.Lib
