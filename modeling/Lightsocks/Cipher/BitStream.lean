import Lightsocks.Cipher.RoundTrip
import Lightsocks.Lib.Bits
import Mathlib.Data.List.TakeWhile

/-!
# What `base64_decode` computes

The specification reads the longest prefix of the text that lies in the alphabet, writes the
6 bits of each of its characters behind each other and cuts the stream into bytes. The code
does it four characters at a time, and ends with a group of up to three characters whose
missing values are `255`; those reach no byte that is written out.
-/

namespace Lightsocks.Cipher

open Lib

/-! ## The specification -/

/-- The longest prefix made of characters of the alphabet. -/
def alphabetPrefix (str : List UInt8) : List UInt8 :=
  str.takeWhile fun c => base64Chars.contains c

/-- The value of a character is its place in the alphabet. -/
def charValue (c : UInt8) : Nat := base64Chars.idxOf c

/-- The 6-bit values of the prefix behind each other, most significant bit first. -/
def bitStream (str : List UInt8) : List Bool :=
  (alphabetPrefix str).flatMap fun c => toBits 6 (charValue c)

/-! ## The characters that are read -/

/-- The alphabet as the three ranges that `isalnum` tests, and the two characters behind. -/
theorem base64Chars_ranges : base64Chars =
    (List.range' 65 26 ++ List.range' 97 26 ++ List.range' 48 10 ++ [43, 47]).map UInt8.ofNat :=
  rfl

theorem isBase64_iff (c : UInt8) : isBase64 c = true ↔ c ∈ base64Chars := by
  have hlt := c.toNat_lt
  rw [base64Chars_ranges]
  simp only [isBase64, isalnum, Bool.or_eq_true, Bool.and_eq_true, decide_eq_true_eq, beq_iff_eq,
    UInt8.le_iff_toNat_le, List.mem_map, List.mem_append, List.mem_range'_1, List.mem_cons,
    List.not_mem_nil, or_false, ← UInt8.toNat_inj]
  constructor
  · intro h
    refine ⟨c.toNat, ?_, by simp⟩
    simp only [UInt8.reduceToNat] at h
    omega
  · rintro ⟨k, hk, hc⟩
    rw [UInt8.toNat_ofNat'] at hc
    simp only [UInt8.reduceToNat]
    omega

theorem isBase64_eq (c : UInt8) : isBase64 c = base64Chars.contains c := by
  rw [Bool.eq_iff_iff, isBase64_iff, List.contains_iff_mem]

/-- `'='` needs no test of its own, it is outside the alphabet. -/
theorem continues_eq (c : UInt8) : (c != padChar && isBase64 c) = base64Chars.contains c := by
  rw [isBase64_eq]
  by_cases hc : c = padChar
  · subst hc
    rfl
  · have hne : (c != padChar) = true := by simpa using hc
    rw [hne, Bool.true_and]

/-- The loop reads the prefix and nothing behind it. -/
theorem decodeLoop_cut (str group ret : List UInt8) :
    decodeLoop str group ret = decodeLoop (alphabetPrefix str) group ret := by
  induction str generalizing group ret with
  | nil => rfl
  | cons x str ih =>
    unfold alphabetPrefix at ih ⊢
    rw [List.takeWhile_cons]
    cases hx : base64Chars.contains x with
    | false => simp only [decodeLoop, continues_eq, hx, Bool.false_eq_true, if_false]
    | true =>
      simp only [decodeLoop, continues_eq, hx, if_true]
      split
      · exact ih _ _
      · exact ih _ _

theorem base64Decode_cut (str : List UInt8) :
    base64Decode str = base64Decode (alphabetPrefix str) := by
  unfold base64Decode
  rw [decodeLoop_cut]

theorem mem_of_read {str : List UInt8} {c : UInt8} (h : c ∈ alphabetPrefix str) :
    c ∈ base64Chars := by
  have hc := List.all_takeWhile (p := fun c => base64Chars.contains c) (l := str)
  rw [List.all_eq_true] at hc
  simpa using hc c h

theorem charValue_lt {c : UInt8} (h : c ∈ base64Chars) : charValue c < 64 :=
  List.idxOf_lt_length_of_mem h

theorem charAt_charValue {c : UInt8} (h : c ∈ base64Chars) :
    charAt (UInt8.ofNat (charValue c)) = c := by
  have hlt := charValue_lt h
  have hlen : charValue c < base64Chars.length := charValue_lt h
  have hget : base64Chars[charValue c] = c := List.getElem_idxOf hlen
  have hval : (UInt8.ofNat (charValue c)).toNat = charValue c := by
    rw [UInt8.toNat_ofNat']
    omega
  rw [charAt, hval, List.getD_eq_getElem?_getD, List.getElem?_eq_getElem hlen, hget]
  rfl

/-- A character of the alphabet, as the decoder sees it: `charAt` of a 6-bit value. -/
theorem exists_value {c : UInt8} (h : c ∈ base64Chars) :
    ∃ k : UInt8, k.toNat < 64 ∧ c = charAt k ∧ charValue c = k.toNat := by
  have hlt := charValue_lt h
  have hval : (UInt8.ofNat (charValue c)).toNat = charValue c := by
    rw [UInt8.toNat_ofNat']
    omega
  exact ⟨UInt8.ofNat (charValue c), by omega, (charAt_charValue h).symm, hval.symm⟩

/-! ## One group of values

The bits of the second value are split after two, those of the third after four.
-/

section Group

variable {w x y z : UInt8}

theorem toNat_first (hx : x.toNat < 64) :
    (w <<< 2) + ((x &&& 0x30) >>> 4) =
      UInt8.ofNat (ofBits (toBits 6 w.toNat ++ toBits 2 (x.toNat / 2 ^ 4))) := by
  apply UInt8.toNat_inj.mp
  rw [UInt8.toNat_add, toNat_shift2, toNat_mid2, UInt8.toNat_ofNat', ofBits_toBits_append]
  omega

theorem toNat_second (hy : y.toNat < 64) :
    ((x &&& 0xf) <<< 4) + ((y &&& 0x3c) >>> 2) =
      UInt8.ofNat (ofBits (toBits 4 x.toNat ++ toBits 4 (y.toNat / 2 ^ 2))) := by
  apply UInt8.toNat_inj.mp
  rw [UInt8.toNat_add, toNat_low4_shift4, toNat_mid4, UInt8.toNat_ofNat', ofBits_toBits_append]
  omega

theorem toNat_third (hz : z.toNat < 64) :
    ((y &&& 0x3) <<< 6) + z = UInt8.ofNat (ofBits (toBits 2 y.toNat ++ toBits 6 z.toNat)) := by
  apply UInt8.toNat_inj.mp
  rw [UInt8.toNat_add, toNat_low2_shift6, UInt8.toNat_ofNat', ofBits_toBits_append]
  omega

/-- Two values: their first eight bits, and four bits left. -/
theorem words_two (hx : x.toNat < 64) (rest : List Bool) :
    (words 8 (toBits 6 w.toNat ++ (toBits 6 x.toNat ++ rest))).map UInt8.ofNat =
      ((w <<< 2) + ((x &&& 0x30) >>> 4)) ::
        (words 8 (toBits 4 x.toNat ++ rest)).map UInt8.ofNat := by
  have hsplit : toBits 6 w.toNat ++ (toBits 6 x.toNat ++ rest) =
      (toBits 6 w.toNat ++ toBits 2 (x.toNat / 2 ^ 4)) ++ (toBits 4 x.toNat ++ rest) := by
    rw [toBits_add 2 4 x.toNat]
    simp only [List.append_assoc]
  rw [hsplit, words_append (by simp) (by omega), List.map_cons, toNat_first hx]

/-- The four bits left of the second value and the first four of the third. -/
theorem words_three (hy : y.toNat < 64) (rest : List Bool) :
    (words 8 (toBits 4 x.toNat ++ (toBits 6 y.toNat ++ rest))).map UInt8.ofNat =
      (((x &&& 0xf) <<< 4) + ((y &&& 0x3c) >>> 2)) ::
        (words 8 (toBits 2 y.toNat ++ rest)).map UInt8.ofNat := by
  have hsplit : toBits 4 x.toNat ++ (toBits 6 y.toNat ++ rest) =
      (toBits 4 x.toNat ++ toBits 4 (y.toNat / 2 ^ 2)) ++ (toBits 2 y.toNat ++ rest) := by
    rw [toBits_add 4 2 y.toNat]
    simp only [List.append_assoc]
  rw [hsplit, words_append (by simp) (by omega), List.map_cons, toNat_second hy]

/-- The two bits left of the third value and all of the fourth. -/
theorem words_four (hz : z.toNat < 64) (rest : List Bool) :
    (words 8 (toBits 2 y.toNat ++ (toBits 6 z.toNat ++ rest))).map UInt8.ofNat =
      (((y &&& 0x3) <<< 6) + z) :: (words 8 rest).map UInt8.ofNat := by
  rw [← List.append_assoc, words_append (by simp) (by omega), List.map_cons, toNat_third hz]

end Group

/-! ## The whole text -/

/-- The values of a group of `i` characters as the tail completes it, with any bytes behind
them; the code's are `255`. -/
def completedGroup (group fill : List UInt8) : List UInt8 :=
  let a := group.map findChar ++ fill
  decodeGroup (a.getD 0 0) (a.getD 1 0) (a.getD 2 0) (a.getD 3 0)

/-- The filler never reaches a byte that is written out. -/
theorem decodeTail_fill (group ret fill : List UInt8) (hpos : 0 < group.length)
    (hlt : group.length < 4) :
    decodeTail group ret = ret ++ (completedGroup group fill).take (group.length - 1) := by
  obtain ⟨a, rfl⟩ | ⟨a, b, rfl⟩ | ⟨a, b, c, rfl⟩ :
      (∃ a, group = [a]) ∨ (∃ a b, group = [a, b]) ∨ ∃ a b c, group = [a, b, c] := by
    match group, hpos, hlt with
    | [a], _, _ => exact Or.inl ⟨a, rfl⟩
    | [a, b], _, _ => exact Or.inr (Or.inl ⟨a, b, rfl⟩)
    | [a, b, c], _, _ => exact Or.inr (Or.inr ⟨a, b, c, rfl⟩)
  · simp [decodeTail, completedGroup]
  · simp [decodeTail, completedGroup, decodeGroup]
  · simp [decodeTail, completedGroup, decodeGroup]

/-- The decoding of a text in the alphabet, one group of four after the other. -/
theorem base64Decode_alphabet : ∀ str : List UInt8, (∀ c ∈ str, c ∈ base64Chars) →
    base64Decode str =
      (words 8 (str.flatMap fun c => toBits 6 (charValue c))).map UInt8.ofNat
  | [], _ => rfl
  | [a], h => by
    obtain ⟨w, hw, rfl, hval⟩ := exists_value (h a (by simp))
    have hshort : (toBits 6 w.toNat).length < 8 := by simp
    simp only [List.flatMap_cons, List.flatMap_nil, List.append_nil, hval, words_eq_nil hshort]
    simp [base64Decode, decodeLoop, charAt_accepted hw, decodeTail]
  | [a, b], h => by
    obtain ⟨w, hw, rfl, hwv⟩ := exists_value (h a (by simp))
    obtain ⟨x, hx, rfl, hxv⟩ := exists_value (h b (by simp))
    have hshort : (toBits 4 x.toNat ++ []).length < 8 := by simp
    simp only [List.flatMap_cons, List.flatMap_nil, hwv, hxv]
    rw [words_two hx, words_eq_nil hshort]
    simp [base64Decode, decodeLoop, charAt_accepted hw, charAt_accepted hx, decodeTail,
      findChar_charAt hw, findChar_charAt hx, decodeGroup]
  | [a, b, c], h => by
    obtain ⟨w, hw, rfl, hwv⟩ := exists_value (h a (by simp))
    obtain ⟨x, hx, rfl, hxv⟩ := exists_value (h b (by simp))
    obtain ⟨y, hy, rfl, hyv⟩ := exists_value (h c (by simp))
    have hshort : (toBits 2 y.toNat ++ []).length < 8 := by simp
    simp only [List.flatMap_cons, List.flatMap_nil, hwv, hxv, hyv]
    rw [words_two hx, words_three hy, words_eq_nil hshort]
    simp [base64Decode, decodeLoop, charAt_accepted hw, charAt_accepted hx, charAt_accepted hy,
      decodeTail, findChar_charAt hw, findChar_charAt hx, findChar_charAt hy, decodeGroup]
  | a :: b :: c :: d :: str, h => by
    obtain ⟨w, hw, rfl, hwv⟩ := exists_value (h a (by simp))
    obtain ⟨x, hx, rfl, hxv⟩ := exists_value (h b (by simp))
    obtain ⟨y, hy, rfl, hyv⟩ := exists_value (h c (by simp))
    obtain ⟨z, hz, rfl, hzv⟩ := exists_value (h d (by simp))
    have hrest : ∀ c ∈ str, c ∈ base64Chars := by
      intro c hc
      apply h
      simp [hc]
    have ih := base64Decode_alphabet str hrest
    rw [base64Decode_group str (by simp [hw, hx, hy, hz]), ih]
    simp only [List.flatMap_cons, hwv, hxv, hyv, hzv]
    rw [words_two hx, words_three hy, words_four hz]
    rfl

theorem length_bitStream (str : List UInt8) :
    (bitStream str).length = 6 * (alphabetPrefix str).length := by
  unfold bitStream
  rw [List.length_flatMap]
  simp [Nat.mul_comm]

/-- The decoder is its bit stream, cut into bytes. -/
theorem base64Decode_eq_words (str : List UInt8) :
    base64Decode str = (words 8 (bitStream str)).map UInt8.ofNat := by
  rw [base64Decode_cut, base64Decode_alphabet _ fun c hc => mem_of_read hc]
  rfl

/-- A text in the alphabet is its own prefix. -/
theorem alphabetPrefix_eq_self {str : List UInt8} (h : ∀ c ∈ str, c ∈ base64Chars) :
    alphabetPrefix str = str := by
  unfold alphabetPrefix
  rw [List.takeWhile_eq_self_iff]
  simpa using h

/-- The bits of a last character behind whole groups complete no byte. -/
theorem base64Decode_dropLast {str : List UInt8} (h : (alphabetPrefix str).length % 4 = 1) :
    base64Decode str = base64Decode (alphabetPrefix str).dropLast := by
  have hne : alphabetPrefix str ≠ [] := by
    intro hnil
    rw [hnil] at h
    cases h
  have hself : alphabetPrefix (alphabetPrefix str).dropLast = (alphabetPrefix str).dropLast := by
    apply alphabetPrefix_eq_self
    intro c hc
    exact mem_of_read (List.dropLast_subset _ hc)
  have hsplit : bitStream str = bitStream (alphabetPrefix str).dropLast ++
      toBits 6 (charValue ((alphabetPrefix str).getLast hne)) := by
    unfold bitStream
    rw [hself]
    nth_rewrite 1 [← List.dropLast_append_getLast hne]
    rw [List.flatMap_append, List.flatMap_singleton]
  rw [base64Decode_eq_words, base64Decode_eq_words, hsplit, words_append_short]
  rw [List.length_append, length_toBits, length_bitStream, hself, List.length_dropLast]
  omega

/-- The result as numbers: the complete bytes of the stream, each below `256` already. -/
theorem base64Decode_toNat (str : List UInt8) :
    (base64Decode str).map UInt8.toNat = words 8 (bitStream str) := by
  have hbyte : ∀ n ∈ words 8 (bitStream str), (UInt8.toNat ∘ UInt8.ofNat) n = id n := by
    intro n hn
    have hlt := lt_of_mem_words hn
    rw [Function.comp_apply, UInt8.toNat_ofNat', Nat.mod_eq_of_lt hlt]
    rfl
  rw [base64Decode_eq_words, List.map_map, List.map_congr_left hbyte, List.map_id]

/-- The decoder reads its characters as one stream of bits and gives the complete bytes of it, up
to the first character outside the alphabet. `base64_decode` counts down an `int`, so of a string
of `2 ^ 31` bytes or more this says nothing about the code. -/
theorem base64Decode_bit_stream (str : List UInt8) :
    (base64Decode str).map UInt8.toNat = words 8 (bitStream str) ∧
    (base64Decode str).length = 6 * (alphabetPrefix str).length / 8 ∧
    (∀ str', alphabetPrefix str' = alphabetPrefix str → base64Decode str' = base64Decode str) ∧
    ((alphabetPrefix str).length % 4 = 1 →
      base64Decode str = base64Decode (alphabetPrefix str).dropLast) ∧
    (∀ group ret fill : List UInt8, 0 < group.length → group.length < 4 →
      decodeTail group ret = ret ++ (completedGroup group fill).take (group.length - 1)) := by
  refine ⟨base64Decode_toNat str, ?_, ?_, base64Decode_dropLast, decodeTail_fill⟩
  · rw [base64Decode_eq_words, List.length_map, length_words, length_bitStream]
  · intro str' h
    rw [base64Decode_cut str', h, ← base64Decode_cut]

end Lightsocks.Cipher
