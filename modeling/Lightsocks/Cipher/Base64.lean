import Mathlib.Algebra.Group.Nat.Defs
import Mathlib.Data.List.Basic

/-!
# `base64.cpp`

The encoder and the decoder as the code computes them: a loop that collects bytes in
`char_array_3` (`char_array_4`), writes a group out when it is full, and a tail for the
group that is left. A `std::string` is the list of its bytes; `BYTE` is `UInt8`, whose
shifts and sums wrap like the `unsigned char` the C++ expressions are stored in.

The lengths are unbounded here. The C++ counts in `int` and `unsigned int`, so the model
agrees with it on strings shorter than `2 ^ 31` bytes.
-/

namespace Lightsocks.Cipher

/-! ## The alphabet -/

/-- `base64_chars`. -/
def base64Chars : List UInt8 :=
  [65, 66, 67, 68, 69, 70, 71, 72, 73, 74, 75, 76, 77, 78, 79, 80, 81, 82, 83, 84, 85, 86, 87,
   88, 89, 90,                                              -- "ABCDEFGHIJKLMNOPQRSTUVWXYZ"
   97, 98, 99, 100, 101, 102, 103, 104, 105, 106, 107, 108, 109, 110, 111, 112, 113, 114, 115,
   116, 117, 118, 119, 120, 121, 122,                       -- "abcdefghijklmnopqrstuvwxyz"
   48, 49, 50, 51, 52, 53, 54, 55, 56, 57, 43, 47]          -- "0123456789+/"

/-- `'='`. -/
def padChar : UInt8 := 61

/-- `isalnum` in the C locale. -/
def isalnum (c : UInt8) : Bool :=
  (48 ≤ c && c ≤ 57) || (65 ≤ c && c ≤ 90) || (97 ≤ c && c ≤ 122)

/-- `is_base64`. -/
def isBase64 (c : UInt8) : Bool := isalnum c || c == 43 || c == 47

/-- `std::string::npos`. -/
def npos : Nat := 2 ^ 64 - 1

/-- `base64_chars.find(c)`, stored in a `BYTE`: `npos` becomes `255`. -/
def findChar (c : UInt8) : UInt8 :=
  UInt8.ofNat ((base64Chars.idxOf? c).getD npos)

/-- `base64_chars[k]`. -/
def charAt (k : UInt8) : UInt8 := base64Chars.getD k.toNat 0

/-! ## Groups -/

/-- `char_array_4` from a full `char_array_3`. -/
def encodeGroup (a b c : UInt8) : List UInt8 :=
  [(a &&& 0xfc) >>> 2,
   ((a &&& 0x03) <<< 4) + ((b &&& 0xf0) >>> 4),
   ((b &&& 0x0f) <<< 2) + ((c &&& 0xc0) >>> 6),
   c &&& 0x3f]

/-- `char_array_3` from the values of a full `char_array_4`. -/
def decodeGroup (w x y z : UInt8) : List UInt8 :=
  [(w <<< 2) + ((x &&& 0x30) >>> 4),
   ((x &&& 0xf) <<< 4) + ((y &&& 0x3c) >>> 2),
   ((y &&& 0x3) <<< 6) + z]

/-! ## The encoder -/

/-- The `while` loop of `base64_encode`. `group` is `char_array_3[0..i)`. -/
def encodeLoop : List UInt8 → List UInt8 → List UInt8 → List UInt8 × List UInt8
  | [], group, ret => (group, ret)
  | x :: buf, group, ret =>
    match group ++ [x] with
    | [a, b, c] => encodeLoop buf [] (ret ++ (encodeGroup a b c).map charAt)
    | group => encodeLoop buf group ret

/-- The part of `base64_encode` after the loop: the group of `i` bytes that is left. -/
def encodeTail (group ret : List UInt8) : List UInt8 :=
  let i := group.length
  if i = 0 then ret
  else
    let a := group ++ List.replicate (3 - i) 0
    ret ++ ((encodeGroup (a.getD 0 0) (a.getD 1 0) (a.getD 2 0)).take (i + 1)).map charAt ++
      List.replicate (3 - i) padChar

/-- `base64_encode`. -/
def base64Encode (buf : List UInt8) : List UInt8 :=
  let (group, ret) := encodeLoop buf [] []
  encodeTail group ret

/-! ## The decoder -/

/-- The `while` loop of `base64_decode`, which stops at `'='` and at the first character
outside the alphabet. `group` is `char_array_4[0..i)`. -/
def decodeLoop : List UInt8 → List UInt8 → List UInt8 → List UInt8 × List UInt8
  | [], group, ret => (group, ret)
  | x :: str, group, ret =>
    if x != padChar && isBase64 x then
      match group ++ [x] with
      | [a, b, c, d] =>
        decodeLoop str [] (ret ++ decodeGroup (findChar a) (findChar b) (findChar c) (findChar d))
      | group => decodeLoop str group ret
    else (group, ret)

/-- The part of `base64_decode` after the loop. The missing characters are zeroed and then
looked up like the others, so they become `255`. -/
def decodeTail (group ret : List UInt8) : List UInt8 :=
  let i := group.length
  if i = 0 then ret
  else
    let a := (group ++ List.replicate (4 - i) 0).map findChar
    ret ++ (decodeGroup (a.getD 0 0) (a.getD 1 0) (a.getD 2 0) (a.getD 3 0)).take (i - 1)

/-- `base64_decode`. -/
def base64Decode (encodedString : List UInt8) : List UInt8 :=
  let (group, ret) := decodeLoop encodedString [] []
  decodeTail group ret

/-! ## Bytes

Every mask and shift of a group is a quotient or a remainder of the byte.
-/

theorem toNat_maskShiftRight {a m s : UInt8} {k : Nat}
    (hm : m.toNat >>> (s.toNat % 8) = 2 ^ k - 1) :
    ((a &&& m) >>> s).toNat = a.toNat / 2 ^ (s.toNat % 8) % 2 ^ k := by
  rw [UInt8.toNat_shiftRight, UInt8.toNat_and, Nat.shiftRight_and_distrib, hm,
    Nat.and_two_pow_sub_one_eq_mod, Nat.shiftRight_eq_div_pow]

/-- The bits that the mask keeps are not shifted out. -/
theorem toNat_maskShiftLeft {a m s : UInt8} {k : Nat} (hm : m.toNat = 2 ^ k - 1)
    (hs : 2 ^ k * 2 ^ (s.toNat % 8) ≤ 256) :
    ((a &&& m) <<< s).toNat = a.toNat % 2 ^ k * 2 ^ (s.toNat % 8) := by
  have hlt : a.toNat % 2 ^ k * 2 ^ (s.toNat % 8) < 256 := calc
    a.toNat % 2 ^ k * 2 ^ (s.toNat % 8) < 2 ^ k * 2 ^ (s.toNat % 8) :=
      Nat.mul_lt_mul_of_pos_right (Nat.mod_lt _ (Nat.two_pow_pos k)) (Nat.two_pow_pos _)
    _ ≤ 256 := hs
  rw [UInt8.toNat_shiftLeft, UInt8.toNat_and, hm, Nat.and_two_pow_sub_one_eq_mod,
    Nat.shiftLeft_eq]
  exact Nat.mod_eq_of_lt hlt

theorem toNat_high6 (a : UInt8) : ((a &&& 0xfc) >>> 2).toNat = a.toNat / 4 := by
  have hlt := a.toNat_lt
  calc ((a &&& 0xfc) >>> 2).toNat = a.toNat / 4 % 64 := toNat_maskShiftRight (k := 6) rfl
    _ = a.toNat / 4 := by omega

theorem toNat_high4 (a : UInt8) : ((a &&& 0xf0) >>> 4).toNat = a.toNat / 16 := by
  have hlt := a.toNat_lt
  calc ((a &&& 0xf0) >>> 4).toNat = a.toNat / 16 % 16 := toNat_maskShiftRight (k := 4) rfl
    _ = a.toNat / 16 := by omega

theorem toNat_high2 (a : UInt8) : ((a &&& 0xc0) >>> 6).toNat = a.toNat / 64 := by
  have hlt := a.toNat_lt
  calc ((a &&& 0xc0) >>> 6).toNat = a.toNat / 64 % 4 := toNat_maskShiftRight (k := 2) rfl
    _ = a.toNat / 64 := by omega

theorem toNat_mid2 (a : UInt8) : ((a &&& 0x30) >>> 4).toNat = a.toNat / 16 % 4 :=
  toNat_maskShiftRight (k := 2) rfl

theorem toNat_mid4 (a : UInt8) : ((a &&& 0x3c) >>> 2).toNat = a.toNat / 4 % 16 :=
  toNat_maskShiftRight (k := 4) rfl

theorem toNat_low2_shift4 (a : UInt8) : ((a &&& 0x03) <<< 4).toNat = a.toNat % 4 * 16 :=
  toNat_maskShiftLeft (k := 2) rfl (by decide)

theorem toNat_low2_shift6 (a : UInt8) : ((a &&& 0x3) <<< 6).toNat = a.toNat % 4 * 64 :=
  toNat_maskShiftLeft (k := 2) rfl (by decide)

theorem toNat_low4_shift2 (a : UInt8) : ((a &&& 0x0f) <<< 2).toNat = a.toNat % 16 * 4 :=
  toNat_maskShiftLeft (k := 4) rfl (by decide)

theorem toNat_low4_shift4 (a : UInt8) : ((a &&& 0xf) <<< 4).toNat = a.toNat % 16 * 16 :=
  toNat_maskShiftLeft (k := 4) rfl (by decide)

theorem toNat_low6 (a : UInt8) : (a &&& 0x3f).toNat = a.toNat % 64 :=
  Nat.and_two_pow_sub_one_eq_mod a.toNat 6

theorem toNat_shift2 (a : UInt8) : (a <<< 2).toNat = a.toNat * 4 % 256 := by
  rw [UInt8.toNat_shiftLeft, Nat.shiftLeft_eq]
  rfl

end Lightsocks.Cipher
