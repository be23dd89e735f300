import Mathlib.Data.List.Basic

/-!
# `GetStringUTFChars`

The native side makes C strings of the texts that the service hands to it. A text is a list of
UTF-16 units for Java, and each of them is encoded for itself.
-/

namespace Lightsocks.App

/-- One UTF-16 unit in modified UTF-8. A `0` takes two bytes, so a C string holds all of it. -/
def encodeUnit (n : Nat) : List UInt8 :=
  if n = 0 then [0xc0, 0x80]
  else if n < 0x80 then [UInt8.ofNat n]
  else if n < 0x800 then [UInt8.ofNat (0xc0 + n / 0x40), UInt8.ofNat (0x80 + n % 0x40)]
  else
    [UInt8.ofNat (0xe0 + n / 0x1000), UInt8.ofNat (0x80 + n / 0x40 % 0x40),
      UInt8.ofNat (0x80 + n % 0x40)]

/-- A character outside the basic plane is two units. -/
def encodeChar (c : Char) : List UInt8 :=
  if c.toNat < 0x10000 then encodeUnit c.toNat
  else encodeUnit (0xd800 + (c.toNat - 0x10000) / 0x400) ++
    encodeUnit (0xdc00 + (c.toNat - 0x10000) % 0x400)

/-- `GetStringUTFChars`. -/
def getStringUTFChars (text : String) : List UInt8 := text.toList.flatMap encodeChar

theorem encodeChar_ascii {c : Char} (h0 : c.toNat ≠ 0) (h : c.toNat < 128) :
    encodeChar c = [UInt8.ofNat c.toNat] := by
  have hplane : c.toNat < 0x10000 := by omega
  rw [encodeChar, if_pos hplane, encodeUnit, if_neg h0, if_pos h]

/-- Every other character begins with a byte that is no ASCII. -/
theorem encodeChar_high {c : Char} (h : ¬ c.toNat < 128) :
    ∃ b bs, encodeChar c = b :: bs ∧ 128 ≤ b.toNat := by
  have hunit : ∀ n, 128 ≤ n → n < 0x10000 → ∃ b bs, encodeUnit n = b :: bs ∧ 128 ≤ b.toNat := by
    intro n hn hlt
    unfold encodeUnit
    rw [if_neg (by omega), if_neg (by omega)]
    split
    · refine ⟨_, _, rfl, ?_⟩
      rw [UInt8.toNat_ofNat']
      omega
    · refine ⟨_, _, rfl, ?_⟩
      rw [UInt8.toNat_ofNat']
      omega
  unfold encodeChar
  split
  · exact hunit _ (by omega) (by omega)
  · have hlt : c.toNat < 0x110000 := by
      have hvalid := c.valid
      simp only [UInt32.isValidChar, Nat.isValidChar] at hvalid
      change c.toNat < 0xd800 ∨ 0xdfff < c.toNat ∧ c.toNat < 0x110000 at hvalid
      omega
    obtain ⟨b, bs, hb, hle⟩ := hunit (0xd800 + (c.toNat - 0x10000) / 0x400) (by omega) (by omega)
    exact ⟨b, _, by rw [hb]; rfl, hle⟩

end Lightsocks.App
