import Lightsocks.Lib.CText

/-!
# `evutil_inet_pton`

libevent defines `USE_INTERNAL_PTON`, so its own parser runs and not that of the system: a
`sscanf` with the format `%u.%u.%u.%u%c`, of which it wants four conversions. `%u` takes white
space and a sign before a number, and a number that is too large modulo `2 ^ 32`, so more than
dotted quads is accepted. A dotted quad is read as what it is.

An address is the number that goes over the wire, so `htonl` does nothing.
-/

namespace Lightsocks.Relay

open Lightsocks.Lib

/-- A `.` of the format. -/
def scanDot : List UInt8 → Option (List UInt8)
  | 46 :: s => some s
  | _ => none

/-- `sscanf(src, "%u.%u.%u.%u%c", &a, &b, &c, &d, &more)`, if it returns `4`: there is nothing
left for `%c`. -/
def scanQuad (src : List UInt8) : Option (UInt32 × UInt32 × UInt32 × UInt32) := do
  let (a, src) ← scanUnsigned src
  let (b, src) ← scanUnsigned (← scanDot src)
  let (c, src) ← scanUnsigned (← scanDot src)
  let (d, more) ← scanUnsigned (← scanDot src)
  if more ≠ [] then none
  return (a, b, c, d)

/-- `evutil_inet_pton(AF_INET, src, dst)`: what is stored at `dst`, if it returns `1`. -/
def evutilInetPton (src : List UInt8) : Option UInt32 := do
  let (a, b, c, d) ← scanQuad src
  if a > 255 then none
  if b > 255 then none
  if c > 255 then none
  if d > 255 then none
  return a <<< 24 ||| b <<< 16 ||| c <<< 8 ||| d

/-! ## Dotted quads -/

/-- Digits that write a number up to `255`. -/
structure Octet (s : List UInt8) : Prop where
  ne_nil : s ≠ []
  digits : ∀ c ∈ s, isdigit c = true
  le : decimal s ≤ 255

theorem Octet.lt {s : List UInt8} (h : Octet s) : decimal s < 2 ^ 32 := by
  have hle := h.le
  omega

theorem Octet.scan_dot {s : List UInt8} (h : Octet s) (rest : List UInt8) :
    scanUnsigned (s ++ 46 :: rest) = some (UInt32.ofNat (decimal s), 46 :: rest) :=
  scanUnsigned_digits h.ne_nil h.digits (by simp [isdigit]) h.lt

theorem Octet.scan_last {s : List UInt8} (h : Octet s) :
    scanUnsigned s = some (UInt32.ofNat (decimal s), []) := by
  have hscan := scanUnsigned_digits h.ne_nil h.digits
    (show ∀ c ∈ ([] : List UInt8).head?, isdigit c = false by simp) h.lt
  rwa [List.append_nil] at hscan

/-- The four bytes of an address. -/
theorem or_shifts {a b c d : Nat} (ha : a ≤ 255) (hb : b ≤ 255) (hc : c ≤ 255) (hd : d ≤ 255) :
    UInt32.ofNat a <<< 24 ||| UInt32.ofNat b <<< 16 ||| UInt32.ofNat c <<< 8 ||| UInt32.ofNat d =
      UInt32.ofNat (2 ^ 24 * a + (2 ^ 16 * b + (2 ^ 8 * c + d))) := by
  apply UInt32.toNat_inj.mp
  have hor : 2 ^ 24 * a + (2 ^ 16 * b + (2 ^ 8 * c + d)) =
      2 ^ 24 * a ||| 2 ^ 16 * b ||| 2 ^ 8 * c ||| d := by
    rw [Nat.two_pow_add_eq_or_of_lt (i := 24) (by omega),
      Nat.two_pow_add_eq_or_of_lt (i := 16) (by omega),
      Nat.two_pow_add_eq_or_of_lt (i := 8) (by omega), ← Nat.or_assoc, ← Nat.or_assoc]
  rw [UInt32.toNat_ofNat', Nat.mod_eq_of_lt (by omega), hor]
  have hshift : ∀ {n k : Nat}, n ≤ 255 → k ≤ 24 →
      (UInt32.ofNat n <<< UInt32.ofNat k).toNat = 2 ^ k * n := by
    intro n k hn hk
    have hpow : 2 ^ k * n < 2 ^ 32 := by
      calc 2 ^ k * n ≤ 2 ^ 24 * 255 := Nat.mul_le_mul (Nat.pow_le_pow_right (by decide) hk) hn
        _ < 2 ^ 32 := by decide
    rw [UInt32.toNat_shiftLeft, UInt32.toNat_ofNat', UInt32.toNat_ofNat', Nat.shiftLeft_eq,
      Nat.mod_eq_of_lt (show n < 2 ^ 32 by omega), Nat.mod_eq_of_lt (show k < 2 ^ 32 by omega),
      Nat.mod_eq_of_lt (show k < 32 by omega), Nat.mul_comm, Nat.mod_eq_of_lt hpow]
  have ha' := hshift ha (show 24 ≤ 24 by decide)
  have hb' := hshift hb (show 16 ≤ 24 by decide)
  have hc' := hshift hc (show 8 ≤ 24 by decide)
  rw [UInt32.toNat_or, UInt32.toNat_or, UInt32.toNat_or, UInt32.toNat_ofNat',
    Nat.mod_eq_of_lt (show d < 2 ^ 32 by omega)]
  exact congrArg₂ _ (congrArg₂ _ (congrArg₂ _ ha' hb') hc') rfl

theorem evutilInetPton_quad {a b c d : List UInt8} (ha : Octet a) (hb : Octet b) (hc : Octet c)
    (hd : Octet d) :
    evutilInetPton (a ++ 46 :: (b ++ 46 :: (c ++ 46 :: d))) =
      some (UInt32.ofNat (2 ^ 24 * decimal a + (2 ^ 16 * decimal b + (2 ^ 8 * decimal c +
        decimal d)))) := by
  have hscan : scanQuad (a ++ 46 :: (b ++ 46 :: (c ++ 46 :: d))) =
      some (UInt32.ofNat (decimal a), UInt32.ofNat (decimal b), UInt32.ofNat (decimal c),
        UInt32.ofNat (decimal d)) := by
    simp [scanQuad, scanDot, ha.scan_dot, hb.scan_dot, hc.scan_dot, hd.scan_last]
  have hle : ∀ {s : List UInt8}, Octet s → ¬ UInt32.ofNat (decimal s) > 255 := by
    intro s hs hgt
    have hle := hs.le
    have hlt := UInt32.lt_iff_toNat_lt.mp hgt
    rw [UInt32.toNat_ofNat'] at hlt
    change 255 < _ at hlt
    omega
  rw [← or_shifts ha.le hb.le hc.le hd.le]
  simp [evutilInetPton, hscan, hle ha, hle hb, hle hc, hle hd]

end Lightsocks.Relay
