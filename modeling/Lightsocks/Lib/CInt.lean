import Lightsocks.Lib.Machine
import Mathlib.Algebra.Group.Int.Defs
import Mathlib.Algebra.Group.Nat.Defs

/-!
# C integers

An `int` has 32 bits, and a `size_t` at least as many. The operations here return what the C
ones do as long as that is also what the formula says, and are a fault otherwise: an `int`
result that does not fit, a conversion to an unsigned type that changes the value, an access
outside a buffer. So a computation that ends without a fault computed its formula, and none of
its comparisons changed its meaning.
-/

namespace Lightsocks.Lib

inductive CFault
  | overflow (value : Int)
  | conversion (value : Int)
  | outOfBounds (offset : Int) (size : Nat)
  | assertion
  deriving DecidableEq, Repr

/-- The width of `size_t`. -/
structure DataModel where
  sizeBits : Nat
  int_fits : 32 ≤ sizeBits

/-- The result of an `int` operation. -/
def asInt (v : Int) : Except CFault Int :=
  if -2147483648 ≤ v ∧ v ≤ 2147483647 then .ok v else .error (.overflow v)

/-- A conversion to `size_t`, or the result of a `size_t` operation. -/
def asSize (m : DataModel) (v : Int) : Except CFault Nat :=
  if 0 ≤ v ∧ v < 2 ^ m.sizeBits then .ok v.toNat else .error (.conversion v)

/-- A conversion to `uint16_t`. -/
def asU16 (v : Int) : Except CFault UInt16 :=
  if 0 ≤ v ∧ v ≤ 65535 then .ok (UInt16.ofNat v.toNat) else .error (.conversion v)

def assert (c : Bool) : Except CFault Unit :=
  if c then .ok () else .error .assertion

/-- `memcpy(buf + offset, src, ...)`. -/
def copyTo (buf : List UInt8) (offset : Nat) (src : List UInt8) : Except CFault (List UInt8) :=
  if offset + src.length ≤ buf.length then
    .ok (buf.take offset ++ src ++ buf.drop (offset + src.length))
  else .error (.outOfBounds offset buf.length)

/-- The `len` bytes from `offset` on. -/
def slice (buf : List UInt8) (offset len : Nat) : Except CFault (List UInt8) :=
  if offset + len ≤ buf.length then .ok ((buf.drop offset).take len)
  else .error (.outOfBounds offset buf.length)

theorem ok_bind {α β : Type} (a : α) (f : α → Except CFault β) : (Except.ok a >>= f) = f a := rfl

theorem asInt_ok {v : Int} (hlo : -2147483648 ≤ v) (hhi : v ≤ 2147483647) : asInt v = .ok v :=
  if_pos ⟨hlo, hhi⟩

theorem asSize_ok (m : DataModel) {v : Int} (hlo : 0 ≤ v) (hhi : v < 4294967296) :
    asSize m v = .ok v.toNat := by
  have hpow : (2 : Int) ^ 32 ≤ 2 ^ m.sizeBits := by
    exact_mod_cast Nat.pow_le_pow_right (by decide) m.int_fits
  exact if_pos ⟨hlo, by omega⟩

theorem asU16_ok {v : Int} (hlo : 0 ≤ v) (hhi : v ≤ 65535) :
    asU16 v = .ok (UInt16.ofNat v.toNat) :=
  if_pos ⟨hlo, hhi⟩

theorem asU16_fits {v : Int} (hlo : 0 ≤ v) (hhi : v ≤ 65535) : ∃ x, asU16 v = .ok x :=
  ⟨_, asU16_ok hlo hhi⟩

/-- A value that was stored in 16 bits is still the value. -/
theorem toNat_of_asU16 {v : Int} {x : UInt16} (h : asU16 v = .ok x) : (x.toNat : Int) = v := by
  unfold asU16 at h
  split at h
  · cases h
    rw [UInt16.toNat_ofNat']
    omega
  · cases h

theorem assert_ok {c : Bool} (h : c = true) : assert c = .ok () := if_pos h

theorem slice_ok {buf : List UInt8} {offset len : Nat} (h : offset + len ≤ buf.length) :
    slice buf offset len = .ok ((buf.drop offset).take len) :=
  if_pos h

theorem copyTo_ok {buf : List UInt8} {offset : Nat} {src : List UInt8}
    (h : offset + src.length ≤ buf.length) :
    copyTo buf offset src = .ok (buf.take offset ++ src ++ buf.drop (offset + src.length)) :=
  if_pos h

/-- A buffer keeps its size. -/
theorem length_copyTo {buf out : List UInt8} {offset : Nat} {src : List UInt8}
    (h : copyTo buf offset src = .ok out) : out.length = buf.length := by
  unfold copyTo at h
  split at h
  · cases h
    simp only [List.length_append, List.length_take, List.length_drop]
    omega
  · cases h

/-- What was written behind what is there already. -/
theorem take_copyTo {buf out : List UInt8} {offset : Nat} {src : List UInt8}
    (h : copyTo buf offset src = .ok out) :
    out.take (offset + src.length) = buf.take offset ++ src := by
  unfold copyTo at h
  split at h
  · rename_i hle
    cases h
    apply List.take_left'
    rw [List.length_append, List.length_take]
    omega
  · cases h

/-- What was written. -/
theorem take_drop_copyTo_self {buf out : List UInt8} {offset : Nat} {src : List UInt8}
    (h : copyTo buf offset src = .ok out) : (out.drop offset).take src.length = src := by
  unfold copyTo at h
  split at h
  · rename_i hle
    cases h
    have hlen : (buf.take offset).length = offset := by
      rw [List.length_take]
      omega
    rw [List.append_assoc, List.drop_left' hlen, List.take_left]
  · cases h

/-- A write leaves all other bytes as they were. -/
theorem take_drop_copyTo {buf out : List UInt8} {offset : Nat} {src : List UInt8}
    (h : copyTo buf offset src = .ok out) {i n : Nat}
    (hi : i + n ≤ offset ∨ offset + src.length ≤ i) :
    (out.drop i).take n = (buf.drop i).take n := by
  unfold copyTo at h
  split at h
  · rename_i hle
    cases h
    have hlen : (buf.take offset).length = offset := by
      rw [List.length_take]
      omega
    apply List.ext_getElem?
    intro k
    rw [List.getElem?_take, List.getElem?_take]
    split
    · rename_i hk
      rw [List.getElem?_drop, List.getElem?_drop]
      rcases hi with hi | hi
      · rw [List.append_assoc, List.getElem?_append_left (by omega),
          List.getElem?_take_of_lt (by omega)]
      · rw [List.getElem?_append_right (by rw [List.length_append]; omega), List.length_append,
          hlen, List.getElem?_drop]
        congr 1
        omega
    · rfl
  · cases h

/-- A write in bounds. -/
theorem copyTo_spec (buf : List UInt8) (offset : Nat) (src : List UInt8)
    (h : offset + src.length ≤ buf.length) :
    ∃ out, copyTo buf offset src = .ok out ∧ out.length = buf.length ∧
      out.take (offset + src.length) = buf.take offset ++ src :=
  ⟨_, copyTo_ok h, length_copyTo (copyTo_ok h), take_copyTo (copyTo_ok h)⟩

end Lightsocks.Lib
