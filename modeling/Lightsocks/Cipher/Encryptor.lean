import Lightsocks.Cipher.RoundTrip
import Mathlib.Logic.Equiv.Basic

/-!
# `lightsocks_android_encryptor`

The constructor decodes the secret into `encrypt_vec` and inverts it into `decrypt_vec`,
which keeps the size `MAPPING_SIZE` it was built with; `encrypt` and `decrypt` are one
lookup each. `std::vector::operator[]` with an index out of range is the error branch.

`newSized` is the constructor with the size of `decrypt_vec` as a parameter, and
`cipherInverse_iff` says which sizes give a cipher that inverts, for every permutation of
the bytes: those that are at least `256`. The code's size is `255`.
-/

namespace Lightsocks.Cipher

/-! ## Vectors -/

/-- An access of `operator[]` outside the vector. -/
inductive VecFault
  | read (index : Int) (size : Nat)
  | write (index : Int) (size : Nat)
  deriving DecidableEq, Repr

/-- `v[i]` as a value. A negative index is a huge one after its conversion to `size_t`. -/
def vecGet (v : List UInt8) (i : Int) : Except VecFault UInt8 :=
  if 0 ≤ i then
    match v[i.toNat]? with
    | some x => .ok x
    | none => .error (.read i v.length)
  else .error (.read i v.length)

/-- `v[i] = x`. -/
def vecSet (v : List UInt8) (i : Int) (x : UInt8) : Except VecFault (List UInt8) :=
  if 0 ≤ i ∧ i.toNat < v.length then .ok (v.set i.toNat x) else .error (.write i v.length)

theorem vecGet_nat (v : List UInt8) (n : Nat) {x : UInt8} :
    vecGet v n = .ok x ↔ v[n]? = some x := by
  unfold vecGet
  rw [if_pos (Int.natCast_nonneg n), Int.toNat_natCast]
  cases v[n]? <;> simp

theorem vecSet_nat (v : List UInt8) (n : Nat) (x : UInt8) :
    vecSet v n x = if n < v.length then .ok (v.set n x) else .error (.write n v.length) := by
  simp [vecSet]

/-! ## The class -/

/-- `MAPPING_SIZE`. -/
def mappingSize : Nat := 255

structure LightsocksAndroidEncryptor where
  encryptVec : List UInt8
  decryptVec : List UInt8
  deriving DecidableEq, Repr

/-- How an ABI reads a plain `char` as an `int`. -/
inductive PlainChar
  | unsigned
  | signed
  deriving DecidableEq, Repr

/-- `static_cast<int>(input)`. -/
def PlainChar.toInt : PlainChar → UInt8 → Int
  | .unsigned, c => c.toNat
  | .signed, c => if c.toNat < 128 then c.toNat else c.toNat - 256

namespace LightsocksAndroidEncryptor

/-- The `for` loop of the constructor, over the values `i` that are still to come. -/
def initVectors (encryptVec : List UInt8) : List Nat → List UInt8 → Except VecFault (List UInt8)
  | [], decryptVec => .ok decryptVec
  | i :: is, decryptVec => do
    let x ← vecGet encryptVec i
    let decryptVec ← vecSet decryptVec x.toNat (UInt8.ofNat i)
    initVectors encryptVec is decryptVec

/-- The constructor, for a `decrypt_vec` of the given size. -/
def newSized (size : Nat) (base64secret : List UInt8) :
    Except VecFault LightsocksAndroidEncryptor := do
  let encryptVec := base64Decode base64secret
  let decryptVec ← initVectors encryptVec (List.range encryptVec.length) (List.replicate size 0)
  return { encryptVec, decryptVec }

/-- `lightsocks_android_encryptor::lightsocks_android_encryptor`. -/
def new (base64secret : List UInt8) : Except VecFault LightsocksAndroidEncryptor :=
  newSized mappingSize base64secret

/-- `lightsocks_android_encryptor::encrypt`. -/
def encrypt (abi : PlainChar) (e : LightsocksAndroidEncryptor) (input : UInt8) :
    Except VecFault UInt8 := vecGet e.encryptVec (abi.toInt input)

/-- `lightsocks_android_encryptor::decrypt`. -/
def decrypt (abi : PlainChar) (e : LightsocksAndroidEncryptor) (input : UInt8) :
    Except VecFault UInt8 := vecGet e.decryptVec (abi.toInt input)

/-! ## The table-inverting loop -/

theorem initVectors_cons {enc dec dec' : List UInt8} {i : Nat} {is : List Nat} :
    initVectors enc (i :: is) dec = .ok dec' ↔
      ∃ x, enc[i]? = some x ∧ x.toNat < dec.length ∧
        initVectors enc is (dec.set x.toNat (UInt8.ofNat i)) = .ok dec' := by
  simp only [initVectors]
  cases hx : vecGet enc i with
  | error f =>
    constructor
    · intro h
      cases h
    · rintro ⟨x, h, -⟩
      rw [(vecGet_nat enc i).mpr h] at hx
      cases hx
  | ok x =>
    have henc := (vecGet_nat enc i).mp hx
    simp only [bind, Except.bind, vecSet_nat]
    by_cases hlt : x.toNat < dec.length
    · simp [henc, hlt]
    · simp [henc, hlt]

/-- The loop succeeds exactly if every entry is an index of `decrypt_vec`. -/
theorem initVectors_ok_iff (enc : List UInt8) (is : List Nat) (dec : List UInt8) :
    (∃ dec', initVectors enc is dec = .ok dec') ↔
      ∀ i ∈ is, ∃ x, enc[i]? = some x ∧ x.toNat < dec.length := by
  induction is generalizing dec with
  | nil => simp [initVectors]
  | cons i is ih =>
    simp only [initVectors_cons, List.forall_mem_cons]
    constructor
    · rintro ⟨dec', x, hx, hlt, hrest⟩
      have := (ih _).mp ⟨dec', hrest⟩
      exact ⟨⟨x, hx, hlt⟩, by simpa using this⟩
    · rintro ⟨⟨x, hx, hlt⟩, hall⟩
      obtain ⟨dec', hrest⟩ := (ih (dec.set x.toNat (UInt8.ofNat i))).mpr (by simpa using hall)
      exact ⟨dec', x, hx, hlt, hrest⟩

theorem initVectors_length {enc dec dec' : List UInt8} {is : List Nat}
    (h : initVectors enc is dec = .ok dec') : dec'.length = dec.length := by
  induction is generalizing dec with
  | nil =>
    cases h
    rfl
  | cons i is ih =>
    obtain ⟨x, -, -, hrest⟩ := initVectors_cons.mp h
    rw [ih hrest, List.length_set]

/-- The entries the loop does not write keep their value. -/
theorem initVectors_frame {enc dec dec' : List UInt8} {is : List Nat}
    (h : initVectors enc is dec = .ok dec') {n : Nat}
    (hn : ∀ i ∈ is, ∀ x, enc[i]? = some x → x.toNat ≠ n) : dec'[n]? = dec[n]? := by
  induction is generalizing dec with
  | nil =>
    cases h
    rfl
  | cons i is ih =>
    obtain ⟨x, hx, -, hrest⟩ := initVectors_cons.mp h
    rw [ih hrest (fun j hj => hn j (List.mem_cons_of_mem _ hj)),
      List.getElem?_set_ne (hn i List.mem_cons_self x hx)]

/-- If the entries are distinct, the loop leaves each index at its entry. -/
theorem initVectors_get {enc dec dec' : List UInt8} {is : List Nat} (hnd : is.Nodup)
    (hinj : ∀ (i j : Nat) (x : UInt8), enc[i]? = some x → enc[j]? = some x → i = j)
    (h : initVectors enc is dec = .ok dec') {i : Nat} (hi : i ∈ is) {x : UInt8}
    (hx : enc[i]? = some x) : dec'[x.toNat]? = some (UInt8.ofNat i) := by
  induction is generalizing dec with
  | nil => cases hi
  | cons k is ih =>
    obtain ⟨y, hy, hlt, hrest⟩ := initVectors_cons.mp h
    obtain ⟨hk, hnd'⟩ := List.nodup_cons.mp hnd
    rcases List.mem_cons.mp hi with rfl | hi'
    · -- the entry just written is not written again
      obtain rfl : y = x := Option.some.inj (hy.symm.trans hx)
      rw [initVectors_frame hrest]
      · simp [hlt]
      · intro j hj z hz heq
        obtain rfl : z = y := UInt8.toNat_inj.mp heq
        exact hk (hinj j i z hz hx ▸ hj)
    · exact ih hnd' hrest hi'

end LightsocksAndroidEncryptor

/-! ## Secrets made from a permutation -/

open LightsocksAndroidEncryptor

/-- The 256-byte table of a permutation of the bytes. -/
def table (p : Equiv.Perm UInt8) : List UInt8 :=
  (List.range 256).map (fun i => p (UInt8.ofNat i))

theorem table_length (p : Equiv.Perm UInt8) : (table p).length = 256 := by simp [table]

theorem table_get (p : Equiv.Perm UInt8) (b : UInt8) : (table p)[b.toNat]? = some (p b) := by
  have hb := b.toNat_lt
  simp [table, List.getElem?_map, List.getElem?_range hb]

theorem table_inj (p : Equiv.Perm UInt8) (i j : Nat) (x : UInt8)
    (hi : (table p)[i]? = some x) (hj : (table p)[j]? = some x) : i = j := by
  have hlen := table_length p
  obtain ⟨hilt, -⟩ := List.getElem?_eq_some_iff.mp hi
  obtain ⟨hjlt, -⟩ := List.getElem?_eq_some_iff.mp hj
  have hi' := table_get p (UInt8.ofNat i)
  have hj' := table_get p (UInt8.ofNat j)
  rw [UInt8.toNat_ofNat_of_lt' (by rw [UInt8.size]; omega)] at hi' hj'
  rw [hi'] at hi
  rw [hj'] at hj
  have hp : UInt8.ofNat i = UInt8.ofNat j := p.injective (Option.some.inj (hi.trans hj.symm))
  have := congrArg UInt8.toNat hp
  rwa [UInt8.toNat_ofNat_of_lt' (by rw [UInt8.size]; omega),
    UInt8.toNat_ofNat_of_lt' (by rw [UInt8.size]; omega)] at this

/-- The secret of the permutation `p` gives a cipher that inverts, when `decrypt_vec` has the
given size: the constructor only makes accesses in range, and on every byte `encrypt` and
`decrypt` undo each other, with every lookup in range. -/
def CipherInverse (size : Nat) (p : Equiv.Perm UInt8) : Prop :=
  ∃ e, newSized size (base64Encode (table p)) = .ok e ∧ ∀ b,
    (e.encrypt .unsigned b >>= e.decrypt .unsigned) = .ok b ∧
    (e.decrypt .unsigned b >>= e.encrypt .unsigned) = .ok b

theorem newSized_ok_iff (size : Nat) (secret : List UInt8) (e : LightsocksAndroidEncryptor) :
    newSized size secret = .ok e ↔ e.encryptVec = base64Decode secret ∧
      initVectors e.encryptVec (List.range e.encryptVec.length) (List.replicate size 0) =
        .ok e.decryptVec := by
  simp only [newSized]
  constructor
  · intro h
    cases hi : initVectors (base64Decode secret) (List.range (base64Decode secret).length)
        (List.replicate size 0) with
    | error f =>
      rw [hi] at h
      cases h
    | ok dec =>
      rw [hi] at h
      cases h
      exact ⟨rfl, hi⟩
  · rintro ⟨he, hi⟩
    rw [he] at hi
    rw [hi, ← he]
    rfl

/-- A constructor that succeeds has written `decrypt_vec` at every entry of the table, the
entry `255` among them. -/
theorem size_of_newSized_ok {size : Nat} {p : Equiv.Perm UInt8} {e : LightsocksAndroidEncryptor}
    (h : newSized size (base64Encode (table p)) = .ok e) : 256 ≤ size := by
  obtain ⟨henc, hi⟩ := (newSized_ok_iff _ _ _).mp h
  rw [decode_encode] at henc
  have hall := (initVectors_ok_iff _ _ _).mp ⟨_, hi⟩
  have hlt : (p.symm 255).toNat < 256 := (p.symm 255).toNat_lt
  obtain ⟨x, hx, hxlt⟩ := hall (p.symm 255).toNat (by simp [henc, table_length, hlt])
  rw [henc, table_get, Equiv.apply_symm_apply] at hx
  obtain rfl := Option.some.inj hx
  simp only [List.length_replicate] at hxlt
  exact hxlt

/-- With room for every byte the two lookups invert each other. -/
theorem cipherInverse_of_size {size : Nat} (hsize : 256 ≤ size) (p : Equiv.Perm UInt8) :
    CipherInverse size p := by
  have hlen := table_length p
  have hok : ∃ dec, initVectors (table p) (List.range (table p).length) (List.replicate size 0) =
      .ok dec := by
    refine (initVectors_ok_iff _ _ _).mpr (fun i hi => ?_)
    have hlt := List.mem_range.mp hi
    have hx := (table p)[i].toNat_lt
    rw [List.length_replicate]
    exact ⟨(table p)[i], List.getElem?_eq_getElem hlt, Nat.lt_of_lt_of_le hx hsize⟩
  obtain ⟨dec, hdec⟩ := hok
  have henc : ∀ b, encrypt .unsigned ⟨table p, dec⟩ b = .ok (p b) := fun b =>
    (vecGet_nat (table p) b.toNat).mpr (table_get p b)
  have hdecr : ∀ b, decrypt .unsigned ⟨table p, dec⟩ (p b) = .ok b := by
    intro b
    have hb : b.toNat ∈ List.range (table p).length := by
      rw [hlen, List.mem_range]
      exact b.toNat_lt
    apply (vecGet_nat dec (p b).toNat).mpr
    rw [initVectors_get List.nodup_range (table_inj p) hdec hb (table_get p b),
      UInt8.ofNat_toNat]
  refine ⟨⟨table p, dec⟩, (newSized_ok_iff _ _ _).mpr ⟨(decode_encode _).symm, hdec⟩, ?_⟩
  intro b
  constructor
  · rw [henc]
    exact hdecr b
  · have h := hdecr (p.symm b)
    rw [Equiv.apply_symm_apply] at h
    rw [h]
    change encrypt .unsigned ⟨table p, dec⟩ (p.symm b) = .ok b
    rw [henc, Equiv.apply_symm_apply]

/-- The sizes of `decrypt_vec` for which the cipher inverts are the same for all
permutations. -/
theorem cipherInverse_iff (size : Nat) (p : Equiv.Perm UInt8) :
    CipherInverse size p ↔ 256 ≤ size :=
  ⟨fun ⟨_, h, _⟩ => size_of_newSized_ok h, fun h => cipherInverse_of_size h p⟩

/-- `MAPPING_SIZE` is one short: no permutation's secret gives a cipher that inverts. -/
theorem mappingSize_never_inverts (p : Equiv.Perm UInt8) : ¬ CipherInverse mappingSize p := by
  rw [cipherInverse_iff]
  decide

/-- The secret of the identity table. -/
theorem identity_table_not_inverted : ¬ CipherInverse mappingSize (Equiv.refl UInt8) := by
  rw [cipherInverse_iff]
  decide

end Lightsocks.Cipher
