import Lightsocks.Relay.Filter

/-!
# Plain `char` on the ABIs that are built

`encrypt` and `decrypt` take a plain `char` and index their table with
`static_cast<int>(input)`. Where `char` is unsigned (ARM) the index is the byte; where it is
signed (x86) a byte from `0x80` up gives a negative index, which is no index of a
`std::vector`. `base64.cpp` declares its bytes `unsigned char` and has no such case. No
`abiFilters` are set, so both readings are shipped.
-/

namespace Lightsocks.Relay

open Lightsocks.Cipher Lightsocks.Lib

/-! ## One lookup -/

theorem signed_toInt_iff (b : UInt8) : PlainChar.signed.toInt b = b.toNat ↔ b.toNat < 128 := by
  simp only [PlainChar.toInt]
  split <;> omega

theorem signed_toInt_eq {b : UInt8} (h : b.toNat < 128) :
    PlainChar.signed.toInt b = PlainChar.unsigned.toInt b :=
  (signed_toInt_iff b).mpr h

/-- A negative index is outside every vector. -/
theorem vecGet_signed_error (v : List UInt8) {b : UInt8} (h : ¬ b.toNat < 128) :
    vecGet v (PlainChar.signed.toInt b) = .error (.read (b.toNat - 256) v.length) := by
  have hneg : ¬ (0 : Int) ≤ (b.toNat : Int) - 256 := by
    have hlt := b.toNat_lt
    omega
  simp only [vecGet, PlainChar.toInt, if_neg h, if_neg hneg]

/-- The other reading never looks in front of a vector. -/
theorem vecGet_unsigned_error {v : List UInt8} {b : UInt8} {f : VecFault}
    (h : vecGet v (PlainChar.unsigned.toInt b) = .error f) :
    f = .read b.toNat v.length := by
  change vecGet v (b.toNat : Int) = .error f at h
  unfold vecGet at h
  rw [if_pos (Int.natCast_nonneg b.toNat)] at h
  split at h
  · cases h
  · cases h
    rfl

/-- A vector with an entry for every byte below `0x80`. -/
theorem vecGet_low_ok {v : List UInt8} (hv : 128 ≤ v.length) {b : UInt8} (h : b.toNat < 128)
    (abi : PlainChar) : ∃ x, vecGet v (abi.toInt b) = .ok x := by
  have hlt : b.toNat < v.length := by omega
  have hget : vecGet v (PlainChar.unsigned.toInt b) = .ok v[b.toNat] :=
    (vecGet_nat v b.toNat).mpr (List.getElem?_eq_getElem hlt)
  cases abi with
  | unsigned => exact ⟨_, hget⟩
  | signed => exact ⟨_, by rw [signed_toInt_eq h, hget]⟩

/-- Every byte of the stream is looked up at its unsigned value, which the vector covers, on
either kind of ABI. -/
def IndicesExact (v src : List UInt8) : Prop :=
  ∀ abi : PlainChar, ∀ b ∈ src, abi.toInt b = b.toNat ∧ b.toNat < v.length

theorem indicesExact_iff {v : List UInt8} (hv : 128 ≤ v.length) (src : List UInt8) :
    IndicesExact v src ↔ ∀ b ∈ src, b.toNat < 128 := by
  constructor
  · intro h b hb
    exact (signed_toInt_iff b).mp (h .signed b hb).1
  · intro h abi b hb
    have hlt := h b hb
    refine ⟨?_, by omega⟩
    cases abi with
    | unsigned => rfl
    | signed => exact signed_toInt_eq hlt

/-! ## A filter -/

section Filter

variable {v : List UInt8} {src dst : List UInt8}

theorem destFilter_ok (lookup : UInt8 → Except VecFault UInt8) (src dst : List UInt8)
    (h : ∀ b ∈ src, ∃ x, lookup b = .ok x) :
    ∃ out, src.map lookup = out.map .ok ∧
      destFilter lookup src dst = .ok (.ok, [], dst ++ out) := by
  have hall : ∃ out : List UInt8, src.map lookup = out.map .ok := by
    induction src with
    | nil => exact ⟨[], rfl⟩
    | cons b src ih =>
      obtain ⟨x, hx⟩ := h b (by simp)
      obtain ⟨out, hout⟩ := ih fun b hb => h b (List.mem_cons_of_mem _ hb)
      exact ⟨x :: out, by simp only [List.map_cons, hx, hout]⟩
  obtain ⟨out, hout⟩ := hall
  refine ⟨out, hout, ?_⟩
  rw [destFilter_eq, (mapM_ok_iff lookup src out).mpr hout]
  rfl

/-- A filter that went through looked up every byte in range. -/
theorem lookup_ok_of_destFilter {lookup : UInt8 → Except VecFault UInt8}
    {r : BuffereventFilterResult × List UInt8 × List UInt8}
    (h : destFilter lookup src dst = .ok r) : ∀ b ∈ src, ∃ x, lookup b = .ok x := by
  rw [destFilter_eq] at h
  cases hout : src.mapM lookup with
  | error f =>
    rw [hout] at h
    cases h
  | ok out =>
    have hmap := (mapM_ok_iff lookup src out).mp hout
    intro b hb
    have hmem : lookup b ∈ out.map Except.ok := hmap ▸ List.mem_map_of_mem hb
    obtain ⟨x, -, hx⟩ := List.mem_map.mp hmem
    exact ⟨x, hx.symm⟩

/-- A filter stops at a byte whose lookup fails. -/
theorem lookup_error_of_destFilter {lookup : UInt8 → Except VecFault UInt8} {f : VecFault}
    (h : destFilter lookup src dst = .error f) : ∃ b ∈ src, lookup b = .error f := by
  rw [destFilter_eq] at h
  induction src with
  | nil => cases h
  | cons b src ih =>
    rw [List.mapM_cons] at h
    cases hb : lookup b with
    | error f' =>
      rw [hb] at h
      cases h
      exact ⟨b, List.mem_cons_self, hb⟩
    | ok x =>
      rw [hb] at h
      cases hrest : src.mapM lookup with
      | error f' =>
        rw [hrest] at h ih
        cases h
        obtain ⟨b', hb', herr⟩ := ih rfl
        exact ⟨b', List.mem_cons_of_mem _ hb', herr⟩
      | ok out =>
        rw [hrest] at h
        cases h

/-- On a stream without high bytes both readings of `char` are one; a high byte ends the
signed run in front of the vector, where the unsigned run never looks. -/
theorem destFilter_signed_iff (hv : 128 ≤ v.length) :
    destFilter (fun b => vecGet v (PlainChar.signed.toInt b)) src dst =
        destFilter (fun b => vecGet v (PlainChar.unsigned.toInt b)) src dst ↔
      ∀ b ∈ src, b.toNat < 128 := by
  constructor
  · intro h b hb
    by_contra hhigh
    cases hsigned : destFilter (fun b => vecGet v (PlainChar.signed.toInt b)) src dst with
    | ok r =>
      obtain ⟨x, hx⟩ := lookup_ok_of_destFilter hsigned b hb
      rw [vecGet_signed_error v hhigh] at hx
      cases hx
    | error f =>
      obtain ⟨b₁, -, hb₁⟩ := lookup_error_of_destFilter hsigned
      obtain ⟨b₂, -, hb₂⟩ := lookup_error_of_destFilter (h.symm.trans hsigned)
      have hhigh₁ : ¬ b₁.toNat < 128 := by
        intro hlow
        obtain ⟨x, hx⟩ := vecGet_low_ok hv hlow .signed
        cases hx.symm.trans hb₁
      rw [vecGet_signed_error v hhigh₁, vecGet_unsigned_error hb₂] at hb₁
      have hindex := (VecFault.read.inj (Except.error.inj hb₁)).1
      have hlt := b₁.toNat_lt
      omega
  · intro h
    have hcongr : src.map (fun b => vecGet v (PlainChar.signed.toInt b)) =
        src.map (fun b => vecGet v (PlainChar.unsigned.toInt b)) := by
      apply List.map_congr_left
      intro b hb
      rw [signed_toInt_eq (h b hb)]
    obtain ⟨out, hmap, hout⟩ := destFilter_ok (fun b => vecGet v (PlainChar.unsigned.toInt b))
      src dst fun b hb => vecGet_low_ok hv (h b hb) .unsigned
    rw [hout, destFilter_eq, (mapM_ok_iff _ src out).mpr (hcongr.trans hmap)]
    rfl

end Filter

/-! ## The two filters of an encryptor -/

/-- `dest_filter_out` and `dest_filter_in` do the same on either kind of ABI, each byte at an
index in range, exactly if the stream holds no byte from `0x80` up. Of the inverse vector this
needs no more than 128 entries: it holds for those that cover the index `255`, and for the 255
entries that the constructor makes, where a byte `0xFF` is out of range on either kind of ABI, at
two different indices. -/
theorem destFilter_abi_iff (secret : List UInt8) (e : LightsocksAndroidEncryptor)
    (henc : e.encryptVec = base64Decode secret) (hlen : (base64Decode secret).length = 256)
    (src dst : List UInt8) :
    ((destFilterOut (.ofEncryptor .signed e) src dst =
          destFilterOut (.ofEncryptor .unsigned e) src dst ↔ ∀ b ∈ src, b.toNat < 128) ∧
      (IndicesExact e.encryptVec src ↔ ∀ b ∈ src, b.toNat < 128)) ∧
    (128 ≤ e.decryptVec.length →
      (destFilterIn (.ofEncryptor .signed e) src dst =
          destFilterIn (.ofEncryptor .unsigned e) src dst ↔ ∀ b ∈ src, b.toNat < 128) ∧
      (IndicesExact e.decryptVec src ↔ ∀ b ∈ src, b.toNat < 128)) := by
  have hout : 128 ≤ e.encryptVec.length := by
    rw [henc, hlen]
    decide
  refine ⟨⟨destFilter_signed_iff hout, indicesExact_iff hout src⟩, ?_⟩
  intro hin
  exact ⟨destFilter_signed_iff hin, indicesExact_iff hin src⟩

/-- The table that sends every byte to `0`, which the constructor accepts. -/
theorem new_zeros : ∃ e,
    LightsocksAndroidEncryptor.new (base64Encode (List.replicate 256 0)) = .ok e ∧
    e.encryptVec = List.replicate 256 0 ∧ e.decryptVec.length = 255 := by
  obtain ⟨zeros, hzeros⟩ : ∃ zeros : List UInt8, zeros = List.replicate 256 0 := ⟨_, rfl⟩
  have hlen : zeros.length = 256 := by rw [hzeros, List.length_replicate]
  obtain ⟨dec, hdec⟩ := (LightsocksAndroidEncryptor.initVectors_ok_iff zeros
    (List.range zeros.length) (List.replicate mappingSize 0)).mpr (by
      intro i hi
      rw [hlen, List.mem_range] at hi
      refine ⟨0, ?_, by rw [List.length_replicate]; decide⟩
      rw [hzeros, List.getElem?_replicate, if_pos hi])
  rw [← hzeros]
  refine ⟨⟨zeros, dec⟩, ?_, rfl, ?_⟩
  · exact (newSized_ok_iff mappingSize _ _).mpr ⟨(decode_encode _).symm, hdec⟩
  · rw [LightsocksAndroidEncryptor.initVectors_length hdec, List.length_replicate]
    rfl

/-- With it, all bytes up to `0x7F` make no difference, and a `0x80` does, in both filters. -/
theorem destFilter_abi_iff_zeros : ∃ e,
    LightsocksAndroidEncryptor.new (base64Encode (List.replicate 256 0)) = .ok e ∧
    destFilterOut (.ofEncryptor .signed e) [0, 0x41, 0x7F] [] =
      destFilterOut (.ofEncryptor .unsigned e) [0, 0x41, 0x7F] [] ∧
    destFilterIn (.ofEncryptor .signed e) [0, 0x41, 0x7F] [] =
      destFilterIn (.ofEncryptor .unsigned e) [0, 0x41, 0x7F] [] ∧
    destFilterOut (.ofEncryptor .signed e) [0x41, 0x80] [] ≠
      destFilterOut (.ofEncryptor .unsigned e) [0x41, 0x80] [] ∧
    destFilterIn (.ofEncryptor .signed e) [0x41, 0x80] [] ≠
      destFilterIn (.ofEncryptor .unsigned e) [0x41, 0x80] [] := by
  obtain ⟨e, he, henc, hdec⟩ := new_zeros
  have hiff := destFilter_abi_iff (base64Encode (List.replicate 256 0)) e
    (henc.trans (decode_encode _).symm) (by rw [decode_encode, List.length_replicate])
  have hroom : 128 ≤ e.decryptVec.length := by omega
  have hlow : ∀ b ∈ ([0, 0x41, 0x7F] : List UInt8), b.toNat < 128 := by simp
  have hhigh : ¬ ∀ b ∈ ([0x41, 0x80] : List UInt8), b.toNat < 128 := by simp
  exact ⟨e, he, (hiff _ []).1.1.mpr hlow, ((hiff _ []).2 hroom).1.mpr hlow,
    hhigh ∘ (hiff _ []).1.1.mp, hhigh ∘ ((hiff _ []).2 hroom).1.mp⟩

theorem destFilterOut_single (abi : PlainChar) (e : LightsocksAndroidEncryptor) (b : UInt8) :
    destFilterOut (.ofEncryptor abi e) [b] [] =
      (vecGet e.encryptVec (abi.toInt b)).map fun x => (.ok, [], [x]) := by
  rw [destFilterOut, destFilter_eq, List.mapM_cons, List.mapM_nil]
  change ((vecGet e.encryptVec (abi.toInt b)).bind _).map _ = _
  cases vecGet e.encryptVec (abi.toInt b) <;> rfl

/-- A byte `0x80` with that table. -/
theorem high_byte_out_of_range :
    (base64Decode (base64Encode (List.replicate 256 0))).length = 256 ∧
    ∃ e, LightsocksAndroidEncryptor.new (base64Encode (List.replicate 256 0)) = .ok e ∧
      destFilterOut (.ofEncryptor .unsigned e) [0x80] [] = .ok (.ok, [], [0]) ∧
      destFilterOut (.ofEncryptor .signed e) [0x80] [] = .error (.read (-128) 256) := by
  obtain ⟨e, he, henc, -⟩ := new_zeros
  have hlen : e.encryptVec.length = 256 := by rw [henc, List.length_replicate]
  refine ⟨by rw [decode_encode, List.length_replicate], e, he, ?_, ?_⟩
  · have hget : vecGet e.encryptVec (PlainChar.unsigned.toInt 0x80) = .ok 0 :=
      (vecGet_nat e.encryptVec 128).mpr (by rw [henc, List.getElem?_replicate, if_pos (by decide)])
    rw [destFilterOut_single, hget]
    rfl
  · rw [destFilterOut_single, vecGet_signed_error e.encryptVec (by decide), hlen]
    rfl

end Lightsocks.Relay
