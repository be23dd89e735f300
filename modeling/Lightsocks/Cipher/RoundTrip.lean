import Lightsocks.Cipher.Base64

/-!
# Decoding what was encoded

`base64Decode (base64Encode b) = b` for every byte sequence `b`. The loops are unfolded
three bytes (four characters) at a time; a group of one or two bytes left at the end goes
through the tails, whose filler values only reach bits that are not written out.
-/

namespace Lightsocks.Cipher

/-! ## Characters of the alphabet -/

theorem findChar_charAt_fin : ∀ k : Fin 64,
    findChar (charAt (UInt8.ofNat k)) = UInt8.ofNat k := by decide +kernel

theorem charAt_accepted_fin : ∀ k : Fin 64,
    (charAt (UInt8.ofNat k) != padChar && isBase64 (charAt (UInt8.ofNat k))) = true := by
  decide +kernel

theorem findChar_charAt {k : UInt8} (h : k.toNat < 64) : findChar (charAt k) = k := by
  simpa using findChar_charAt_fin ⟨k.toNat, h⟩

/-- The decoder reads on over every character the encoder writes. -/
theorem charAt_accepted {k : UInt8} (h : k.toNat < 64) :
    (charAt k != padChar && isBase64 (charAt k)) = true := by
  simpa using charAt_accepted_fin ⟨k.toNat, h⟩

/-! ## One group -/

theorem encodeGroup_lt (a b c : UInt8) : ∀ k ∈ encodeGroup a b c, k.toNat < 64 := by
  have ha := a.toNat_lt
  have hb := b.toNat_lt
  have hc := c.toNat_lt
  intro k hk
  simp only [encodeGroup, List.mem_cons, List.not_mem_nil, or_false] at hk
  rcases hk with rfl | rfl | rfl | rfl
  · rw [toNat_high6]; omega
  · rw [UInt8.toNat_add, toNat_low2_shift4, toNat_high4]; omega
  · rw [UInt8.toNat_add, toNat_low4_shift2, toNat_high2]; omega
  · rw [toNat_low6]; omega

section Group

variable (a b c : UInt8)

/-- The first byte only needs the first two values. -/
theorem decode_first :
    ((a &&& 0xfc) >>> 2) <<< 2 +
      ((((a &&& 0x03) <<< 4) + ((b &&& 0xf0) >>> 4)) &&& 0x30) >>> 4 = a := by
  have ha := a.toNat_lt
  have hb := b.toNat_lt
  apply UInt8.toNat_inj.mp
  rw [UInt8.toNat_add, toNat_shift2, toNat_high6, toNat_mid2, UInt8.toNat_add,
    toNat_low2_shift4, toNat_high4]
  omega

/-- The second byte only needs the second and the third value. -/
theorem decode_second :
    ((((a &&& 0x03) <<< 4) + ((b &&& 0xf0) >>> 4)) &&& 0xf) <<< 4 +
      ((((b &&& 0x0f) <<< 2) + ((c &&& 0xc0) >>> 6)) &&& 0x3c) >>> 2 = b := by
  have ha := a.toNat_lt
  have hb := b.toNat_lt
  have hc := c.toNat_lt
  apply UInt8.toNat_inj.mp
  rw [UInt8.toNat_add, toNat_low4_shift4, toNat_mid4, UInt8.toNat_add, UInt8.toNat_add,
    toNat_low2_shift4, toNat_high4, toNat_low4_shift2, toNat_high2]
  omega

theorem decode_third :
    ((((b &&& 0x0f) <<< 2) + ((c &&& 0xc0) >>> 6)) &&& 0x3) <<< 6 + (c &&& 0x3f) = c := by
  have hb := b.toNat_lt
  have hc := c.toNat_lt
  apply UInt8.toNat_inj.mp
  rw [UInt8.toNat_add, toNat_low2_shift6, toNat_low6, UInt8.toNat_add, toNat_low4_shift2,
    toNat_high2]
  omega

end Group

/-! ## The loops, one group at a time -/

theorem encodeLoop_ret (buf group ret : List UInt8) :
    encodeLoop buf group ret =
      ((encodeLoop buf group []).1, ret ++ (encodeLoop buf group []).2) := by
  induction buf generalizing group ret with
  | nil => simp [encodeLoop]
  | cons x buf ih =>
    simp only [encodeLoop]
    split
    · rename_i a b c _
      rw [ih [] (ret ++ _), ih [] ([] ++ _)]
      simp
    · exact ih _ ret

theorem decodeLoop_ret (str group ret : List UInt8) :
    decodeLoop str group ret =
      ((decodeLoop str group []).1, ret ++ (decodeLoop str group []).2) := by
  induction str generalizing group ret with
  | nil => simp [decodeLoop]
  | cons x str ih =>
    simp only [decodeLoop]
    split
    · split
      · rename_i a b c d _
        rw [ih [] (ret ++ _), ih [] ([] ++ _)]
        simp
      · exact ih _ ret
    · simp

theorem encodeTail_ret (group ret : List UInt8) :
    encodeTail group ret = ret ++ encodeTail group [] := by
  unfold encodeTail
  dsimp only
  split <;> simp

theorem decodeTail_ret (group ret : List UInt8) :
    decodeTail group ret = ret ++ decodeTail group [] := by
  unfold decodeTail
  dsimp only
  split <;> simp

/-- The encoding of three bytes and the rest. -/
theorem base64Encode_group (a b c : UInt8) (buf : List UInt8) :
    base64Encode (a :: b :: c :: buf) =
      (encodeGroup a b c).map charAt ++ base64Encode buf := by
  have h : encodeLoop (a :: b :: c :: buf) [] [] =
      encodeLoop buf [] ((encodeGroup a b c).map charAt) := rfl
  unfold base64Encode
  rw [h, encodeLoop_ret]
  dsimp only
  rw [encodeTail_ret, encodeTail_ret _ (encodeLoop buf [] []).2, List.append_assoc]

/-- The decoding of four accepted characters and the rest. -/
theorem base64Decode_group {w x y z : UInt8} (str : List UInt8)
    (h : ∀ k ∈ [w, x, y, z], k.toNat < 64) :
    base64Decode (charAt w :: charAt x :: charAt y :: charAt z :: str) =
      decodeGroup w x y z ++ base64Decode str := by
  have hw := h w (by simp)
  have hx := h x (by simp)
  have hy := h y (by simp)
  have hz := h z (by simp)
  have hl : decodeLoop (charAt w :: charAt x :: charAt y :: charAt z :: str) [] [] =
      decodeLoop str [] (decodeGroup w x y z) := by
    simp only [decodeLoop, charAt_accepted, hw, hx, hy, hz, if_true, List.nil_append,
      List.cons_append, findChar_charAt]
  unfold base64Decode
  rw [hl, decodeLoop_ret]
  dsimp only
  rw [decodeTail_ret, decodeTail_ret _ (decodeLoop str [] []).2, List.append_assoc]

/-! ## The tails -/

theorem decode_encode_one (a : UInt8) : base64Decode (base64Encode [a]) = [a] := by
  have hlt := encodeGroup_lt a 0 0
  simp only [encodeGroup, List.mem_cons, List.not_mem_nil, or_false, forall_eq_or_imp,
    forall_eq] at hlt
  obtain ⟨h0, h1, -, -⟩ := hlt
  have hpad : (padChar != padChar && isBase64 padChar) = false := rfl
  have henc : base64Encode [a] =
      [charAt ((a &&& 0xfc) >>> 2), charAt (((a &&& 0x03) <<< 4) + (((0 : UInt8) &&& 0xf0) >>> 4)),
        padChar, padChar] := rfl
  rw [henc]
  simp only [base64Decode, decodeLoop, charAt_accepted h0, charAt_accepted h1, hpad, if_true,
    Bool.false_eq_true, if_false, List.nil_append, List.cons_append, decodeTail,
    List.length_cons, List.length_nil, Nat.reduceAdd, Nat.reduceSub, List.replicate,
    List.map_cons, List.map_nil, findChar_charAt h0, findChar_charAt h1, decodeGroup]
  simpa using decode_first a 0

theorem decode_encode_two (a b : UInt8) : base64Decode (base64Encode [a, b]) = [a, b] := by
  have hlt := encodeGroup_lt a b 0
  simp only [encodeGroup, List.mem_cons, List.not_mem_nil, or_false, forall_eq_or_imp,
    forall_eq] at hlt
  obtain ⟨h0, h1, h2, -⟩ := hlt
  have hpad : (padChar != padChar && isBase64 padChar) = false := rfl
  have henc : base64Encode [a, b] =
      [charAt ((a &&& 0xfc) >>> 2), charAt (((a &&& 0x03) <<< 4) + ((b &&& 0xf0) >>> 4)),
        charAt (((b &&& 0x0f) <<< 2) + (((0 : UInt8) &&& 0xc0) >>> 6)), padChar] := rfl
  rw [henc]
  simp only [base64Decode, decodeLoop, charAt_accepted h0, charAt_accepted h1,
    charAt_accepted h2, hpad, if_true, Bool.false_eq_true, if_false, List.nil_append,
    List.cons_append, decodeTail, List.length_cons, List.length_nil, Nat.reduceAdd,
    Nat.reduceSub, List.replicate, List.map_cons, List.map_nil, findChar_charAt h0,
    findChar_charAt h1, findChar_charAt h2, decodeGroup]
  simpa [decode_first a b] using decode_second a b 0

/-- The round trip. -/
theorem decode_encode : ∀ b : List UInt8, base64Decode (base64Encode b) = b
  | [] => rfl
  | [a] => decode_encode_one a
  | [a, b] => decode_encode_two a b
  | a :: b :: c :: buf => by
    have ih := decode_encode buf
    rw [base64Encode_group]
    simp only [encodeGroup, List.map_cons, List.map_nil, List.cons_append, List.nil_append]
    rw [base64Decode_group _ (encodeGroup_lt a b c), ih]
    simp [decodeGroup, decode_first, decode_second, decode_third]

/-! ## The shape of the encoded text -/

theorem charAt_mem {k : UInt8} (h : k.toNat < 64) : charAt k ∈ base64Chars := by
  have hlt : k.toNat < base64Chars.length := h
  have hget : charAt k = base64Chars[k.toNat] := by
    simp [charAt, List.getD_eq_getElem?_getD, List.getElem?_eq_getElem hlt]
  rw [hget]
  exact List.getElem_mem hlt

theorem encodeGroup_chars (a b c : UInt8) :
    ∀ x ∈ (encodeGroup a b c).map charAt, x ∈ base64Chars := by
  intro x hx
  obtain ⟨k, hk, rfl⟩ := List.mem_map.mp hx
  exact charAt_mem (encodeGroup_lt a b c k hk)

theorem padChar_not_mem : padChar ∉ base64Chars := by decide

/-- A text in the alphabet with at most two `'='` behind it, four characters for every three
bytes begun. -/
structure Padded (len : Nat) (text : List UInt8) : Prop where
  length_eq : text.length = 4 * ((len + 2) / 3)
  body : ∃ body n, n ≤ 2 ∧ text = body ++ List.replicate n padChar ∧ ∀ x ∈ body, x ∈ base64Chars

/-- One more full group in front. -/
theorem Padded.group {len : Nat} {text : List UInt8} (h : Padded len text) (a b c : UInt8) :
    Padded (len + 3) ((encodeGroup a b c).map charAt ++ text) := by
  obtain ⟨body, n, hn, rfl, hbody⟩ := h.body
  refine ⟨?_, (encodeGroup a b c).map charAt ++ body, n, hn, by simp, ?_⟩
  · have hlen := h.length_eq
    simp only [List.length_append, List.length_map, encodeGroup, List.length_cons,
      List.length_nil] at hlen ⊢
    omega
  · intro x hx
    rcases List.mem_append.mp hx with hx | hx
    · exact encodeGroup_chars a b c x hx
    · exact hbody x hx

/-- The group of `i` bytes that is left becomes `i + 1` characters and `3 - i` times `'='`. -/
theorem encodeTail_padded (group : List UInt8) (h : group.length < 3) :
    Padded group.length (encodeTail group []) := by
  unfold encodeTail
  dsimp only
  split
  · rename_i h0
    rw [h0]
    exact ⟨rfl, [], 0, by omega, rfl, by simp⟩
  · rename_i h0
    refine ⟨?_, _, 3 - group.length, by omega, by simp only [List.nil_append]; rfl, ?_⟩
    · simp [encodeGroup]
      omega
    · intro x hx
      rw [List.map_take] at hx
      exact encodeGroup_chars _ _ _ x (List.mem_of_mem_take hx)

theorem encode_padded : ∀ b : List UInt8, Padded b.length (base64Encode b)
  | [] => encodeTail_padded [] (by simp)
  | [a] => encodeTail_padded [a] (by simp)
  | [a, b] => encodeTail_padded [a, b] (by simp)
  | a :: b :: c :: buf => by
    rw [base64Encode_group]
    exact (encode_padded buf).group a b c

/-- Whatever was encoded is decoded again, and the encoded text has the shape of base64. -/
theorem base64_round_trip :
    (∀ b : List UInt8,
      base64Decode (base64Encode b) = b ∧
      (base64Encode b).length = 4 * ((b.length + 2) / 3) ∧
      ∃ body n, n ≤ 2 ∧ base64Encode b = body ++ List.replicate n padChar ∧
        (∀ x ∈ body, x ∈ base64Chars)) ∧
    padChar ∉ base64Chars ∧ base64Chars.length = 64 ∧ Function.Injective base64Encode := by
  refine ⟨?_, padChar_not_mem, rfl, ?_⟩
  · intro b
    have hpad := encode_padded b
    exact ⟨decode_encode b, hpad.length_eq, hpad.body⟩
  · intro b b' h
    rw [← decode_encode b, h, decode_encode b']

end Lightsocks.Cipher
