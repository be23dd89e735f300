import Mathlib.Data.List.Basic

/-!
# Records in a ring

Records of different sizes in an array of cells, one behind another, as a queue. A record is
never split: when there might be no space for another one before the end of the array, the
next one goes to the front, and what is left at the end is not used.

`At a b x` says that the cells from `a` up to `b` hold the record `x`; the rules are about any
such predicate. `room` is the number of cells that must be left for one more record.

* `Chain`: records one behind another.
* `Ring`: the two shapes that a queue can have, with rules for a new last record (`push_straight`,
  `push_wrapped`), for the first record (`pop`), and for writes to free cells (`frame`).
* `Ring.length_of_full`: a ring without space for one more record holds many.
-/

namespace Lightsocks.Lib

variable {α : Type} {At At' : Nat → Nat → α → Prop}

/-- The records `xs` lie one behind another, from `a` up to `b`. -/
inductive Chain (At : Nat → Nat → α → Prop) : Nat → Nat → List α → Prop
  | nil (a : Nat) : Chain At a a []
  | cons {a b c : Nat} {x : α} {xs : List α} (hx : At a b x) (h : Chain At b c xs) :
      Chain At a c (x :: xs)

namespace Chain

variable {a b c k : Nat} {x : α} {xs : List α}

theorem snoc (h : Chain At a b xs) (hx : At b c x) : Chain At a c (xs ++ [x]) := by
  induction h with
  | nil a => exact .cons hx (.nil _)
  | cons hy _ ih => exact .cons hy (ih hx)

theorem uncons (h : Chain At a c (x :: xs)) : ∃ b, At a b x ∧ Chain At b c xs := by
  cases h with
  | cons hx h => exact ⟨_, hx, h⟩

theorem eq_of_nil (h : Chain At a b ([] : List α)) : a = b := by
  cases h
  rfl

theorem le (hpos : ∀ a b x, At a b x → a < b) (h : Chain At a b xs) : a ≤ b := by
  induction h with
  | nil a => exact Nat.le_refl a
  | cons hx _ ih => exact Nat.le_trans (Nat.le_of_lt (hpos _ _ _ hx)) ih

/-- Only the cells of the chain matter. -/
theorem mono (hpos : ∀ a b x, At a b x → a < b) (h : Chain At a b xs)
    (hAt : ∀ a' b' x, a ≤ a' → b' ≤ b → At a' b' x → At' a' b' x) : Chain At' a b xs := by
  induction h with
  | nil a => exact .nil a
  | cons hx h ih =>
    have hlt := hpos _ _ _ hx
    apply Chain.cons (hAt _ _ _ (Nat.le_refl _) (h.le hpos) hx)
    exact ih fun a' b' y ha' hb' => hAt a' b' y (by omega) hb'

/-- The cells that a number of records take. -/
theorem sub_le (hsize : ∀ a b x, At a b x → b ≤ a + k) (h : Chain At a b xs) :
    b ≤ a + k * xs.length := by
  induction h with
  | nil a => exact Nat.le_add_right _ _
  | cons hx _ ih =>
    have hk := hsize _ _ _ hx
    rw [List.length_cons, Nat.mul_succ]
    omega

end Chain

/-- Where the next record starts. -/
def ringBack (start wrap used : Nat) : Nat :=
  if wrap - start ≤ used then used - (wrap - start) else start + used

/-- Where the free cells behind the last record end. -/
def ringLimit (size start wrap used : Nat) : Nat :=
  if wrap - start ≤ used then start else size

/-- Without the first `n` cells in use, the next record starts in the same place, and has no less
space. -/
theorem ring_pop {size start wrap used n : Nat} (hstart : start + n ≤ wrap) (hn : n ≤ used)
    (hlt : start < wrap) (hsize : wrap ≤ size) (hback : ringBack start wrap used < size) :
    let start' := if start + n = wrap then 0 else start + n
    let wrap' := if start + n = wrap then size else wrap
    ringBack start' wrap' (used - n) = ringBack start wrap used ∧
      ringLimit size start wrap used ≤ ringLimit size start' wrap' (used - n) ∧
      (used < wrap - start →
        ringLimit size start' wrap' (used - n) = ringLimit size start wrap used) := by
  unfold ringBack ringLimit at *
  by_cases hend : start + n = wrap
  · simp only [if_pos hend]
    split at hback <;> split <;> omega
  · simp only [if_neg hend]
    split at hback <;> split <;> omega

/-- The records of a queue: in one chain that leaves room at the end, or in one up to `wrap`
and one from the front. -/
inductive Ring (At : Nat → Nat → α → Prop) (size room : Nat) : Nat → Nat → Nat → List α → Prop
  | straight {start used : Nat} {xs : List α} (h : Chain At start (start + used) xs)
      (hroom : start + used + room ≤ size) : Ring At size room start size used xs
  | wrapped {start last wrap back : Nat} {xs ys : List α} {x : α} (h : Chain At start last xs)
      (hx : At last wrap x) (hwrap : wrap ≤ size) (hlast : last + room ≤ size)
      (hend : size < wrap + room) (hys : Chain At 0 back ys) (hback : back ≤ start) :
      Ring At size room start wrap (wrap - start + back) (xs ++ x :: ys)

namespace Ring

variable {size room start wrap used n k : Nat} {x : α} {xs : List α}

theorem empty (h : room ≤ size) : Ring At size room 0 size 0 [] :=
  .straight (.nil 0) (by omega)

/-- The bounds of the positions, and which of the two shapes `used` means. -/
theorem bounds (hpos : ∀ a b x, At a b x → a < b) (hroom : 0 < room)
    (h : Ring At size room start wrap used xs) :
    start < wrap ∧ wrap ≤ size ∧ used ≤ wrap ∧ (wrap = size ∨ wrap - start ≤ used) ∧
      ringBack start wrap used ≤ ringLimit size start wrap used ∧
      ringBack start wrap used + room ≤ size := by
  unfold ringBack ringLimit
  cases h with
  | straight h hr =>
    rw [if_neg (by omega), if_neg (by omega)]
    omega
  | wrapped h hx hwrap hlast hend hys hback =>
    have hle := h.le hpos
    have hlt := hpos _ _ _ hx
    rw [if_pos (by omega), if_pos (by omega)]
    omega

theorem used_eq_zero (h : Ring At size room start wrap used ([] : List α)) : used = 0 := by
  generalize hxs : ([] : List α) = xs at h
  cases h with
  | straight h hr =>
    subst hxs
    have heq := h.eq_of_nil
    omega
  | wrapped => simp at hxs

/-- Without a wrap there is room for one more record. -/
theorem straight_room (h : Ring At size room start wrap used xs)
    (hused : used < wrap - start) :
    wrap = size ∧ start + used + room ≤ size ∧ Chain At start (start + used) xs := by
  cases h with
  | straight h hr => exact ⟨rfl, hr, h⟩
  | wrapped h hx hwrap hlast hend hys hback => omega

/-- A record at the back, with no wrap before. There is a wrap now if there is not enough room
behind the record for another one. -/
theorem push_straight (h : Ring At size room start wrap used xs)
    (hused : used < wrap - start) (hx : At (start + used) (start + used + n) x)
    (hfit : start + used + n ≤ size) :
    Ring At size room start (if size < start + used + n + room then start + used + n else wrap)
      (used + n) (xs ++ [x]) := by
  obtain ⟨rfl, hr, hchain⟩ := h.straight_room hused
  split
  · rename_i hfull
    have hwrapped : Ring At wrap room start (start + used + n) (start + used + n - start + 0)
        (xs ++ x :: []) :=
      .wrapped hchain hx hfit hr hfull (.nil 0) (Nat.zero_le _)
    have hlen : start + used + n - start + 0 = used + n := by omega
    rw [hlen] at hwrapped
    exact hwrapped
  · apply Ring.straight _ (by omega)
    rw [← Nat.add_assoc]
    exact hchain.snoc hx

/-- A record at the back, with a wrap before. -/
theorem push_wrapped (hroom : 0 < room) (h : Ring At size room start wrap used xs)
    (hused : wrap - start ≤ used) (hx : At (used - (wrap - start)) (used - (wrap - start) + n) x)
    (hfit : used - (wrap - start) + n ≤ start) :
    Ring At size room start wrap (used + n) (xs ++ [x]) := by
  cases h with
  | straight h hr => omega
  | @wrapped last _ back xs ys y h hy hwrap hlast hend hys hback =>
    have hsub : wrap - start + back - (wrap - start) = back := by omega
    rw [hsub] at hx hfit
    rw [List.append_assoc, List.cons_append, Nat.add_assoc]
    exact .wrapped h hy hwrap hlast hend (hys.snoc hx) hfit

/-- The first record, and the ring without it. -/
theorem pop (hpos : ∀ a b x, At a b x → a < b) (hroom : 0 < room)
    (h : Ring At size room start wrap used (x :: xs)) :
    ∃ b, At start b x ∧ b ≤ wrap ∧ b - start ≤ used ∧
      Ring At size room (if b = wrap then 0 else b) (if b = wrap then size else wrap)
        (used - (b - start)) xs := by
  generalize hxs : x :: xs = zs at h
  cases h with
  | straight h hr =>
    subst hxs
    obtain ⟨b, hx, h⟩ := h.uncons
    have hle := h.le hpos
    have hlt := hpos _ _ _ hx
    refine ⟨b, hx, by omega, by omega, ?_⟩
    rw [if_neg (by omega), if_neg (by omega)]
    apply Ring.straight _ (by omega)
    have hend : b + (used - (b - start)) = start + used := by omega
    rw [hend]
    exact h
  | @wrapped last _ back front ys y h hy hwrap hlast hend hys hback =>
    have hlast' := hpos _ _ _ hy
    cases front with
    | nil =>
      cases hxs
      obtain rfl := h.eq_of_nil
      refine ⟨wrap, hy, Nat.le_refl _, by omega, ?_⟩
      rw [if_pos rfl, if_pos rfl]
      have hused : wrap - start + back - (wrap - start) = back := by omega
      rw [hused]
      apply Ring.straight _ (by omega)
      rw [Nat.zero_add]
      exact hys
    | cons z front =>
      cases hxs
      obtain ⟨b, hx, h⟩ := h.uncons
      have hle := h.le hpos
      have hlt := hpos _ _ _ hx
      refine ⟨b, hx, by omega, by omega, ?_⟩
      rw [if_neg (by omega), if_neg (by omega)]
      have hused : wrap - start + back - (b - start) = wrap - b + back := by omega
      rw [hused]
      exact .wrapped h hy hwrap hlast hend hys (by omega)

/-- What is written to the free cells behind the last record changes no record. -/
theorem frame (hpos : ∀ a b x, At a b x → a < b) (hroom : 0 < room)
    (h : Ring At size room start wrap used xs)
    (hAt : ∀ a b x, b ≤ ringBack start wrap used ∨ ringLimit size start wrap used ≤ a →
      At a b x → At' a b x) : Ring At' size room start wrap used xs := by
  unfold ringBack ringLimit at hAt
  cases h with
  | straight h hr =>
    rw [if_neg (by omega), if_neg (by omega)] at hAt
    exact .straight (h.mono hpos fun a b x _ hb => hAt a b x (Or.inl hb)) hr
  | @wrapped last _ back xs ys y h hx hwrap hlast hend hys hback =>
    have hle := h.le hpos
    have hlt := hpos _ _ _ hx
    have hsub : wrap - start + back - (wrap - start) = back := by omega
    rw [if_pos (by omega), if_pos (by omega), hsub] at hAt
    apply Ring.wrapped _ (hAt _ _ _ (Or.inr hle) hx) hwrap hlast hend _ hback
    · exact h.mono hpos fun a b x ha _ => hAt a b x (Or.inr ha)
    · exact hys.mono hpos fun a b x _ hb => hAt a b x (Or.inl hb)

/-- A ring without room for one more record holds at least `count` records, if it is large
enough for one more than that. -/
theorem length_of_full {count : Nat} (hpos : ∀ a b x, At a b x → a < b) (hroom : 0 < room)
    (hsize : ∀ a b x, At a b x → b ≤ a + room) (h : Ring At size room start wrap used xs)
    (hlarge : room * (count + 1) ≤ size)
    (hfull : ringLimit size start wrap used < ringBack start wrap used + room) :
    count ≤ xs.length := by
  unfold ringBack ringLimit at hfull
  cases h with
  | straight h hr =>
    rw [if_neg (by omega), if_neg (by omega)] at hfull
    omega
  | @wrapped last _ back xs ys y h hx hwrap hlast hend hys hback =>
    have hle := h.le hpos
    have hlt := hpos _ _ _ hx
    rw [if_pos (by omega), if_pos (by omega)] at hfull
    have hfirst := h.sub_le hsize
    have hmiddle := hsize _ _ _ hx
    have hsecond := hys.sub_le hsize
    rw [List.length_append, List.length_cons]
    by_contra hshort
    have hcount : xs.length + ys.length + 2 ≤ count := by omega
    have hmul : room * (xs.length + ys.length + 3) ≤ room * (count + 1) :=
      Nat.mul_le_mul_left room (by omega)
    rw [Nat.mul_add, Nat.mul_add] at hmul
    omega

end Ring

end Lightsocks.Lib
