import Mathlib.Data.List.Basic

/-!
# Framed streams

A `Framing α β` cuts a stream of `β` into frames that hold an `α` each. What the front of a
stream says does not change when more arrives behind it, so what a stream holds does not depend
on the pieces in which it is received.

* `Reads`: the frames at the front of a stream, and what is behind them.
* `Reads.append`, `Reads.snoc`: more of the stream arrives, or one more frame is taken.
* `Reads.of_encoding`: what can be read of a part of an encoded list.
-/

namespace Lightsocks.Lib

variable {α β : Type}

/-- What the front of a stream says. -/
inductive Front (α : Type)
  | incomplete
  | malformed
  | frame (a : α) (size : Nat)
  deriving DecidableEq, Repr

structure Framing (α β : Type) where
  front : List β → Front α
  front_nil : front [] = .incomplete
  size_le : ∀ {xs a n}, front xs = .frame a n → n ≤ xs.length
  frame_append : ∀ {xs a n}, front xs = .frame a n → ∀ ys, front (xs ++ ys) = .frame a n
  malformed_append : ∀ {xs}, front xs = .malformed → ∀ ys, front (xs ++ ys) = .malformed

namespace Framing

variable {F : Framing α β} {xs ys rest rest' : List β} {as bs : List α} {a : α} {n : Nat}

/-- `F.Reads xs as rest`: the stream `xs` starts with frames that hold `as`, with `rest` behind
them. -/
inductive Reads (F : Framing α β) : List β → List α → List β → Prop
  | nil (xs : List β) : Reads F xs [] xs
  | cons {xs rest : List β} {a : α} {as : List α} {n : Nat} (hf : F.front xs = .frame a n)
      (h : Reads F (xs.drop n) as rest) : Reads F xs (a :: as) rest

namespace Reads

theorem append (h : F.Reads xs as rest) (ys : List β) : F.Reads (xs ++ ys) as (rest ++ ys) := by
  induction h with
  | nil xs => exact .nil _
  | cons hf _ ih =>
    apply Reads.cons (F.frame_append hf ys)
    rw [List.drop_append_of_le_length (F.size_le hf)]
    exact ih

theorem snoc (h : F.Reads xs as rest) (hf : F.front rest = .frame a n) :
    F.Reads xs (as ++ [a]) (rest.drop n) := by
  induction h with
  | nil xs => exact .cons hf (.nil _)
  | cons hf' _ ih => exact .cons hf' (ih hf)

/-- A longer reading of a stream continues a shorter one. -/
theorem extends_of_le (h : F.Reads xs as rest) (h' : F.Reads xs bs rest')
    (hlen : as.length ≤ bs.length) : ∃ cs, bs = as ++ cs ∧ F.Reads rest cs rest' := by
  induction h generalizing bs with
  | nil xs => exact ⟨bs, rfl, h'⟩
  | cons hf _ ih =>
    cases h' with
    | nil => simp at hlen
    | cons hf' h' =>
      cases hf.symm.trans hf'
      obtain ⟨cs, rfl, hcs⟩ := ih h' (by simpa using hlen)
      exact ⟨cs, rfl, hcs⟩

/-- When no frame is left behind `as`, every reading of the stream is a part of it. -/
theorem isPrefix (h : F.Reads xs as rest) (h' : F.Reads xs bs rest')
    (hnone : ∀ a n, F.front rest ≠ .frame a n) : bs <+: as := by
  by_cases hlen : bs.length ≤ as.length
  · obtain ⟨cs, hcs, -⟩ := h'.extends_of_le h hlen
    exact ⟨cs, hcs.symm⟩
  · obtain ⟨cs, rfl, hcs⟩ := h.extends_of_le h' (by omega)
    cases hcs with
    | nil => exact absurd (by simp) hlen
    | cons hf _ => exact absurd hf (hnone _ _)

end Reads

/-! ## Encodings -/

/-- `enc a` is a frame that holds `a`, whatever follows it. -/
def Frames (F : Framing α β) (enc : α → List β) (a : α) : Prop :=
  ∀ ys, F.front (enc a ++ ys) = .frame a (enc a).length

theorem reads_flatMap {enc : α → List β} (h : ∀ a ∈ as, F.Frames enc a) (ys : List β) :
    F.Reads (as.flatMap enc ++ ys) as ys := by
  induction as with
  | nil => exact .nil ys
  | cons a as ih =>
    rw [List.flatMap_cons, List.append_assoc]
    apply Reads.cons (h a (by simp) _)
    rw [List.drop_left]
    exact ih fun b hb => h b (by simp [hb])

/-- What was read of the part `xs` of an encoded list: the first elements, and the encoding of
the others is what is left, and what did not arrive yet. -/
theorem Reads.of_encoding {enc : α → List β} {cs : List α} {zs : List β}
    (h : F.Reads xs as rest) (hcs : ∀ c ∈ cs, F.Frames enc c) (hxs : xs ++ zs = cs.flatMap enc) :
    ∃ ds, cs = as ++ ds ∧ rest ++ zs = ds.flatMap enc := by
  induction h generalizing cs with
  | nil xs => exact ⟨cs, rfl, hxs⟩
  | @cons xs rest a as n hf _ ih =>
    cases cs with
    | nil =>
      obtain ⟨rfl, -⟩ := List.append_eq_nil_iff.mp (show xs ++ zs = [] from hxs)
      cases F.front_nil.symm.trans hf
    | cons c cs =>
      have hfront := hcs c (by simp) (cs.flatMap enc)
      rw [← List.flatMap_cons, ← hxs, F.frame_append hf zs] at hfront
      cases hfront
      have hdrop : xs.drop (enc a).length ++ zs = cs.flatMap enc := by
        rw [← List.drop_append_of_le_length (F.size_le hf), hxs, List.flatMap_cons,
          List.drop_left]
      have htail : ∀ c ∈ cs, F.Frames enc c := fun c hc => hcs c (by simp [hc])
      obtain ⟨ds, rfl, hrest⟩ := ih htail hdrop
      exact ⟨ds, rfl, hrest⟩

/-- A part of an encoded list is never malformed. -/
theorem front_ne_malformed {enc : α → List β} {ds : List α} {zs : List β}
    (hds : ∀ d ∈ ds, F.Frames enc d) (hrest : rest ++ zs = ds.flatMap enc) :
    F.front rest ≠ .malformed := by
  intro hm
  have hm' := F.malformed_append hm zs
  rw [hrest] at hm'
  cases ds with
  | nil => cases F.front_nil.symm.trans hm'
  | cons d ds =>
    rw [List.flatMap_cons, hds d (by simp)] at hm'
    cases hm'

/-- When all of an encoded list arrived, no frame is left only if there is nothing left. -/
theorem eq_nil_of_not_frame {enc : α → List β} {ds : List α}
    (hds : ∀ d ∈ ds, F.Frames enc d) (hrest : rest = ds.flatMap enc)
    (hnone : ∀ a n, F.front rest ≠ .frame a n) : ds = [] := by
  cases ds with
  | nil => rfl
  | cons d ds =>
    rw [List.flatMap_cons] at hrest
    exact absurd (hrest ▸ hds d (by simp) _) (hnone _ _)

end Framing

end Lightsocks.Lib
