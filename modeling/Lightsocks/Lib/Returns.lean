import Lightsocks.Lib.Machine

/-!
# Computations that return

`Returns x P` says that a computation ends without a fault and its result satisfies `P`: the
rules go through a `do` block step by step. `Machine.Runs.returns` is the invariant rule for
machines that never fault.
-/

namespace Lightsocks.Lib

variable {φ α β : Type} {x : Except φ α} {f : α → Except φ β} {P P' : α → Prop} {Q : β → Prop}

def Returns (x : Except φ α) (P : α → Prop) : Prop := ∃ a, x = .ok a ∧ P a

namespace Returns

theorem ok {a : α} (h : P a) : Returns (.ok a : Except φ α) P := ⟨a, rfl, h⟩

theorem pure {a : α} (h : P a) : Returns (Pure.pure a : Except φ α) P := ⟨a, rfl, h⟩

theorem mono (h : Returns x P) (hP : ∀ a, P a → P' a) : Returns x P' := by
  obtain ⟨a, ha, h⟩ := h
  exact ⟨a, ha, hP a h⟩

theorem bind (hx : Returns x P) (hf : ∀ a, P a → Returns (f a) Q) : Returns (x >>= f) Q := by
  obtain ⟨a, rfl, h⟩ := hx
  exact hf a h

/-- A step with a known result. -/
theorem bind_eq {a : α} (hx : x = .ok a) (hf : Returns (f a) Q) : Returns (x >>= f) Q := by
  rw [hx]
  exact hf

/-- A check that passes. -/
theorem guard {b : Bool} {err : φ} {f : Unit → Except φ β} (hb : b = true)
    (hf : Returns (f ()) Q) : Returns ((if b then .ok () else .error err) >>= f) Q :=
  bind_eq (if_pos hb) hf

/-- A loop over a list, with an invariant of what was done so far. -/
theorem foldlM {γ : Type} {f : β → γ → Except φ β} {J : List γ → β → Prop} {l : List γ} {b : β}
    (hnil : J [] b)
    (hstep : ∀ pre a b, a ∈ l → J pre b → Returns (f b a) (J (pre ++ [a]))) :
    Returns (l.foldlM f b) (J l) := by
  suffices h : ∀ pre l' b, (∀ a ∈ l', a ∈ l) → J pre b → Returns (l'.foldlM f b) (J (pre ++ l')) by
    exact h [] l b (fun _ ha => ha) hnil
  intro pre l'
  induction l' generalizing pre with
  | nil =>
    intro b _ hJ
    rw [List.append_nil]
    exact Returns.pure hJ
  | cons a l' ih =>
    intro b hmem hJ
    apply Returns.bind (hstep pre a b (hmem a List.mem_cons_self) hJ)
    intro b' hJ'
    rw [show pre ++ a :: l' = pre ++ [a] ++ l' by simp]
    exact ih (pre ++ [a]) b' (fun a' ha' => hmem a' (List.mem_cons_of_mem _ ha')) hJ'

end Returns

/-! ## Projections -/

section

variable {α' β' : Type} {h : β → β'}

theorem map_bind_of_map {g : α → α'} {y : Except φ α'} {f' : α' → Except φ β'} (hx : x.map g = y)
    (hf : ∀ a, (f a).map h = f' (g a)) : (x >>= f).map h = y >>= f' := by
  subst hx
  cases x with
  | error _ => rfl
  | ok a => exact hf a

/-- The first step is the same. -/
theorem map_bind_same {f' : α → Except φ β'} (hf : ∀ a, (f a).map h = f' a) :
    (x >>= f).map h = x >>= f' := by
  cases x with
  | error _ => rfl
  | ok a => exact hf a

end

/-- If every enabled step returns and keeps the invariant, no run faults. -/
theorem Machine.Runs.returns {σ ε : Type} {m : Machine σ ε φ} {I : List ε → σ → Prop}
    (h0 : I [] m.init)
    (hstep : ∀ es s e, I es s → m.enabled s e = true → Returns (m.exec s e) (I (es ++ [e])))
    {es : List ε} {r : Except φ σ} (h : m.Runs es r) : Returns r (I es) := by
  induction h with
  | nil => exact Returns.ok h0
  | @snoc es s e _ he ih =>
    obtain ⟨s', hs', hI⟩ := ih
    cases hs'
    exact hstep es s e hI he

end Lightsocks.Lib
