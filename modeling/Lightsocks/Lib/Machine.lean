import Mathlib.Data.List.Induction

/-!
# Machines that may fault

A program that reacts to events is a `Machine`: in a state an event is enabled or not,
and executing an enabled event gives the next state or a fault, after which nothing runs.
`Runs es r` says that the events `es`, in this order, lead from the initial state to the
outcome `r`.

* `Runs.invariant`: a predicate on states (and on the events so far) that holds initially
  and is kept by every step holds after every run.
* `Runs.iff_along`: a run is good at all its prefixes exactly if each of its steps meets a
  condition on the state and the events before it. This is the rule for statements of the
  form "the property holds on a run if and only if ...".
* `play`: the same semantics as a function, so that a concrete run can be evaluated.
-/

namespace Lightsocks.Lib

/-- States `σ`, events `ε`, faults `φ`. -/
structure Machine (σ ε φ : Type) where
  init : σ
  enabled : σ → ε → Bool
  exec : σ → ε → Except φ σ

/-- A computation that ends without a fault did so in its first part. -/
theorem bind_ok {φ α β : Type} {x : Except φ α} {f : α → Except φ β} {b : β}
    (h : (x >>= f) = .ok b) : ∃ a, x = .ok a ∧ f a = .ok b := by
  cases x with
  | error _ => cases h
  | ok a => exact ⟨a, rfl, h⟩

namespace Machine

variable {σ ε φ : Type} {m : Machine σ ε φ}

/-- The outcome of a sequence of events; a fault ends the run. -/
inductive Runs (m : Machine σ ε φ) : List ε → Except φ σ → Prop
  | nil : Runs m [] (.ok m.init)
  | snoc {es : List ε} {s : σ} (e : ε) (h : Runs m es (.ok s)) (he : m.enabled s e = true) :
      Runs m (es ++ [e]) (m.exec s e)

namespace Runs

theorem eq_init {r : Except φ σ} (h : m.Runs [] r) : r = .ok m.init := by
  generalize hes : ([] : List ε) = es at h
  cases h with
  | nil => rfl
  | snoc e _ _ => simp at hes

/-- The last step of a run. -/
theorem last {es : List ε} {e : ε} {r : Except φ σ} (h : m.Runs (es ++ [e]) r) :
    ∃ s, m.Runs es (.ok s) ∧ m.enabled s e = true ∧ r = m.exec s e := by
  generalize hes : es ++ [e] = es' at h
  cases h with
  | nil => simp at hes
  | @snoc es₀ s e' h he =>
    obtain ⟨rfl, heq⟩ := List.append_inj' hes rfl
    cases heq
    exact ⟨s, h, he, rfl⟩

/-- The events determine the outcome. -/
theorem unique {es : List ε} {r r' : Except φ σ} (h : m.Runs es r) (h' : m.Runs es r') :
    r = r' := by
  induction h generalizing r' with
  | nil => exact (eq_init h').symm
  | snoc e h he ih =>
    obtain ⟨s', hs', -, rfl⟩ := last h'
    cases ih hs'
    rfl

/-- The invariant rule. The invariant may speak about the events executed so far. -/
theorem invariant {I : List ε → σ → Prop} (h0 : I [] m.init)
    (hstep : ∀ es s e s', m.Runs es (.ok s) → I es s → m.enabled s e = true →
      m.exec s e = .ok s' → I (es ++ [e]) s')
    {es : List ε} {s : σ} (h : m.Runs es (.ok s)) : I es s := by
  generalize hr : (Except.ok s : Except φ σ) = r at h
  induction h generalizing s with
  | nil =>
    cases hr
    exact h0
  | @snoc es s₀ e h he ih => exact hstep es s₀ e s h (ih rfl) he hr.symm

end Runs

/-! ## Conditions on the steps of a run -/

/-- Every step of `es` meets `C`, which sees the events before the step, the state before
it, and its event. -/
def Along (m : Machine σ ε φ) (C : List ε → σ → ε → Prop) (es : List ε) : Prop :=
  ∀ pre e post s, es = pre ++ e :: post → m.Runs pre (.ok s) → C pre s e

theorem along_nil (C : List ε → σ → ε → Prop) : m.Along C [] := by
  intro pre e post s h
  simp at h

theorem along_snoc {C : List ε → σ → ε → Prop} {es : List ε} {e : ε} {s : σ}
    (h : m.Runs es (.ok s)) : m.Along C (es ++ [e]) ↔ m.Along C es ∧ C es s e := by
  constructor
  · intro hal
    refine ⟨fun pre e' post s' heq hs' => ?_, hal es e [] s rfl h⟩
    exact hal pre e' (post ++ [e]) s' (by simp [heq]) hs'
  · rintro ⟨hal, hC⟩ pre e' post s' heq hs'
    rcases List.eq_nil_or_concat post with rfl | ⟨post', e'', rfl⟩
    · obtain ⟨rfl, he⟩ := List.append_inj' heq rfl
      cases he
      cases hs'.unique h
      exact hC
    · rw [List.concat_eq_append, ← List.cons_append, ← List.append_assoc] at heq
      obtain ⟨rfl, -⟩ := List.append_inj' heq rfl
      exact hal pre e' post' s' rfl hs'

/-- The rule for exact conditions. `P` is a property of runs that a longer run can only
lose; if a step keeps it exactly when the step meets `C`, then a run has it exactly when
all its steps meet `C`. -/
theorem Runs.iff_along {P : List ε → Except φ σ → Prop} {C : List ε → σ → ε → Prop}
    (h0 : P [] (.ok m.init))
    (hmono : ∀ es s e, m.Runs es (.ok s) → m.enabled s e = true →
      P (es ++ [e]) (m.exec s e) → P es (.ok s))
    (hstep : ∀ es s e, m.Runs es (.ok s) → m.enabled s e = true → P es (.ok s) →
      (P (es ++ [e]) (m.exec s e) ↔ C es s e))
    {es : List ε} {r : Except φ σ} (h : m.Runs es r) : P es r ↔ m.Along C es := by
  induction h with
  | nil => exact ⟨fun _ => along_nil C, fun _ => h0⟩
  | @snoc es s e h he ih =>
    rw [along_snoc h]
    constructor
    · intro hP
      have hpre := hmono es s e h he hP
      exact ⟨ih.mp hpre, (hstep es s e h he hpre).mp hP⟩
    · rintro ⟨hal, hC⟩
      exact (hstep es s e h he (ih.mpr hal)).mpr hC

/-- `G` holds in every state of the run. -/
def Always (m : Machine σ ε φ) (G : List ε → σ → Prop) (es : List ε) : Prop :=
  ∀ pre s, pre <+: es → m.Runs pre (.ok s) → G pre s

theorem always_snoc {G : List ε → σ → Prop} {es : List ε} {e : ε} {s : σ}
    (h : m.Runs es (.ok s)) (he : m.enabled s e = true) :
    m.Always G (es ++ [e]) ↔ m.Always G es ∧ ∀ s', m.exec s e = .ok s' → G (es ++ [e]) s' := by
  constructor
  · intro hG
    refine ⟨fun pre s' hpre hs' => hG pre s' (hpre.trans (List.prefix_append _ _)) hs', ?_⟩
    intro s' hs'
    exact hG _ s' (List.prefix_refl _) (hs' ▸ h.snoc e he)
  · rintro ⟨hes, hlast⟩ pre s' hpre hs'
    rcases List.prefix_concat_iff.mp hpre with rfl | hpre'
    · exact hlast s' ((h.snoc e he).unique hs')
    · exact hes pre s' hpre' hs'

/-- The rule for exact conditions, for runs that end in no bad fault and have `G` in every
state. -/
theorem Runs.safe_iff_along {B : φ → Prop} {G : List ε → σ → Prop}
    {C : List ε → σ → ε → Prop} (h0 : G [] m.init)
    (hstep : ∀ es s e, m.Runs es (.ok s) → m.enabled s e = true → G es s →
      (((∀ f, m.exec s e = .error f → ¬ B f) ∧
        ∀ s', m.exec s e = .ok s' → G (es ++ [e]) s') ↔ C es s e))
    {es : List ε} {r : Except φ σ} (h : m.Runs es r) :
    ((∀ f, r = .error f → ¬ B f) ∧ m.Always G es) ↔ m.Along C es := by
  refine iff_along (P := fun es r => (∀ f, r = .error f → ¬ B f) ∧ m.Always G es) ?_ ?_ ?_ h
  · refine ⟨fun f hf => (nomatch hf), fun pre s hpre hs => ?_⟩
    obtain rfl := List.prefix_nil.mp hpre
    cases eq_init hs
    exact h0
  · intro es s e hs he hG
    exact ⟨fun f hf => (nomatch hf), ((always_snoc hs he).mp hG.2).1⟩
  · intro es s e hs he hG
    rw [always_snoc hs he, and_iff_right hG.2]
    exact hstep es s e hs he (hG.2 es s (List.prefix_refl _) hs)

/-- The rule for exact conditions, for what holds in every state of a run. -/
theorem Runs.always_iff_along {G : List ε → σ → Prop} {C : List ε → σ → ε → Prop}
    (h0 : G [] m.init)
    (hstep : ∀ es s e, m.Runs es (.ok s) → m.enabled s e = true → G es s →
      ((∀ s', m.exec s e = .ok s' → G (es ++ [e]) s') ↔ C es s e))
    {es : List ε} {r : Except φ σ} (h : m.Runs es r) : m.Always G es ↔ m.Along C es := by
  have hsafe := safe_iff_along (B := fun _ => False) h0
    (fun es s e hs he hG => (and_iff_right fun _ _ hf => hf).trans (hstep es s e hs he hG)) h
  exact (and_iff_right fun _ _ hf => hf).symm.trans hsafe

/-! ## Evaluation -/

/-- One more event of a run under way; `none` if the event is not enabled, or if the run
has faulted already. -/
def advance (m : Machine σ ε φ) (r : Option (Except φ σ)) (e : ε) : Option (Except φ σ) :=
  match r with
  | some (.ok s) => if m.enabled s e then some (m.exec s e) else none
  | _ => none

/-- The semantics as a function. -/
def play (m : Machine σ ε φ) (es : List ε) : Option (Except φ σ) :=
  es.foldl m.advance (some (.ok m.init))

theorem runs_of_play {es : List ε} {r : Except φ σ} (h : m.play es = some r) :
    m.Runs es r := by
  induction es using List.reverseRecOn generalizing r with
  | nil =>
    cases h
    exact .nil
  | append_singleton es e ih =>
    rw [play, List.foldl_append] at h
    change m.advance (m.play es) e = some r at h
    unfold advance at h
    split at h
    · rename_i s hs
      split at h
      · rename_i he
        cases h
        exact (ih hs).snoc e he
      · cases h
    · cases h

/-- The run does not fault, and its last state passes the test. -/
def ends (m : Machine σ ε φ) (es : List ε) (p : σ → Bool) : Bool :=
  match m.play es with
  | some (.ok s) => p s
  | _ => false

theorem runs_of_ends {es : List ε} {p : σ → Bool} (h : m.ends es p = true) :
    ∃ s, m.Runs es (.ok s) ∧ p s = true := by
  unfold ends at h
  split at h
  · rename_i s hs
    exact ⟨s, runs_of_play hs, h⟩
  · cases h

/-- A condition on the steps of a run, checked step by step. -/
theorem along_of_ends {C : List ε → σ → ε → Prop} [∀ es s e, Decidable (C es s e)]
    {es : List ε} (h : ∀ i : Fin es.length,
      m.ends (es.take i) (fun s => decide (C (es.take i) s es[i])) = true) : m.Along C es := by
  rintro pre e post s rfl hs
  have hi := h ⟨pre.length, by simp⟩
  obtain ⟨s', hs', hC⟩ := runs_of_ends hi
  simp only [Fin.getElem_fin, List.take_left, List.getElem_append_right (Nat.le_refl _),
    Nat.sub_self, List.getElem_cons_zero, decide_eq_true_eq] at hs' hC
  cases hs'.unique hs
  exact hC

/-- The run ends in this fault. -/
def faults [BEq φ] (m : Machine σ ε φ) (es : List ε) (f : φ) : Bool :=
  match m.play es with
  | some (.error f') => f' == f
  | _ => false

theorem runs_of_faults [BEq φ] [LawfulBEq φ] {es : List ε} {f : φ}
    (h : m.faults es f = true) : m.Runs es (.error f) := by
  unfold faults at h
  split at h
  · rename_i f' hf'
    obtain rfl := eq_of_beq h
    exact runs_of_play hf'
  · cases h

end Machine

end Lightsocks.Lib
