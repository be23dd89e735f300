import Lightsocks.Lib.CInt
import Lightsocks.Lib.Returns

/-!
# AVL trees of nodes inside objects

A node of the tree is a pointer to an object, and the value that the tree compares is in the
object: `key p` reads the value of the object at `p`. A search descends by comparisons with the
values that the objects have now, so an object that changed its value while it is in the tree is
not found any more, nor are others. A node is removed by its pointer and not by its value, so an
object can be taken out before it changes, and be put in again.

`Changed t nodes x` says that `x` is a subtree for the place of `t` and by how much its height is
another one; each operation has a lemma with it, and `Index` is what a whole tree keeps.
-/

namespace Lightsocks.Lib

inductive Avl (ν : Type)
  | nil
  | node (left : Avl ν) (p : ν) (balance : Int) (right : Avl ν)
  deriving DecidableEq, Repr

namespace Avl

variable {ν κ : Type}

/-- The nodes in their order. -/
def toList : Avl ν → List ν
  | nil => []
  | node left p _ right => left.toList ++ p :: right.toList

instance : Membership ν (Avl ν) := ⟨fun t p => p ∈ t.toList⟩

instance [DecidableEq ν] (p : ν) (t : Avl ν) : Decidable (p ∈ t) :=
  inferInstanceAs (Decidable (p ∈ t.toList))

theorem mem_iff {p : ν} {t : Avl ν} : p ∈ t ↔ p ∈ t.toList := Iff.rfl

@[simp] theorem not_mem_nil (p : ν) : p ∉ (nil : Avl ν) := List.not_mem_nil

def height : Avl ν → Nat
  | nil => 0
  | node left _ _ right => max left.height right.height + 1

/-- The balance factors are the differences of the heights, and small. -/
def Balanced : Avl ν → Prop
  | nil => True
  | node left _ balance right =>
    left.Balanced ∧ right.Balanced ∧
      balance = (right.height : Int) - left.height ∧ -1 ≤ balance ∧ balance ≤ 1

/-! ## Sides -/

/-- A node with `child` at `link[side]` and `other` at `link[!side]`. -/
def link (side : Bool) (child : Avl ν) (p : ν) (balance : Int) (other : Avl ν) : Avl ν :=
  if side then node other p balance child else node child p balance other

/-- A node as `link` makes it. -/
def view (side : Bool) : Avl ν → Option (Avl ν × ν × Int × Avl ν)
  | nil => none
  | node left p balance right =>
    if side then some (right, p, balance, left) else some (left, p, balance, right)

def optneg (a : Int) (neg : Bool) : Int := if neg then -a else a

/-- The balance of a node that is heavier on this side by one. -/
def sign (bside : Bool) : Int := if bside then 1 else -1

/-! ## Rebalancing -/

/-- The transformations of a node that is too heavy on the side `bside`, with the child of that
side. A child that is itself heavier on the other side is rotated first. -/
def transform (bside : Bool) (child : Avl ν) (p : ν) (other : Avl ν) (delta : Int) :
    Except CFault (Avl ν × Int) :=
  let bsidef := sign bside
  match child.view bside with
  | none => throw .assertion
  | some (near, q, cbalance, gchild) =>
    if cbalance * bsidef = 1 then
      return (link bside near q 0 (link bside gchild p 0 other), delta - 1)
    else if cbalance * bsidef = 0 then
      return (link bside near q (-1 * bsidef) (link bside gchild p (1 * bsidef) other), delta)
    else if cbalance * bsidef = -1 then
      match gchild.view bside with
      | none => throw .assertion
      | some (inner, r, gbalance, outer) =>
        return (link bside (link bside near q (max 0 (-gbalance * bsidef) * bsidef) inner) r 0
          (link bside outer p (-(max 0 (gbalance * bsidef)) * bsidef) other), delta - 1)
    else throw .assertion

/-- The transformations are made if the balance factor is wrong. -/
def settle (left : Avl ν) (p : ν) (balance : Int) (right : Avl ν) (delta : Int) :
    Except CFault (Avl ν × Int) :=
  if balance = 2 then transform true right p left delta
  else if balance = -2 then transform false left p right delta
  else return (node left p balance right, delta)

/-- One node on the way up, whose subtree on `side` was replaced and is higher by `deltac`: what
stands in the node's place, and how much higher that is. -/
def rebalance (left : Avl ν) (p : ν) (balance : Int) (right : Avl ν) (side : Bool)
    (deltac : Int) : Except CFault (Avl ν × Int) := do
  assert (decide (-1 ≤ deltac ∧ deltac ≤ 1))
  assert (decide (-1 ≤ balance ∧ balance ≤ 1))
  if deltac = 0 then return (node left p balance right, 0)
  else do
    let delta := max deltac (optneg balance side) - max 0 (optneg balance side)
    assert (decide (-1 ≤ delta ∧ delta ≤ 1))
    let (t, delta) ← settle left p (balance - optneg deltac side) right delta
    assert (decide (-1 ≤ delta ∧ delta ≤ 1))
    return (t, delta)

/-! ## Operations -/

/-- The search for a value. A pointer to no object ends it; there is none in a tree that `Index`
holds of. -/
def lookupExact (cmp : κ → κ → Ordering) (key : ν → Option κ) (k : κ) : Avl ν → Option ν
  | nil => none
  | node left q _ right =>
    match key q with
    | none => none
    | some k' =>
      match cmp k k' with
      | .eq => some q
      | .lt => lookupExact cmp key k left
      | .gt => lookupExact cmp key k right

/-- The descent of a new node to a leaf, and the way back. -/
def insertBelow (cmp : κ → κ → Ordering) (key : ν → Option κ) (k : κ) (p : ν) :
    Avl ν → Except CFault (Avl ν × Int)
  | nil => return (node nil p 0 nil, 1)
  | node left q balance right =>
    match key q with
    | none => throw .assertion
    | some k' =>
      match cmp k k' with
      | .eq => throw .assertion
      | .lt => do
        let (left, deltac) ← insertBelow cmp key k p left
        rebalance left q balance right false deltac
      | .gt => do
        let (right, deltac) ← insertBelow cmp key k p right
        rebalance left q balance right true deltac

/-- Insertion. A caller asserts that it succeeds: no node has an equal value. -/
def insert (cmp : κ → κ → Ordering) (key : ν → Option κ) (t : Avl ν) (p : ν) :
    Except CFault (Avl ν) :=
  match key p with
  | none => throw .assertion
  | some k => do
    let (t, _) ← t.insertBelow cmp key k p
    return t

/-- A subtree without its largest node, which is replaced with its left child. -/
def removeMax : Avl ν → Except CFault (Avl ν × ν × Int)
  | nil => throw .assertion
  | node left p balance right =>
    match right with
    | nil => return (left, p, -1)
    | node .. => do
      let (right, m, deltac) ← removeMax right
      let (t, delta) ← rebalance left p balance right true deltac
      return (t, m, delta)

/-- The place of a removed node: of its only child, or, if there are two, of the largest node of
its left subtree, which takes its balance too. -/
def removeRoot (left : Avl ν) (balance : Int) (right : Avl ν) : Except CFault (Avl ν × Int) :=
  match left, right with
  | nil, right => return (right, -1)
  | left, nil => return (left, -1)
  | left, right => do
    let (left, m, deltac) ← removeMax left
    rebalance left m balance right false deltac

/-- The way back from a removed node. Where C has parent links, this looks for the node in the
subtrees. -/
def removeBelow [DecidableEq ν] (p : ν) : Avl ν → Except CFault (Avl ν × Int)
  | nil => throw .assertion
  | node left q balance right =>
    if p ∈ left then do
      let (left, deltac) ← removeBelow p left
      rebalance left q balance right false deltac
    else if q = p then removeRoot left balance right
    else do
      let (right, deltac) ← removeBelow p right
      rebalance left q balance right true deltac

def remove [DecidableEq ν] (t : Avl ν) (p : ν) : Except CFault (Avl ν) := do
  let (t, _) ← t.removeBelow p
  return t

/-! ## Heights -/

/-- What a change below leaves at the place of `t`: a balanced tree of these nodes, and by how
much it is higher. -/
structure Changed (t : Avl ν) (nodes : List ν) (x : Avl ν × Int) : Prop where
  balanced : x.1.Balanced
  toList : x.1.toList = nodes
  height : (x.1.height : Int) = t.height + x.2
  delta : -1 ≤ x.2 ∧ x.2 ≤ 1

section

variable {left right child other t : Avl ν} {p : ν} {balance deltac delta : Int}
  {nodes : List ν} {bside : Bool} {x : Avl ν × Int}

@[simp] theorem height_link :
    (link bside child p balance other).height = max child.height other.height + 1 := by
  cases bside
  · rfl
  · exact congrArg (· + 1) (Nat.max_comm _ _)

theorem balanced_link :
    (link bside child p balance other).Balanced ↔ child.Balanced ∧ other.Balanced ∧
      balance * sign bside = (child.height : Int) - other.height ∧
      -1 ≤ balance ∧ balance ≤ 1 := by
  cases bside
  · have hsign : balance = (other.height : Int) - child.height ↔
        balance * -1 = (child.height : Int) - other.height := by omega
    simp only [link, sign, Balanced, Bool.false_eq_true, if_false, hsign]
  · simp only [link, sign, Balanced, if_true, Int.mul_one]
    exact and_left_comm

/-- A rotation keeps the order of the nodes. -/
theorem toList_rotate {near gchild : Avl ν} {q : ν} (b b₁ b₂ b₃ : Int) :
    (link bside near q b₁ (link bside gchild p b₂ other)).toList =
      (link bside (link bside near q b₃ gchild) p b other).toList := by
  cases bside <;> simp [link, toList]

/-- A tree that is not empty is a node of two subtrees, on either side. -/
theorem exists_link (bside : Bool) (h : 0 < t.height) :
    ∃ child p balance other, t = link bside child p balance other ∧
      t.view bside = some (child, p, balance, other) := by
  cases t with
  | nil => exact absurd h (Nat.lt_irrefl 0)
  | node left p balance right =>
    cases bside
    · exact ⟨left, p, balance, right, rfl, rfl⟩
    · exact ⟨right, p, balance, left, rfl, rfl⟩

theorem sign_cases (bside : Bool) : sign bside = 1 ∨ sign bside = -1 := by
  cases bside
  · exact .inr rfl
  · exact .inl rfl

/-- The transformations make a tree that is too heavy on one side by two balanced again. It is
one lower, or as high as it was if the child's subtrees are of one height. -/
theorem transform_spec (hchild : child.Balanced) (hother : other.Balanced)
    (h : child.height = other.height + 2) :
    ∃ t d, transform bside child p other delta = .ok (t, delta + d) ∧ t.Balanced ∧
      t.toList = (link bside child p balance other).toList ∧
      (t.height : Int) = child.height + 1 + d ∧ -1 ≤ d ∧ d ≤ 0 := by
  obtain ⟨near, q, cb, gchild, rfl, hview⟩ := exists_link bside (by omega : 0 < child.height)
  obtain ⟨hnear, hgchild, hcb, hlow, hhigh⟩ := balanced_link.mp hchild
  rw [height_link] at h ⊢
  unfold transform
  rw [hview]
  have hf := sign_cases bside
  generalize hs : sign bside = f at hf hcb
  dsimp only
  by_cases h1 : cb * f = 1
  · rw [if_pos h1]
    refine ⟨_, -1, rfl, ?_, toList_rotate _ _ _ _, ?_, by decide, by decide⟩
    · simp only [balanced_link, height_link, hs]
      exact ⟨hnear, ⟨hgchild, hother, by omega⟩, by omega⟩
    · simp only [height_link]
      omega
  rw [if_neg h1]
  by_cases h0 : cb * f = 0
  · rw [if_pos h0]
    refine ⟨_, 0, by rw [Int.add_zero]; rfl, ?_, toList_rotate _ _ _ _, ?_, by decide, by decide⟩
    · simp only [balanced_link, height_link, hs]
      refine ⟨hnear, ⟨hgchild, hother, ?_⟩, ?_⟩
      · rcases hf with rfl | rfl <;> omega
      · rcases hf with rfl | rfl <;> omega
    · simp only [height_link]
      omega
  rw [if_neg h0]
  have hm1 : cb * f = -1 := by
    rcases hf with rfl | rfl <;> omega
  rw [if_pos hm1]
  -- the grandchild between the two nodes comes to the top
  obtain ⟨inner, r, gb, outer, rfl, hview'⟩ :=
    exists_link bside (by omega : 0 < gchild.height)
  obtain ⟨hinner, houter, hgb, hlow', hhigh'⟩ := balanced_link.mp hgchild
  rw [height_link] at h hcb
  rw [hs] at hgb
  rw [hview']
  refine ⟨_, -1, rfl, ?_, ?_, ?_, by decide, by decide⟩
  · simp only [balanced_link, height_link, hs]
    refine ⟨⟨hnear, hinner, ?_⟩, ⟨houter, hother, ?_⟩, ?_⟩
    · rcases hf with rfl | rfl <;> omega
    · rcases hf with rfl | rfl <;> omega
    · omega
  · cases bside <;> simp [link, toList]
  · simp only [height_link]
    omega

theorem settle_spec (hleft : left.Balanced) (hright : right.Balanced)
    (hbalance : balance = (right.height : Int) - left.height)
    (hsmall : -2 ≤ balance ∧ balance ≤ 2) :
    ∃ t d, settle left p balance right delta = .ok (t, delta + d) ∧ t.Balanced ∧
      t.toList = left.toList ++ p :: right.toList ∧
      (t.height : Int) = max left.height right.height + 1 + d ∧
      (d = 0 ∨ d = -1 ∧ (balance = 2 ∨ balance = -2)) := by
  unfold settle
  split
  · obtain ⟨t, d, ht, hbal, hlist, hheight, hlow, hhigh⟩ :=
      @transform_spec _ right left p balance delta true hright hleft (by omega)
    exact ⟨t, d, ht, hbal, hlist, by omega, by omega⟩
  · split
    · obtain ⟨t, d, ht, hbal, hlist, hheight, hlow, hhigh⟩ :=
        @transform_spec _ left right p balance delta false hleft hright (by omega)
      exact ⟨t, d, ht, hbal, hlist, by omega, by omega⟩
    · refine ⟨node left p balance right, 0, by rw [Int.add_zero]; rfl,
        ⟨hleft, hright, hbalance, by omega⟩, rfl, ?_, .inl rfl⟩
      rw [height]
      omega

/-- One of the subtrees of a balanced node was replaced. The heights before that are `hl` and
`hr`. -/
theorem rebalance_spec {hl hr : Nat} (hleft : left.Balanced) (hright : right.Balanced)
    (hbalance : balance = (hr : Int) - hl) (hsmall : -1 ≤ balance ∧ balance ≤ 1)
    (hdelta : -1 ≤ deltac ∧ deltac ≤ 1) (side : Bool)
    (hl' : (left.height : Int) = hl + if side then 0 else deltac)
    (hr' : (right.height : Int) = hr + if side then deltac else 0) :
    Returns (rebalance left p balance right side deltac) fun x =>
      x.1.Balanced ∧ x.1.toList = left.toList ++ p :: right.toList ∧
        (x.1.height : Int) = max hl hr + 1 + x.2 ∧ -1 ≤ x.2 ∧ x.2 ≤ 1 := by
  unfold rebalance
  apply Returns.bind_eq (assert_ok (decide_eq_true hdelta))
  apply Returns.bind_eq (assert_ok (decide_eq_true hsmall))
  split
  · rename_i h0
    subst h0
    rw [ite_self, Int.add_zero] at hl' hr'
    refine Returns.pure ⟨⟨hleft, hright, by omega, hsmall⟩, rfl, ?_, by omega⟩
    rw [height]
    omega
  · rename_i hne
    dsimp only
    generalize hd : max deltac (optneg balance side) - max 0 (optneg balance side) = delta
    generalize hb : balance - optneg deltac side = b
    -- the heights that there are now, and which of them moved
    have hnow : b = (right.height : Int) - left.height ∧
        (max left.height right.height : Int) = max hl hr + delta ∧ -1 ≤ delta ∧ delta ≤ 1 ∧
        (b = 2 ∨ b = -2 → 0 ≤ delta) ∧ -2 ≤ b ∧ b ≤ 2 := by
      cases side
      · simp only [optneg, Bool.false_eq_true, if_false] at hl' hr' hd hb
        omega
      · simp only [optneg, if_true] at hl' hr' hd hb
        omega
    obtain ⟨hb', hmax, hlow, hhigh, hheavy, hsmall'⟩ := hnow
    apply Returns.bind_eq (assert_ok (decide_eq_true ⟨hlow, hhigh⟩))
    obtain ⟨t, d, ht, hbal, hlist, hheight, hcase⟩ :=
      @settle_spec _ left right p b delta hleft hright hb' hsmall'
    apply Returns.bind_eq ht
    have hrange : -1 ≤ delta + d ∧ delta + d ≤ 1 := by omega
    apply Returns.bind_eq (assert_ok (decide_eq_true hrange))
    exact Returns.pure ⟨hbal, hlist, by dsimp only; omega, hrange⟩

theorem Changed.rebalance_left (h : Changed left nodes x)
    (ht : (node left p balance right).Balanced) :
    Returns (rebalance x.1 p balance right false x.2)
      (Changed (node left p balance right) (nodes ++ p :: right.toList)) := by
  obtain ⟨-, hright, hbalance, hsmall⟩ := ht
  apply (rebalance_spec h.balanced hright hbalance hsmall h.delta false h.height
    (Int.add_zero _).symm).mono
  rintro y ⟨hbal, hlist, hheight, hdelta⟩
  exact {
    balanced := hbal
    toList := by rw [hlist, h.toList]
    height := by
      rw [hheight, Avl.height]
      omega
    delta := hdelta }

theorem Changed.rebalance_right (h : Changed right nodes x)
    (ht : (node left p balance right).Balanced) :
    Returns (rebalance left p balance x.1 true x.2)
      (Changed (node left p balance right) (left.toList ++ p :: nodes)) := by
  obtain ⟨hleft, -, hbalance, hsmall⟩ := ht
  apply (rebalance_spec hleft h.balanced hbalance hsmall h.delta true (Int.add_zero _).symm
    h.height).mono
  rintro y ⟨hbal, hlist, hheight, hdelta⟩
  exact {
    balanced := hbal
    toList := by rw [hlist, h.toList]
    height := by
      rw [hheight, Avl.height]
      omega
    delta := hdelta }

/-- The child of a node that had no other one. -/
theorem changed_child (h : child.Balanced) (hheight : t.height = child.height + 1) :
    Changed t child.toList (child, -1) where
  balanced := h
  toList := rfl
  height := by
    rw [hheight]
    show (child.height : Int) = ((child.height + 1 : Nat) : Int) + -1
    omega
  delta := by
    show (-1 : Int) ≤ -1 ∧ (-1 : Int) ≤ 1
    decide

end

/-! ## Removal -/

section

variable {left right t : Avl ν} {p : ν} {balance : Int}

theorem removeMax_spec (h : (node left p balance right).Balanced) :
    Returns (removeMax (node left p balance right)) fun y =>
      ∃ nodes, left.toList ++ p :: right.toList = nodes ++ [y.2.1] ∧
        Changed (node left p balance right) nodes (y.1, y.2.2) := by
  induction right generalizing left p balance with
  | nil =>
    obtain ⟨hleft, -, hbalance, hsmall⟩ := h
    refine Returns.pure ⟨left.toList, rfl, changed_child hleft ?_⟩
    simp only [height] at hbalance ⊢
    omega
  | node left' q balance' right' _ ih =>
    apply Returns.bind (ih h.2.1)
    rintro ⟨t, m, deltac⟩ ⟨nodes, hnodes, hchanged⟩
    apply Returns.bind (hchanged.rebalance_right h)
    rintro ⟨t', delta⟩ hchanged'
    refine Returns.pure ⟨left.toList ++ p :: nodes, ?_, hchanged'⟩
    rw [toList, hnodes, List.append_assoc, List.cons_append]

theorem removeRoot_spec (h : (node left p balance right).Balanced) :
    Returns (removeRoot left balance right)
      (Changed (node left p balance right) (left.toList ++ right.toList)) := by
  obtain ⟨hleft, hright, hbalance, hsmall⟩ := h
  cases left with
  | nil =>
    refine Returns.pure (changed_child hright ?_)
    simp only [height] at hbalance ⊢
    omega
  | node l q b r =>
    cases right with
    | nil =>
      rw [toList.eq_1, List.append_nil]
      refine Returns.pure (changed_child hleft ?_)
      simp only [height] at hbalance ⊢
      omega
    | node l' q' b' r' =>
      apply Returns.bind (removeMax_spec hleft)
      rintro ⟨t, m, deltac⟩ ⟨nodes, hnodes, hchanged⟩
      apply (hchanged.rebalance_left (p := m) ⟨hleft, hright, hbalance, hsmall⟩).mono
      rintro y hy
      exact {
        balanced := hy.balanced
        toList := by
          show y.1.toList = (l.toList ++ q :: r.toList) ++ (node l' q' b' r').toList
          rw [hy.toList, hnodes, List.append_assoc, List.singleton_append]
        height := hy.height
        delta := hy.delta }

variable [DecidableEq ν]

theorem removeBelow_spec (h : t.Balanced) (hp : p ∈ t) :
    Returns (t.removeBelow p) (Changed t (t.toList.erase p)) := by
  induction t with
  | nil => cases hp
  | node left q balance right ihl ihr =>
    unfold removeBelow
    rw [toList, List.erase_append]
    by_cases hleft : p ∈ left.toList
    · rw [if_pos hleft, if_pos (mem_iff.mpr hleft)]
      apply Returns.bind (ihl h.1 hleft)
      rintro ⟨t, deltac⟩ hchanged
      exact hchanged.rebalance_left h
    · rw [if_neg hleft, if_neg (mem_iff.not.mpr hleft)]
      split
      · rename_i hq
        rw [hq, List.erase_cons_head]
        exact removeRoot_spec h
      · rename_i hq
        have hright : p ∈ right := by
          rcases List.mem_append.mp hp with hp | hp
          · exact absurd hp hleft
          · exact (List.mem_cons.mp hp).resolve_left (Ne.symm hq)
        rw [List.erase_cons_tail (by simpa using hq)]
        apply Returns.bind (ihr h.2.1 hright)
        rintro ⟨t, deltac⟩ hchanged
        exact hchanged.rebalance_right h

/-- A node that is in the tree can be removed, and the order of the others stays. -/
theorem remove_spec (h : t.Balanced) (hp : p ∈ t) :
    Returns (t.remove p) fun t' => t'.Balanced ∧ t'.toList = t.toList.erase p := by
  apply Returns.bind (removeBelow_spec h hp)
  rintro ⟨t', _⟩ hchanged
  exact Returns.pure ⟨hchanged.balanced, hchanged.toList⟩

end

end Avl

/-! ## Trees in the order of the values -/

variable {ν κ : Type} {cmp : κ → κ → Ordering} {key key' : ν → Option κ} {t : Avl ν} {p q : ν}
  {k : κ}

/-- Both objects are there, and the value of the first one is smaller. -/
def Below (cmp : κ → κ → Ordering) (key : ν → Option κ) (p q : ν) : Prop :=
  ∃ k k', key p = some k ∧ key q = some k' ∧ cmp k k' = .lt

theorem Below.trans [Std.TransCmp cmp] {r : ν} (hpq : Below cmp key p q)
    (hqr : Below cmp key q r) : Below cmp key p r := by
  obtain ⟨k₁, k₂, hk₁, hk₂, hlt⟩ := hpq
  obtain ⟨k₂', k₃, hk₂', hk₃, hlt'⟩ := hqr
  cases hk₂.symm.trans hk₂'
  exact ⟨k₁, k₃, hk₁, hk₃, Std.TransCmp.lt_trans hlt hlt'⟩

/-- A balanced tree, in the order of the values that its objects have now. -/
structure Index (cmp : κ → κ → Ordering) (key : ν → Option κ) (t : Avl ν) : Prop where
  balanced : t.Balanced
  isSome : ∀ p ∈ t, (key p).isSome = true
  sorted : t.toList.Pairwise (Below cmp key)

namespace Index

theorem nil : Index cmp key .nil where
  balanced := trivial
  isSome p hp := by cases hp
  sorted := .nil

theorem congr (h : Index cmp key t) (heq : ∀ p ∈ t, key' p = key p) : Index cmp key' t where
  balanced := h.balanced
  isSome p hp := by
    rw [heq p hp]
    exact h.isSome p hp
  sorted := by
    apply h.sorted.imp_of_mem
    rintro p q hp hq ⟨k, k', hk, hk', hlt⟩
    exact ⟨k, k', (heq p hp).trans hk, (heq q hq).trans hk', hlt⟩

section

variable {left right : Avl ν} {b : Int}

theorem mem_node : p ∈ left.node q b right ↔ p ∈ left ∨ p = q ∨ p ∈ right := by
  simp only [Avl.mem_iff, Avl.toList, List.mem_append, List.mem_cons]

theorem left_subtree (h : Index cmp key (left.node q b right)) : Index cmp key left where
  balanced := h.balanced.1
  isSome p hp := h.isSome p (mem_node.mpr (.inl hp))
  sorted := (List.pairwise_append.mp h.sorted).1

theorem right_subtree (h : Index cmp key (left.node q b right)) : Index cmp key right where
  balanced := h.balanced.2.1
  isSome p hp := h.isSome p (mem_node.mpr (.inr (.inr hp)))
  sorted := (List.pairwise_cons.mp (List.pairwise_append.mp h.sorted).2.1).2

theorem below_root (h : Index cmp key (left.node q b right)) (hp : p ∈ left) :
    Below cmp key p q :=
  (List.pairwise_append.mp h.sorted).2.2 p hp q List.mem_cons_self

theorem root_below (h : Index cmp key (left.node q b right)) (hp : p ∈ right) :
    Below cmp key q p :=
  (List.pairwise_cons.mp (List.pairwise_append.mp h.sorted).2.1).1 p hp

theorem root_isSome (h : Index cmp key (left.node q b right)) : ∃ k, key q = some k :=
  Option.isSome_iff_exists.mp (h.isSome q (mem_node.mpr (.inr (.inl rfl))))

end

theorem nodup [Std.ReflCmp cmp] (h : Index cmp key t) : t.toList.Nodup := by
  apply h.sorted.imp
  rintro p _ ⟨k, k', hk, hk', hlt⟩ rfl
  cases hk.symm.trans hk'
  have hself : cmp k k = .eq := Std.ReflCmp.compare_self
  rw [hself] at hlt
  cases hlt

/-- A removed node leaves the others in their order. -/
theorem remove [DecidableEq ν] [Std.ReflCmp cmp] (h : Index cmp key t) (hp : p ∈ t) :
    Returns (t.remove p) fun t' => Index cmp key t' ∧ ∀ q, q ∈ t' ↔ q ≠ p ∧ q ∈ t := by
  apply (Avl.remove_spec h.balanced hp).mono
  rintro t' ⟨hbalanced, hlist⟩
  have hmem : ∀ q, q ∈ t' ↔ q ≠ p ∧ q ∈ t := by
    intro q
    rw [Avl.mem_iff, hlist, h.nodup.mem_erase_iff]
    exact Iff.rfl
  refine ⟨⟨hbalanced, fun q hq => h.isSome q ((hmem q).mp hq).2, ?_⟩, hmem⟩
  rw [hlist]
  exact h.sorted.sublist List.erase_sublist

variable [Std.TransCmp cmp] [Std.LawfulEqCmp cmp]

/-- The search finds a node exactly if its object has the value now. -/
theorem lookup_eq_some (h : Index cmp key t) :
    t.lookupExact cmp key k = some p ↔ p ∈ t ∧ key p = some k := by
  induction t with
  | nil =>
    constructor
    · intro h
      cases h
    · intro h
      cases h.1
  | node left q b right ihl ihr =>
    obtain ⟨k', hk'⟩ := h.root_isSome
    -- the values on the left are smaller, and those on the right are larger
    have hlow : ∀ p ∈ left, key p = some k → cmp k k' = .lt := by
      intro p hp hk
      obtain ⟨k₁, k₂, hk₁, hk₂, hlt⟩ := h.below_root hp
      cases hk.symm.trans hk₁
      cases hk'.symm.trans hk₂
      exact hlt
    have hhigh : ∀ p ∈ right, key p = some k → cmp k k' = .gt := by
      intro p hp hk
      obtain ⟨k₁, k₂, hk₁, hk₂, hlt⟩ := h.root_below hp
      cases hk'.symm.trans hk₁
      cases hk.symm.trans hk₂
      exact Std.OrientedCmp.gt_iff_lt.mpr hlt
    have hroot : key q = some k → cmp k k' = .eq := by
      intro hk
      cases hk.symm.trans hk'
      exact Std.ReflCmp.compare_self
    unfold Avl.lookupExact
    rw [hk', mem_node]
    dsimp only
    cases hcmp : cmp k k' with
    | lt =>
      rw [ihl h.left_subtree]
      constructor
      · rintro ⟨hp, hk⟩
        exact ⟨.inl hp, hk⟩
      · rintro ⟨hp | rfl | hp, hk⟩
        · exact ⟨hp, hk⟩
        · cases hcmp.symm.trans (hroot hk)
        · cases hcmp.symm.trans (hhigh p hp hk)
    | eq =>
      cases Std.LawfulEqCmp.eq_of_compare hcmp
      constructor
      · intro hq
        cases hq
        exact ⟨.inr (.inl rfl), hk'⟩
      · rintro ⟨hp | rfl | hp, hk⟩
        · cases hcmp.symm.trans (hlow p hp hk)
        · rfl
        · cases hcmp.symm.trans (hhigh p hp hk)
    | gt =>
      rw [ihr h.right_subtree]
      constructor
      · rintro ⟨hp, hk⟩
        exact ⟨.inr (.inr hp), hk⟩
      · rintro ⟨hp | rfl | hp, hk⟩
        · cases hcmp.symm.trans (hlow p hp hk)
        · cases hcmp.symm.trans (hroot hk)
        · exact ⟨hp, hk⟩

/-- An object that gets another value inside the tree is not found. -/
example :
    let t : Avl Nat := .node (.node .nil 0 0 .nil) 1 0 (.node .nil 2 0 .nil)
    t.lookupExact compare (fun p => [10, 20, 30][p]?) 10 = some 0 ∧
      t.lookupExact compare (fun p => [40, 20, 30][p]?) 40 = none := by
  decide

theorem inj (h : Index cmp key t) (hp : p ∈ t) (hq : q ∈ t) (heq : key p = key q) : p = q := by
  obtain ⟨k, hk⟩ := Option.isSome_iff_exists.mp (h.isSome p hp)
  have hfind := h.lookup_eq_some.mpr ⟨hq, heq.symm.trans hk⟩
  rw [h.lookup_eq_some.mpr ⟨hp, hk⟩] at hfind
  exact Option.some.inj hfind

theorem lookup_eq_none (h : Index cmp key t) :
    t.lookupExact cmp key k = none ↔ ∀ p ∈ t, key p ≠ some k := by
  constructor
  · intro hnone p hp hk
    rw [h.lookup_eq_some.mpr ⟨hp, hk⟩] at hnone
    cases hnone
  · intro hall
    cases hl : t.lookupExact cmp key k with
    | none => rfl
    | some p =>
      obtain ⟨hp, hk⟩ := h.lookup_eq_some.mp hl
      exact absurd hk (hall p hp)

/-- A new node comes to the place of its value. -/
theorem insertBelow (h : Index cmp key t) (hk : key p = some k)
    (hnone : ∀ q ∈ t, key q ≠ some k) :
    Returns (t.insertBelow cmp key k p) fun x => ∃ nodes, Avl.Changed t nodes x ∧
      nodes.Perm (p :: t.toList) ∧ nodes.Pairwise (Below cmp key) := by
  induction t with
  | nil =>
    refine Returns.pure ⟨[p], ⟨⟨trivial, trivial, rfl, by decide⟩, rfl, rfl, ?_⟩, .refl _,
      List.pairwise_singleton _ p⟩
    show (-1 : Int) ≤ 1 ∧ (1 : Int) ≤ 1
    decide
  | node left q b right ihl ihr =>
    obtain ⟨k', hk'⟩ := h.root_isSome
    obtain ⟨hleft, hright, hcross⟩ := List.pairwise_append.mp h.sorted
    unfold Avl.insertBelow
    rw [hk']
    dsimp only
    cases hcmp : cmp k k' with
    | eq =>
      cases Std.LawfulEqCmp.eq_of_compare hcmp
      exact absurd hk' (hnone q (mem_node.mpr (.inr (.inl rfl))))
    | lt =>
      have hpq : Below cmp key p q := ⟨k, k', hk, hk', hcmp⟩
      apply Returns.bind (ihl h.left_subtree fun q' hq' => hnone q' (mem_node.mpr (.inl hq')))
      rintro ⟨t, deltac⟩ ⟨nodes, hchanged, hperm, hsorted⟩
      apply (hchanged.rebalance_left h.balanced).mono
      intro y hy
      refine ⟨_, hy, hperm.append_right _, List.pairwise_append.mpr ⟨hsorted, hright, ?_⟩⟩
      intro a ha c hc
      rcases List.mem_cons.mp (hperm.mem_iff.mp ha) with rfl | ha
      · rcases List.mem_cons.mp hc with rfl | hc
        · exact hpq
        · exact hpq.trans (h.root_below hc)
      · exact hcross a ha c hc
    | gt =>
      have hqp : Below cmp key q p := ⟨k', k, hk', hk, Std.OrientedCmp.gt_iff_lt.mp hcmp⟩
      apply Returns.bind (ihr h.right_subtree fun q' hq' =>
        hnone q' (mem_node.mpr (.inr (.inr hq'))))
      rintro ⟨t, deltac⟩ ⟨nodes, hchanged, hperm, hsorted⟩
      apply (hchanged.rebalance_right h.balanced).mono
      intro y hy
      refine ⟨_, hy, ?_, List.pairwise_append.mpr ⟨hleft, List.pairwise_cons.mpr ⟨?_, hsorted⟩,
        ?_⟩⟩
      · exact ((hperm.cons q).trans (.swap p q _)).append_left left.toList |>.trans
          List.perm_middle
      · intro c hc
        rcases List.mem_cons.mp (hperm.mem_iff.mp hc) with rfl | hc
        · exact hqp
        · exact h.root_below hc
      · intro a ha c hc
        rcases List.mem_cons.mp hc with rfl | hc
        · exact h.below_root ha
        rcases List.mem_cons.mp (hperm.mem_iff.mp hc) with rfl | hc
        · exact (h.below_root ha).trans hqp
        · exact hcross a ha c (List.mem_cons_of_mem _ hc)

theorem insert (h : Index cmp key t) (hk : key p = some k) (hnone : ∀ q ∈ t, key q ≠ some k) :
    Returns (t.insert cmp key p) fun t' => Index cmp key t' ∧ ∀ q, q ∈ t' ↔ q = p ∨ q ∈ t := by
  unfold Avl.insert
  rw [hk]
  apply Returns.bind (h.insertBelow hk hnone)
  rintro ⟨t', _⟩ ⟨nodes, hchanged, hperm, hsorted⟩
  obtain rfl := hchanged.toList
  have hmem : ∀ q, q ∈ t' ↔ q = p ∨ q ∈ t := by
    intro q
    rw [Avl.mem_iff, hperm.mem_iff, List.mem_cons, ← Avl.mem_iff]
  refine Returns.pure ⟨⟨hchanged.balanced, fun q hq => ?_, hsorted⟩, hmem⟩
  rcases (hmem q).mp hq with rfl | hq
  · rw [hk]
    rfl
  · exact h.isSome q hq

/-- The objects in the tree keep their values, and one with another value comes in. -/
theorem insert_new (h : Index cmp key t) (hsame : ∀ q ∈ t, key' q = key q) (hk : key' p = some k)
    (hnone : ∀ q ∈ t, key q ≠ some k) :
    Returns (t.insert cmp key' p) fun t' =>
      Index cmp key' t' ∧ ∀ q, q ∈ t' ↔ q = p ∨ q ∈ t := by
  apply (h.congr hsame).insert hk
  intro q hq
  rw [hsame q hq]
  exact hnone q hq

end Index

end Lightsocks.Lib
