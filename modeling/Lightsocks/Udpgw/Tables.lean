import Lightsocks.Udpgw.Server

/-!
# The tables of a client of udpgw

`Tables own cl` says that the tree, the lists and the number of a client are those of the
connections that it owns, where `own` reads the connections. Every operation changes one
connection, so each lemma here is about `own` updated at one pointer.
-/

namespace Lightsocks.Udpgw

open Lightsocks.Lib

/-- The connections of a client. -/
def Server.owned (s : Server) (c p : Nat) : Option ServerConnection :=
  (s.connections.get p).filter fun con => con.client == c

structure Tables (own : Nat → Option ServerConnection) (cl : ServerClient) : Prop where
  tree : Index uint16Comparator (fun p => (own p).map ServerConnection.conid) cl.connectionsTree
  mem_tree : ∀ p, p ∈ cl.connectionsTree ↔ p ∈ cl.connectionsList
  nodup : cl.connectionsList.Nodup
  mem_list : ∀ p, p ∈ cl.connectionsList ↔ ∃ con, own p = some con ∧ con.closing = false
  num : cl.numConnections = cl.connectionsList.length
  nodup_closing : cl.closingConnectionsList.Nodup
  mem_closing : ∀ p, p ∈ cl.closingConnectionsList ↔ ∃ con, own p = some con ∧ con.closing = true
  udp : ∀ p con, own p = some con → con.udp = !con.closing

/-- A connection that is closing waits for its packet to be sent, and a packet is that of a
connection of the client. -/
structure Flows (own : Nat → Option ServerConnection) (cl : ServerClient) : Prop where
  freeing : cl.freeing = false
  sending : ∀ p, cl.sendingFlow = some p → ∃ con, own p = some con
  closing : ∀ p con, own p = some con → con.closing = true → cl.sendingFlow = some p
  handler : ∀ p con, own p = some con → con.handlerBusy = con.closing
  job : ∀ p con, own p = some con → con.closing = true → con.firstJob = false

namespace Tables

variable {own : Nat → Option ServerConnection} {cl : ServerClient} {p q : Nat}
  {con con' : ServerConnection} {x : Option ServerConnection}

theorem key_update (hq : q ≠ p) :
    (Function.update own p x q).map ServerConnection.conid
      = (own q).map ServerConnection.conid := by
  rw [Function.update_of_ne hq]

/-- What a connection is after one of them changed. -/
theorem exists_update {P : ServerConnection → Prop} :
    (∃ con, Function.update own p x q = some con ∧ P con) ↔
      if q = p then ∃ con, x = some con ∧ P con else ∃ con, own q = some con ∧ P con := by
  split
  · rename_i hq
    rw [hq, Function.update_self]
  · rename_i hq
    rw [Function.update_of_ne hq]

theorem mem_list_of (h : Tables own cl) (hp : own p = some con) (hopen : con.closing = false) :
    p ∈ cl.connectionsList := (h.mem_list p).mpr ⟨con, hp, hopen⟩

/-- The tree without one of its connections. -/
structure Without (own : Nat → Option ServerConnection) (cl : ServerClient) (p : Nat)
    (tree : Avl Nat) : Prop where
  index : Index uint16Comparator (fun p => (own p).map ServerConnection.conid) tree
  mem : ∀ q, q ∈ tree ↔ q ≠ p ∧ q ∈ cl.connectionsTree

theorem remove_ok (h : Tables own cl) (hp : own p = some con) (hopen : con.closing = false) :
    Returns (cl.remove p) fun cl' => ∃ tree, Without own cl p tree ∧ cl' = { cl with
      numConnections := cl.numConnections - 1
      connectionsList := cl.connectionsList.erase p
      connectionsTree := tree } := by
  have hmem := h.mem_list_of hp hopen
  apply Returns.bind_eq (unlink_ok hmem)
  apply Returns.bind (h.tree.remove ((h.mem_tree p).mpr hmem))
  rintro tree ⟨hindex, hrest⟩
  exact Returns.pure ⟨tree, ⟨hindex, hrest⟩, rfl⟩

/-- An open connection leaves the tree and the list, and is freed or closing. -/
theorem leave (h : Tables own cl) (hp : own p = some con) (hopen : con.closing = false)
    {tree : Avl Nat} (htree : Without own cl p tree) (closing : List Nat) (hnodup : closing.Nodup)
    (hmem : ∀ q, q ∈ closing ↔
      ∃ con, Function.update own p x q = some con ∧ con.closing = true)
    (hx : ∀ con', x = some con' → con'.closing = true ∧ con'.udp = false) :
    Tables (Function.update own p x) { cl with
      numConnections := cl.numConnections - 1
      connectionsList := cl.connectionsList.erase p
      connectionsTree := tree
      closingConnectionsList := closing } where
  tree := htree.index.congr fun q hq => key_update ((htree.mem q).mp hq).1
  mem_tree q := by
    show q ∈ tree ↔ q ∈ cl.connectionsList.erase p
    rw [htree.mem, h.nodup.mem_erase_iff, h.mem_tree]
  nodup := h.nodup.erase p
  mem_list q := by
    show q ∈ cl.connectionsList.erase p ↔ _
    rw [h.nodup.mem_erase_iff, exists_update, h.mem_list]
    split
    · rename_i hq
      constructor
      · intro hne
        exact absurd hq hne.1
      · rintro ⟨con', hcon', hclosing⟩
        rw [(hx con' hcon').1] at hclosing
        cases hclosing
    · rename_i hq
      exact and_iff_right hq
  num := by
    show cl.numConnections - 1 = (cl.connectionsList.erase p).length
    rw [List.length_erase_of_mem (h.mem_list_of hp hopen), h.num]
  nodup_closing := hnodup
  mem_closing := hmem
  udp q con' hcon' := by
    by_cases hq : q = p
    · rw [hq, Function.update_self] at hcon'
      rw [(hx con' hcon').1, (hx con' hcon').2]
      rfl
    · rw [Function.update_of_ne hq] at hcon'
      exact h.udp q con' hcon'

/-- An open connection is freed. -/
theorem freeOpen (h : Tables own cl) (hp : own p = some con) (hopen : con.closing = false)
    {tree : Avl Nat} (htree : Without own cl p tree) :
    Tables (Function.update own p none) { cl with
      numConnections := cl.numConnections - 1
      connectionsList := cl.connectionsList.erase p
      connectionsTree := tree } := by
  apply h.leave hp hopen htree cl.closingConnectionsList h.nodup_closing
  · intro q
    rw [exists_update, h.mem_closing]
    split
    · rename_i hq
      rw [hq, hp]
      constructor
      · rintro ⟨con', hcon', hclosing⟩
        cases hcon'
        rw [hopen] at hclosing
        cases hclosing
      · rintro ⟨con', hcon', -⟩
        cases hcon'
    · exact Iff.rfl
  · intro con' hcon'
    cases hcon'

/-- An open connection is closing from now on. -/
theorem closeLater (h : Tables own cl) (hp : own p = some con) (hopen : con.closing = false)
    {tree : Avl Nat} (htree : Without own cl p tree) (hclosing : con'.closing = true)
    (hudp : con'.udp = false) :
    Tables (Function.update own p (some con')) { cl with
      numConnections := cl.numConnections - 1
      connectionsList := cl.connectionsList.erase p
      connectionsTree := tree
      closingConnectionsList := cl.closingConnectionsList ++ [p] } := by
  have hnot : p ∉ cl.closingConnectionsList := by
    intro hmem
    obtain ⟨con₂, hcon₂, hclosing₂⟩ := (h.mem_closing p).mp hmem
    cases hp.symm.trans hcon₂
    rw [hopen] at hclosing₂
    cases hclosing₂
  apply h.leave hp hopen htree
  · exact List.nodup_append.mpr ⟨h.nodup_closing, List.nodup_singleton p, by
      rintro q hq q' hq' rfl
      exact hnot (List.mem_singleton.mp hq' ▸ hq)⟩
  · intro q
    rw [exists_update, List.mem_append, List.mem_singleton, h.mem_closing]
    split
    · rename_i hq
      exact iff_of_true (Or.inr hq) ⟨con', rfl, hclosing⟩
    · rename_i hq
      exact or_iff_left hq
  · intro con₂ hcon₂
    cases hcon₂
    exact ⟨hclosing, hudp⟩

/-- A closing connection is freed. -/
theorem freeClosing (h : Tables own cl) (hp : own p = some con) (hclosing : con.closing = true) :
    Tables (Function.update own p none)
      { cl with closingConnectionsList := cl.closingConnectionsList.erase p } where
  tree := by
    apply h.tree.congr
    intro q hq
    apply key_update
    rintro rfl
    obtain ⟨con', hcon', hopen⟩ := (h.mem_list q).mp ((h.mem_tree q).mp hq)
    cases hp.symm.trans hcon'
    rw [hclosing] at hopen
    cases hopen
  mem_tree := h.mem_tree
  nodup := h.nodup
  mem_list q := by
    show q ∈ cl.connectionsList ↔ _
    rw [exists_update, h.mem_list]
    split
    · rename_i hq
      rw [hq, hp]
      constructor
      · rintro ⟨con', hcon', hopen⟩
        cases hcon'
        rw [hclosing] at hopen
        cases hopen
      · rintro ⟨con', hcon', -⟩
        cases hcon'
    · exact Iff.rfl
  num := h.num
  nodup_closing := h.nodup_closing.erase p
  mem_closing q := by
    show q ∈ cl.closingConnectionsList.erase p ↔ _
    rw [h.nodup_closing.mem_erase_iff, exists_update, h.mem_closing]
    split
    · rename_i hq
      constructor
      · intro hne
        exact absurd hq hne.1
      · rintro ⟨con', hcon', -⟩
        cases hcon'
    · rename_i hq
      exact and_iff_right hq
  udp q con' hcon' := by
    by_cases hq : q = p
    · rw [hq, Function.update_self] at hcon'
      cases hcon'
    · rw [Function.update_of_ne hq] at hcon'
      exact h.udp q con' hcon'

/-- A connection changes, but neither its id nor its state. -/
theorem modify (h : Tables own cl) (hp : own p = some con) (hconid : con'.conid = con.conid)
    (hclosing : con'.closing = con.closing) (hudp : con'.udp = con.udp) :
    Tables (Function.update own p (some con')) cl where
  tree := by
    apply h.tree.congr
    intro q hq
    by_cases hqp : q = p
    · rw [hqp, Function.update_self, hp]
      exact congrArg some hconid
    · exact key_update hqp
  mem_tree := h.mem_tree
  nodup := h.nodup
  mem_list q := by
    rw [exists_update, h.mem_list]
    split
    · rename_i hq
      rw [hq, hp]
      simp [hclosing]
    · exact Iff.rfl
  num := h.num
  nodup_closing := h.nodup_closing
  mem_closing q := by
    rw [exists_update, h.mem_closing]
    split
    · rename_i hq
      rw [hq, hp]
      simp [hclosing]
    · exact Iff.rfl
  udp q con₂ hcon₂ := by
    by_cases hq : q = p
    · rw [hq, Function.update_self] at hcon₂
      cases hcon₂
      rw [hudp, hclosing]
      exact h.udp p con hp
    · rw [Function.update_of_ne hq] at hcon₂
      exact h.udp q con₂ hcon₂

/-- The order of use changes. -/
theorem use (h : Tables own cl) (hp : p ∈ cl.connectionsList) :
    Tables own { cl with connectionsList := touch cl.connectionsList p } :=
  { h with
    mem_tree := fun q => (h.mem_tree q).trans (mem_touch hp).symm
    nodup := (touch_perm hp).nodup_iff.mpr h.nodup
    mem_list := fun q => (mem_touch hp).trans (h.mem_list q)
    num := h.num.trans (touch_perm hp).length_eq.symm }

/-- A new connection, which the tree has at its place. -/
theorem insert (h : Tables own cl) (hp : own p = none) (hopen : con.closing = false)
    (hudp : con.udp = true)
    {tree : Avl Nat}
    (htree : Index uint16Comparator
      (fun q => (Function.update own p (some con) q).map ServerConnection.conid) tree)
    (hmem : ∀ q, q ∈ tree ↔ q = p ∨ q ∈ cl.connectionsTree) :
    Tables (Function.update own p (some con)) { cl with
      connectionsTree := tree
      connectionsList := cl.connectionsList ++ [p]
      numConnections := cl.numConnections + 1 } := by
  have hlist : p ∉ cl.connectionsList := by
    intro hmem
    obtain ⟨con', hcon', -⟩ := (h.mem_list p).mp hmem
    cases hp.symm.trans hcon'
  exact {
    tree := htree
    mem_tree := by
      intro q
      rw [hmem, List.mem_append, List.mem_singleton, h.mem_tree, or_comm]
    nodup := List.nodup_append.mpr ⟨h.nodup, List.nodup_singleton p, by
      rintro q hq q' hq' rfl
      exact hlist (List.mem_singleton.mp hq' ▸ hq)⟩
    mem_list := by
      intro q
      rw [List.mem_append, List.mem_singleton, exists_update, h.mem_list]
      split
      · rename_i hq
        exact iff_of_true (Or.inr hq) ⟨con, rfl, hopen⟩
      · rename_i hq
        exact or_iff_left hq
    num := by
      rw [List.length_append, List.length_singleton, h.num]
    nodup_closing := h.nodup_closing
    mem_closing := by
      intro q
      rw [exists_update, h.mem_closing]
      split
      · rename_i hq
        rw [hq, hp]
        simp [hopen]
      · exact Iff.rfl
    udp := by
      intro q con' hcon'
      by_cases hq : q = p
      · rw [hq, Function.update_self] at hcon'
        cases hcon'
        rw [hudp, hopen]
        rfl
      · rw [Function.update_of_ne hq] at hcon'
        exact h.udp q con' hcon' }

/-- A client without connections. -/
theorem empty (h : ∀ p, own p = none) : Tables own ⟨none, false, .nil, [], 0, []⟩ where
  tree := .nil
  mem_tree p := by simp
  nodup := List.nodup_nil
  mem_list p := by simp [h p]
  num := rfl
  nodup_closing := List.nodup_nil
  mem_closing p := by simp [h p]
  udp p con hcon := by
    cases (h p).symm.trans hcon

end Tables

namespace Flows

variable {own : Nat → Option ServerConnection} {cl : ServerClient} {p q : Nat}
  {con con' : ServerConnection}

/-- The flows of the others do not change. -/
theorem update (h : Flows own cl) (x : Option ServerConnection)
    (hsending : cl.sendingFlow = some p → ∃ con', x = some con')
    (hx : ∀ con', x = some con' → con'.handlerBusy = con'.closing ∧
      (con'.closing = true → cl.sendingFlow = some p ∧ con'.firstJob = false)) :
    Flows (Function.update own p x) cl where
  freeing := h.freeing
  sending q hq := by
    by_cases hqp : q = p
    · rw [hqp, Function.update_self]
      exact hsending (hqp ▸ hq)
    · rw [Function.update_of_ne hqp]
      exact h.sending q hq
  closing q con' hq hclosing := by
    by_cases hqp : q = p
    · rw [hqp, Function.update_self] at hq
      rw [hqp]
      exact ((hx con' hq).2 hclosing).1
    · rw [Function.update_of_ne hqp] at hq
      exact h.closing q con' hq hclosing
  handler q con' hq := by
    by_cases hqp : q = p
    · rw [hqp, Function.update_self] at hq
      exact (hx con' hq).1
    · rw [Function.update_of_ne hqp] at hq
      exact h.handler q con' hq
  job q con' hq hclosing := by
    by_cases hqp : q = p
    · rw [hqp, Function.update_self] at hq
      exact ((hx con' hq).2 hclosing).2
    · rw [Function.update_of_ne hqp] at hq
      exact h.job q con' hq hclosing

/-- The lists do not matter. -/
theorem congr {cl' : ServerClient} (h : Flows own cl) (hfreeing : cl'.freeing = cl.freeing)
    (hsending : cl'.sendingFlow = cl.sendingFlow) : Flows own cl' where
  freeing := hfreeing.trans h.freeing
  sending p hp := h.sending p (hsending ▸ hp)
  closing p con hp hclosing := hsending.trans (h.closing p con hp hclosing)
  handler := h.handler
  job := h.job

theorem empty (h : ∀ p, own p = none) : Flows own ⟨none, false, .nil, [], 0, []⟩ where
  freeing := rfl
  sending p hp := by cases hp
  closing p con hp := by cases (h p).symm.trans hp
  handler p con hp := by cases (h p).symm.trans hp
  job p con hp := by cases (h p).symm.trans hp

end Flows

end Lightsocks.Udpgw
