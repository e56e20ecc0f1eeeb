import Mathlib.Data.List.Basic
import Mathlib.Order.Basic
import Stencil.Document.Basic

/-!
# Nodes after a change

What a change of a document makes of each of its nodes, field by field. The later modules use these
equations and do not look into the store of nodes again.
-/

namespace Stencil.Document

attribute [ext] Node

variable {d : Document} {m n p : Nat}

/-- Where there is no node, a text without content is read. -/
theorem node_of_size_le (h : d.size ≤ n) : d.node n = .detached (.text "") := by
  rw [node, Array.getD_eq_getD_getElem?, Array.getElem?_eq_none h]
  rfl

/-! ## Changing one node -/

@[simp] theorem size_modify (f : Node → Node) : (d.modify m f).size = d.size :=
  Array.size_modify ..

/-- A change at a node is seen there and nowhere else. -/
theorem node_modify (f : Node → Node) :
    (d.modify m f).node n = if m = n ∧ n < d.size then f (d.node n) else d.node n := by
  by_cases hn : n < d.size
  · simp only [node, modify, Array.getD_eq_getD_getElem?, Array.getElem?_modify, hn, and_true]
    rw [Array.getElem?_eq_getElem hn]
    split <;> rfl
  · rw [if_neg (fun h => hn h.2), node_of_size_le (Nat.le_of_not_lt hn),
      node_of_size_le (by simpa using hn)]

/-- The document with a node changed, if there is one to change. -/
def modifySome (d : Document) (o : Option Nat) (f : Node → Node) : Document :=
  match o with
  | some m => d.modify m f
  | none => d

@[simp] theorem size_modifySome (o : Option Nat) (f : Node → Node) :
    (d.modifySome o f).size = d.size := by
  cases o with
  | none => rfl
  | some m => exact size_modify f

/-- A change at a node that may be missing is seen there, if at all. -/
theorem node_modifySome (o : Option Nat) (f : Node → Node) :
    (d.modifySome o f).node n = if o = some n ∧ n < d.size then f (d.node n) else d.node n := by
  cases o with
  | none => simp [modifySome]
  | some m => simpa [modifySome] using node_modify f

/-! ## Adding a node -/

@[simp] theorem size_add (kind : Node.Kind) : (d.add kind).1.size = d.size + 1 := by
  simp [add, size]

@[simp] theorem add_snd (kind : Node.Kind) : (d.add kind).2 = d.size := rfl

/-- A new node stands apart, behind all others. -/
theorem node_add (kind : Node.Kind) :
    (d.add kind).1.node n = if n = d.size then .detached kind else d.node n := by
  simp only [node, add, size, Array.getD_eq_getD_getElem?, Array.getElem?_push]
  split <;> rfl

theorem node_add_of_ne {kind : Node.Kind} (h : n ≠ d.size) : (d.add kind).1.node n = d.node n := by
  rw [node_add, if_neg h]

@[simp] theorem node_add_size (kind : Node.Kind) :
    (d.add kind).1.node d.size = .detached kind := by
  rw [node_add, if_pos rfl]

/-! ## Taking a node away -/

/-- What stands apart is not moved. -/
theorem detach_of_parent_eq_none (h : (d.node n).parent = none) : d.detach n = d := by
  simp [detach, h]

/-- The four changes that take a node away from its parent. -/
theorem detach_of_parent_eq_some (h : (d.node n).parent = some p) :
    d.detach n =
      (((d.modify n fun x => { x with parent := none, previous := none, next := none }).modifySome
        (d.node n).previous fun x => { x with next := (d.node n).next }).modifySome
        (d.node n).next fun x => { x with previous := (d.node n).previous }).modify
        p fun x => { x with children := x.children.filter (· ≠ n) } := by
  simp only [detach, h]
  rfl

@[simp] theorem size_detach : (d.detach n).size = d.size := by
  cases h : (d.node n).parent with
  | none => rw [detach_of_parent_eq_none h]
  | some p => simp [detach_of_parent_eq_some h]

@[simp] theorem kind_detach : ((d.detach n).node m).kind = (d.node m).kind := by
  cases h : (d.node n).parent with
  | none => rw [detach_of_parent_eq_none h]
  | some p =>
    simp only [detach_of_parent_eq_some h, node_modify, node_modifySome, apply_ite Node.kind,
      ite_self]

/-- A node that was taken out has no parent, and nobody else loses one. -/
theorem parent_detach :
    ((d.detach n).node m).parent = if m = n then none else (d.node m).parent := by
  cases h : (d.node n).parent with
  | none =>
    rw [detach_of_parent_eq_none h]
    split <;> simp_all
  | some p =>
    simp only [detach_of_parent_eq_some h, node_modify, node_modifySome, apply_ite Node.parent,
      ite_self]
    by_cases hm : m < d.size
    · simp [hm, eq_comm]
    · simp [hm, node_of_size_le (Nat.le_of_not_lt hm), Node.detached]

/-- The parent loses the node, and no other list of children changes. -/
theorem children_detach (h : (d.node n).parent = some p) :
    ((d.detach n).node m).children =
      if m = p then (d.node m).children.filter (· ≠ n) else (d.node m).children := by
  simp only [detach_of_parent_eq_some h, node_modify, node_modifySome, apply_ite Node.children,
    ite_self, size_modify, size_modifySome]
  by_cases hm : m < d.size
  · simp [hm, eq_comm]
  · simp [hm, node_of_size_le (Nat.le_of_not_lt hm), Node.detached]

/-- The next sibling now follows the previous one. -/
theorem previous_detach (h : (d.node n).parent = some p) :
    ((d.detach n).node m).previous =
      if (d.node n).next = some m then if m < d.size then (d.node n).previous else none
      else if m = n then none else (d.node m).previous := by
  simp only [detach_of_parent_eq_some h, node_modify, node_modifySome, apply_ite Node.previous,
    ite_self, size_modify, size_modifySome]
  by_cases hm : m < d.size
  · simp [hm, eq_comm]
  · simp [hm, node_of_size_le (Nat.le_of_not_lt hm), Node.detached]

/-- And the previous one is followed by the next. -/
theorem next_detach (h : (d.node n).parent = some p) :
    ((d.detach n).node m).next =
      if (d.node n).previous = some m then if m < d.size then (d.node n).next else none
      else if m = n then none else (d.node m).next := by
  simp only [detach_of_parent_eq_some h, node_modify, node_modifySome, apply_ite Node.next,
    ite_self, size_modify, size_modifySome]
  by_cases hm : m < d.size
  · simp [hm, eq_comm]
  · simp [hm, node_of_size_le (Nat.le_of_not_lt hm), Node.detached]

/-! ## Putting a node at the end of another -/

/-- The three changes that make a node the last child of another. -/
theorem attach_eq :
    d.attach p n =
      ((d.modifySome (d.node p).children.getLast? fun x => { x with next := some n }).modify
        n fun x => { x with
          parent := some p, previous := (d.node p).children.getLast?, next := none }).modify
        p fun x => { x with children := x.children ++ [n] } := by
  rfl

@[simp] theorem size_attach : (d.attach p n).size = d.size := by
  simp [attach_eq]

@[simp] theorem kind_attach : ((d.attach p n).node m).kind = (d.node m).kind := by
  simp only [attach_eq, node_modify, node_modifySome, apply_ite Node.kind, ite_self]

/-- A node that was put in has the parent, and nobody else gets one. -/
theorem parent_attach (hn : n < d.size) :
    ((d.attach p n).node m).parent = if m = n then some p else (d.node m).parent := by
  simp only [attach_eq, node_modify, node_modifySome, apply_ite Node.parent, ite_self,
    size_modifySome]
  grind

/-- The node is the last child now. -/
theorem children_attach (hp : p < d.size) :
    ((d.attach p n).node m).children =
      if m = p then (d.node m).children ++ [n] else (d.node m).children := by
  simp only [attach_eq, node_modify, node_modifySome, apply_ite Node.children, ite_self,
    size_modify, size_modifySome]
  grind

/-- The node follows what was the last child before. -/
theorem previous_attach (hn : n < d.size) :
    ((d.attach p n).node m).previous =
      if m = n then (d.node p).children.getLast? else (d.node m).previous := by
  simp only [attach_eq, node_modify, node_modifySome, apply_ite Node.previous, ite_self,
    size_modifySome]
  grind

/-- What was the last child before is followed by the node, behind which nothing stands. -/
theorem next_attach (hn : n < d.size) :
    ((d.attach p n).node m).next =
      if m = n then none
      else if (d.node p).children.getLast? = some m ∧ m < d.size then some n
      else (d.node m).next := by
  simp only [attach_eq, node_modify, node_modifySome, apply_ite Node.next, ite_self,
    size_modifySome]
  grind

end Stencil.Document
