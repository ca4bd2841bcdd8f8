/-
# Syntax nodes

A node has a kind, an extent and the values of its fields, in the order of the fields.
Its children are the nodes that its fields hold, in that order, so going through a node
before its children follows the script.  The size of a node counts the nodes at and below
it; it is what every recursion over a tree comes down by.

Main facts:

* `size_eq`: a node has one node more than its children have together.
* `size_lt_of_mem_children`: a child is smaller than its parent.
-/
import ScriptNavigation.Place.Extent
import ScriptNavigation.Tree.Schema

namespace ScriptNavigation

/-- A syntax node. -/
inductive Node where
  | mk (kind : NodeKind) (extent : Extent String) (fields : List (Field × Value Node))

namespace Node

/-- The kind of a node. -/
def kind : Node → NodeKind
  | mk k _ _ => k

/-- The stretch of the script that a node covers. -/
def extent : Node → Extent String
  | mk _ e _ => e

/-- The fields of a node with their values, in order. -/
def fields : Node → List (Field × Value Node)
  | mk _ _ fs => fs

/-- The children of a node, in order. -/
def children (n : Node) : List Node :=
  n.fields.flatMap fun f => f.2.nodes

/-! ## Sizes -/

mutual

/-- The number of nodes at and below a node. -/
def size : Node → Nat
  | mk _ _ fs => fieldsSize fs + 1

/-- The number of nodes in the values of fields. -/
def fieldsSize : List (Field × Value Node) → Nat
  | [] => 0
  | (_, v) :: fs => valueSize v + fieldsSize fs

/-- The number of nodes in a value. -/
def valueSize : Value Node → Nat
  | .node n => n.size
  | .array vs => valuesSize vs
  | _ => 0

/-- The number of nodes in a list of values. -/
def valuesSize : List (Value Node) → Nat
  | [] => 0
  | v :: vs => valueSize v + valuesSize vs

end

/-- The number of nodes in a list of trees. -/
def totalSize : List Node → Nat
  | [] => 0
  | n :: ns => n.size + totalSize ns

@[simp] theorem totalSize_nil : totalSize [] = 0 := rfl

@[simp] theorem totalSize_cons (n : Node) (ns : List Node) :
    totalSize (n :: ns) = n.size + totalSize ns := rfl

@[simp] theorem totalSize_append (ns ms : List Node) :
    totalSize (ns ++ ms) = totalSize ns + totalSize ms := by
  induction ns with
  | nil => simp
  | cons n ns ih => simp [ih, Nat.add_assoc]

theorem size_pos (n : Node) : 0 < n.size := by
  cases n
  simp [size]

mutual

theorem valueSize_eq : (v : Value Node) → valueSize v = totalSize v.nodes
  | .null | .bool _ | .int _ | .float _ | .str _ | .object _ => rfl
  | .node n => by simp [valueSize, Value.nodes]
  | .array vs => by
    rw [valueSize, Value.nodes]
    exact valuesSize_eq vs

theorem valuesSize_eq : (vs : List (Value Node)) → valuesSize vs = totalSize (Value.nodesOfAll vs)
  | [] => rfl
  | v :: vs => by
    rw [valuesSize, Value.nodesOfAll, totalSize_append, valueSize_eq v, valuesSize_eq vs]

end

theorem fieldsSize_eq (fs : List (Field × Value Node)) :
    fieldsSize fs = totalSize (fs.flatMap fun f => f.2.nodes) := by
  induction fs with
  | nil => rfl
  | cons f fs ih =>
    rw [fieldsSize, List.flatMap_cons, totalSize_append, valueSize_eq, ih]

/-- A node has one node more than its children have together. -/
theorem size_eq (n : Node) : n.size = totalSize n.children + 1 := by
  cases n with
  | mk k e fs => rw [size, fieldsSize_eq, children, fields]

theorem size_le_totalSize {n : Node} {ns : List Node} (h : n ∈ ns) : n.size ≤ totalSize ns := by
  induction ns with
  | nil => simp at h
  | cons m ms ih =>
    rw [totalSize_cons]
    rcases List.mem_cons.mp h with rfl | h
    · omega
    · have := ih h
      omega

/-- A child is smaller than its parent. -/
theorem size_lt_of_mem_children {n c : Node} (h : c ∈ n.children) : c.size < n.size := by
  have := size_le_totalSize h
  rw [size_eq n]
  omega

end Node

end ScriptNavigation
