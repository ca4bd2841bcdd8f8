/-
# Nodes at their places in a tree

A node does not know where it stands.  An occurrence is a node together with its place: it
is the root of a tree, or it stands below another occurrence and has a number.  Numbers
count the nodes of the tree in document order, the root being zero, so an occurrence is
told from the others by its number.

The fields of an occurrence hold occurrences again: a node in a field is seen at its own
place, below the occurrence.

Main facts:

* `map_node_children`: the children of an occurrence are the children of its node.
* `totalSize_children`: together they have one node less than the occurrence.
-/
import ScriptNavigation.Tree.Node

namespace ScriptNavigation

/-- A node at its place in a tree. -/
inductive Occurrence where
  | root (node : Node)
  | inside (parent : Occurrence) (index : Nat) (node : Node)

/-- A value in a field of a node that is seen at its place. -/
abbrev Datum := Value Occurrence

namespace Occurrence

/-- The node itself. -/
def node : Occurrence → Node
  | root n => n
  | inside _ _ n => n

/-- The number of the occurrence in document order. -/
def index : Occurrence → Nat
  | root _ => 0
  | inside _ i _ => i

/-- The occurrence whose child this is. -/
def parent? : Occurrence → Option Occurrence
  | root _ => none
  | inside p _ _ => some p

/-- The occurrences above this one, nearest first. -/
def ancestors : Occurrence → List Occurrence
  | root _ => []
  | inside p _ _ => p :: p.ancestors

/-- The kind of the node. -/
def kind (o : Occurrence) : NodeKind := o.node.kind

/-- The extent of the node. -/
def extent (o : Occurrence) : Extent String := o.node.extent

/-- The number of nodes at and below the occurrence. -/
def size (o : Occurrence) : Nat := o.node.size

/-! ## Fields and children -/

mutual

/-- A value seen below an occurrence, its nodes numbered from `i` on. -/
def place (o : Occurrence) (i : Nat) : Value Node → Datum
  | .null => .null
  | .bool b => .bool b
  | .int k => .int k
  | .float x => .float x
  | .str s => .str s
  | .array vs => .array (placeAll o i vs)
  | .object ms => .object (Value.mapMembers (inside o i) ms)
  | .node n => .node (inside o i n)

/-- The values of a list seen below an occurrence. -/
def placeAll (o : Occurrence) (i : Nat) : List (Value Node) → List Datum
  | [] => []
  | v :: vs => place o i v :: placeAll o (i + Node.valueSize v) vs

end

/-- The fields of a node seen below an occurrence. -/
def placeFields (o : Occurrence) (i : Nat) : List (Field × Value Node) → List (Field × Datum)
  | [] => []
  | (f, v) :: fs => (f, place o i v) :: placeFields o (i + Node.valueSize v) fs

/-- The fields of an occurrence, in order. -/
def fields (o : Occurrence) : List (Field × Datum) :=
  placeFields o (o.index + 1) o.node.fields

/-- The value of a field, for a node that has the field. -/
def field? (o : Occurrence) (f : Field) : Option Datum :=
  o.fields.lookup f

/-- The children of an occurrence, in order. -/
def children (o : Occurrence) : List Occurrence :=
  o.fields.flatMap fun f => f.2.nodes

mutual

theorem map_node_nodes_place (o : Occurrence) (i : Nat) :
    (v : Value Node) → (place o i v).nodes.map node = v.nodes
  | .null | .bool _ | .int _ | .float _ | .str _ | .object _ => rfl
  | .node n => rfl
  | .array vs => by
    rw [place, Value.nodes, Value.nodes]
    exact map_node_nodes_placeAll o i vs

theorem map_node_nodes_placeAll (o : Occurrence) (i : Nat) :
    (vs : List (Value Node)) →
      (Value.nodesOfAll (placeAll o i vs)).map node = Value.nodesOfAll vs
  | [] => rfl
  | v :: vs => by
    rw [placeAll, Value.nodesOfAll, Value.nodesOfAll, List.map_append,
      map_node_nodes_place o i v, map_node_nodes_placeAll o _ vs]

end

theorem map_node_placeFields (o : Occurrence) (i : Nat) (fs : List (Field × Value Node)) :
    ((placeFields o i fs).flatMap fun f => f.2.nodes).map node = fs.flatMap fun f => f.2.nodes := by
  induction fs generalizing i with
  | nil => rfl
  | cons f fs ih =>
    obtain ⟨f, v⟩ := f
    simp only [placeFields, List.flatMap_cons, List.map_append]
    rw [map_node_nodes_place, ih]

/-- The children of an occurrence are the children of its node. -/
theorem map_node_children (o : Occurrence) : o.children.map node = o.node.children :=
  map_node_placeFields o _ _

/-! ## Recursion over a tree -/

/-- The number of nodes at and below some occurrences. -/
def totalSize (os : List Occurrence) : Nat :=
  Node.totalSize (os.map node)

@[simp] theorem totalSize_nil : totalSize [] = 0 := rfl

@[simp] theorem totalSize_cons (o : Occurrence) (os : List Occurrence) :
    totalSize (o :: os) = o.size + totalSize os := rfl

@[simp] theorem totalSize_append (os ps : List Occurrence) :
    totalSize (os ++ ps) = totalSize os + totalSize ps := by
  simp [totalSize]

theorem totalSize_children (o : Occurrence) : totalSize o.children + 1 = o.size := by
  rw [totalSize, map_node_children, size, Node.size_eq]

theorem size_lt_of_mem_children {o c : Occurrence} (h : c ∈ o.children) : c.size < o.size := by
  apply Node.size_lt_of_mem_children
  rw [← map_node_children]
  exact List.mem_map_of_mem h

/-- An occurrence and all those below it, each one before its children. -/
def preorder (o : Occurrence) : List Occurrence :=
  o :: o.children.attach.flatMap fun c => preorder c.1
termination_by o.size
decreasing_by exact size_lt_of_mem_children c.2

/-- An occurrence comes first, and then the trees of its children in order. -/
theorem preorder_eq (o : Occurrence) : o.preorder = o :: o.children.flatMap preorder := by
  rw [preorder]
  congr 1
  rw [List.flatMap_subtype (g := preorder)]
  · simp
  · intros
    rfl

end Occurrence

end ScriptNavigation
