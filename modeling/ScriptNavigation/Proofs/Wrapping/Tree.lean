/-
# Wrapping a node of a tree

A node is wrapped when a node of no known kind is put around it, which nests it and nothing
else.  The node to wrap is given by its number in document order.  Nodes before it keep
their numbers; it and all nodes behind it move on by one.

Main facts:

* `Node.wrapBelow`: a tree with one of its nodes wrapped.
* `Node.valueSize_wrapValue`: there is one more node where the wrapped one stands.
* `Node.wrapBelow_of_add_size_le`, `Node.wrapBelow_of_le`: nothing changes before or behind the
  wrapped node.
* `Node.isTyped_wrapper`: a wrapper is well typed.
-/
import ScriptNavigation.Tree.Typed

namespace ScriptNavigation

namespace Node

/-- A node of no known kind that nests one node. -/
def wrapper (extent : Extent String) (originalKind : String) (n : Node) : Node :=
  mk .generic extent [(.originalKind, .str originalKind), (.nested, .array [.node n])]

section

variable (extent : Extent String) (originalKind : String) (j : Nat)

mutual

/-- A node with the number `i` in which the node with the number `j` is wrapped. -/
def wrapBelow (i : Nat) : Node → Node
  | mk k e fs => mk k e (wrapFields (i + 1) fs)

/-- The fields of a node, numbered from `i` on, in which the node with the number `j` is
wrapped. -/
def wrapFields (i : Nat) : List (Field × Value Node) → List (Field × Value Node)
  | [] => []
  | (f, v) :: fs => (f, wrapValue i v) :: wrapFields (i + valueSize v) fs

/-- A value, its nodes numbered from `i` on, in which the node with the number `j` is
wrapped. -/
def wrapValue (i : Nat) : Value Node → Value Node
  | .node n => .node (if i = j then wrapper extent originalKind n else wrapBelow i n)
  | .array vs => .array (wrapValues i vs)
  | .null => .null
  | .bool b => .bool b
  | .int k => .int k
  | .float x => .float x
  | .str s => .str s
  | .object ms => .object ms

/-- The values of a list, their nodes numbered from `i` on, in which the node with the number
`j` is wrapped. -/
def wrapValues (i : Nat) : List (Value Node) → List (Value Node)
  | [] => []
  | v :: vs => wrapValue i v :: wrapValues (i + valueSize v) vs

end

/-! ## Sizes -/

theorem size_wrapper (n : Node) : (wrapper extent originalKind n).size = n.size + 1 := by
  simp [wrapper, size, fieldsSize, valueSize, valuesSize]

mutual

theorem size_wrapBelow (i : Nat) :
    (n : Node) → (wrapBelow extent originalKind j i n).size =
      n.size + if i < j ∧ j < i + n.size then 1 else 0
  | mk k e fs => by
    have hfs := fieldsSize_wrapFields (i + 1) fs
    rw [wrapBelow, size, size, hfs]
    split <;> split <;> omega

theorem fieldsSize_wrapFields (i : Nat) :
    (fs : List (Field × Value Node)) → fieldsSize (wrapFields extent originalKind j i fs) =
      fieldsSize fs + if i ≤ j ∧ j < i + fieldsSize fs then 1 else 0
  | [] => by
    rw [wrapFields, fieldsSize, if_neg (by omega)]
  | (f, v) :: fs => by
    have hv := valueSize_wrapValue i v
    have hfs := fieldsSize_wrapFields (i + valueSize v) fs
    rw [wrapFields, fieldsSize, fieldsSize, hv, hfs]
    split <;> split <;> split <;> omega

theorem valueSize_wrapValue (i : Nat) :
    (v : Value Node) → valueSize (wrapValue extent originalKind j i v) =
      valueSize v + if i ≤ j ∧ j < i + valueSize v then 1 else 0
  | .null | .bool _ | .int _ | .float _ | .str _ | .object _ => by
    rw [wrapValue, if_neg (by simp only [valueSize]; omega), Nat.add_zero]
  | .node n => by
    have hpos := size_pos n
    rw [wrapValue, valueSize, valueSize]
    by_cases h : i = j
    · rw [if_pos h, size_wrapper, if_pos (by omega)]
    · rw [if_neg h, size_wrapBelow i n]
      split <;> split <;> omega
  | .array vs => by
    rw [wrapValue, valueSize, valueSize, valuesSize_wrapValues i vs]

theorem valuesSize_wrapValues (i : Nat) :
    (vs : List (Value Node)) → valuesSize (wrapValues extent originalKind j i vs) =
      valuesSize vs + if i ≤ j ∧ j < i + valuesSize vs then 1 else 0
  | [] => by
    rw [wrapValues, valuesSize, if_neg (by omega)]
  | v :: vs => by
    have hv := valueSize_wrapValue i v
    have hvs := valuesSize_wrapValues (i + valueSize v) vs
    rw [wrapValues, valuesSize, valuesSize, hv, hvs]
    split <;> split <;> split <;> omega

end

/-! ## Before and behind the wrapped node -/

mutual

/-- Nothing changes in a tree that ends before the wrapped node. -/
theorem wrapBelow_of_add_size_le {i : Nat} :
    (n : Node) → i + n.size ≤ j → wrapBelow extent originalKind j i n = n
  | mk k e fs, h => by
    rw [size] at h
    rw [wrapBelow, wrapFields_of_add_size_le fs (by omega)]

theorem wrapFields_of_add_size_le {i : Nat} :
    (fs : List (Field × Value Node)) → i + fieldsSize fs ≤ j →
      wrapFields extent originalKind j i fs = fs
  | [], _ => rfl
  | (f, v) :: fs, h => by
    rw [fieldsSize] at h
    rw [wrapFields, wrapValue_of_add_size_le v (by omega),
      wrapFields_of_add_size_le fs (by omega)]

theorem wrapValue_of_add_size_le {i : Nat} :
    (v : Value Node) → i + valueSize v ≤ j → wrapValue extent originalKind j i v = v
  | .null, _ | .bool _, _ | .int _, _ | .float _, _ | .str _, _ | .object _, _ => by rw [wrapValue]
  | .node n, h => by
    have hpos := size_pos n
    rw [valueSize] at h
    rw [wrapValue, if_neg (by omega), wrapBelow_of_add_size_le n h]
  | .array vs, h => by
    rw [valueSize] at h
    rw [wrapValue, wrapValues_of_add_size_le vs h]

theorem wrapValues_of_add_size_le {i : Nat} :
    (vs : List (Value Node)) → i + valuesSize vs ≤ j →
      wrapValues extent originalKind j i vs = vs
  | [], _ => rfl
  | v :: vs, h => by
    rw [valuesSize] at h
    rw [wrapValues, wrapValue_of_add_size_le v (by omega),
      wrapValues_of_add_size_le vs (by omega)]

end

mutual

theorem wrapBelow_of_le {i : Nat} (h : j ≤ i) :
    (n : Node) → wrapBelow extent originalKind j i n = n
  | mk k e fs => by rw [wrapBelow, wrapFields_of_lt (Nat.lt_succ_of_le h) fs]

/-- Nothing changes in fields behind the wrapped node. -/
theorem wrapFields_of_lt {i : Nat} (h : j < i) :
    (fs : List (Field × Value Node)) → wrapFields extent originalKind j i fs = fs
  | [] => rfl
  | (f, v) :: fs => by
    rw [wrapFields, wrapValue_of_lt h v, wrapFields_of_lt (Nat.lt_add_right _ h) fs]

theorem wrapValue_of_lt {i : Nat} (h : j < i) :
    (v : Value Node) → wrapValue extent originalKind j i v = v
  | .null | .bool _ | .int _ | .float _ | .str _ | .object _ => by rw [wrapValue]
  | .node n => by rw [wrapValue, if_neg (Nat.ne_of_gt h), wrapBelow_of_le (Nat.le_of_lt h) n]
  | .array vs => by rw [wrapValue, wrapValues_of_lt h vs]

theorem wrapValues_of_lt {i : Nat} (h : j < i) :
    (vs : List (Value Node)) → wrapValues extent originalKind j i vs = vs
  | [] => rfl
  | v :: vs => by
    rw [wrapValues, wrapValue_of_lt h v, wrapValues_of_lt (Nat.lt_add_right _ h) vs]

end

/-! ## Kinds and types -/

@[simp] theorem kind_wrapBelow (i : Nat) (n : Node) :
    (wrapBelow extent originalKind j i n).kind = n.kind := by
  cases n
  rfl

@[simp] theorem extent_wrapBelow (i : Nat) (n : Node) :
    (wrapBelow extent originalKind j i n).extent = n.extent := by
  cases n
  rfl

theorem fields_wrapBelow (i : Nat) (n : Node) :
    (wrapBelow extent originalKind j i n).fields =
      wrapFields extent originalKind j (i + 1) n.fields := by
  cases n
  rfl

/-- A wrapper is well typed, whatever it nests. -/
theorem isTyped_wrapper (n : Node) : (wrapper extent originalKind n).isTyped = true := rfl

end

end Node

/-- A script in which the node with a number is wrapped. -/
def Script.wrapped (s : Script) (j : Nat) (extent : Extent String) (originalKind : String) :
    Script :=
  { s with root := s.root.wrapBelow extent originalKind j 0 }

end ScriptNavigation
