/-
# Loosely typed values

A syntax tree comes from a JSON document, and nothing checks what stands in the fields of
a node.  A field therefore holds a `Value`: any JSON value, except that an object which
describes a node has been replaced by that node.  The type of the nodes is a parameter,
so the same definitions serve plain JSON (no nodes at all), the fields of a stored node,
and the fields of a node seen at its place in a tree.

Main facts:

* `nodes_map`: changing the nodes of a value one by one changes the list of its nodes so.
-/
import ScriptNavigation.Number.Binary64

namespace ScriptNavigation

/-- A JSON value in which nodes of type `ν` may stand as well. -/
inductive Value (ν : Type) where
  | null
  | bool (b : Bool)
  | int (i : Int)
  | float (x : Binary64)
  | str (s : String)
  | array (items : List (Value ν))
  | object (members : List (String × Value ν))
  | node (n : ν)
  deriving Inhabited

/-- A plain JSON value, whose objects keep the order of their keys. -/
abbrev Json := Value Empty

/-- The members of a plain JSON object, in order. -/
abbrev Members := List (String × Json)

namespace Value

variable {ν μ : Type}

/-! ## Reading a value -/

/-- Whether the value is `null`. -/
def isNull : Value ν → Bool
  | null => true
  | _ => false

/-- Whether a test on the value succeeds: `null`, `false`, zero and empty values fail it. -/
def truthy : Value ν → Bool
  | null => false
  | bool b => b
  | int i => i != 0
  | float x => !x.isZero
  | str s => s != ""
  | array items => !items.isEmpty
  | object members => !members.isEmpty
  | node _ => true

/-- The value itself when it passes the test of `truthy`, and `other` when it fails. -/
def orElse (v other : Value ν) : Value ν :=
  if v.truthy then v else other

/-- The node that the value is. -/
def node? : Value ν → Option ν
  | node n => some n
  | _ => none

/-- The text that the value is. -/
def str? : Value ν → Option String
  | str s => some s
  | _ => none

/-- The name of the JSON type of a value. -/
def typeName : Value ν → String
  | null => "null"
  | bool _ => "bool"
  | int _ => "int"
  | float _ => "float"
  | str _ => "str"
  | array _ => "array"
  | object _ => "object"
  | node _ => "object"

/-! ## The nodes of a value -/

mutual

/-- The nodes that the value holds: itself, or those found through arrays, in order.
Objects are not searched. -/
def nodes : Value ν → List ν
  | node n => [n]
  | array items => nodesOfAll items
  | _ => []

/-- The nodes of a list of values, in order. -/
def nodesOfAll : List (Value ν) → List ν
  | [] => []
  | v :: vs => v.nodes ++ nodesOfAll vs

end

theorem nodesOfAll_eq_flatMap (vs : List (Value ν)) : nodesOfAll vs = vs.flatMap nodes := by
  induction vs with
  | nil => rfl
  | cons v vs ih => simp [nodesOfAll, ih]

/-- The nodes of a list of nodes are these nodes. -/
theorem nodesOfAll_map_node (ns : List ν) : nodesOfAll (ns.map node) = ns := by
  rw [nodesOfAll_eq_flatMap, List.flatMap_map]
  exact List.flatMap_singleton' ns

/-! ## Changing the nodes -/

mutual

/-- The value with every node replaced. -/
def map (f : ν → μ) : Value ν → Value μ
  | null => null
  | bool b => bool b
  | int i => int i
  | float x => float x
  | str s => str s
  | array items => array (mapAll f items)
  | object members => object (mapMembers f members)
  | node n => node (f n)

/-- The values of a list with every node replaced. -/
def mapAll (f : ν → μ) : List (Value ν) → List (Value μ)
  | [] => []
  | v :: vs => v.map f :: mapAll f vs

/-- The members of an object with every node replaced. -/
def mapMembers (f : ν → μ) : List (String × Value ν) → List (String × Value μ)
  | [] => []
  | (key, v) :: rest => (key, v.map f) :: mapMembers f rest

end

mutual

/-- Changing the nodes of a value one by one changes the list of its nodes so. -/
theorem nodes_map (f : ν → μ) : (v : Value ν) → (v.map f).nodes = v.nodes.map f
  | null | bool _ | int _ | float _ | str _ | object _ => rfl
  | node _ => rfl
  | array items => by simpa [Value.map, nodes] using nodesOfAll_mapAll f items

theorem nodesOfAll_mapAll (f : ν → μ) :
    (vs : List (Value ν)) → nodesOfAll (mapAll f vs) = (nodesOfAll vs).map f
  | [] => rfl
  | v :: vs => by simp [mapAll, nodesOfAll, nodes_map f v, nodesOfAll_mapAll f vs]

end

/-! ## Equality -/

/-- Whether two values that hold no other values are equal; numbers are compared by
amount, and the two truth values count as one and zero. -/
def sameLeaf (sameNode : ν → ν → Bool) : Value ν → Value ν → Bool
  | null, null => true
  | str a, str b => a == b
  | node a, node b => sameNode a b
  | bool a, bool b => a == b
  | bool a, int b => (if a then 1 else 0) == b
  | int a, bool b => a == (if b then 1 else 0)
  | int a, int b => a == b
  | float a, float b => a.same b
  | float a, int b => a.isInt b
  | int a, float b => b.isInt a
  | float a, bool b => a.isInt (if b then 1 else 0)
  | bool a, float b => b.isInt (if a then 1 else 0)
  | _, _ => false

mutual

/-- Whether two values are equal: arrays item by item, objects member by member in any
order, and nodes by the test given. -/
def same (sameNode : ν → ν → Bool) : Value ν → Value ν → Bool
  | array xs, array ys => sameItems sameNode xs ys
  | object xs, object ys => xs.length == ys.length && sameMembers sameNode xs ys
  | x, y => sameLeaf sameNode x y

/-- Whether two lists of values are equal item by item. -/
def sameItems (sameNode : ν → ν → Bool) : List (Value ν) → List (Value ν) → Bool
  | [], [] => true
  | x :: xs, y :: ys => same sameNode x y && sameItems sameNode xs ys
  | _, _ => false

/-- Whether each member of the first list has an equal one in the second. -/
def sameMembers (sameNode : ν → ν → Bool) :
    List (String × Value ν) → List (String × Value ν) → Bool
  | [], _ => true
  | (key, x) :: rest, ys =>
    (match ys.lookup key with
      | some y => same sameNode x y
      | none => false) && sameMembers sameNode rest ys

end

end Value

/-! ## Members of an object -/

namespace Members

/-- Adds a member at the end; a key that is there already keeps its place and takes the
new value. -/
def insert (ms : Members) (key : String) (v : Json) : Members :=
  match ms with
  | [] => [(key, v)]
  | (k, w) :: rest => if k = key then (k, v) :: rest else (k, w) :: insert rest key v

/-- Whether an object has a key. -/
def hasKey (ms : Members) (key : String) : Bool :=
  ms.any fun m => m.1 == key

end Members

end ScriptNavigation
