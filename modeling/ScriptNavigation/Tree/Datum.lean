/-
# Using loosely typed values

A field may hold any value, so whatever is done with its value can fail: it may have no
items, no case to fold, no such field.  Each operation here says what it needs and which
failure it reports otherwise.

Main facts:

* `field_of_node`: on a node the operations are those of the node itself.
-/
import ScriptNavigation.Failure
import ScriptNavigation.Text.CaseFold
import ScriptNavigation.Tree.Occurrence
import ScriptNavigation.Tree.Spelling

namespace ScriptNavigation

namespace Value

variable {ν : Type}

/-! ## Containers -/

/-- The values met when going through a value: the items of an array, the characters of a
text, the keys of an object. -/
def items : Value ν → Result (List (Value ν))
  | array vs => .ok vs
  | str s => .ok (s.toList.map fun c => .str (String.singleton c))
  | object ms => .ok (ms.map fun m => .str m.1)
  | _ => .error (.misused .wrongType)

/-- The number of items of a value. -/
def length (v : Value ν) : Result Nat :=
  v.items.map List.length

/-- The first item of a value, and `null` for one that is empty. -/
def first (v : Value ν) : Result (Value ν) :=
  if !v.truthy then .ok .null
  else
    match v with
    | array (w :: _) => .ok w
    | str s => .ok (.str (String.ofList (s.toList.take 1)))
    | object _ => .error (.misused .noSuchKey)
    | _ => .error (.misused .wrongType)

/-! ## Texts -/

/-- The text that a value is, where only a text will do. -/
def asText : Value ν → Result String
  | str s => .ok s
  | _ => .error (.misused .wrongType)

/-- The text that a value is, where a part is asked of it that only texts have. -/
def asName : Value ν → Result String
  | str s => .ok s
  | _ => .error (.misused .noSuchPart)

/-- The case folding of the text that a value is. -/
def folded (v : Value ν) : Result String :=
  v.asName.map Text.foldCase

end Value

/-! ## Nodes -/

namespace Occurrence

/-- The value of a field of a node. -/
def field (o : Occurrence) (f : Field) : Result Datum :=
  match o.field? f with
  | some d => .ok d
  | none => .error (.misused .noSuchPart)

end Occurrence

namespace Datum

/-- The value of a field of the node that a value is. -/
def field (d : Datum) (f : Field) : Result Datum :=
  match d with
  | .node o => o.field f
  | _ => .error (.misused .noSuchPart)

/-- The extent of the node that a value is. -/
def extent (d : Datum) : Result (Extent String) :=
  match d with
  | .node o => .ok o.extent
  | _ => .error (.misused .noSuchPart)

/-- The node that a value is, if it is of the kind given. -/
def nodeOf? (kind : NodeKind) (d : Datum) : Option Occurrence :=
  d.node?.filter fun o => o.kind == kind

/-- Whether a value is a node of the kind given. -/
def isNodeOf (kind : NodeKind) (d : Datum) : Bool :=
  (d.nodeOf? kind).isSome

/-- Whether two values are equal; a node is equal to itself only. -/
def same (a b : Datum) : Bool :=
  Value.same (fun o p => o.index == p.index) a b

/-- The text of a value where a message needs one. -/
def display (d : Datum) : String :=
  Value.display (fun o => o.node.spelled) .squareThenRound d

/-! ## Laws -/

/-- On a node the operations are those of the node itself. -/
@[simp] theorem field_of_node (o : Occurrence) (f : Field) : field (.node o) f = o.field f := rfl

@[simp] theorem extent_of_node (o : Occurrence) : extent (.node o) = .ok o.extent := rfl

end Datum

end ScriptNavigation
