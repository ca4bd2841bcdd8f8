/-
# The wildcard type

An expression about whose type nothing is known has the wildcard type, which may be any
type.  Some type names stand for any type too, among them the empty name.

Main facts:

* `isWildcard_wildcardType`: the wildcard type stands for any type.
-/
import ScriptNavigation.Tree.Datum

namespace ScriptNavigation

/-- The type of an expression about which nothing is known. -/
def wildcardType : Datum := .str "object"

/-- The names, folded, of the types that stand for any type. -/
def wildcardNames : List String := ["", "object", "unknown", "system.object"]

/-- Whether a type name stands for any type; no name at all does. -/
def isWildcardName (name : String) : Bool :=
  wildcardNames.contains (Text.foldCase name)

/-- Whether a type stands for any type. -/
def isWildcard (type : Datum) : Result Bool :=
  match type with
  | .null => .ok true
  | .str name => .ok (isWildcardName name)
  | _ => .error (.misused .noSuchPart)

/-- The type given, or the wildcard type when it stands for any type. -/
def orWildcard (type : Datum) : Result Datum := do
  return if ← isWildcard type then wildcardType else type

/-- The name of the wildcard type stands for any type. -/
theorem isWildcardName_object : isWildcardName "object" = true := by
  decide +kernel

/-- The wildcard type stands for any type. -/
@[simp] theorem isWildcard_wildcardType : isWildcard wildcardType = .ok true :=
  congrArg Except.ok isWildcardName_object

end ScriptNavigation
