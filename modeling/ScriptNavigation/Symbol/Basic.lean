/-
# Symbols

A symbol is a named thing found in a script: its kind, its name, where it is, and for the
members of classes what is known of the member.  Names and member data are read from
loosely typed documents and are kept as found.
-/
import ScriptNavigation.Symbol.Kind
import ScriptNavigation.Tree.Datum

namespace ScriptNavigation

/-- What a method, constructor or property symbol carries besides its name. -/
structure Member where
  owner : Datum
  isStatic : Datum := .bool false
  parameterTypes : List Datum := []
  returnType : Datum := .str ""
  isConstructor : Datum := .bool false

/-- A named thing found in a script. -/
structure Symbol where
  kind : SymbolKind
  name : Datum
  extent : Extent Datum
  member : Option Member := none

namespace Member

/-- The number of parameters. -/
def arity (m : Member) : Nat := m.parameterTypes.length

end Member

/-- Some values where only texts will do, put together with commas. -/
def joinTexts (ds : List Datum) : Result String :=
  (ds.mapM Value.asText).map fun texts => ", ".intercalate texts

namespace Symbol

/-- The number of parameters; a symbol that is no member has none. -/
def arity (s : Symbol) : Nat :=
  match s.member with
  | some m => m.arity
  | none => 0

/-- Whether the symbol is known to be a constructor. -/
def isConstructor (s : Symbol) : Datum :=
  match s.member with
  | some m => m.isConstructor
  | none => .bool false

/-- The name of a symbol; a method or constructor has the types of its parameters after
the name. -/
def signature (s : Symbol) : Result Datum :=
  match s.member with
  | some m =>
    if s.kind.hasSignature then
      (joinTexts m.parameterTypes).map fun types => .str (s.name.display ++ "(" ++ types ++ ")")
    else .ok s.name
  | none => .ok s.name

/-- How a symbol is shown in one line: a property with its type and owner, any other symbol
by its signature. -/
def display (s : Symbol) : Result Datum :=
  match s.kind, s.member with
  | .property, some m =>
    let type : Datum := m.returnType.orElse (.str "object")
    .ok (.str (type.display ++ " " ++ m.owner.display ++ "." ++ s.name.display))
  | _, _ => s.signature

end Symbol

end ScriptNavigation
