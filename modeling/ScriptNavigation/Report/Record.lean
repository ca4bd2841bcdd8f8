/-
# Symbols as records

For output in JSON, symbols, lists of symbols and details become records: objects with
fixed keys in a fixed order.
-/
import ScriptNavigation.Navigation.Hover
import ScriptNavigation.Value.Printer

namespace ScriptNavigation

/-- A text, or `null` when there is none. -/
def textOrNull (s : Option String) : Datum :=
  match s with
  | some s => .str s
  | none => .null

namespace Member

/-- The record of what is known of a member; an empty return type is `null`. -/
def record (m : Member) : Datum :=
  .object
    [ ("owner", m.owner),
      ("static", m.isStatic),
      ("parameter_types", .array m.parameterTypes),
      ("return_type", m.returnType.orElse .null),
      ("constructor", m.isConstructor) ]

end Member

namespace Symbol

/-- The members of the record of a symbol. -/
def recordMembers (s : Symbol) : List (String × Datum) :=
  [ ("kind", .str s.kind.name),
    ("name", s.name),
    ("file", textOrNull s.extent.file),
    ("line", .int s.extent.start.line),
    ("column", .int s.extent.start.column),
    ("end_line", .int s.extent.stop.line),
    ("end_column", .int s.extent.stop.column) ] ++
  (match s.member with
    | some m => [("member", m.record)]
    | none => [])

/-- The record of a symbol. -/
def record (s : Symbol) : Datum := .object s.recordMembers

end Symbol

/-- The record of a list of symbols, with the query that they answer if one is given. -/
def recordOfSymbols (symbols : List Symbol) (query : Datum) : Datum :=
  .object
    ((if query.truthy then [("query", query)] else []) ++
      [ ("count", .int symbols.length),
        ("symbols", .array (symbols.map Symbol.record)) ])

namespace Details

/-- The record of details. -/
def record (d : Details) : Datum :=
  .object [("symbol", d.symbol.record), ("display", d.description)]

end Details

/-- The record of a list of paths. -/
def recordOfPaths (paths : List Datum) : Datum :=
  .object [("count", .int paths.length), ("paths", .array paths)]

/-- A record as printed: its JSON text on lines of its own. -/
def printRecord (record : Datum) : Result String :=
  match record.json? with
  | some text => .ok (text ++ "\n")
  | none => .error (.misused .wrongType)

end ScriptNavigation
