/-
# What is shown for a symbol under the cursor

Each kind of symbol has its one-line description; the keys of hashtables, workflows,
configurations and unknown symbols have none.
-/
import ScriptNavigation.Symbol.Basic

namespace ScriptNavigation

/-- A symbol with its description, which is `null` when there is none. -/
structure Details where
  symbol : Symbol
  description : Datum

namespace Symbol

/-- The description of a symbol. -/
def description (s : Symbol) : Result Datum :=
  match s.kind with
  | .function => .ok (.str ("function " ++ s.name.display))
  | .parameter => .ok (.str ("(parameter) " ++ s.name.display))
  | .variableName => .ok s.name
  | .classType => .ok (.str ("(class) " ++ s.name.display))
  | .method | .constructor | .property => s.display
  | .hashtableKey | .workflow | .configuration | .unknown => .ok .null

end Symbol

/-- The details of a symbol. -/
def detailsOf (symbol : Option Symbol) : Result Details := do
  let some s := symbol | throw (.rejected (.missing .detailsSymbol))
  return ⟨s, ← s.description⟩

end ScriptNavigation
