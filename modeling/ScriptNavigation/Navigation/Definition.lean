/-
# Where a symbol is declared

The declaration of a symbol is the first one in document order that matches the symbol.
Only nodes that declare something are considered: definitions of functions, types and
configurations, declarations of members, and the targets of assignments.  Symbols of other
kinds have no declaration.
-/
import ScriptNavigation.Navigation.Query
import ScriptNavigation.Symbol.Identity

namespace ScriptNavigation

namespace Query

/-- The variable that an assignment assigns to. -/
def assignedTo? (o : Occurrence) : Result (Option Occurrence) := do
  return Datum.nodeOf? .variableExpression (← assignedExpression (← o.field .left))

/-- The symbol of the variable that an assignment assigns to. -/
def assignedVariable : Probe (Option Symbol) := fun o => do
  return (← assignedTo? o).map Symbol.ofVariable

/-- The symbol of a node, if there is one and it matches the symbol given. -/
def matching (table : Option AliasTable) (symbol : Symbol) (build : Probe (Option Symbol)) :
    Probe (Option Symbol) := fun o => do
  match ← build o with
  | none => return none
  | some candidate =>
    return if ← denotesSame table symbol candidate then some candidate else none

/-- The nodes that declare symbols of a family, with the symbols they declare. -/
def declarations : SymbolKind → Probes (Option Symbol)
  | .function => [(.functionDefinition, always fun o => Symbol.ofFunction o false)]
  | .variableName => [(.assignment, assignedVariable)]
  | .classType => [(.typeDefinition, always fun o => Symbol.ofType o false)]
  | .method => [(.functionMember, always fun o => Symbol.ofMethod o false)]
  | .property => [(.propertyMember, always fun o => Symbol.ofProperty o false)]
  | .configuration => [(.configurationDefinition, always fun o => Symbol.ofConfiguration o false)]
  | _ => []

/-- The declaration of a symbol. -/
def declaration (q : Query) (symbol : Option Symbol) : Result (Option Symbol) := do
  let some s := symbol | throw (.rejected (.missing .declarationSymbol))
  let probes := declarations s.kind.family
  if probes.isEmpty then return none
  q.first (probes.map fun p => (p.1, matching none s p.2))

end Query

end ScriptNavigation
