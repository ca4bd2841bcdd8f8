/-
# Where a symbol occurs

The references to a symbol are all symbols of a script that match it, declarations and uses
alike, in document order.  Which nodes are looked at depends on the family of the symbol.
An alias table is consulted for functions only.
-/
import ScriptNavigation.Navigation.Definition

namespace ScriptNavigation

namespace Query

/-- The symbol of a node in a list, if it matches the symbol given. -/
def matchingList (table : Option AliasTable) (symbol : Symbol) (build : Probe (Option Symbol)) :
    Probe (List Symbol) := fun o => do
  return (← matching table symbol build o).toList

/-- The symbols of the pairs of a hashtable that match the symbol given; each pair is
matched before the next one is looked at. -/
def matchingPairs (symbol : Symbol) : List Datum → Result (List Symbol)
  | [] => .ok []
  | pair :: rest => do
    let found ← match ← Symbol.ofPair pair with
      | none => pure []
      | some candidate =>
        pure (if ← denotesSame none symbol candidate then [candidate] else [])
    return found ++ (← matchingPairs symbol rest)

/-- The nodes in which symbols of a family occur, with the symbols they stand for.  The keys
of hashtables are apart, since a hashtable stands for several symbols. -/
def occurrences (infer : Inferer) : SymbolKind → Probes (Option Symbol)
  | .function =>
    [(.command, Symbol.ofCommand), (.functionDefinition, always fun o => Symbol.ofFunction o false)]
  | .variableName => [(.variableExpression, always fun o => .ok (Symbol.ofVariable o))]
  | .parameter => [(.commandParameter, always fun o => .ok (Symbol.ofParameter o))]
  | .classType =>
    [(.typeDefinition, always fun o => Symbol.ofType o false),
      (.typeExpression, always Symbol.ofTypeName), (.typeConstraint, always Symbol.ofTypeName)]
  | .method =>
    [(.functionMember, always fun o => Symbol.ofMethod o false),
      (.invokeMemberExpression, always (Symbol.ofMethodCall infer))]
  | .property =>
    [(.propertyMember, always fun o => Symbol.ofProperty o false),
      (.memberExpression, always (Symbol.ofPropertyAccess infer))]
  | .configuration => [(.configurationDefinition, always fun o => Symbol.ofConfiguration o false)]
  | _ => []

/-- The probes for the references to a symbol. -/
def referenceProbes (q : Query) (symbol : Symbol) (table : Option AliasTable) :
    Probes (List Symbol) :=
  if symbol.kind.family = .hashtableKey then
    [(.hashtable, fun o => do matchingPairs symbol (← Symbol.pairsOf o))]
  else
    (occurrences q.infer symbol.kind.family).map fun p => (p.1, matchingList table symbol p.2)

/-- The references to a symbol. -/
def references (q : Query) (symbol : Option Symbol) (table : Option AliasTable) :
    Result (List Symbol) := do
  let some s := symbol | throw (.rejected (.missing .referencesSymbol))
  let probes := q.referenceProbes s table
  if probes.isEmpty then return []
  q.gather probes

end Query

end ScriptNavigation
