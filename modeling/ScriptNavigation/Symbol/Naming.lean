/-
# Extents of names

The symbol of a declaration stands at the name that is declared.  The name is looked for in
the text of the declaration; where it does not occur, the symbol takes the whole extent.

Main facts:

* `narrowTo_text`: the extent of a name is its first occurrence, if it occurs.
-/
import ScriptNavigation.Tree.Datum

namespace ScriptNavigation

/-- The extent of the first occurrence of a name, if there is a name and it occurs. -/
def nameWithin (parent : Extent String) (name : Datum) : Result (Option (Extent String)) := do
  if !name.truthy then return none
  return parent.named? (← name.asText)

/-- The extent of a node as that of a symbol. -/
def wholeExtent (e : Extent String) : Extent Datum := e.withText (.str e.text)

/-- The extent of a name inside that of the node that it names, and the whole extent when
the name does not occur. -/
def narrowTo (parent : Extent String) (name : Datum) : Result (Extent Datum) := do
  return wholeExtent ((← nameWithin parent name).getD parent)

/-- The extent of a declaration: the whole one, or that of its name. -/
def declarationExtent (o : Occurrence) (whole : Bool) (name : Datum) : Result (Extent Datum) :=
  if whole then .ok (wholeExtent o.extent) else narrowTo o.extent name

/-- The extent of a name is its first occurrence, if it occurs. -/
theorem narrowTo_text (parent : Extent String) (name : String) :
    narrowTo parent (.str name) = .ok (wholeExtent ((parent.named? name).getD parent)) := by
  unfold narrowTo nameWithin
  by_cases h : name = ""
  · subst h
    rfl
  · simp only [Value.truthy, Value.asText, bind, Except.bind, pure, Except.pure]
    simp [h]

end ScriptNavigation
