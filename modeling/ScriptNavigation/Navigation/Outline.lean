/-
# The symbols of a whole script

The outline of a script holds the functions, configurations, types and members that it
defines, and the variables assigned in its outermost block.  Beside it there are lists of
the literal keys of all hashtables and of the files that the script includes, and the test
whether the script is nothing but data.
-/
import ScriptNavigation.Navigation.Definition

namespace ScriptNavigation

namespace Query

/-! ## The outline -/

/-- Whether an assignment stands in the outermost block of a script: there are at most two
nodes above it. -/
def isTopLevel (o : Occurrence) : Bool := o.ancestors.length ≤ 2

/-- The function that a node defines; one that is the body of a method is left out. -/
def outlineFunction : Probe (List Symbol) := fun o => do
  if (o.parent?.map Occurrence.kind) = some .functionMember then return []
  return [← Symbol.ofFunction o true]

/-- The variable that an assignment in the outermost block assigns to. -/
def outlineVariable : Probe (List Symbol) := fun o => do
  match ← assignedVariable o with
  | some symbol => return if isTopLevel o then [symbol] else []
  | none => return []

/-- A probe that lists the symbol of every node. -/
def listed (build : Occurrence → Result Symbol) : Probe (List Symbol) := fun o => do
  return [← build o]

/-- The probes for the outline. -/
def outlineProbes : Probes (List Symbol) :=
  [ (.functionDefinition, outlineFunction),
    (.configurationDefinition, listed fun o => Symbol.ofConfiguration o true),
    (.assignment, outlineVariable),
    (.typeDefinition, listed fun o => Symbol.ofType o false),
    (.functionMember, listed fun o => Symbol.ofMethod o false),
    (.propertyMember, listed fun o => Symbol.ofProperty o false) ]

/-- The symbols of the outline of a script. -/
def outline (q : Query) : Result (List Symbol) := q.gather outlineProbes

/-! ## Keys of hashtables -/

/-- The literal keys of all hashtables. -/
def keys (q : Query) : Result (List Symbol) :=
  q.gather [(.hashtable, Symbol.ofHashtable)]

/-! ## Included files -/

/-- The literal path of the file that a command includes. -/
def includedFile : Probe (List Datum) := fun o => do
  if !Datum.same (← o.field .invocationOperator) (.str ".") then return []
  match Datum.nodeOf? .stringConstant (← Symbol.commandName o) with
  | some constant => return [← constant.field .value]
  | none => return []

/-- The literal paths of the files that a script includes. -/
def includedFiles (q : Query) : Result (List Datum) := q.gather [(.command, includedFile)]

/-! ## Data files -/

/-- The kinds of nodes from the root down to the table in a script that is nothing but data. -/
def dataShape : List NodeKind :=
  [.scriptBlock, .namedBlock, .pipeline, .commandExpression, .hashtable]

/-- Whether there is a chain of nodes of the given kinds, each one a child of the one before. -/
def hasShape : List NodeKind → Node → Bool
  | [], _ => true
  | kind :: kinds, n =>
    n.kind == kind && (kinds.isEmpty || n.children.any fun c => hasShape kinds c)

/-- Whether a script is nothing but data. -/
def isPureData (s : Script) : Bool := hasShape dataShape s.root

end Query

end ScriptNavigation
