/-
# The symbol at a position

The symbol at a position is the first one in document order whose extent contains the
position.  Declarations are tested at their names, or over their whole extent where that is
asked for; uses are tested where the name is used.

The command at a position is looked for among the commands of the pipelines that start on
the line: a command reaches from its first column over the blanks behind it.
-/
import ScriptNavigation.Navigation.Query
import ScriptNavigation.Text.Blank

namespace ScriptNavigation

namespace Query

/-! ## Symbols -/

/-- The symbol that a node builds, if it contains a position. -/
def hitOf (p : Position) (build : Occurrence → Result Symbol) : Probe (Option Symbol) := fun o =>
  (build o).map (hit p)

/-- The command that a node is, if its name contains a position. -/
def hitCommand (p : Position) : Probe (Option Symbol) := fun o => do
  return (← Symbol.ofCommand o).bind (hit p)

/-- The method that a node declares, if it contains a position; over the whole extent the
body does not count. -/
def hitMethod (p : Position) (whole : Bool) : Probe (Option Symbol) := fun o => do
  if whole then
    let body ← o.field .body
    if !body.isNull then
      if (← body.extent).contains p then return none
  return hit p (← Symbol.ofMethod o whole)

/-- The property that a node accesses, if the access and the name contain a position. -/
def hitPropertyAccess (q : Query) (p : Position) : Probe (Option Symbol) := fun o => do
  if (← o.field .member).isNull || !o.extent.contains p then return none
  return hit p (← Symbol.ofPropertyAccess q.infer o)

/-- The method that a node calls, if the name of the method contains a position, or else the
type that it is called on, if the type does. -/
def hitMethodCall (q : Query) (p : Position) : Probe (Option Symbol) := fun o => do
  if !o.extent.contains p then return none
  let member ← o.field .member
  if !member.isNull then
    if (← member.extent).contains p then return some (← Symbol.ofMethodCall q.infer o)
  match Datum.nodeOf? .typeExpression (← o.field .expression) with
  | some type => return hit p (← Symbol.ofTypeName type)
  | none => return none

/-- The probes for the symbol at a position. -/
def locateProbes (q : Query) (p : Position) (whole : Bool) : Probes (Option Symbol) :=
  [ (.command, hitCommand p),
    (.functionDefinition, hitOf p fun o => Symbol.ofFunction o whole),
    (.configurationDefinition, hitOf p fun o => Symbol.ofConfiguration o whole),
    (.commandParameter, hitOf p fun o => .ok (Symbol.ofParameter o)),
    (.variableExpression, hitOf p fun o => .ok (Symbol.ofVariable o)),
    (.typeDefinition, hitOf p fun o => Symbol.ofType o whole),
    (.typeExpression, hitOf p Symbol.ofTypeName),
    (.typeConstraint, hitOf p Symbol.ofTypeName),
    (.propertyMember, hitOf p fun o => Symbol.ofProperty o whole),
    (.functionMember, hitMethod p whole),
    (.memberExpression, q.hitPropertyAccess p),
    (.invokeMemberExpression, q.hitMethodCall p) ]

/-- The symbol at a position. -/
def symbolUnder (q : Query) (p : Position) (whole : Bool) : Result (Option Symbol) := do
  requirePosition p
  q.first (q.locateProbes p whole)

/-! ## Commands -/

/-- The column up to which a command reaches: over the blanks behind it, if it ends on the
line on which it starts. -/
def reach (s : Script) (command : Extent String) : Int :=
  if command.stop.line ≠ command.start.line then command.stop.column
  else
    let remaining :=
      Text.dropFrom (s.line command.start.line).toList (command.stop.column - 1)
    command.stop.column + (remaining.takeWhile Text.isBlank).length

/-- The first command among the elements of a pipeline that reaches over a column. -/
def commandOver (s : Script) (column : Int) : List Datum → Result (Option Symbol)
  | [] => .ok none
  | element :: rest =>
    match Datum.nodeOf? .command element with
    | none => commandOver s column rest
    | some command => do
      match ← Symbol.ofCommand command with
      | none => commandOver s column rest
      | some symbol =>
        if command.extent.start.column ≤ column ∧ column ≤ reach s command.extent then
          return some symbol
        else commandOver s column rest

/-- The command of a pipeline that starts on the line of a position and reaches over it. -/
def commandIn (s : Script) (p : Position) : Probe (Option Symbol) := fun o => do
  if o.extent.start.line ≠ p.line then return none
  commandOver s p.column (← (← o.field .elements).items)

/-- The command at a position. -/
def commandUnder (q : Query) (p : Position) : Result (Option Symbol) := do
  requirePosition p
  q.first [(.pipeline, commandIn q.script p)]

end Query

end ScriptNavigation
