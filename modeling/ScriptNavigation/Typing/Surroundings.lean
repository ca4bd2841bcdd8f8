/-
# What the syntax around a node says

A member belongs to the innermost type definition around it.  An access says literally
which member it means, or computes it.  A function has the parameters in its brackets and
those of the parameter block of its body.
-/
import ScriptNavigation.Typing.Wildcard

namespace ScriptNavigation

namespace Occurrence

/-- The name of the innermost type definition around a node, and the empty text when there
is none. -/
def surroundingTypeName (o : Occurrence) : Result Datum :=
  match o.ancestors.find? fun a => a.kind == .typeDefinition with
  | some definition => definition.field .name
  | none => .ok (.str "")

/-- The type that a node belongs to by its place. -/
def surroundingType (o : Occurrence) : Result Datum := do
  return (← o.surroundingTypeName).orElse wildcardType

/-- The name of the member that an access names literally, and the empty text when the
member is computed. -/
def literalMember (o : Occurrence) : Result Datum := do
  if o.kind.isMemberAccess then
    match Datum.nodeOf? .stringConstant (← o.field .member) with
    | some constant => constant.field .value
    | none => return .str ""
  else throw (.misused .noSuchPart)

/-- Whether a call of a member creates an object: `[Type]::new(…)`. -/
def createsObject (o : Occurrence) : Result Bool := do
  if o.kind = .invokeMemberExpression then
    if Datum.isNodeOf .typeExpression (← o.field .expression) then
      return (← (← o.literalMember).folded) == "new"
    else return false
  else throw (.misused .noSuchPart)

/-- The parameters of a function or method: those in its brackets and those of the
parameter block of its body. -/
def declaredParameters (o : Occurrence) : Result (List Datum) := do
  let own ← (← o.field .parameters).items
  let block := match ← o.field .body with
    | .node body => (body.field? .paramBlock).getD .null
    | _ => .null
  if block.isNull then return own
  return own ++ (← (← block.field .parameters).items)

end Occurrence

end ScriptNavigation
