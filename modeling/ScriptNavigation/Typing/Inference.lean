/-
# Guessing types

The type of an expression is guessed from the syntax around it: from a literal, from a
conversion, from the declared type of a parameter, from the last assignment before a use,
or from the declaration of the member that is accessed.  Whatever cannot be guessed has
the wildcard type.

An inference follows assignments, brackets and receivers, and it may run in circles, so it
has a budget of steps and answers with the wildcard when that is used up.

Main facts:

* `inferWithin_zero`: without a budget every type is the wildcard.
-/
import ScriptNavigation.Tree.Script
import ScriptNavigation.Typing.Surroundings

namespace ScriptNavigation

/-- A way to guess the type of a value in a field. -/
abbrev Inferer := Datum → Result Datum

/-! ## Variables -/

/-- The type of the parameter of a given folded name, if one of the parameters has it. -/
def parameterType? (name : String) : List Datum → Result (Option Datum)
  | [] => .ok none
  | p :: ps => do
    let declared ← p.field .name
    if declared.isNull then parameterType? name ps
    else if (← (← declared.field .name).folded) == name then
      let constraint ← p.field .typeConstraint
      if constraint.isNull then return some wildcardType
      return some (← constraint.field .typeName)
    else parameterType? name ps

/-- The expression on the left of an assignment that is assigned to, below a conversion
if there is one. -/
def assignedExpression (left : Datum) : Result Datum :=
  if Datum.isNodeOf .convertExpression left then left.field .child else .ok left

/-- The assignment that decides the type of a variable, among the assignments of the
script in order: the one that the variable is the target of, or else the last one to the
same name that starts before the variable and is not around it. -/
def decidingAssignment? (o : Occurrence) (name : String) :
    List Occurrence → Option Occurrence → Result (Option Occurrence)
  | [], latest => .ok latest
  | a :: rest, latest => do
    let left ← a.field .left
    let target ← assignedExpression left
    match Datum.nodeOf? .variableExpression target with
    | none => decidingAssignment? o name rest latest
    | some assigned =>
      if (← (← assigned.field .name).folded) != name then
        decidingAssignment? o name rest latest
      else if assigned.index = o.index then return some a
      else if o.ancestors.any fun b => b.index == a.index then
        decidingAssignment? o name rest latest
      else if o.extent.start ≤ (← left.extent).start then return latest
      else decidingAssignment? o name rest (some a)

/-- The type that an assignment gives to its variable: that of its conversion, or else
that of its right side as inferred by `infer`. -/
def assignedType (infer : Inferer) (a : Occurrence) : Result Datum := do
  let left ← a.field .left
  if Datum.isNodeOf .convertExpression left then
    let constraint ← left.field .typeConstraint
    if constraint.isNull then return wildcardType
    constraint.field .typeName
  else infer (← a.field .right)

/-! ## Members -/

/-- Whether a declaration declares a member of a given owner and folded name, as a method
or as a property; the type it declares is the answer. -/
def declaredMemberType? (access : Occurrence) (owner name : String) (member : Occurrence) :
    Result (Option Datum) := do
  if (← (← member.surroundingTypeName).folded) != owner then return none
  if access.kind = .invokeMemberExpression then
    if member.kind != .functionMember then return none
    if (← (← member.field .name).folded) != name then return none
    if (← (← member.field .parameters).length) != (← (← access.field .arguments).length) then
      return none
    let type ← member.field .returnType
    if type.isNull then return none
    return some (← type.field .typeName)
  else
    if member.kind != .propertyMember then return none
    if (← (← member.field .name).folded) != name then return none
    let type ← member.field .propertyType
    if type.isNull then return none
    return some (← type.field .typeName)

/-- The first answer that a list of questions has. -/
def firstAnswer {α β : Type} (ask : α → Result (Option β)) : List α → Result (Option β)
  | [] => .ok none
  | a :: rest => do
    match ← ask a with
    | some b => return some b
    | none => firstAnswer ask rest

/-! ## Evidence -/

/-- What the types of a script are guessed from: its assignments and its declarations of
methods and properties, both in order. -/
structure Evidence where
  assignments : List Occurrence
  members : List Occurrence

/-- The evidence that a script holds. -/
def Script.evidence (s : Script) : Evidence where
  assignments := s.nodes.filter fun o => o.kind == .assignment
  members := s.nodes.filter fun o => o.kind == .functionMember || o.kind == .propertyMember

namespace Evidence

/-- The type of a variable; types of assigned expressions are inferred by `infer`. -/
def variableType (e : Evidence) (infer : Inferer) (o : Occurrence) : Result Datum := do
  let name ← (← o.field .name).folded
  if name == "this" then return ← o.surroundingType
  if let some callable := o.ancestors.find? fun a => a.kind.isCallable then
    if let some type ← parameterType? name (← callable.declaredParameters) then return type
  match ← decidingAssignment? o name e.assignments none with
  | none => return wildcardType
  | some a => assignedType infer a

/-- The type of a member access; the type of the receiver is inferred by `infer`. -/
def memberType (e : Evidence) (infer : Inferer) (o : Occurrence) : Result Datum := do
  let receiver ← o.field .expression
  let owner ←
    if Datum.isNodeOf .typeExpression receiver then receiver.field .typeName else infer receiver
  if ← isWildcard owner then return wildcardType
  let name ← (← o.literalMember).folded
  let ownerName ← owner.folded
  return (← firstAnswer (declaredMemberType? o ownerName name) e.members).getD wildcardType

/-! ## Expressions -/

/-- The type of a node; the types of its parts are inferred by `infer`. -/
def nodeType (e : Evidence) (infer : Inferer) (o : Occurrence) : Result Datum := do
  match o.kind with
  | .invokeMemberExpression =>
    if ← o.createsObject then (← o.field .expression).field .typeName
    else e.memberType infer o
  | .memberExpression => e.memberType infer o
  | .convertExpression =>
    let constraint ← o.field .typeConstraint
    if constraint.isNull then return wildcardType
    constraint.field .typeName
  | .stringConstant | .expandableString => return .str "string"
  | .constant => o.field .staticType
  | .hashtable => return .str "hashtable"
  | .arrayLiteral => return .str "object[]"
  | .scriptBlockExpression => return .str "scriptblock"
  | .typeExpression => return .str "type"
  | .variableExpression => e.variableType infer o
  | .parenExpression => infer (← o.field .pipeline)
  | .pipeline =>
    let elements ← o.field .elements
    if (← elements.length) = 1 then infer (← elements.first) else return wildcardType
  | .commandExpression => infer (← o.field .expression)
  | _ => return wildcardType

/-- The type of a value within a budget of steps; only nodes have a type. -/
def inferWithin (e : Evidence) : (budget : Nat) → Inferer
  | 0, _ => .ok wildcardType
  | budget + 1, d =>
    match d with
    | .node o => e.nodeType (e.inferWithin budget) o
    | _ => .ok wildcardType

/-- The number of steps that an inference may take. -/
def budget : Nat := 9

/-- Without a budget every type is the wildcard. -/
@[simp] theorem inferWithin_zero (e : Evidence) (d : Datum) :
    e.inferWithin 0 d = .ok wildcardType := rfl

end Evidence

namespace Inferer

/-- Guesses nothing: every type is the wildcard. -/
def wildcard : Inferer := fun _ => .ok wildcardType

/-- Guesses types from the syntax of a script. -/
def syntactic (e : Evidence) : Inferer := fun d => do
  orWildcard (← e.inferWithin Evidence.budget d)

end Inferer

end ScriptNavigation
