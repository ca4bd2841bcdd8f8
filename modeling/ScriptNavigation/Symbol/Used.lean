/-
# Symbols of uses

Commands, parameters passed to commands, variables, type names and accesses to members use
what is declared elsewhere.  The symbol of a use stands where the name is used.  The owner
of a member that is accessed is the type of the receiver, which an inferer guesses where
the syntax does not say it.
-/
import ScriptNavigation.Symbol.Basic
import ScriptNavigation.Symbol.Naming
import ScriptNavigation.Typing.Inference

namespace ScriptNavigation

namespace Symbol

/-! ## Commands and variables -/

/-- The first element of a command, which names it. -/
def commandName (o : Occurrence) : Result Datum := do
  if o.kind ≠ .command then throw (.misused .noSuchPart)
  (← o.field .elements).first

/-- The symbol of a command at its name; a command without elements has none. -/
def ofCommand (o : Occurrence) : Result (Option Symbol) := do
  let name ← commandName o
  if name.isNull then return none
  let extent := wholeExtent (← name.extent)
  return some ⟨.function, extent.text, extent, none⟩

/-- The symbol of a node that is all name: the text that it covers. -/
def ofWholeNode (kind : SymbolKind) (o : Occurrence) : Symbol :=
  ⟨kind, .str o.extent.text, wholeExtent o.extent, none⟩

/-- The symbol of a parameter that is passed to a command. -/
def ofParameter (o : Occurrence) : Symbol := ofWholeNode .parameter o

/-- The symbol of a variable. -/
def ofVariable (o : Occurrence) : Symbol := ofWholeNode .variableName o

/-! ## Type names -/

/-- The symbol of a type name that is used. -/
def ofTypeName (o : Occurrence) : Result Symbol := do
  let name ← o.field .typeName
  return ⟨.classType, name, ← narrowTo o.extent name, none⟩

/-! ## Members -/

/-- The type whose member a node declares or accesses: the receiver of an access says it
literally or by its inferred type; a declaration, and an access to the object itself,
belong to the type definition around them. -/
def owningType (infer : Inferer) (o : Occurrence) : Result Datum := do
  if !o.kind.isMemberAccess then o.surroundingType
  else
    let receiver ← o.field .expression
    if Datum.isNodeOf .typeExpression receiver then
      return (← receiver.field .typeName).orElse wildcardType
    else if receiver.isNull then o.surroundingType
    else if Text.foldCase (← receiver.extent).text = "$this" then o.surroundingType
    else orWildcard (← infer receiver)

/-- The extent of the member that an access names: that of the member itself if there is
one, else that of the whole access. -/
def accessExtent (o : Occurrence) : Result (Extent Datum) := do
  let member ← o.field .member
  if member.isNull then narrowTo o.extent (← o.literalMember)
  else return wholeExtent (← member.extent)

/-- A name, or the text of the member of an access when the name is empty. -/
def orMemberText (o : Occurrence) (name : Datum) : Result Datum := do
  if name.truthy then return name
  let member ← o.field .member
  if member.isNull then return name
  return .str (← member.extent).text

/-- The symbol of the call of a method, or of a constructor under the name of its type. -/
def ofMethodCall (infer : Inferer) (o : Occurrence) : Result Symbol := do
  let isConstructor ← o.createsObject
  let called ←
    if isConstructor then (← o.field .expression).field .typeName else o.literalMember
  let name ← orMemberText o called
  let extent ← accessExtent o
  let owner ← owningType infer o
  let isStatic ← o.field .isStaticAccess
  let parameterTypes ← (← (← o.field .arguments).items).mapM infer
  return {
    kind := if isConstructor then .constructor else .method
    name := name
    extent := extent
    member := some { owner, isStatic, parameterTypes, isConstructor := .bool isConstructor } }

/-- The symbol of the access to a property. -/
def ofPropertyAccess (infer : Inferer) (o : Occurrence) : Result Symbol := do
  let name ← orMemberText o (← o.literalMember)
  let extent ← accessExtent o
  let owner ← owningType infer o
  let isStatic ← o.field .isStaticAccess
  return {
    kind := .property
    name := name
    extent := extent
    member := some { owner, isStatic } }

end Symbol

end ScriptNavigation
