/-
# Symbols of declarations

Functions, configurations, types, methods, properties and the literal keys of hashtables
are declared.  The symbol of a declaration stands at the name, or over the whole extent
where that is asked for; that of a key reaches to the end of the value.
-/
import ScriptNavigation.Symbol.Basic
import ScriptNavigation.Symbol.Naming
import ScriptNavigation.Typing.Surroundings

namespace ScriptNavigation

namespace Symbol

/-! ## Functions, configurations and types -/

/-- The symbol of the definition of a function or workflow. -/
def ofFunction (o : Occurrence) (whole : Bool) : Result Symbol := do
  let workflow ← o.field .isWorkflow
  let name ← o.field .name
  let extent ← declarationExtent o whole name
  return ⟨if workflow.truthy then .workflow else .function, name, extent, none⟩

/-- The symbol of the definition of a configuration. -/
def ofConfiguration (o : Occurrence) (whole : Bool) : Result Symbol := do
  let name ← o.field .name
  return ⟨.configuration, name, ← declarationExtent o whole name, none⟩

/-- The symbol of the definition of a type. -/
def ofType (o : Occurrence) (whole : Bool) : Result Symbol := do
  let name ← o.field .name
  return ⟨.classType, name, ← declarationExtent o whole name, none⟩

/-! ## Members -/

/-- The type that a declared parameter has by its constraint. -/
def parameterTypeName (p : Datum) : Result Datum := do
  match Datum.nodeOf? .parameter p with
  | none => throw (.misused .noSuchPart)
  | some parameter =>
    let constraint ← parameter.field .typeConstraint
    if constraint.isNull then return .str "Object"
    return (← constraint.field .typeName).orElse (.str "Object")

/-- The type name of a constraint, and a default when there is no constraint. -/
def constraintName (constraint : Datum) (default : String) : Result Datum :=
  if constraint.isNull then .ok (.str default) else constraint.field .typeName

/-- The symbol of the declaration of a method or constructor. -/
def ofMethod (o : Occurrence) (whole : Bool) : Result Symbol := do
  let name ← o.field .name
  let extent ← declarationExtent o whole name
  let isConstructor ← o.field .isConstructor
  let owner ← o.surroundingType
  let isStatic ← o.field .isStatic
  let parameterTypes ← (← (← o.field .parameters).items).mapM parameterTypeName
  let returnType ← constraintName (← o.field .returnType) ""
  return {
    kind := if isConstructor.truthy then .constructor else .method
    name := name
    extent := extent
    member := some { owner, isStatic, parameterTypes, returnType, isConstructor } }

/-- The extent of the name in the declaration of a property, after its sigil if the name
occurs with one. -/
def propertyNameExtent (o : Occurrence) (name : Datum) : Result (Extent Datum) :=
  match o.extent.findAfterSigil? name.display with
  | some e => .ok (e.withText name)
  | none => narrowTo o.extent name

/-- The symbol of the declaration of a property. -/
def ofProperty (o : Occurrence) (whole : Bool) : Result Symbol := do
  let name ← o.field .name
  let extent ← if whole then pure (wholeExtent o.extent) else propertyNameExtent o name
  let owner ← o.surroundingType
  let isStatic ← o.field .isStatic
  let returnType ← constraintName (← o.field .propertyType) "object"
  return {
    kind := .property
    name := name
    extent := extent
    member := some { owner, isStatic, returnType } }

/-! ## Keys of hashtables -/

/-- The symbol of a pair of a hashtable with a literal key, from the key to the end of the
value; a pair whose key is computed has none. -/
def ofPair (pair : Datum) : Result (Option Symbol) := do
  match ← pair.items with
  | [key, value] =>
    match Datum.nodeOf? .stringConstant key with
    | none => return none
    | some constant =>
      let last ← if value.isNull then pure constant.extent else Datum.extent value
      let name ← constant.field .value
      let extent ←
        Extent.between constant.extent.start last.stop name constant.extent.file
      return some ⟨.hashtableKey, name, extent, none⟩
  | _ => return none

/-- The pairs of a hashtable. -/
def pairsOf (o : Occurrence) : Result (List Datum) := do
  (← o.field .pairs).items

/-- The symbols of the literal keys of a hashtable. -/
def ofHashtable (o : Occurrence) : Result (List Symbol) := do
  return (← (← pairsOf o).mapM ofPair).filterMap id

end Symbol

end ScriptNavigation
