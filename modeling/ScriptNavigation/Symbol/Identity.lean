/-
# When two symbols are the same

Two symbols are matched when they denote the same thing in a script, wherever they stand.
Names are compared up to case.  Functions may also be matched through an alias table, and
variables without their sigils and braces.  Members are compared by whether they are
static, by the number of parameters and by their owner, where a wildcard type matches any
owner.

Main facts:

* `stripVariable_dollar`: a variable name is the same with the sigil in front of it.
-/
import ScriptNavigation.Alias.Table
import ScriptNavigation.Symbol.Basic
import ScriptNavigation.Typing.Wildcard

namespace ScriptNavigation

/-! ## Names -/

/-- Whether two names are equal up to case; a name that is `null` equals none. -/
def sameName (a b : Datum) : Result Bool := do
  if a.isNull || b.isNull then return false
  return (← a.folded) == (← b.folded)

/-- Whether a character may stand in front of the name of a variable. -/
def isSigil (c : Char) : Bool := c == '$' || c == '@'

/-- Whether a character may enclose the name of a variable. -/
def isBrace (c : Char) : Bool := c == '\x7b' || c == '\x7d'

/-- The name of a variable without the sigils in front of it and the braces around it. -/
def stripVariable (name : List Char) : List Char :=
  let inner := (name.dropWhile isSigil).dropWhile isBrace
  (inner.reverse.dropWhile isBrace).reverse

/-- The name of a variable without its sigils and braces, for a name that is a text. -/
def variableBase (name : Datum) : Result Datum :=
  name.asName.map fun s => .str (String.ofList (stripVariable s.toList))

/-- Whether two owners may be the same type. -/
def compatibleOwners (a b : Datum) : Result Bool := do
  if ← isWildcard a then return true
  if ← isWildcard b then return true
  sameName a b

/-- Whether two names are related by an alias table: one is an alias of the other, or both
stand for the same command. -/
def relatedByAlias (table : AliasTable) (reference candidate : String) : Bool :=
  let candidateCommand := table.commandOf candidate
  table.hasAlias candidate reference
    || Text.sameFolded candidateCommand reference
    || (candidateCommand != "" && Text.sameFolded candidateCommand (table.commandOf reference))

/-- Whether two names may denote the same function. -/
def sameFunction (table : Option AliasTable) (reference candidate : Datum) : Result Bool := do
  if ← sameName reference candidate then return true
  match table with
  | none => return false
  | some t =>
    let candidateName ← candidate.asName
    return relatedByAlias t (← reference.asName) candidateName

/-! ## Members -/

/-- Whether two members are static alike. -/
def sameStatic (a b : Member) : Bool := Datum.same a.isStatic b.isStatic

/-- Whether two methods or constructors may be the same. -/
def sameMethod (reference candidate : Symbol) : Result Bool := do
  match reference.member, candidate.member with
  | some a, some b =>
    if a.isConstructor.truthy || b.isConstructor.truthy then
      if a.isConstructor.truthy && b.isConstructor.truthy && a.arity == b.arity then
        sameName reference.name b.owner
      else return false
    else if !sameStatic a b then return false
    else if !(← sameName reference.name candidate.name) then return false
    else if a.arity != b.arity then return false
    else compatibleOwners a.owner b.owner
  | _, _ => return false

/-- Whether two properties may be the same. -/
def sameProperty (reference candidate : Symbol) : Result Bool := do
  match reference.member, candidate.member with
  | some a, some b =>
    if !sameStatic a b then return false
    else if !(← sameName reference.name candidate.name) then return false
    else compatibleOwners a.owner b.owner
  | _, _ => return false

/-! ## Symbols -/

/-- Whether a candidate denotes the same thing as the symbol referred to. -/
def denotesSame (table : Option AliasTable) (reference candidate : Symbol) : Result Bool := do
  if reference.kind.family ≠ candidate.kind.family then return false
  match reference.kind.family with
  | .function => sameFunction table reference.name candidate.name
  | .variableName => sameName (← variableBase reference.name) (← variableBase candidate.name)
  | .method => sameMethod reference candidate
  | .property => sameProperty reference candidate
  | .unknown => return false
  | _ => sameName reference.name candidate.name

/-! ## Laws -/

/-- A variable name is the same with the sigil in front of it. -/
theorem stripVariable_dollar (name : List Char) :
    stripVariable ('$' :: name) = stripVariable name := by
  simp [stripVariable, isSigil]

end ScriptNavigation
