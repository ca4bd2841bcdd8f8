/-
# Forms of JSON documents

A form says which JSON values are accepted at a place of a document.  Checking a value
against a form reports the first place, in document order, that does not fit.

Main facts:

* `check_anything`: every value has the form that accepts anything.
-/
import ScriptNavigation.Value.Basic

namespace ScriptNavigation

/-! ## Forms -/

/-- What is accepted at one place of a document. -/
inductive Form where
  /-- Any value; its texts are read. -/
  | anything
  /-- Any value; it is passed over. -/
  | ignored
  | text
  | textOrNull
  | int
  | intOrNull
  /-- Two whole numbers, or `null`. -/
  | intPairOrNull
  | listOf (item : Form)
  /-- An object with any keys. -/
  | mapOf (value : Form)
  /-- An object with the fields given; other keys are passed over. -/
  | record (fields : List (String × Form)) (required : List String)
  deriving Inhabited

namespace Form

/-- What a form expects, as messages say it. -/
def expectation : Form → String
  | anything | ignored => "any"
  | text => "str"
  | textOrNull => "str | null"
  | int => "int"
  | intOrNull => "int | null"
  | intPairOrNull => "array | null"
  | listOf _ => "array"
  | mapOf _ | record _ _ => "object"

/-- Whether a form accepts values of the JSON type named. -/
def accepts : Form → String → Bool
  | anything, _ | ignored, _ => true
  | text, t => t == "str"
  | textOrNull, t => t == "str" || t == "null"
  | int, t => t == "int"
  | intOrNull, t => t == "int" || t == "null"
  | intPairOrNull, t => t == "array" || t == "null"
  | listOf _, t => t == "array"
  | mapOf _, t | record _ _, t => t == "object"

/-- The form of the items of an array. -/
def item : Form → Form
  | listOf f => f
  | intPairOrNull => int
  | ignored => ignored
  | _ => anything

/-- The number of items that an array must have. -/
def arity? : Form → Option Nat
  | intPairOrNull => some 2
  | _ => none

/-- The form of the member of an object under a key. -/
def member (form : Form) (key : String) : Form :=
  match form with
  | mapOf f => f
  | record fields _ => (fields.lookup key).getD ignored
  | ignored => ignored
  | _ => anything

/-- The fields that an object must have. -/
def required : Form → List String
  | record _ names => names
  | _ => []

end Form

/-! ## Places and mismatches -/

/-- One step from a value to a part of it. -/
inductive PathStep where
  | field (name : String)
  /-- A member of an object with any keys. -/
  | anyKey
  | item (index : Nat)
  deriving DecidableEq, Repr

/-- The way from the top of a document to one of its parts. -/
abbrev JsonPath := List PathStep

/-- The step into the member of an object under a key. -/
def Form.stepTo (form : Form) (key : String) : PathStep :=
  match form with
  | .record _ _ => .field key
  | _ => .anyKey

namespace PathStep

/-- The text of a step. -/
def text : PathStep → String
  | field name => "." ++ name
  | anyKey => "[...]"
  | item index => "[" ++ toString index ++ "]"

end PathStep

/-- The text of a path; the top of the document is written as a dollar sign. -/
def JsonPath.text (path : JsonPath) : String :=
  "$" ++ String.join (path.map PathStep.text)

/-- The first place at which a document does not have its form. -/
inductive Mismatch where
  | wrongType (expected found : String) (path : JsonPath)
  | wrongLength (expected found : Nat) (path : JsonPath)
  | missingField (name : String) (path : JsonPath)
  /-- A number with a fraction or an exponent that lies beyond the doubles. -/
  | numberTooLarge (path : JsonPath)
  /-- A whole number of more digits than are read. -/
  | integerTooLong (path : JsonPath)
  deriving DecidableEq, Repr

namespace Mismatch

/-- Where the mismatch is, at the end of a message; nothing is said of the top. -/
def place (path : JsonPath) : String :=
  if path.isEmpty then "" else " - at `" ++ path.text ++ "`"

/-- The message of a mismatch. -/
def message : Mismatch → String
  | wrongType expected found path =>
    "Expected `" ++ expected ++ "`, got `" ++ found ++ "`" ++ place path
  | wrongLength expected found path =>
    "Expected `array` of length " ++ toString expected ++ ", got " ++ toString found ++ place path
  | missingField name path =>
    "Object missing required field `" ++ name ++ "`" ++ place path
  | numberTooLarge path => "Number out of range" ++ place path
  | integerTooLong path => "Integer value out of range" ++ place path

end Mismatch

/-! ## Checking -/

namespace Form

/-- Whether the type of a value fits, and with it the length of an array. -/
def checkType (form : Form) (path : JsonPath) (v : Json) : Except Mismatch Unit :=
  if !form.accepts v.typeName then
    .error (.wrongType form.expectation v.typeName path)
  else
    match form.arity?, v with
    | some n, .array items =>
      if items.length = n then .ok () else .error (.wrongLength n items.length path)
    | _, _ => .ok ()

/-- Whether an object has the fields that it must have. -/
def checkRequired (form : Form) (path : JsonPath) (ms : Members) : Except Mismatch Unit :=
  match form.required.find? fun name => !ms.hasKey name with
  | some name => .error (.missingField name path)
  | none => .ok ()

mutual

/-- Checks a value against a form; the first mismatch is the answer. -/
def check (form : Form) (path : JsonPath) : Json → Except Mismatch Unit
  | .array items => do
    form.checkType path (.array items)
    checkItems form.item path 0 items
  | .object ms => do
    form.checkType path (.object ms)
    checkMembers form path ms
    form.checkRequired path ms
  | v => form.checkType path v

/-- Checks the items of an array from an index on. -/
def checkItems (form : Form) (path : JsonPath) (index : Nat) : List Json → Except Mismatch Unit
  | [] => .ok ()
  | v :: vs => do
    check form (path ++ [.item index]) v
    checkItems form path (index + 1) vs

/-- Checks the members of an object in the order of its keys. -/
def checkMembers (form : Form) (path : JsonPath) : Members → Except Mismatch Unit
  | [] => .ok ()
  | (key, v) :: ms => do
    check (form.member key) (path ++ [form.stepTo key]) v
    checkMembers form path ms

end

mutual

/-- Every value has the form that accepts anything. -/
theorem check_anything (path : JsonPath) : (v : Json) → check anything path v = .ok ()
  | .null | .bool _ | .int _ | .float _ | .str _ => rfl
  | .array items => by
    simpa [check, checkType, accepts, arity?, item, bind, Except.bind] using
      checkItems_anything path 0 items
  | .object ms => by
    simp [check, checkType, accepts, arity?, checkRequired, required, bind, Except.bind,
      checkMembers_anything path ms]

theorem checkItems_anything (path : JsonPath) (index : Nat) :
    (vs : List Json) → checkItems anything path index vs = .ok ()
  | [] => rfl
  | v :: vs => by
    simp [checkItems, bind, Except.bind, check_anything _ v, checkItems_anything path _ vs]

theorem checkMembers_anything (path : JsonPath) :
    (ms : Members) → checkMembers anything path ms = .ok ()
  | [] => rfl
  | (key, v) :: ms => by
    simp [checkMembers, member, bind, Except.bind, check_anything _ v,
      checkMembers_anything path ms]

end

end Form

end ScriptNavigation
