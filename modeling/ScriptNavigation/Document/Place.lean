/-
# Where the nodes of a document are

The object of a node says where the node is: by a `span` of two offsets into the source, or
by an `extent` object that holds a span or the lines and columns of both ends.  An extent
object is checked; a span beside it is not, so its values may be of any type.
-/
import ScriptNavigation.Tree.Datum
import ScriptNavigation.Value.Reader

namespace ScriptNavigation

/-! ## Members of an object -/

/-- The text under a key of an object, if a text stands there. -/
def textUnder? (ms : Members) (key : String) : Option String :=
  (ms.lookup key).bind Value.str?

/-- The whole number under a key of an object, if one stands there. -/
def intUnder? (ms : Members) (key : String) : Option Int :=
  match ms.lookup key with
  | some (.int i) => some i
  | _ => none

/-- The value under a key of an object, `null` when there is none. -/
def valueUnder (ms : Members) (key : String) : Json :=
  (ms.lookup key).getD .null

/-! ## Extents -/

/-- What the extents of all nodes of a document are built from. -/
structure ExtentSource where
  source : Option String
  file : Option String

namespace ExtentSource

/-- The form of an extent object. -/
def form : Form :=
  .record
    [("start_line", .intOrNull), ("start_column", .intOrNull), ("end_line", .intOrNull),
      ("end_column", .intOrNull), ("text", .text), ("span", .intPairOrNull)]
    []

/-- A number as a whole number times a power of two; a truth value counts as a number. -/
def scaled (v : Json) : Result (Int × Int) :=
  match v with
  | .bool b => .ok (if b then 1 else 0, 0)
  | .int i => .ok (i, 0)
  | .float x => .ok x.scaled
  | _ => .error (.misused .wrongType)

/-- Whether the first number is less than the second. -/
def less (a b : Json) : Result Bool := do
  return Binary64.scaledLess (← scaled a) (← scaled b)

/-- The whole number that a value is; a truth value counts as one. -/
def whole (v : Json) : Result Int :=
  match v with
  | .bool b => .ok (if b then 1 else 0)
  | .int i => .ok i
  | _ => .error (.misused .wrongType)

/-- Whether two numbers fail to be a span of offsets into a text of a given length. -/
def isOutside (length : Nat) (start stop : Json) : Result Bool := do
  if ← less start (.int 0) then return true
  if ← less stop start then return true
  less (.int length) stop

/-- The two values of a span. -/
def bounds (span : Json) : Result (Json × Json) := do
  match ← span.items with
  | [start, stop] => return (start, stop)
  | [] => throw (.rejected (.spanTooShort 0))
  | [_] => throw (.rejected (.spanTooShort 1))
  | _ => throw (.rejected .spanTooLong)

/-- The extent of a span of offsets. -/
def ofSpan (c : ExtentSource) (span : Json) : Result (Extent String) := do
  let some source := c.source | throw (.rejected .spanWithoutSource)
  let (start, stop) ← bounds span
  if ← isOutside source.toList.length start stop then
    throw (.rejected (.spanOutside (Json.display start) (Json.display stop) source.toList.length))
  Extent.ofSpan source (← whole start) (← whole stop) c.file

/-- The extent of an extent object with lines and columns; the end defaults to the start. -/
def ofLines (c : ExtentSource) (ms : Members) : Result (Extent String) :=
  match intUnder? ms "start_line", intUnder? ms "start_column" with
  | some line, some column =>
    let stop : Position :=
      ⟨(intUnder? ms "end_line").getD line, (intUnder? ms "end_column").getD column⟩
    Extent.between ⟨line, column⟩ stop ((textUnder? ms "text").getD "") c.file
  | _, _ => .ok Extent.nowhere

/-- The extent of the object of a node: that of its own span, else that of the span in its
extent object, else that of the lines and columns there. -/
def ofNode (c : ExtentSource) (ms : Members) : Result (Extent String) := do
  let spec := (valueUnder ms "extent").orElse (.object [])
  match form.check [] spec with
  | .error m => throw (.unreadable (.mismatch m))
  | .ok () =>
    let inner := match spec with
      | .object inner => inner
      | _ => []
    let span := (valueUnder ms "span").orElse (valueUnder inner "span")
    if span.isNull then c.ofLines inner else c.ofSpan span

end ExtentSource

end ScriptNavigation
