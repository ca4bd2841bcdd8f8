/-
# Failures

Everything that can go wrong, by cause.  A document may be unreadable, a request or a
part of a document may be rejected with an explanation, and a loosely typed value may be
used as something that it is not.
-/
import ScriptNavigation.Value.Form
import ScriptNavigation.Place.Position

namespace ScriptNavigation

/-! ## Unreadable documents -/

/-- What is wrong with a text that is no JSON. -/
inductive Malformation where
  | character
  | number
  | escape
  | unicodeEscape
  | surrogatePair
  | keyNotText
  | colonMissing
  | memberSeparator
  | itemSeparator
  | memberMissing
  | itemMissing
  | trailingCharacters
  deriving DecidableEq, Repr

namespace Malformation

/-- The wording of a malformation. -/
def message : Malformation → String
  | character => "invalid character"
  | number => "invalid number"
  | escape => "invalid escape character in string"
  | unicodeEscape => "invalid character in unicode escape"
  | surrogatePair => "invalid utf-16 surrogate pair"
  | keyNotText => "object keys must be strings"
  | colonMissing => "expected ':'"
  | memberSeparator => "expected ',' or '\x7d'"
  | itemSeparator => "expected ',' or ']'"
  | memberMissing => "trailing comma in object"
  | itemMissing => "trailing comma in array"
  | trailingCharacters => "trailing characters"

end Malformation

/-- Why a document cannot be read. -/
inductive ReadFailure where
  /-- The text ends inside a value. -/
  | truncated
  /-- The text is no JSON, seen at a byte offset. -/
  | malformed (what : Malformation) (offset : Nat)
  /-- A text inside the document is no valid UTF-8. -/
  | invalidText
  /-- The document does not have its form. -/
  | mismatch (what : Mismatch)
  /-- The document is nested deeper than there is room for. -/
  | tooDeep
  deriving DecidableEq, Repr

namespace ReadFailure

/-- The message of a read failure. -/
def message : ReadFailure → String
  | truncated => "Input data was truncated"
  | malformed what offset =>
    "JSON is malformed: " ++ what.message ++ " (byte " ++ toString offset ++ ")"
  | invalidText => "invalid UTF-8 in a string"
  | mismatch what => what.message
  | tooDeep => "The document is nested too deep"

end ReadFailure

/-! ## Rejected requests -/

/-- What a request lacks. -/
inductive Missing where
  | rootNode
  | queryScript
  | dataFileScript
  | walkRoot
  | declarationSymbol
  | referencesSymbol
  | detailsSymbol
  deriving DecidableEq, Repr

namespace Missing

/-- The message for a thing that is missing. -/
def message : Missing → String
  | rootNode => "A syntax tree requires a root node"
  | queryScript => "A query requires a parsed script tree"
  | dataFileScript => "A parsed script tree is required"
  | walkRoot => "Cannot walk a missing tree"
  | declarationSymbol => "A symbol is required to find its declaration"
  | referencesSymbol => "A symbol is required to find its references"
  | detailsSymbol => "A symbol is required to build its details"

end Missing

/-- A request, or a part of a document, that is refused with an explanation. -/
inductive Rejection where
  /-- An extent that ends before it starts. -/
  | extentReversed (start stop : Position)
  /-- A span of offsets, as written, that does not lie in its source. -/
  | spanOutside (start stop : String) (length : Nat)
  /-- A span of offsets in a tree without source text. -/
  | spanWithoutSource
  /-- A span of fewer than two offsets. -/
  | spanTooShort (found : Nat)
  /-- A span of more than two offsets. -/
  | spanTooLong
  /-- A position before the first line or column. -/
  | positionOutside (line column : Int)
  | missing (what : Missing)
  /-- A value, as written, that names no kind of nodes. -/
  | unknownNodeKind (written : String)
  /-- A value, as written, that names no kind of symbols. -/
  | unknownSymbolKind (written : String)
  /-- A number, where one is needed, of which no digit is given. -/
  | numberWithoutDigits
  deriving DecidableEq, Repr

namespace Rejection

/-- The explanation of a rejection. -/
def message : Rejection → String
  | extentReversed start stop =>
    s!"Extent start {start.line}:{start.column} is after end {stop.line}:{stop.column}"
  | spanOutside start stop length =>
    s!"Invalid span [{start}, {stop}] for source of length {length}"
  | spanWithoutSource => "Node uses 'span' but the tree has no 'source' text"
  | spanTooShort found => s!"not enough values to unpack (expected 2, got {found})"
  | spanTooLong => "too many values to unpack (expected 2)"
  | positionOutside line column =>
    s!"Positions are 1-based, got line {line}, column {column}"
  | missing what => what.message
  | unknownNodeKind written => written ++ " is not a valid NodeKind"
  | unknownSymbolKind written => written ++ " is not a valid SymbolKind"
  | numberWithoutDigits => "invalid literal for int() with base 10: ''"

end Rejection

/-! ## Misused values -/

/-- How a loosely typed value was used as something that it is not. -/
inductive Misuse where
  /-- An operation met a value of a type that does not have it. -/
  | wrongType
  /-- A part was asked of a value that has no such part. -/
  | noSuchPart
  /-- An entry was asked of an object that has no such key. -/
  | noSuchKey
  deriving DecidableEq, Repr

namespace Misuse

/-- The message of a misuse. -/
def message : Misuse → String
  | wrongType => "A value in the document has the wrong type"
  | noSuchPart => "A value in the document lacks a part that is needed"
  | noSuchKey => "An object in the document lacks a key that is needed"

end Misuse

/-! ## All failures -/

/-- Why a request has no answer. -/
inductive Failure where
  | unreadable (why : ReadFailure)
  | rejected (why : Rejection)
  | misused (how : Misuse)
  /-- The walk over a tree was cancelled after some visits. -/
  | cancelled (visited : Nat)
  | fileNotFound
  | isDirectory
  /-- A closing tag of the console markup closes nothing. -/
  | unbalancedMarkup
  deriving DecidableEq, Repr

namespace Failure

/-- The message of a failure. -/
def message : Failure → String
  | unreadable why => why.message
  | rejected why => why.message
  | misused how => how.message
  | cancelled visited => s!"Query cancelled after visiting {visited} nodes"
  | fileNotFound => "The file does not exist"
  | isDirectory => "The path is a directory"
  | unbalancedMarkup => "A closing tag has nothing to close"

end Failure

/-- The result of a computation that may fail. -/
abbrev Result := Except Failure

end ScriptNavigation
