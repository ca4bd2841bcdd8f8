/-
# Reading JSON documents

A document is read from its bytes and checked against a form on the way, so the first
problem met is the one reported.  An array or an object that does not fit its form counts
at its opening bracket, even when the text is malformed further on; a constant, a number or
a string is read to its end before its type is looked at.  What stands under a key that no
form asks for is passed over: its brackets, quotes and escapes have to be right, and nothing
else about it matters.  Where the room for nesting is limited, an opening bracket for which
there is none left is a problem, too, whether its value is passed over or not.

A reader takes the bytes that are left and returns a value with the bytes left after it.
A problem is reported with the number of bytes left where it was seen; the offset follows
from it at the end.
-/
import ScriptNavigation.Failure

namespace ScriptNavigation

namespace Json

/-- The bytes of a document that have not been read yet. -/
abbrev Bytes := List UInt8

/-- A problem with the number of bytes left where it was seen. -/
inductive Problem where
  | truncated
  | malformed (what : Malformation) (left : Nat)
  | invalidText
  | mismatch (what : Mismatch)
  | tooDeep

/-- The result of a reader that may meet a problem. -/
abbrev Reading := Except Problem

/-! ## Bytes -/

/-- The byte of a seven-bit character. -/
def byte (c : Char) : UInt8 := c.toNat.toUInt8

/-- Whether a byte separates tokens. -/
def isSpace (b : UInt8) : Bool :=
  b == 0x20 || b == 0x09 || b == 0x0A || b == 0x0D

/-- Whether a byte is a decimal digit. -/
def isDigit (b : UInt8) : Bool :=
  0x30 ≤ b && b ≤ 0x39

/-- The value of a hexadecimal digit. -/
def hexValue? (b : UInt8) : Option Nat :=
  if isDigit b then some (b.toNat - 0x30)
  else if 0x61 ≤ b && b ≤ 0x66 then some (b.toNat - 0x61 + 10)
  else if 0x41 ≤ b && b ≤ 0x46 then some (b.toNat - 0x41 + 10)
  else none

/-- The bytes left after the separators in front of a token. -/
def skipSpaces (s : Bytes) : Bytes :=
  s.dropWhile isSpace

/-- The number that a list of decimal digits is. -/
def digitsValue (ds : Bytes) : Nat :=
  ds.foldl (fun n d => 10 * n + (d.toNat - 0x30)) 0

/-- The text of some bytes of a document. -/
def textOf (bs : Bytes) : Reading String :=
  match String.fromUTF8? ⟨bs.toArray⟩ with
  | some s => .ok s
  | none => .error .invalidText

/-! ## Words and numbers -/

/-- Reads the rest of a constant, whose first byte has been seen. -/
def readWord (word : String) (v : Json) (s : Bytes) : Reading (Json × Bytes) :=
  let expected := word.toList.map byte
  if expected.isPrefixOf s then .ok (v, s.drop expected.length)
  else if s.length < expected.length then .error .truncated
  else .error (.malformed .character s.length)

/-- Reads one or more decimal digits. -/
def readDigits (s : Bytes) : Reading (Bytes × Bytes) :=
  let ds := s.takeWhile isDigit
  if ds.isEmpty then .error (.malformed .number s.length)
  else .ok (ds, s.dropWhile isDigit)

/-- Reads the fraction of a number, if there is one. -/
def readFraction (s : Bytes) : Reading (Option Bytes × Bytes) :=
  match s with
  | b :: rest => if b == byte '.' then (readDigits rest).map fun r => (some r.1, r.2)
    else .ok (none, s)
  | [] => .ok (none, s)

/-- Reads the exponent of a number, if there is one. -/
def readExponent (s : Bytes) : Reading (Option Int × Bytes) :=
  match s with
  | b :: rest =>
    if b == byte 'e' || b == byte 'E' then
      match rest with
      | sign :: rest' =>
        if sign == byte '-' then
          (readDigits rest').map fun r => (some (-(digitsValue r.1 : Int)), r.2)
        else if sign == byte '+' then
          (readDigits rest').map fun r => (some (digitsValue r.1 : Int), r.2)
        else (readDigits rest).map fun r => (some (digitsValue r.1 : Int), r.2)
      | [] => .error (.malformed .number s.length)
    else .ok (none, s)
  | [] => .ok (none, s)

/-- A number as it is written: the digits before the point, those after it if there is one,
and the power of ten if one is given. -/
structure Numeral where
  negative : Bool
  whole : Bytes
  fraction : Option Bytes
  power : Option Int

namespace Numeral

/-- The longest run of digits that is read as a whole number. -/
def maxDigits : Nat := 4300

/-- The value of a number: a whole number without a fraction and an exponent, and a double
with either. -/
def value (n : Numeral) (path : JsonPath) : Except Mismatch Json :=
  match n.fraction, n.power with
  | none, none =>
    if maxDigits < n.whole.length then .error (.integerTooLong path)
    else
      let i : Int := digitsValue n.whole
      .ok (.int (if n.negative then -i else i))
  | _, _ =>
    let places := n.fraction.getD []
    let scale := n.power.getD 0 - places.length
    match Binary64.ofDecimal? n.negative (digitsValue (n.whole ++ places)) scale with
    | some x => .ok (.float x)
    | none => .error (.numberTooLarge path)

end Numeral

/-- Reads a number. -/
def readNumeral (s : Bytes) : Reading (Numeral × Bytes) := do
  let negative := s.head? == some (byte '-')
  let (whole, s₁) ← readDigits (if negative then s.drop 1 else s)
  if whole.length ≠ 1 && whole.head? == some (byte '0') then
    throw (.malformed .number s.length)
  let (fraction, s₂) ← readFraction s₁
  let (power, s₃) ← readExponent s₂
  return (⟨negative, whole, fraction, power⟩, s₃)

/-! ## Strings -/

/-- Reads the four hexadecimal digits of a code unit. -/
def readUnit (s : Bytes) : Reading (Nat × Bytes) :=
  match s with
  | a :: b :: c :: d :: rest =>
    match hexValue? a, hexValue? b, hexValue? c, hexValue? d with
    | some a, some b, some c, some d => .ok (((a * 16 + b) * 16 + c) * 16 + d, rest)
    | _, _, _, _ => .error (.malformed .unicodeEscape s.length)
  | _ => .error .truncated

/-- The bytes of a character. -/
def bytesOf (code : Nat) : Bytes :=
  (String.singleton (Char.ofNat code)).toUTF8.toList

/-- Reads the code point after the start of a Unicode escape: one unit, or a pair of
surrogates. -/
def readEscapedPoint (s : Bytes) : Reading (Bytes × Bytes) := do
  let (unit, rest) ← readUnit s
  if 0xD800 ≤ unit ∧ unit < 0xDC00 then
    match rest with
    | b :: u :: rest' =>
      if b == byte '\\' && u == byte 'u' then
        let (low, rest'') ← readUnit rest'
        if 0xDC00 ≤ low ∧ low < 0xE000 then
          return (bytesOf (0x10000 + (unit - 0xD800) * 0x400 + (low - 0xDC00)), rest'')
        else throw (.malformed .surrogatePair rest'.length)
      else throw (.malformed .surrogatePair rest.length)
    | _ => throw .truncated
  else if 0xDC00 ≤ unit ∧ unit < 0xE000 then
    throw (.malformed .surrogatePair s.length)
  else return (bytesOf unit, rest)

/-- The byte that a one-letter escape stands for. -/
def escapedByte? (b : UInt8) : Option UInt8 :=
  if b == byte '"' || b == byte '\\' || b == byte '/' then some b
  else if b == byte 'b' then some 0x08
  else if b == byte 'f' then some 0x0C
  else if b == byte 'n' then some 0x0A
  else if b == byte 'r' then some 0x0D
  else if b == byte 't' then some 0x09
  else none

/-- Reads the bytes of a string up to its closing quote.  The fuel bounds the number of
characters. -/
def readQuoted : (fuel : Nat) → (read : Bytes) → Bytes → Reading (Bytes × Bytes)
  | 0, _, _ => .error .truncated
  | _, _, [] => .error .truncated
  | fuel + 1, read, b :: s =>
    if b == byte '"' then .ok (read.reverse, s)
    else if b == byte '\\' then
      match s with
      | [] => .error .truncated
      | e :: s' =>
        if e == byte 'u' then
          match readEscapedPoint s' with
          | .ok (bs, s'') => readQuoted fuel (bs.reverse ++ read) s''
          | .error p => .error p
        else
          match escapedByte? e with
          | some c => readQuoted fuel (c :: read) s'
          | none => .error (.malformed .escape s.length)
    else if b < 0x20 then .error (.malformed .character (s.length + 1))
    else readQuoted fuel (b :: read) s

/-! ## Values -/

/-- Whether values read under a form are passed over. -/
def isIgnored : Form → Bool
  | .ignored => true
  | _ => false

/-- Whether the keys of objects read under a form are compared with field names only. -/
def ignoresKeys : Form → Bool
  | .ignored => true
  | .record _ _ => true
  | _ => false

/-- The key of a member that has been read as bytes. -/
def keyOf (form : Form) (bs : Bytes) : Reading String :=
  match textOf bs with
  | .ok s => .ok s
  | .error p => if ignoresKeys form then .ok "" else .error p

/-- Refuses a value whose type does not fit. -/
def refuse (form : Form) (typeName : String) (path : JsonPath) : Reading Unit :=
  if form.accepts typeName then .ok ()
  else .error (.mismatch (.wrongType form.expectation typeName path))

/-- A value that has been read, if its type fits. -/
def fitting (form : Form) (path : JsonPath) (r : Json × Bytes) : Reading (Json × Bytes) := do
  refuse form r.1.typeName path
  return r

/-- Turns a mismatch into a problem. -/
def ofCheck {α : Type} : Except Mismatch α → Reading α
  | .ok a => .ok a
  | .error m => .error (.mismatch m)

/-- Reads a string of a given form after its opening quote.  Its bytes are looked at as a text
only when a text fits. -/
def readText (form : Form) (path : JsonPath) (s : Bytes) : Reading (Json × Bytes) := do
  let (bs, rest) ← readQuoted (s.length + 1) [] s
  refuse form "str" path
  let text ← if isIgnored form then pure "" else textOf bs
  return (.str text, rest)

/-- Whether a byte may start a number. -/
def startsNumber (b : UInt8) : Bool :=
  isDigit b || b == byte '-'

/-- Reads a number of a given form.  That a number cannot be held counts before its type. -/
def readNumber (form : Form) (path : JsonPath) (s : Bytes) : Reading (Json × Bytes) := do
  let (n, rest) ← readNumeral s
  if isIgnored form then return (.null, rest)
  fitting form path (← ofCheck (n.value path), rest)

/-- The room inside an array or an object: one level less than around it.  If no number of
levels is given, there is always room. -/
def roomInside : (room : Option Nat) → Reading (Option Nat)
  | none => .ok none
  | some 0 => .error .tooDeep
  | some (rest + 1) => .ok (some rest)

mutual

/-- Reads a value of a given form.  The fuel bounds the number of tokens. -/
def readValue : (fuel : Nat) → (room : Option Nat) → Form → JsonPath → Bytes →
    Reading (Json × Bytes)
  | 0, _, _, _, _ => .error .truncated
  | fuel + 1, room, form, path, s =>
    match skipSpaces s with
    | [] => .error .truncated
    | b :: rest =>
      if b == byte 'n' then readWord "ull" .null rest >>= fitting form path
      else if b == byte 't' then readWord "rue" (.bool true) rest >>= fitting form path
      else if b == byte 'f' then readWord "alse" (.bool false) rest >>= fitting form path
      else if b == byte '"' then readText form path rest
      else if b == byte '[' then do
        refuse form "array" path
        let inside ← roomInside room
        let (items, s') ← readItems fuel inside form.item path 0 [] rest
        ofCheck (form.checkType path (.array items))
        return (.array items, s')
      else if b == byte '\x7b' then do
        refuse form "object" path
        let inside ← roomInside room
        let (members, s') ← readMembers fuel inside form path [] rest
        ofCheck (form.checkRequired path members)
        return (.object members, s')
      else if startsNumber b then readNumber form path (b :: rest)
      else .error (.malformed .character (rest.length + 1))

/-- Reads the items of an array up to its closing bracket, from an index on. -/
def readItems : (fuel : Nat) → (room : Option Nat) → Form → JsonPath → (index : Nat) →
    (read : List Json) → Bytes → Reading (List Json × Bytes)
  | 0, _, _, _, _, _, _ => .error .truncated
  | fuel + 1, room, form, path, index, read, s =>
    match skipSpaces s with
    | [] => .error .truncated
    | b :: rest =>
      if b == byte ']' then .ok (read.reverse, rest)
      else do
        let s' ←
          if index = 0 then pure (b :: rest)
          else if b == byte ',' then
            match skipSpaces rest with
            | [] => throw .truncated
            | c :: after =>
              if c == byte ']' then throw (.malformed .itemMissing (after.length + 1))
              else pure (c :: after)
          else throw (.malformed .itemSeparator (rest.length + 1))
        let (v, s'') ← readValue fuel room form (path ++ [.item index]) s'
        readItems fuel room form path (index + 1) (v :: read) s''

/-- Reads the members of an object up to its closing brace, after those read already. -/
def readMembers : (fuel : Nat) → (room : Option Nat) → Form → JsonPath → (read : Members) →
    Bytes → Reading (Members × Bytes)
  | 0, _, _, _, _, _ => .error .truncated
  | fuel + 1, room, form, path, read, s =>
    match skipSpaces s with
    | [] => .error .truncated
    | b :: rest =>
      if b == byte '\x7d' then .ok (read, rest)
      else do
        let s' ←
          if read.isEmpty then pure (b :: rest)
          else if b == byte ',' then
            match skipSpaces rest with
            | [] => throw .truncated
            | c :: after =>
              if c == byte '\x7d' then throw (.malformed .memberMissing (after.length + 1))
              else pure (c :: after)
          else throw (.malformed .memberSeparator (rest.length + 1))
        match s' with
        | [] => throw .truncated
        | quote :: s₁ =>
          if quote != byte '"' then throw (.malformed .keyNotText (s₁.length + 1))
          let (bs, s₂) ← readQuoted (s₁.length + 1) [] s₁
          let key ← keyOf form bs
          match skipSpaces s₂ with
          | [] => throw .truncated
          | colon :: s₃ =>
            if colon != byte ':' then throw (.malformed .colonMissing (s₃.length + 1))
            let (v, s₄) ← readValue fuel room (form.member key) (path ++ [form.stepTo key]) s₃
            readMembers fuel room form path (Members.insert read key v) s₄

end

/-- The read failure that a problem in a document of a given length is. -/
def Problem.failure (length : Nat) : Problem → ReadFailure
  | truncated => .truncated
  | malformed what left => .malformed what (length - left)
  | invalidText => .invalidText
  | mismatch what => .mismatch what
  | tooDeep => .tooDeep

/-- Reads a whole document and checks that nothing follows it. -/
def readWhole (form : Form) (room : Option Nat) (s : Bytes) : Reading Json := do
  let (v, rest) ← readValue (2 * s.length + 2) room form [] s
  let after := skipSpaces rest
  if after.isEmpty then return v
  throw (.malformed .trailingCharacters after.length)

/-- The value of a document of a given form, nested no deeper than there is room for. -/
def decode (form : Form) (s : Bytes) (room : Option Nat := none) : Except ReadFailure Json :=
  (readWhole form room s).mapError (Problem.failure s.length)

/-- The value of a document of a given form that comes as a text. -/
def decodeText (form : Form) (s : String) : Except ReadFailure Json :=
  decode form s.toUTF8.toList

end Json

end ScriptNavigation
