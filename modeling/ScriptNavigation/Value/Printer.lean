/-
# Printing values as JSON

Values are printed with an indentation of two blanks per level, one item or member a
line, and with every printable character as it is.  A value that holds a node has no
JSON form.
-/
import ScriptNavigation.Value.Basic
import ScriptNavigation.Text.Quoted

namespace ScriptNavigation

/-- One character of a JSON text. -/
def jsonChar (c : Char) : List Char :=
  if c = '"' then ['\\', '"']
  else if c = '\\' then ['\\', '\\']
  else if c = '\n' then ['\\', 'n']
  else if c = '\r' then ['\\', 'r']
  else if c = '\t' then ['\\', 't']
  else if c.toNat = 0x0C then ['\\', 'f']
  else if c.toNat = 0x08 then ['\\', 'b']
  else if c.toNat < 0x20 then '\\' :: 'u' :: Text.hexadecimal 4 c.toNat
  else [c]

/-- A text as a JSON string. -/
def jsonString (s : String) : String :=
  String.ofList ('"' :: s.toList.flatMap jsonChar ++ ['"'])

/-- The line break and the indentation in front of an item at a given level. -/
def jsonIndent (level : Nat) : String :=
  String.ofList ('\n' :: List.replicate (2 * level) ' ')

/-- The parts of a container at a given level between its brackets. -/
def jsonBlock (opening closing : String) (level : Nat) (parts : List String) : String :=
  if parts.isEmpty then opening ++ closing
  else
    opening ++ jsonIndent (level + 1) ++ ("," ++ jsonIndent (level + 1)).intercalate parts
      ++ jsonIndent level ++ closing

namespace Value

variable {ν : Type}

mutual

/-- The JSON text of a value that stands at a given level, if it holds no node. -/
def jsonAt? (level : Nat) : Value ν → Option String
  | null => some "null"
  | bool b => some (if b then "true" else "false")
  | int i => some (toString i)
  | float x => some x.text
  | str s => some (jsonString s)
  | array items => (jsonItems? (level + 1) items).map (jsonBlock "[" "]" level)
  | object members => (jsonMembers? (level + 1) members).map (jsonBlock "\x7b" "\x7d" level)
  | node _ => none

/-- The JSON texts of the items of an array. -/
def jsonItems? (level : Nat) : List (Value ν) → Option (List String)
  | [] => some []
  | v :: vs => do
    let first ← v.jsonAt? level
    let rest ← jsonItems? level vs
    return first :: rest

/-- The JSON texts of the members of an object. -/
def jsonMembers? (level : Nat) : List (String × Value ν) → Option (List String)
  | [] => some []
  | (key, v) :: ms => do
    let first ← v.jsonAt? level
    let rest ← jsonMembers? level ms
    return (jsonString key ++ ": " ++ first) :: rest

end

/-- The JSON text of a value, if it holds no node. -/
def json? (v : Value ν) : Option String := v.jsonAt? 0

end Value

end ScriptNavigation
