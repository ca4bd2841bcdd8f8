/-
# Values spelled out in messages

Where a message needs the text of a value that is no text, the value is spelled out: the
constants by their names, numbers in their shortest form, texts inside a container in
quotes.  In a field of a node, a list inside a list is a tuple and gets round brackets.
-/
import ScriptNavigation.Value.Basic
import ScriptNavigation.Text.Quoted

namespace ScriptNavigation

/-- How the lists inside a list are written. -/
inductive ListStyle where
  /-- Every list has square brackets. -/
  | square
  /-- The list has square brackets, and the lists directly inside it have round ones. -/
  | squareThenRound
  /-- The list has round brackets, and the lists directly inside it have square ones. -/
  | roundThenSquare

namespace ListStyle

/-- The style of the lists directly inside a list. -/
def inside : ListStyle → ListStyle
  | square => square
  | squareThenRound => roundThenSquare
  | roundThenSquare => squareThenRound

/-- The items of a list in brackets; a single item in round brackets has a comma. -/
def wrap (style : ListStyle) (items : List String) : String :=
  let body := ", ".intercalate items
  match style with
  | roundThenSquare => "(" ++ body ++ (if items.length = 1 then ",)" else ")")
  | _ => "[" ++ body ++ "]"

end ListStyle

namespace Value

variable {ν : Type}

mutual

/-- The value as it is written inside a container. -/
def spelled (ofNode : ν → String) (style : ListStyle) : Value ν → String
  | null => "None"
  | bool b => if b then "True" else "False"
  | int i => toString i
  | float x => x.text
  | str s => Text.quoted s
  | array items => style.wrap (spelledAll ofNode style.inside items)
  | object members => "\x7b" ++ ", ".intercalate (spelledMembers ofNode members) ++ "\x7d"
  | node n => ofNode n

/-- The values of a list as they are written inside it. -/
def spelledAll (ofNode : ν → String) (style : ListStyle) : List (Value ν) → List String
  | [] => []
  | v :: vs => v.spelled ofNode style :: spelledAll ofNode style vs

/-- The members of an object as they are written inside it. -/
def spelledMembers (ofNode : ν → String) : List (String × Value ν) → List String
  | [] => []
  | (key, v) :: rest =>
    (Text.quoted key ++ ": " ++ v.spelled ofNode .square) :: spelledMembers ofNode rest

end

/-- The text of a value: a text stands for itself, all else is spelled out. -/
def display (ofNode : ν → String) (style : ListStyle) : Value ν → String
  | str s => s
  | v => v.spelled ofNode style

end Value

namespace Json

/-- The text of a plain JSON value. -/
def display (j : Json) : String :=
  Value.display (fun n => nomatch n) .square j

/-- A plain JSON value as it is written inside a container. -/
def spelled (j : Json) : String :=
  Value.spelled (fun n => nomatch n) .square j

end Json

end ScriptNavigation
