/-
# Lines of a text

A text is cut into lines at every line break.  The pair of carriage return and line
feed is one break, and a break at the very end opens no further line.
-/

namespace ScriptNavigation.Text

/-- Whether a character ends a line. -/
def isLineBreak (c : Char) : Bool :=
  [0x0A, 0x0B, 0x0C, 0x0D, 0x1C, 0x1D, 0x1E, 0x85, 0x2028, 0x2029].contains c.toNat

/-- Puts a character in front of the first line, opening that line when there is none. -/
def extendFirst (c : Char) : List (List Char) → List (List Char)
  | [] => [[c]]
  | line :: rest => (c :: line) :: rest

/-- The lines of a text, without their line breaks. -/
def lines : List Char → List (List Char)
  | [] => []
  | '\r' :: '\n' :: rest => [] :: lines rest
  | c :: rest => if isLineBreak c then [] :: lines rest else extendFirst c (lines rest)

/-- The line with a given number, counted from one, and the empty text when there is none. -/
def lineAt (ls : List (List Char)) (number : Int) : List Char :=
  if 1 ≤ number then (ls[(number - 1).toNat]?).getD [] else []

/-! ## Laws -/

@[simp] theorem lines_nil : lines [] = [] := rfl

end ScriptNavigation.Text
