/-
# Blank characters

A character is blank when it is white space of any script: the ASCII blanks, the
information separators, the next-line and no-break characters and the spaces of
general punctuation.
-/

namespace ScriptNavigation.Text

/-- The ranges of code points, ends included, that are white space. -/
def blankRanges : List (Nat × Nat) :=
  [(0x09, 0x0D), (0x1C, 0x20), (0x85, 0x85), (0xA0, 0xA0), (0x1680, 0x1680),
    (0x2000, 0x200A), (0x2028, 0x2029), (0x202F, 0x202F), (0x205F, 0x205F), (0x3000, 0x3000)]

/-- Whether a character is white space. -/
def isBlank (c : Char) : Bool :=
  blankRanges.any fun r => r.1 ≤ c.toNat && c.toNat ≤ r.2

/-- A text without the characters of a class at its two ends. -/
def trimWhere (p : Char → Bool) (cs : List Char) : List Char :=
  ((cs.dropWhile p).reverse.dropWhile p).reverse

/-- A text without the blanks at its two ends. -/
def trimBlanks (cs : List Char) : List Char := trimWhere isBlank cs

/-- The words of a text: its pieces between blanks that are not empty. -/
def words (cs : List Char) : List (List Char) :=
  (cs.splitOnP isBlank).filter fun w => !w.isEmpty

end ScriptNavigation.Text
