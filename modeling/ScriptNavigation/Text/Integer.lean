/-
# Whole numbers in arguments

A whole number may have blanks around it, a sign, leading zeros, single underscores between
its digits, and a fraction of zeros.  After a leading zero, zeros and underscores mean nothing
until another digit comes.  The digits are those of seven-bit texts, and there may be no more
of them than a given number.
-/
import ScriptNavigation.Text.Blank

namespace ScriptNavigation.Text

/-! ## Digits -/

/-- Whether a character may stand around a number: every blank but the information
separators. -/
def isMargin (c : Char) : Bool :=
  isBlank c && !(0x1C ≤ c.toNat && c.toNat ≤ 0x1F)

/-- A text of digits without the zeros in front; the last character always stays. -/
def dropZeros (cs : List Char) : List Char :=
  if cs.head? = some '0' then
    let rest := cs.dropWhile fun c => c == '0' || c == '_'
    if rest.isEmpty then cs.drop (cs.length - 1) else rest
  else cs

/-- The digits of a text in which single underscores may stand between digits; `gap` says
that no digit stands right before. -/
def digits? (gap : Bool) : List Char → Option (List Char)
  | [] => if gap then none else some []
  | c :: cs =>
    if c = '_' then if gap then none else digits? true cs
    else if c.isDigit then (digits? false cs).map (c :: ·)
    else none

/-- The number that a list of digits is. -/
def digitsNumber (ds : List Char) : Nat :=
  ds.foldl (fun n d => 10 * n + (d.toNat - '0'.toNat)) 0

/-- The text before a fraction of zeros, or the whole text when it has no point. -/
def dropFraction? (cs : List Char) : Option (List Char) :=
  let whole := cs.takeWhile (· != '.')
  match cs.drop whole.length with
  | [] => some whole
  | _ :: zeros => if zeros.isEmpty || zeros.any (· != '0') then none else some whole

/-! ## Numbers -/

/-- The most characters that a whole number may have, a minus sign included, when everything
in it that means nothing is left out. -/
def maxIntegerLength : Nat := 4300

/-- The digits of a whole number without a sign. -/
def natural? (cs : List Char) : Option (List Char) := do
  digits? true (dropZeros (← dropFraction? cs))

/-- The whole number that a text is. -/
def integer? (s : String) : Option Int := do
  match trimWhere isMargin s.toList with
  | '-' :: cs =>
    let ds ← natural? cs
    if ds.length < maxIntegerLength then return -(digitsNumber ds : Int) else none
  | cs =>
    let ds ← natural? (if cs.head? = some '+' then cs.drop 1 else cs)
    if ds.length ≤ maxIntegerLength then return (digitsNumber ds : Int) else none

/-! ## Samples -/

example : integer? " +007\n" = some 7 ∧ integer? "0__1.00" = some 1 := by decide +kernel

example : integer? "1_2" = some 12 ∧ integer? "_1" = none ∧ integer? "1_" = none := by
  decide +kernel

end ScriptNavigation.Text
