/-
# Columns of a text

How many columns of a console a text takes.  A character takes none, one or two.  A joiner
makes one picture of the characters around it, so the one after it takes no column; a picture
selector turns a sign of one column in front of it into a picture of two.

Main facts:

* `columns_eq_length`: a text of printable seven-bit characters takes a column for each.
* `tabbed_of_no_tab`: a text without tabs is not changed when its tabs are replaced.
-/
import ScriptNavigation.Text.ColumnTable

namespace ScriptNavigation.Text

/-! ## Characters -/

/-- Whether a character lies in one of some ranges. -/
def inRanges (ranges : List (Nat × Nat)) (c : Char) : Bool :=
  ranges.any fun r => r.1 ≤ c.toNat && c.toNat ≤ r.2

/-- Whether a character is a printable one of seven bits. -/
def isPlain (c : Char) : Bool := 0x20 ≤ c.toNat && c.toNat < 0x7F

/-- The columns of a character; the printable seven-bit characters need no table. -/
def charColumns (c : Char) : Nat :=
  if isPlain c then 1
  else if inRanges zeroColumnRanges c then 0
  else if inRanges twoColumnRanges c then 2
  else 1

/-! ## Texts -/

/-- The character that joins two pictures to one. -/
def joiner : Char := '\u200d'

/-- The character that asks for the sign in front of it to be shown as a picture. -/
def pictureSelector : Char := '\ufe0f'

/-- The columns of a text after a character `base` that takes some, if there is one that can
still become a picture; `joined` says that the next character belongs to the picture before
it. -/
def columnsAfter (base : Option Char) (joined : Bool) : List Char → Nat
  | [] => 0
  | c :: cs =>
    if joined then columnsAfter base false cs
    else if c = joiner then columnsAfter base true cs
    else if c = pictureSelector then
      let widened := match base with
        | some b => inRanges pictureSignRanges b
        | none => false
      (if widened then 1 else 0) + columnsAfter none false cs
    else
      let width := charColumns c
      width + columnsAfter (if width = 0 then base else some c) false cs

/-- The columns of a text. -/
def columns (cs : List Char) : Nat := columnsAfter none false cs

/-! ## Tabs -/

/-- The columns from one tab stop to the next. -/
def tabWidth : Nat := 8

/-- Replaces tabs by blanks up to the next tab stop.  In front of the part of a line that has
been read since the last tab, `column` columns are taken. -/
def tabbedFrom (column : Nat) (part : List Char) : List Char → List Char
  | [] => part.reverse
  | c :: cs =>
    if c = '\n' then part.reverse ++ c :: tabbedFrom 0 [] cs
    else if c = '\t' then
      let reached := column + columns (part.reverse ++ [' '])
      let further := (tabWidth - reached % tabWidth) % tabWidth
      part.reverse ++ List.replicate (1 + further) ' ' ++ tabbedFrom (reached + further) [] cs
    else tabbedFrom column (c :: part) cs

/-- A text with its tabs replaced by blanks up to the next tab stop. -/
def tabbed (cs : List Char) : List Char := tabbedFrom 0 [] cs

/-! ## Laws -/

theorem charColumns_of_isPlain {c : Char} (h : isPlain c = true) : charColumns c = 1 := by
  simp [charColumns, h]

/-- Neither a joiner nor a picture selector is a seven-bit character. -/
theorem ne_of_isPlain {c : Char} (h : isPlain c = true) : c ≠ joiner ∧ c ≠ pictureSelector := by
  constructor <;> (intro hc; subst hc; revert h; decide)

/-- A text of printable seven-bit characters takes a column for each. -/
theorem columnsAfter_eq_length (base : Option Char) {cs : List Char}
    (h : ∀ c ∈ cs, isPlain c = true) : columnsAfter base false cs = cs.length := by
  induction cs generalizing base with
  | nil => rfl
  | cons c cs ih =>
    have hc := h c (by simp)
    obtain ⟨hj, hs⟩ := ne_of_isPlain hc
    simp only [columnsAfter, hj, hs, if_false, charColumns_of_isPlain hc, List.length_cons]
    rw [if_neg (by simp), ih _ fun d hd => h d (by simp [hd])]
    omega

theorem columns_eq_length {cs : List Char} (h : ∀ c ∈ cs, isPlain c = true) :
    columns cs = cs.length :=
  columnsAfter_eq_length none h

theorem tabbedFrom_of_no_tab (column : Nat) (part : List Char) {cs : List Char}
    (h : '\t' ∉ cs) : tabbedFrom column part cs = part.reverse ++ cs := by
  induction cs generalizing column part with
  | nil => simp [tabbedFrom]
  | cons c cs ih =>
    have hc : c ≠ '\t' := fun e => h (by simp [e])
    have hcs : '\t' ∉ cs := fun m => h (by simp [m])
    unfold tabbedFrom
    split
    · rw [ih 0 [] hcs]; simp
    · rw [ih column (c :: part) hcs]; simp

/-- A text without tabs is not changed when its tabs are replaced. -/
theorem tabbed_of_no_tab {cs : List Char} (h : '\t' ∉ cs) : tabbed cs = cs := by
  simp [tabbed, tabbedFrom_of_no_tab 0 [] h]

/-! ## Samples -/

example : columns ['日', '\u0301', ' '] = 3 ∧ columns ['❤', '\ufe0f'] = 2 := by decide +kernel

example : tabbed ['日', '\t', 'x'] = ['日', ' ', ' ', ' ', ' ', ' ', ' ', 'x'] := by decide +kernel

end ScriptNavigation.Text
