/-
# Lower case

A capital letter becomes its small letter.  Mostly that is the letter to which it folds; this
module lists the small letters that folding changes and the capitals that fold to something
else.  A capital sigma at the end of a word becomes a final sigma: a letter with a case comes
before it and none comes after it, marks and the signs inside words passed over.

Main facts:

* `lowerCase_empty`: the empty text stays empty.
* `lowerChar_ne_nil`: no character disappears.
-/
import ScriptNavigation.Text.CaseFold
import ScriptNavigation.Text.Columns

namespace ScriptNavigation.Text

/-! ## Letters -/

/-- The small letters that folding changes. -/
def foldedSmallRanges : List (Nat × Nat) :=
  [
    (0xB5, 0xB5), (0xDF, 0xDF), (0x149, 0x149), (0x17F, 0x17F), (0x1F0, 0x1F0), (0x345, 0x345),
    (0x390, 0x390), (0x3B0, 0x3B0), (0x3C2, 0x3C2), (0x3D0, 0x3D1), (0x3D5, 0x3D6),
    (0x3F0, 0x3F1), (0x3F5, 0x3F5), (0x587, 0x587), (0x13F8, 0x13FD), (0x1C80, 0x1C88),
    (0x1E96, 0x1E9B), (0x1F50, 0x1F50), (0x1F52, 0x1F52), (0x1F54, 0x1F54), (0x1F56, 0x1F56),
    (0x1F80, 0x1F87), (0x1F90, 0x1F97), (0x1FA0, 0x1FA7), (0x1FB2, 0x1FB4), (0x1FB6, 0x1FB7),
    (0x1FBE, 0x1FBE), (0x1FC2, 0x1FC4), (0x1FC6, 0x1FC7), (0x1FD2, 0x1FD3), (0x1FD6, 0x1FD7),
    (0x1FE2, 0x1FE4), (0x1FE6, 0x1FE7), (0x1FF2, 0x1FF4), (0x1FF6, 0x1FF7), (0xAB70, 0xABBF),
    (0xFB00, 0xFB06), (0xFB13, 0xFB17)
  ]

/-- The capitals whose small letter is not what they fold to. -/
def smallLetterRuns : List FoldRun :=
  [
    ⟨5024, 5103, 1, 38864⟩, ⟨5104, 5109, 1, 8⟩, ⟨7838, 7838, 1, -7615⟩, ⟨8072, 8079, 1, -8⟩,
    ⟨8088, 8095, 1, -8⟩, ⟨8104, 8111, 1, -8⟩, ⟨8124, 8124, 1, -9⟩, ⟨8140, 8140, 1, -9⟩,
    ⟨8188, 8188, 1, -9⟩
  ]

/-- The small letter of a character, wherever it stands. -/
def lowerChar (c : Char) : List Char :=
  if inRanges foldedSmallRanges c then [c]
  else
    match smallLetterRuns.find? (·.covers c.toNat) with
    | some r => [Char.ofNat (c.toNat + r.offset).toNat]
    | none => foldChar c

/-- Whether a character is a capital or a small letter. -/
def isCased (c : Char) : Bool :=
  foldChar c != [c] || lowerChar c != [c] ||
    foldRuns.any fun r => r.covers ((c.toNat : Int) - r.offset).toNat

/-! ## Words -/

/-- The signs that may stand inside a word. -/
def wordSigns : List Char :=
  ['\x27', '.', ':', '^', '\x60', '\u00a8', '\u00af', '\u00b4', '\u00b7', '\u00b8', '\u2018',
    '\u2019', '\u2024', '\u2027']

/-- Whether a character is passed over when the letters around a sigma are looked for. -/
def isPassedInWord (c : Char) : Bool :=
  wordSigns.contains c || (0xAD ≤ c.toNat && charColumns c == 0)

/-- Whether the first character that is not passed over is a letter with a case. -/
def meetsCased : List Char → Bool
  | [] => false
  | c :: cs => if isPassedInWord c then meetsCased cs else isCased c

/-- The small letters of a text after some characters, the last one first. -/
def lowerAfter (before : List Char) : List Char → List Char
  | [] => []
  | c :: cs =>
    let small :=
      if c = 'Σ' then [if meetsCased before && !meetsCased cs then 'ς' else 'σ']
      else lowerChar c
    small ++ lowerAfter (c :: before) cs

/-- A text in lower case. -/
def lowerCase (s : String) : String := String.ofList (lowerAfter [] s.toList)

/-! ## Laws -/

@[simp] theorem lowerCase_empty : lowerCase "" = "" := rfl

/-- No character disappears in lower case. -/
theorem lowerChar_ne_nil (c : Char) : lowerChar c ≠ [] := by
  unfold lowerChar
  split
  · simp
  · split
    · simp
    · exact foldChar_ne_nil c

/-! ## Samples -/

example : lowerCase "ΟΔΟΣ Σ" = "οδος σ" := by decide +kernel

end ScriptNavigation.Text
