/-
# Full case folding

Names are compared by their case folding: two names are the same name when they fold to
the same text.  Folding works character by character, keeps the order, and never drops
a character.

Main facts:

* `foldCase_append`: folding distributes over concatenation.
* `foldCase_eq_empty_iff`: only the empty text folds to the empty text.
-/
import ScriptNavigation.Text.FoldTable

namespace ScriptNavigation.Text

/-! ## Folding one character -/

/-- The characters that `c` folds to, by the folding table. -/
def foldCharByTable (c : Char) : List Char :=
  match foldExpansions.lookup c.toNat with
  | some codes => codes.map Char.ofNat
  | none =>
    match foldRuns.find? (·.covers c.toNat) with
    | some r => [Char.ofNat (c.toNat + r.offset).toNat]
    | none => [c]

/-- The characters that `c` folds to; the seven-bit characters need no table. -/
def foldChar (c : Char) : List Char :=
  if c.toNat < 128 then
    [if 'A' ≤ c ∧ c ≤ 'Z' then Char.ofNat (c.toNat + 32) else c]
  else
    foldCharByTable c

/-! ## Folding a text -/

/-- The full case folding of a text. -/
def foldCase (s : String) : String :=
  String.ofList (s.toList.flatMap foldChar)

/-- Whether two texts are equal up to case. -/
def sameFolded (a b : String) : Bool :=
  foldCase a == foldCase b

/-! ## Laws -/

@[simp] theorem foldCase_empty : foldCase "" = "" := rfl

theorem toList_foldCase (s : String) : (foldCase s).toList = s.toList.flatMap foldChar := by
  simp [foldCase]

/-- Folding distributes over concatenation. -/
theorem foldCase_append (a b : String) : foldCase (a ++ b) = foldCase a ++ foldCase b := by
  apply String.toList_inj.mp
  simp [toList_foldCase]

/-- Every entry of the expansion table is a non-empty list. -/
theorem foldExpansions_ne_nil : ∀ e ∈ foldExpansions, e.2 ≠ [] := by
  decide

theorem foldCharByTable_ne_nil (c : Char) : foldCharByTable c ≠ [] := by
  unfold foldCharByTable
  split
  · rename_i codes h
    have hmem : (c.toNat, codes) ∈ foldExpansions := by
      rw [List.lookup_eq_some_iff] at h
      obtain ⟨l₁, l₂, heq, -⟩ := h
      rw [heq]
      simp
    simpa using foldExpansions_ne_nil _ hmem
  · split <;> simp

/-- No character disappears when it is folded. -/
theorem foldChar_ne_nil (c : Char) : foldChar c ≠ [] := by
  unfold foldChar
  split
  · simp
  · exact foldCharByTable_ne_nil c

/-- Only the empty text folds to the empty text. -/
theorem foldCase_eq_empty_iff {s : String} : foldCase s = "" ↔ s = "" := by
  rw [← String.toList_inj, toList_foldCase, ← String.toList_inj]
  simp only [String.toList_empty, List.flatMap_eq_nil_iff]
  constructor
  · intro h
    cases hs : s.toList with
    | nil => rfl
    | cons c cs => exact absurd (h c (by simp [hs])) (foldChar_ne_nil c)
  · intro h
    simp [h]

theorem sameFolded_iff {a b : String} : sameFolded a b = true ↔ foldCase a = foldCase b := by
  simp [sameFolded]

end ScriptNavigation.Text
