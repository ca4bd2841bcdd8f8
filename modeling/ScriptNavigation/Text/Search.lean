/-
# Searching and slicing texts

Offsets count characters.  `indexOf?` finds the first place where a text occurs inside
another one, and `dropFrom` cuts a text at an offset that may be negative.

Main facts:

* `indexOf?_eq_some`: at the offset found, the text really occurs.
-/

namespace ScriptNavigation.Text

/-- The first offset at which `pattern` occurs in a text. -/
def indexOf? (pattern : List Char) : List Char → Option Nat
  | [] => if pattern.isEmpty then some 0 else none
  | c :: cs =>
    if pattern.isPrefixOf (c :: cs) then some 0 else (indexOf? pattern cs).map (· + 1)

/-- The part of a text from an offset on; a negative offset counts from the end. -/
def dropFrom (cs : List Char) (offset : Int) : List Char :=
  if offset < 0 then cs.drop (cs.length + offset).toNat else cs.drop offset.toNat

/-! ## Laws -/

/-- At the offset found, the text really occurs. -/
theorem indexOf?_eq_some {pattern cs : List Char} {i : Nat} (h : indexOf? pattern cs = some i) :
    ∃ before after, cs = before ++ pattern ++ after ∧ before.length = i := by
  induction cs generalizing i with
  | nil =>
    simp only [indexOf?] at h
    split at h
    · rename_i hp
      obtain rfl : 0 = i := by simpa using h
      exact ⟨[], [], by simp [List.isEmpty_iff.mp hp], rfl⟩
    · simp at h
  | cons c cs ih =>
    simp only [indexOf?] at h
    split at h
    · rename_i hp
      obtain rfl : 0 = i := by simpa using h
      obtain ⟨rest, hrest⟩ := List.isPrefixOf_iff_prefix.mp hp
      exact ⟨[], rest, by simp [hrest], rfl⟩
    · obtain ⟨j, hj, rfl⟩ := Option.map_eq_some_iff.mp h
      obtain ⟨before, after, heq, hlen⟩ := ih hj
      exact ⟨c :: before, after, by simp [heq], by simp [hlen]⟩

end ScriptNavigation.Text
