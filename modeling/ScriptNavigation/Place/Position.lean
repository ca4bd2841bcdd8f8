/-
# Positions in a script

A position is a line and a column, both counted from one in a real script.  Positions are
ordered by line first and by column within a line.  Only the line feed starts a new line
here, so the position of an offset is found by stepping over the characters before it.

Main facts:

* `le_total`, `le_trans` and `le_antisymm`: positions are linearly ordered.
* `ofOffset_mono`: a later offset never has an earlier position.
-/

namespace ScriptNavigation

/-- A line and a column. -/
structure Position where
  line : Int
  column : Int
  deriving DecidableEq, Repr, Inhabited

namespace Position

/-! ## The order of positions -/

instance : LE Position :=
  ⟨fun p q => p.line < q.line ∨ (p.line = q.line ∧ p.column ≤ q.column)⟩

instance : LT Position :=
  ⟨fun p q => p.line < q.line ∨ (p.line = q.line ∧ p.column < q.column)⟩

theorem le_def {p q : Position} :
    p ≤ q ↔ p.line < q.line ∨ (p.line = q.line ∧ p.column ≤ q.column) := Iff.rfl

theorem lt_def {p q : Position} :
    p < q ↔ p.line < q.line ∨ (p.line = q.line ∧ p.column < q.column) := Iff.rfl

instance (p q : Position) : Decidable (p ≤ q) := decidable_of_iff _ le_def.symm

instance (p q : Position) : Decidable (p < q) := decidable_of_iff _ lt_def.symm

theorem le_refl (p : Position) : p ≤ p := Or.inr ⟨rfl, Int.le_refl _⟩

theorem le_trans {p q r : Position} (h₁ : p ≤ q) (h₂ : q ≤ r) : p ≤ r := by
  rw [le_def] at *
  omega

theorem le_antisymm {p q : Position} (h₁ : p ≤ q) (h₂ : q ≤ p) : p = q := by
  rw [le_def] at *
  cases p
  cases q
  simp only [mk.injEq] at *
  omega

theorem le_total (p q : Position) : p ≤ q ∨ q ≤ p := by
  rw [le_def, le_def]
  omega

theorem not_le {p q : Position} : ¬ p ≤ q ↔ q < p := by
  rw [le_def, lt_def]
  omega

theorem not_lt {p q : Position} : ¬ p < q ↔ q ≤ p := by
  rw [le_def, lt_def]
  omega

theorem le_of_lt {p q : Position} (h : p < q) : p ≤ q := by
  rw [lt_def] at h
  rw [le_def]
  omega

theorem le_iff_eq_or_lt {p q : Position} : p ≤ q ↔ p = q ∨ p < q := by
  cases p
  cases q
  simp only [le_def, lt_def, mk.injEq]
  omega

/-! ## Positions of offsets -/

/-- The first position of a script. -/
def first : Position := ⟨1, 1⟩

/-- The position after a character: a line feed starts the next line. -/
def step (p : Position) (c : Char) : Position :=
  if c = '\n' then ⟨p.line + 1, 1⟩ else ⟨p.line, p.column + 1⟩

/-- The position after a text that starts at `p`. -/
def after (p : Position) (cs : List Char) : Position :=
  cs.foldl step p

/-- The position of an offset into a text. -/
def ofOffset (cs : List Char) (offset : Nat) : Position :=
  first.after (cs.take offset)

@[simp] theorem after_nil (p : Position) : p.after [] = p := rfl

@[simp] theorem after_cons (p : Position) (c : Char) (cs : List Char) :
    p.after (c :: cs) = (p.step c).after cs := rfl

theorem after_append (p : Position) (as bs : List Char) :
    p.after (as ++ bs) = (p.after as).after bs := by
  simp [after]

theorem lt_step (p : Position) (c : Char) : p < p.step c := by
  unfold step
  rw [lt_def]
  split
  · exact Or.inl (Int.lt_succ p.line)
  · exact Or.inr ⟨rfl, Int.lt_succ p.column⟩

theorem le_after (p : Position) (cs : List Char) : p ≤ p.after cs := by
  induction cs generalizing p with
  | nil => exact le_refl p
  | cons c cs ih => exact le_trans (le_of_lt (lt_step p c)) (ih _)

/-- The position of a later offset is that after the text between the offsets. -/
theorem ofOffset_add (cs : List Char) (a d : Nat) :
    ofOffset cs (a + d) = (ofOffset cs a).after ((cs.drop a).take d) := by
  rw [ofOffset, ofOffset, List.take_add, after_append]

/-- A later offset never has an earlier position. -/
theorem ofOffset_mono (cs : List Char) {a b : Nat} (h : a ≤ b) : ofOffset cs a ≤ ofOffset cs b := by
  obtain ⟨d, rfl⟩ := Nat.exists_eq_add_of_le h
  rw [ofOffset_add]
  exact le_after _ _

end Position

end ScriptNavigation
