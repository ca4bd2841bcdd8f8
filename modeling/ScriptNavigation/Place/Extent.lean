/-
# Extents

An extent is a stretch of a script: where it starts, the position just after its end, the
text that it covers and the file it is in.  It never ends before it starts; this is part
of the type, so every way to build an extent has to prove it or to check it.

The text of a node's extent is a `String`.  A symbol may cover a name that is no text at
all, because documents are loosely typed, so the type of the text is a parameter.

Main facts:

* `ofSpan_eq_ok_iff`: a span of offsets has an extent exactly when it lies in the source.
-/
import ScriptNavigation.Failure
import ScriptNavigation.Text.Search

namespace ScriptNavigation

/-- A stretch of a script with the text it covers, of type `τ`. -/
structure Extent (τ : Type) where
  start : Position
  /-- The position just after the last character. -/
  stop : Position
  text : τ
  file : Option String
  start_le_stop : start ≤ stop
  deriving DecidableEq

namespace Extent

variable {τ σ : Type}

/-! ## Building extents -/

/-- The extent between two positions, refused when they are in the wrong order. -/
def between (start stop : Position) (text : τ) (file : Option String) : Result (Extent τ) :=
  if h : start ≤ stop then
    .ok ⟨start, stop, text, file, h⟩
  else
    .error (.rejected (.extentReversed start stop))

/-- The extent of a node that does not say where it is. -/
def nowhere : Extent String :=
  ⟨Position.first, Position.first, "", none, Position.le_refl _⟩

/-- The same stretch with another text. -/
def withText (e : Extent τ) (text : σ) : Extent σ :=
  ⟨e.start, e.stop, text, e.file, e.start_le_stop⟩

/-- The extent of a span of offsets into a source text. -/
def ofSpan (source : String) (start stop : Int) (file : Option String) :
    Result (Extent String) :=
  let cs := source.toList
  if h : 0 ≤ start ∧ start ≤ stop ∧ stop ≤ cs.length then
    .ok {
      start := Position.ofOffset cs start.toNat
      stop := Position.ofOffset cs stop.toNat
      text := String.ofList ((cs.take stop.toNat).drop start.toNat)
      file := file
      start_le_stop := Position.ofOffset_mono cs (Int.toNat_le_toNat h.2.1) }
  else
    .error (.rejected (.spanOutside (toString start) (toString stop) cs.length))

/-! ## Parts of an extent -/

/-- The extent of the piece of text that starts `offset` columns after the start of `e`
and is `length` columns long, on the line where `e` starts. -/
def piece (e : Extent σ) (offset length : Nat) (text : τ) : Extent τ where
  start := ⟨e.start.line, e.start.column + offset⟩
  stop := ⟨e.start.line, e.start.column + offset + length⟩
  text := text
  file := e.file
  start_le_stop := Or.inr ⟨rfl, Int.le_add_of_nonneg_right (Int.natCast_nonneg length)⟩

/-- The extent of the first occurrence of a name in the text of `e`, found by letter and
case, as if the text up to there stood on one line. -/
def named? (e : Extent String) (name : String) : Option (Extent String) :=
  if name = "" then none
  else
    (Text.indexOf? name.toList e.text.toList).map fun i => e.piece i name.toList.length name

/-- The extent of a name after the first occurrence of the name with the sigil in front. -/
def findAfterSigil? (e : Extent String) (name : String) : Option (Extent Unit) :=
  (Text.indexOf? ('$' :: name.toList) e.text.toList).map fun i =>
    e.piece (i + 1) name.toList.length ()

/-! ## Tests and texts -/

/-- Whether a position is on the first line of the extent, not before its start and, if
the extent ends on that line, not after its end. -/
def contains (e : Extent τ) (p : Position) : Bool :=
  e.start.line == p.line && decide (e.start.column ≤ p.column) &&
    (decide (p.line < e.stop.line) || decide (p.column ≤ e.stop.column))

/-- The start of an extent as `file:line:column`, or `line:column` without a file. -/
def location (e : Extent τ) : String :=
  let place := s!"{e.start.line}:{e.start.column}"
  match e.file with
  | some file => if file = "" then place else file ++ ":" ++ place
  | none => place

/-! ## Laws -/

theorem contains_iff {e : Extent τ} {p : Position} :
    e.contains p = true ↔
      e.start.line = p.line ∧ e.start.column ≤ p.column ∧
        (p.line < e.stop.line ∨ p.column ≤ e.stop.column) := by
  simp [contains, and_assoc]

/-- An extent contains the position at which it starts. -/
theorem contains_start (e : Extent τ) : e.contains e.start = true := by
  rw [contains_iff]
  have h := e.start_le_stop
  rw [Position.le_def] at h
  omega

/-- A span of offsets has an extent exactly when it lies in the source. -/
theorem ofSpan_eq_ok_iff {source : String} {start stop : Int} {file : Option String} :
    (∃ e, ofSpan source start stop file = .ok e) ↔
      0 ≤ start ∧ start ≤ stop ∧ stop ≤ source.toList.length := by
  unfold ofSpan
  simp only
  split
  · rename_i h
    simpa using h
  · rename_i h
    simpa using h

end Extent

end ScriptNavigation
