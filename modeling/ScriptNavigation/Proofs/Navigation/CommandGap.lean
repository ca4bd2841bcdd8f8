/-
# The blanks behind a command

A command that stands on one line reaches over the blanks behind it: up to the next character
that is no blank, or to the end of the line.  So a cursor behind a command belongs to it exactly
if all characters between them exist and are blank.

Main facts:

* `le_length_takeWhile_iff`: how far a list starts with elements that pass a test.
* `le_reach_iff`: how far a command on one line reaches.
* `commandUnder_across_blanks`: the command at a position contains it or stands in front of it
  with blanks between, and a position with such a command has one.
-/
import ScriptNavigation.Proofs.Navigation.CommandReach

namespace ScriptNavigation

open Occurrence

/-- A list starts with `k` elements that pass a test if its first `k` elements exist and do. -/
theorem le_length_takeWhile_iff {α : Type} {p : α → Bool} {as : List α} {k : Nat} :
    k ≤ (as.takeWhile p).length ↔ ∀ i < k, ∃ a, as[i]? = some a ∧ p a = true := by
  induction as generalizing k with
  | nil =>
    rw [List.takeWhile_nil, List.length_nil, Nat.le_zero]
    constructor
    · rintro rfl i hi
      exact absurd hi (Nat.not_lt_zero i)
    · intro h
      by_contra hk
      obtain ⟨a, ha, -⟩ := h 0 (Nat.pos_of_ne_zero hk)
      cases ha
  | cons a as ih =>
    cases k with
    | zero => simp
    | succ k =>
      rw [List.takeWhile_cons]
      cases ha : p a with
      | true =>
        rw [if_pos rfl, List.length_cons, Nat.succ_le_succ_iff, ih]
        constructor
        · intro h i hi
          cases i with
          | zero => exact ⟨a, rfl, ha⟩
          | succ i => exact h i (Nat.lt_of_succ_lt_succ hi)
        · intro h i hi
          exact h (i + 1) (Nat.succ_lt_succ hi)
      | false =>
        rw [if_neg Bool.false_ne_true, List.length_nil]
        constructor
        · intro h
          exact absurd h (Nat.not_succ_le_zero k)
        · intro h
          obtain ⟨b, hb, hpb⟩ := h 0 (Nat.succ_pos k)
          obtain rfl : a = b := Option.some_inj.mp hb
          rw [ha] at hpb
          cases hpb

namespace Script

/-- From one column of a line up to another one there is a blank at each column. -/
def BlankFrom (s : Script) (line start stop : Int) : Prop :=
  ∀ column, start ≤ column → column < stop →
    1 ≤ column ∧ ∃ c, (s.line line).toList[(column - 1).toNat]? = some c ∧ Text.isBlank c = true

variable {s : Script} {line start stop column : Int}

/-- Blanks up to a column, counted from the column where they start. -/
theorem blankFrom_iff (hstart : 1 ≤ start) :
    s.BlankFrom line start column ↔
      (column - start).toNat ≤
        ((Text.dropFrom (s.line line).toList (start - 1)).takeWhile Text.isBlank).length := by
  rw [le_length_takeWhile_iff, Text.dropFrom, if_neg (by omega), BlankFrom]
  simp only [List.getElem?_drop]
  constructor
  · intro h i hi
    obtain ⟨-, c, hc, hblank⟩ := h (start + i) (by omega) (by omega)
    have hindex : (start + i - 1).toNat = (start - 1).toNat + i := by omega
    exact ⟨c, hindex ▸ hc, hblank⟩
  · intro h k hle hlt
    obtain ⟨c, hc, hblank⟩ := h (k - start).toNat (by omega)
    have hindex : (start - 1).toNat + (k - start).toNat = (k - 1).toNat := by omega
    exact ⟨by omega, c, hindex ▸ hc, hblank⟩

end Script

namespace Query

variable {s : Script} {q : Query} {p : Position}

/-- A command on one line reaches up to a column exactly if only blanks come between. -/
theorem le_reach_iff {e : Extent String} {column : Int} (hline : e.stop.line = e.start.line)
    (hstop : 1 ≤ e.stop.column) :
    column ≤ reach s e ↔ s.BlankFrom e.start.line e.stop.column column := by
  rw [Script.blankFrom_iff hstop, reach, if_neg (not_not_intro hline)]
  dsimp only
  omega

/-- A command on one line that reaches up to a position behind its start contains the position, or
only blanks come between. -/
theorem contains_or_blankFrom {e : Extent String} (hstart : e.start.line = p.line)
    (hstop : e.stop.line = p.line) (hfirst : 1 ≤ e.stop.column)
    (hfrom : e.start.column ≤ p.column) (hreach : p.column ≤ reach s e) :
    e.contains p = true ∨ s.BlankFrom p.line e.stop.column p.column := by
  by_cases hinside : p.column ≤ e.stop.column
  · exact Or.inl (Extent.contains_iff.mpr ⟨hstart, hfrom, Or.inr hinside⟩)
  · rw [← hstart]
    exact Or.inr ((le_reach_iff (hstop.trans hstart.symm) hfirst).mp hreach)

/-- A command on one line that contains a position, or with only blanks up to it, reaches up to
the position. -/
theorem le_reach_of_contains_or_blankFrom {e : Extent String} (hstart : e.start.line = p.line)
    (hstop : e.stop.line = p.line)
    (h : e.contains p = true ∨ s.BlankFrom p.line e.stop.column p.column) :
    p.column ≤ reach s e := by
  by_cases hinside : p.column ≤ e.stop.column
  · exact Int.le_trans hinside (stop_le_reach s e)
  · rcases h with hcontains | hblank
    · obtain ⟨-, -, hend⟩ := Extent.contains_iff.mp hcontains
      omega
    · -- there is a blank at the end of the command, so the end is a column of the line
      have hfirst := (hblank e.stop.column (Int.le_refl _) (by omega)).1
      rw [← hstart] at hblank
      exact (le_reach_iff (hstop.trans hstart.symm) hfirst).mpr hblank

/-- The command at a position, if it stands on one line, contains the position, or each character
from its end up to the position exists and is blank.  And if a pipeline that starts on the line
has a command for which this holds, with an element and not behind the column, then there is a
command at the position. -/
theorem commandUnder_across_blanks (hs : q.script.WellTyped) (hq : q.cancelled = false)
    (hline : 1 ≤ p.line) (hcolumn : 1 ≤ p.column) :
    (∀ S, q.commandUnder p = .ok (some S) →
      ∃ c ∈ q.script.nodes, q.script.commandAt? p = some c ∧ c.kind = .command ∧
        Symbol.ofCommand c = .ok (some S) ∧
        (c.extent.start.line = p.line → c.extent.stop.line = p.line →
          1 ≤ c.extent.stop.column →
          c.extent.contains p = true ∨
            q.script.BlankFrom p.line c.extent.stop.column p.column)) ∧
    ∀ pipe ∈ q.script.nodes, pipe.kind = .pipeline → pipe.extent.start.line = p.line →
      ∀ c ∈ pipe.childrenIn .elements, c.kind = .command → c.childrenIn .elements ≠ [] →
        c.extent.start.line = p.line → c.extent.stop.line = p.line →
        c.extent.start.column ≤ p.column →
        (c.extent.contains p = true ∨
          q.script.BlankFrom p.line c.extent.stop.column p.column) →
        ∃ S, q.commandUnder p = .ok (some S) := by
  constructor
  · intro S h
    obtain ⟨c, hc, hin, hk, hS⟩ := exists_of_commandUnder hs h
    refine ⟨c, hin.mem_nodes, hc, hk, hS, ?_⟩
    intro hstart hstop hfirst
    obtain ⟨-, ⟨-, hfrom, hreach⟩, -⟩ := Script.of_commandAt? hc
    exact contains_or_blankFrom hstart hstop hfirst hfrom hreach
  · intro pipe hpipe hkind hpline c hc hk hne hstart hstop hfrom hbehind
    exact (exists_commandUnder_iff hs hq hline hcolumn).mpr
      ⟨c, Script.mem_elementsOn.mpr ⟨pipe, hpipe, hkind, hpline, hc⟩, hk, hne, hfrom,
        le_reach_of_contains_or_blankFrom hstart hstop hbehind⟩

end Query

/-! ## Two commands with blanks between them -/

namespace GappedPipeline

/-- The text of a pipeline with blanks behind its first command. -/
def source : String := "Get-A   | Get-B"

/-- The script of the pipeline. -/
def script : Script := .ofTwoCommands source

end GappedPipeline

/-- In front of the bar the first command is found, with three blanks behind it. -/
theorem Query.commandUnder_across_blanks_pipeline :
    ∃ S c, (Query.on GappedPipeline.script).commandUnder ⟨1, 9⟩ = .ok (some S) ∧
      Symbol.ofCommand c = .ok (some S) ∧ c.extent.stop = ⟨1, 6⟩ ∧
      GappedPipeline.script.BlankFrom 1 6 9 := by
  have htyped : GappedPipeline.script.WellTyped := by decide +kernel
  obtain ⟨hbehind, hfound⟩ := Query.commandUnder_across_blanks (q := .on GappedPipeline.script)
    (p := ⟨1, 9⟩) htyped rfl (by decide) (by decide)
  have hplace : ∃ pipe ∈ GappedPipeline.script.nodes, pipe.kind = .pipeline ∧
      pipe.extent.start.line = 1 ∧ ∃ c ∈ pipe.childrenIn .elements, c.kind = .command ∧
        c.childrenIn .elements ≠ [] ∧ c.extent.start = ⟨1, 1⟩ ∧ c.extent.stop = ⟨1, 6⟩ := by
    decide +kernel
  have hblank : GappedPipeline.script.BlankFrom 1 6 9 := by
    rw [Script.blankFrom_iff (by decide)]
    decide +kernel
  obtain ⟨pipe, hpipe, hkind, hline, c, hc, hcommand, hname, hstart, hstop⟩ := hplace
  obtain ⟨S, hS⟩ := hfound pipe hpipe hkind hline c hc hcommand hname (by rw [hstart])
    (by rw [hstop]) (by rw [hstart]; decide) (Or.inr (by rw [hstop]; exact hblank))
  obtain ⟨d, -, hd, -, hdS, hgap⟩ := hbehind S hS
  have hends : (GappedPipeline.script.commandAt? ⟨1, 9⟩).all (fun found =>
      found.extent.start == ⟨1, 1⟩ && found.extent.stop == ⟨1, 6⟩) = true := by decide +kernel
  rw [show GappedPipeline.script.commandAt? ⟨1, 9⟩ = some d from hd, Option.all_some,
    Bool.and_eq_true, beq_iff_eq, beq_iff_eq] at hends
  obtain ⟨hdstart, hdstop⟩ := hends
  rcases hgap (by rw [hdstart]) (by rw [hdstop]) (by rw [hdstop]; decide) with hinside | hgap
  · obtain ⟨-, -, hend⟩ := Extent.contains_iff.mp hinside
    rw [hdstop] at hend
    exact absurd hend (by decide)
  · rw [hdstop] at hgap
    exact ⟨S, d, hS, hdS, hdstop, hgap⟩

end ScriptNavigation
