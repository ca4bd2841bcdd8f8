/-
# Offsets and positions

The lines of a text that positions count start at its beginning and behind each line feed.  The
line of an offset is the last one that starts at or before the offset, and its column counts from
there.  So an offset is recovered from its position: it is where the line starts, plus the column.
Different offsets have different positions, which come in the order of the offsets.

Main facts:

* `Text.lineStarts_append`: where the lines of a longer text start.
* `Position.after_first`: the position behind a text, by where its lines start.
* `Position.offsetIn?_ofOffset`: an offset is recovered from its position.
* `Position.ofOffset_strictMono`: a later offset has a later position.
* `Extent.ofSpan_converts`: which spans have extents, and how these stand for the offsets.
-/
import Mathlib.Data.List.Induction
import ScriptNavigation.Proofs.Place.Lines

namespace ScriptNavigation

namespace Text

/-! ## Where lines start -/

/-- The offsets at which the lines of a text start: its beginning, and what follows each line
feed. -/
def lineStarts (cs : List Char) : List Nat := 0 :: (cs.idxsOf '\n').map (· + 1)

theorem length_lineStarts_pos (cs : List Char) : 0 < (lineStarts cs).length :=
  Nat.succ_pos _

/-- The lines of a longer text start where those of its beginning do, and behind the line feeds of
the rest. -/
theorem lineStarts_append (as bs : List Char) :
    lineStarts (as ++ bs) = lineStarts as ++ (bs.idxsOf '\n' as.length).map (· + 1) := by
  rw [lineStarts, lineStarts, List.idxsOf_append, List.map_append, List.cons_append, Nat.zero_add]

/-- A line feed starts a line behind itself. -/
theorem lineStarts_concat_feed (cs : List Char) :
    lineStarts (cs ++ ['\n']) = lineStarts cs ++ [cs.length + 1] := by
  rw [lineStarts_append]
  rfl

/-- No other character starts a line. -/
theorem lineStarts_concat {c : Char} (h : c ≠ '\n') (cs : List Char) :
    lineStarts (cs ++ [c]) = lineStarts cs := by
  rw [lineStarts_append, List.idxsOf_cons, if_neg (by simpa using h), List.idxsOf_nil,
    List.map_nil, List.append_nil]

end Text

namespace Position

open Text

variable {cs : List Char}

/-! ## Offsets of positions -/

/-- The offset in a text at which a position stands: its column, counted from where its line
starts. -/
def offsetIn? (p : Position) (cs : List Char) : Option Int :=
  if 1 ≤ p.line then
    (lineStarts cs)[(p.line - 1).toNat]?.map fun start : Nat => start + p.column - 1
  else none

/-- Behind a text the line is the number of lines that have started, and the column counts from
where the last one of them has. -/
theorem after_first (before : List Char) :
    ∃ start, (lineStarts before).getLast? = some start ∧
      first.after before = ⟨(lineStarts before).length, before.length - start + 1⟩ := by
  -- from the right, since it is the last character that may start another line
  induction before using List.reverseRecOn with
  | nil => exact ⟨0, rfl, rfl⟩
  | append_singleton before c ih =>
    obtain ⟨start, hlast, hplace⟩ := ih
    rw [after_append, hplace, after_cons, after_nil, step, List.length_append]
    by_cases hc : c = '\n'
    · subst hc
      refine ⟨before.length + 1, ?_, ?_⟩
      · rw [lineStarts_concat_feed, List.getLast?_concat]
      · rw [if_pos rfl, lineStarts_concat_feed, List.length_append]
        simp
    · refine ⟨start, ?_, ?_⟩
      · rw [lineStarts_concat hc, hlast]
      · rw [if_neg hc, lineStarts_concat hc]
        simp only [List.length_singleton, mk.injEq, true_and]
        omega

/-- An offset is recovered from its position. -/
theorem offsetIn?_ofOffset {offset : Nat} (h : offset ≤ cs.length) :
    (ofOffset cs offset).offsetIn? cs = some (offset : Int) := by
  obtain ⟨start, hlast, hplace⟩ := after_first (cs.take offset)
  have hpos := length_lineStarts_pos (cs.take offset)
  have hcs : lineStarts cs = lineStarts (cs.take offset) ++
      ((cs.drop offset).idxsOf '\n' (cs.take offset).length).map (· + 1) := by
    rw [← lineStarts_append, List.take_append_drop]
  have hnumber : (((lineStarts (cs.take offset)).length : Int) - 1).toNat =
      (lineStarts (cs.take offset)).length - 1 := by omega
  -- lines that start behind the offset come later in the list, so that its own line stays in place
  have hline : (lineStarts cs)[(lineStarts (cs.take offset)).length - 1]? = some start := by
    rw [hcs, List.getElem?_append_left (by omega), ← List.getLast?_eq_getElem?, hlast]
  have hlength : (cs.take offset).length = offset := List.length_take_of_le h
  rw [offsetIn?, ofOffset, hplace, if_pos (by dsimp only; omega)]
  dsimp only
  rw [hnumber, hline, hlength, Option.map_some, Option.some_inj]
  omega

/-- A later offset has a later position. -/
theorem ofOffset_strictMono {a b : Nat} (hab : a < b) (hb : b ≤ cs.length) :
    ofOffset cs a < ofOffset cs b := by
  rcases le_iff_eq_or_lt.mp (ofOffset_mono cs (Nat.le_of_lt hab)) with heq | hlt
  · -- two offsets at the same position would be the same
    have ha : (ofOffset cs a).offsetIn? cs = some (a : Int) := offsetIn?_ofOffset (by omega)
    rw [heq, offsetIn?_ofOffset hb, Option.some_inj] at ha
    omega
  · exact hlt

end Position

namespace Extent

open Position

variable {source : String} {start stop : Int} {file : Option String} {e : Extent String}

/-! ## Extents of spans -/

/-- A span is refused that does not lie in its source. -/
theorem ofSpan_eq_error
    (h : start < 0 ∨ stop < start ∨ (source.toList.length : Int) < stop) :
    ofSpan source start stop file = .error (.rejected
      (.spanOutside (toString start) (toString stop) source.toList.length)) := by
  rw [ofSpan]
  exact dif_neg (by omega)

/-- The positions of a span are never in the wrong order, so that they have an extent. -/
theorem between_of_ofSpan (h : ofSpan source start stop file = .ok e) :
    between (ofOffset source.toList start.toNat) (ofOffset source.toList stop.toNat) e.text file =
      .ok e := by
  obtain ⟨length, hlength, hstart, hstop, -⟩ := of_ofSpan h
  rw [hlength, ← hstart, ← hstop, ← file_of_ofSpan h]
  exact dif_pos e.start_le_stop

/-- The text of a span stands in the source between the offsets. -/
theorem source_of_ofSpan (h : ofSpan source start stop file = .ok e) :
    ∃ before after, source.toList = before ++ e.text.toList ++ after ∧
      (before.length : Int) = start ∧ ((before ++ e.text.toList).length : Int) = stop := by
  obtain ⟨hstart, hle, hstop⟩ := ofSpan_eq_ok_iff.mp ⟨e, h⟩
  obtain ⟨length, hlength, -, -, htext⟩ := of_ofSpan h
  have hinner := toNat_stop_of_ofSpan h
  have hbefore : (source.toList.take start.toNat).length = start.toNat :=
    List.length_take_of_le (by omega)
  refine ⟨source.toList.take start.toNat, source.toList.drop (start.toNat + length), ?_, ?_, ?_⟩
  · rw [← htext, List.append_assoc, ← List.drop_drop, List.take_append_drop,
      List.take_append_drop]
  · rw [hbefore]
    omega
  · rw [List.length_append, hbefore]
    omega

/-- Offsets and positions are converted without loss.  A span that does not lie in its source is
refused.  Any other one has an extent, since its positions are never in the wrong order; the text
of the extent is that of the source between the offsets, and each offset is recovered from its
position.  So a later offset has a later position. -/
theorem ofSpan_converts (source : String) (start stop : Int) (file : Option String) :
    (start < 0 ∨ stop < start ∨ (source.toList.length : Int) < stop →
      ofSpan source start stop file = .error (.rejected
        (.spanOutside (toString start) (toString stop) source.toList.length))) ∧
      (0 ≤ start → start ≤ stop → stop ≤ source.toList.length →
        ∃ e, ofSpan source start stop file = .ok e ∧
          between (ofOffset source.toList start.toNat) (ofOffset source.toList stop.toNat) e.text
            file = .ok e ∧
          (∃ before after, source.toList = before ++ e.text.toList ++ after ∧
            (before.length : Int) = start ∧
              ((before ++ e.text.toList).length : Int) = stop) ∧
          e.start.offsetIn? source.toList = some start ∧
          e.stop.offsetIn? source.toList = some stop) ∧
      ∀ a b : Nat, a < b → b ≤ source.toList.length →
        ofOffset source.toList a < ofOffset source.toList b := by
  refine ⟨ofSpan_eq_error, ?_, fun a b => ofOffset_strictMono⟩
  intro hstart hle hstop
  obtain ⟨e, he⟩ := ofSpan_eq_ok_iff.mpr ⟨hstart, hle, hstop⟩
  obtain ⟨length, hlength, hestart, hestop, -⟩ := of_ofSpan he
  refine ⟨e, he, between_of_ofSpan he, source_of_ofSpan he, ?_, ?_⟩
  · rw [hestart, offsetIn?_ofOffset (by omega), Int.toNat_of_nonneg hstart]
  · rw [hestop, ← hlength, offsetIn?_ofOffset (by omega),
      Int.toNat_of_nonneg (Int.le_trans hstart hle)]

/-- A span that starts on a line feed and ends behind the last one, where no further line is. -/
theorem ofSpan_converts_line_feeds :
    ofSpan "a\nb\n" 3 2 none = .error (.rejected (.spanOutside "3" "2" 4)) ∧
      (∃ e, ofSpan "a\nb\n" 1 4 none = .ok e ∧ e.start = ⟨1, 2⟩ ∧ e.stop = ⟨3, 1⟩ ∧
        e.start.offsetIn? "a\nb\n".toList = some 1 ∧ e.stop.offsetIn? "a\nb\n".toList = some 4) ∧
      ofOffset "a\nb\n".toList 1 < ofOffset "a\nb\n".toList 2 := by
  obtain ⟨hrefused, -, -⟩ := ofSpan_converts "a\nb\n" 3 2 none
  obtain ⟨-, hspan, hlater⟩ := ofSpan_converts "a\nb\n" 1 4 none
  obtain ⟨e, he, -, -, hstart, hstop⟩ := hspan (by decide) (by decide) (by decide)
  obtain ⟨length, hlength, hestart, hestop, -⟩ := of_ofSpan he
  refine ⟨hrefused (by decide), ⟨e, he, ?_, ?_, hstart, hstop⟩, hlater 1 2 (by decide) (by decide)⟩
  · rw [hestart]
    decide
  · rw [hestop, ← hlength]
    decide

end Extent

end ScriptNavigation
