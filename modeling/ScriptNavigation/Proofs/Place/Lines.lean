/-
# Lines and positions

Positions count line feeds only, while the lines of a script end at each of ten kinds of line
breaks.  Both ways agree on what stands before an offset if it is broken by line feeds alone,
each of them possibly behind a carriage return: then the line on which the offset lies, by its
position, holds what stands before it on that line, and goes on with the text from the offset on
up to the next break of any kind.

Main facts:

* `lines_append`: the lines of a text, by those of its end and the position of the latter.
* `line_ofOffset`: the line on which an offset lies, and what stands before it.
* `textBetween_ofSpan`: a span without line breaks is found on its line, between its columns.
* `reach_ofSpan`: a command reaches over the blanks that follow it in the source.
* `textBetween_behind_form_feed`: behind a break of another kind a span is not found.
-/
import ScriptNavigation.Navigation.Cursor
import ScriptNavigation.Proofs.Reading.Field
import ScriptNavigation.Proofs.Result

namespace ScriptNavigation

/-! ## Positions after a text -/

namespace Position

/-- A text that starts one line later ends one line later. -/
theorem after_next_line (p : Position) (cs : List Char) :
    (⟨p.line + 1, p.column⟩ : Position).after cs =
      ⟨(p.after cs).line + 1, (p.after cs).column⟩ := by
  induction cs generalizing p with
  | nil => rfl
  | cons c cs ih =>
    rw [after_cons, after_cons, ← ih, step, step]
    split <;> rfl

/-- A text that starts one column later ends one column later, if it ends on the same line. -/
theorem after_next_column (p : Position) (cs : List Char) :
    (⟨p.line, p.column + 1⟩ : Position).after cs =
      if (p.after cs).line = p.line then ⟨p.line, (p.after cs).column + 1⟩ else p.after cs := by
  induction cs generalizing p with
  | nil => rw [after_nil, after_nil, if_pos rfl]
  | cons c cs ih =>
    rw [after_cons, after_cons, step, step]
    split
    · -- the line ends here, so that the column does not matter
      have hle := le_after ⟨p.line + 1, 1⟩ cs
      rw [le_def] at hle
      rw [if_neg (by dsimp only at hle ⊢; omega)]
    · exact ih ⟨p.line, p.column + 1⟩

/-- A text without a line feed ends on the line on which it starts. -/
theorem after_of_no_feed (p : Position) {cs : List Char} (h : ∀ c ∈ cs, c ≠ '\n') :
    p.after cs = ⟨p.line, p.column + cs.length⟩ := by
  induction cs generalizing p with
  | nil => simp
  | cons c cs ih =>
    rw [after_cons, step, if_neg (h c List.mem_cons_self),
      ih _ fun d hd => h d (List.mem_cons_of_mem c hd), List.length_cons]
    simp only [mk.injEq, true_and]
    omega

end Position

namespace Text

/-! ## Single lines -/

/-- A text is broken by line feeds only, each of them possibly behind a carriage return. -/
def brokenByFeeds : List Char → Bool
  | [] => true
  | '\r' :: '\n' :: rest => brokenByFeeds rest
  | c :: rest => (c == '\n' || !isLineBreak c) && brokenByFeeds rest

theorem lines_feed (cs : List Char) : lines ('\n' :: cs) = [] :: lines cs := by
  rw [lines.eq_3 '\n' cs (by intro _ h; exact absurd h (by decide)), if_pos (by decide)]

/-- A character that is no break stands at the start of the first line. -/
theorem lines_of_not_break {c : Char} (h : isLineBreak c = false) (cs : List Char) :
    lines (c :: cs) = extendFirst c (lines cs) := by
  have hne : c ≠ '\r' := by
    rintro rfl
    exact absurd h (by decide)
  rw [lines.eq_3 c cs (by intro _ hc; exact absurd hc hne), if_neg (by simp [h])]

/-- A text without breaks stands at the start of the first line. -/
theorem lines_append_of_no_break {text : List Char} (h : ∀ c ∈ text, isLineBreak c = false)
    (rest : List Char) : lines (text ++ rest) = text.foldr extendFirst (lines rest) := by
  induction text with
  | nil => rfl
  | cons c text ih =>
    rw [List.cons_append, lines_of_not_break (h c List.mem_cons_self), List.foldr_cons,
      ih fun d hd => h d (List.mem_cons_of_mem c hd)]

/-- The line behind some others is the first one of the rest. -/
theorem lineAt_append (full ls : List (List Char)) :
    lineAt (full ++ ls) (full.length + 1) = lineAt ls 1 := by
  have hnumber : ((full.length : Int) + 1 - 1).toNat = full.length := by omega
  rw [lineAt, lineAt, if_pos (by omega), if_pos (by omega), hnumber, List.getElem?_append_right
    (Nat.le_refl _), Nat.sub_self]
  rfl

/-- What is put in front of the first line stands at its start. -/
theorem lineAt_foldr_extendFirst (cur : List Char) (ls : List (List Char)) :
    lineAt (cur.foldr extendFirst ls) 1 = cur ++ lineAt ls 1 := by
  induction cur with
  | nil => rfl
  | cons c cur ih =>
    rw [List.cons_append, ← ih, List.foldr_cons]
    cases cur.foldr extendFirst ls <;> rfl

/-! ## All lines -/

/-- A text that is broken by line feeds only ends within a line, in the column and on the line of
the position after it: the lines before are complete, and that line goes on with the rest. -/
theorem lines_append {before : List Char} (h : brokenByFeeds before = true) :
    ∃ (full : List (List Char)) (cur : List Char),
      (∀ rest, lines (before ++ rest) = full ++ cur.foldr extendFirst (lines rest)) ∧
        Position.first.after before = ⟨full.length + 1, cur.length + 1⟩ := by
  induction before using brokenByFeeds.induct with
  | case1 => exact ⟨[], [], fun rest => rfl, rfl⟩
  | case2 before ih =>
    obtain ⟨full, cur, hlines, hplace⟩ := ih h
    refine ⟨[] :: full, cur, fun rest => congrArg (List.cons []) (hlines rest), ?_⟩
    exact (Position.after_next_line Position.first before).trans (by rw [hplace]; simp)
  | case3 c before hpair ih =>
    rw [brokenByFeeds.eq_3 c before hpair, Bool.and_eq_true, Bool.or_eq_true, beq_iff_eq] at h
    obtain ⟨hc, hbefore⟩ := h
    obtain ⟨full, cur, hlines, hplace⟩ := ih hbefore
    by_cases hfeed : c = '\n'
    · subst hfeed
      refine ⟨[] :: full, cur, fun rest => ?_, ?_⟩
      · rw [List.cons_append, lines_feed, hlines, List.cons_append]
      · exact (Position.after_next_line Position.first before).trans (by rw [hplace]; simp)
    · have hplain : isLineBreak c = false := by simpa [hfeed] using hc
      have hstep := Position.after_next_column Position.first before
      rw [hplace] at hstep
      cases full with
      | nil =>
        -- still on the first line, which starts with this character
        refine ⟨[], c :: cur, fun rest => ?_, ?_⟩
        · rw [List.cons_append, lines_of_not_break hplain, hlines]
          rfl
        · rw [Position.after_cons, Position.step, if_neg hfeed]
          exact hstep
      | cons line full =>
        refine ⟨(c :: line) :: full, cur, fun rest => ?_, ?_⟩
        · rw [List.cons_append, lines_of_not_break hplain, hlines]
          rfl
        · rw [Position.after_cons, Position.step, if_neg hfeed]
          exact hstep.trans (if_neg (by simp [Position.first]; omega))

end Text

/-! ## A remark in front of a command -/

namespace Remark

/-- A remark that ends in a character and a line feed, and a command on the next line. -/
def source (c : Char) : String := String.ofList ['#', c] ++ "\nGet-A "

/-- The script of the command. -/
def script (c : Char) : Script :=
  .inSource (source c) [.pipeline (.inSource (source c) 3 8)
    [.command (.inSource (source c) 3 8) "Get-A"]]

end Remark

/-! ## The line of a span -/

/-- The positions and the text of the extent of a span. -/
theorem Extent.of_ofSpan {source : String} {start stop : Int} {file : Option String}
    {e : Extent String} (h : ofSpan source start stop file = .ok e) :
    ∃ length : Nat, stop.toNat = start.toNat + length ∧
      e.start = .ofOffset source.toList start.toNat ∧
      e.stop = .ofOffset source.toList (start.toNat + length) ∧
      (source.toList.drop start.toNat).take length = e.text.toList := by
  unfold ofSpan at h
  dsimp only at h
  split at h
  · rename_i hspan
    cases h
    obtain ⟨length, hlength⟩ := Nat.exists_eq_add_of_le (Int.toNat_le_toNat hspan.2.1)
    refine ⟨length, hlength, rfl, congrArg (Position.ofOffset source.toList) hlength, ?_⟩
    rw [String.toList_ofList, hlength, List.drop_take, Nat.add_sub_cancel_left]
  · cases h

/-- The text of a span is as long as the span. -/
theorem Extent.toNat_stop_of_ofSpan {source : String} {start stop : Int} {file : Option String}
    {e : Extent String} (h : ofSpan source start stop file = .ok e) :
    stop.toNat = start.toNat + e.text.toList.length := by
  obtain ⟨hstart, hle, hstop⟩ := ofSpan_eq_ok_iff.mp ⟨e, h⟩
  obtain ⟨length, hlength, -, -, htext⟩ := of_ofSpan h
  rw [← htext, List.length_take_of_le, hlength]
  rw [List.length_drop]
  omega

/-- The extent of a span keeps the file. -/
theorem Extent.file_of_ofSpan {source : String} {start stop : Int} {file : Option String}
    {e : Extent String} (h : ofSpan source start stop file = .ok e) : e.file = file := by
  rw [ofSpan] at h
  split at h
  · cases h
    rfl
  · cases h

namespace Script

variable {s : Script}

/-- The part of a line from one column up to another one. -/
def textBetween (s : Script) (line start stop : Int) : String :=
  String.ofList (((s.line line).toList.take (stop - 1).toNat).drop (start - 1).toNat)

/-- The line on which an offset lies holds what stands before it on that line, and then the first
line of the rest. -/
theorem line_ofOffset {offset : Nat}
    (h : Text.brokenByFeeds (s.source.toList.take offset) = true) :
    ∃ cur : List Char, (Position.ofOffset s.source.toList offset).column = cur.length + 1 ∧
      (s.line (Position.ofOffset s.source.toList offset).line).toList =
        cur ++ Text.lineAt (Text.lines (s.source.toList.drop offset)) 1 := by
  obtain ⟨full, cur, hlines, hplace⟩ := Text.lines_append h
  refine ⟨cur, by rw [Position.ofOffset, hplace], ?_⟩
  have hsource : Text.lines s.source.toList =
      full ++ cur.foldr Text.extendFirst (Text.lines (s.source.toList.drop offset)) := by
    rw [← hlines, List.take_append_drop]
  rw [line, String.toList_ofList, Position.ofOffset, hplace, hsource, Text.lineAt_append,
    Text.lineAt_foldr_extendFirst]

/-- A stretch without line breaks stands on one line, behind what is before it on that line and in
front of the first line of the rest. -/
theorem line_of_stretch {offset length : Nat} {text : List Char}
    (htext : (s.source.toList.drop offset).take length = text)
    (hbefore : Text.brokenByFeeds (s.source.toList.take offset) = true)
    (hbreak : ∀ c ∈ text, Text.isLineBreak c = false) :
    ∃ cur : List Char,
      (Position.ofOffset s.source.toList offset).column = cur.length + 1 ∧
      Position.ofOffset s.source.toList (offset + length) =
        ⟨(Position.ofOffset s.source.toList offset).line, (cur ++ text).length + 1⟩ ∧
      (s.line (Position.ofOffset s.source.toList offset).line).toList =
        (cur ++ text) ++ Text.lineAt (Text.lines (s.source.toList.drop (offset + length))) 1 := by
  obtain ⟨cur, hcolumn, hline⟩ := line_ofOffset hbefore
  have hfeed : ∀ c ∈ text, c ≠ '\n' := by
    rintro c hc rfl
    exact absurd (hbreak _ hc) (by decide)
  have hrest : s.source.toList.drop offset = text ++ s.source.toList.drop (offset + length) := by
    rw [← htext, ← List.drop_drop, List.take_append_drop]
  refine ⟨cur, hcolumn, ?_, ?_⟩
  · rw [Position.ofOffset_add, htext, Position.after_of_no_feed _ hfeed, hcolumn,
      List.length_append]
    simp only [Position.mk.injEq, true_and]
    omega
  · rw [hline, hrest, Text.lines_append_of_no_break hbreak, Text.lineAt_foldr_extendFirst,
      List.append_assoc]

/-- A span without line breaks is found on the line on which it starts, between its columns, if
what stands before it in the source is broken by line feeds only. -/
theorem textBetween_ofSpan {start stop : Int} (file : Option String) (hstart : 0 ≤ start)
    (hle : start ≤ stop) (hstop : stop ≤ s.source.toList.length) :
    ∃ e, Extent.ofSpan s.source start stop file = .ok e ∧
      (Text.brokenByFeeds (s.source.toList.take start.toNat) = true →
        (∀ c ∈ e.text.toList, Text.isLineBreak c = false) →
          s.textBetween e.start.line e.start.column e.stop.column = e.text) := by
  obtain ⟨e, he⟩ := Extent.ofSpan_eq_ok_iff.mpr ⟨hstart, hle, hstop⟩
  refine ⟨e, he, ?_⟩
  intro hbefore hbreak
  obtain ⟨length, -, hestart, hestop, htext⟩ := Extent.of_ofSpan he
  obtain ⟨cur, hcolumn, hplace, hline⟩ := line_of_stretch htext hbefore hbreak
  have hfrom : ((cur.length : Int) + 1 - 1).toNat = cur.length := by omega
  have hto : (((cur ++ e.text.toList).length : Int) + 1 - 1).toNat =
      (cur ++ e.text.toList).length := by omega
  rw [textBetween, hestart, hestop, hplace, hline, hcolumn, hfrom, hto, List.take_left,
    List.drop_left, String.ofList_toList]

theorem textBetween_ofSpan_carriage_return :
    ∃ e, Extent.ofSpan (Remark.source '\r') 3 8 none = .ok e ∧ e.start = ⟨2, 1⟩ ∧
      (Remark.script '\r').textBetween 2 1 6 = "Get-A" := by
  obtain ⟨e, he, hfound⟩ := textBetween_ofSpan (s := Remark.script '\r') none
    (show (0 : Int) ≤ 3 by decide) (show (3 : Int) ≤ 8 by decide) (by decide +kernel)
  have hplace : (Extent.ofSpan (Remark.source '\r') 3 8 none).toOption.any (fun e =>
      e.start == ⟨2, 1⟩ && e.stop == ⟨2, 6⟩ && e.text == "Get-A" &&
        e.text.toList.all fun c => !Text.isLineBreak c) = true := by decide +kernel
  obtain ⟨e', he', hplace⟩ := Result.exists_of_toOption_any hplace
  obtain rfl : e' = e := Except.ok.inj (he'.symm.trans he)
  simp only [Bool.and_eq_true, beq_iff_eq, List.all_eq_true, Bool.not_eq_true'] at hplace
  obtain ⟨⟨⟨hstart, hstop⟩, htext⟩, hbreak⟩ := hplace
  refine ⟨e', he', hstart, ?_⟩
  have hslice := hfound (by decide +kernel) hbreak
  rwa [hstart, hstop, htext] at hslice

/-- Behind a form feed lines are counted otherwise than positions: a span is not found on its line,
and no command is found over the blank behind it. -/
theorem textBetween_behind_form_feed :
    (Remark.script '\x0c').WellTyped ∧
      ∃ e, Extent.ofSpan (Remark.script '\x0c').source 3 8 none = .ok e ∧
        (∀ c ∈ e.text.toList, c ≠ '\n' ∧ c ≠ '\r') ∧
        (Remark.script '\x0c').textBetween e.start.line e.start.column e.stop.column ≠ e.text ∧
        (Query.on (Remark.script '\x0c')).commandUnder ⟨2, 7⟩ = .ok none := by
  have hspan : (Extent.ofSpan (Remark.script '\x0c').source 3 8 none).toOption.any (fun e =>
      e.text == "Get-A" && (e.text.toList.all fun c => c != '\n' && c != '\r') &&
        (Remark.script '\x0c').textBetween e.start.line e.start.column e.stop.column == "") =
          true := by decide +kernel
  have hcommand : ((Query.on (Remark.script '\x0c')).commandUnder ⟨2, 7⟩).toOption.any
      Option.isNone = true := by decide +kernel
  obtain ⟨e, he, hspan⟩ := Result.exists_of_toOption_any hspan
  obtain ⟨found, hfound, hnone⟩ := Result.exists_of_toOption_any hcommand
  simp only [Bool.and_eq_true, beq_iff_eq, List.all_eq_true, bne_iff_ne] at hspan
  obtain ⟨⟨htext, hplain⟩, hslice⟩ := hspan
  rw [Option.isNone_iff_eq_none] at hnone
  refine ⟨by decide +kernel, e, he, hplain, ?_, hnone ▸ hfound⟩
  rw [hslice, htext]
  decide +kernel

/-- A command without line breaks reaches over the blanks that follow it in the source on the same
line, if what stands before it is broken by line feeds only. -/
theorem reach_ofSpan {start stop : Int} {file : Option String} {e : Extent String}
    (h : Extent.ofSpan s.source start stop file = .ok e)
    (hbefore : Text.brokenByFeeds (s.source.toList.take start.toNat) = true)
    (hbreak : ∀ c ∈ e.text.toList, Text.isLineBreak c = false) :
    Query.reach s e = e.stop.column +
      ((Text.lineAt (Text.lines (s.source.toList.drop stop.toNat)) 1).takeWhile
        Text.isBlank).length := by
  obtain ⟨length, hstop, hestart, hestop, htext⟩ := Extent.of_ofSpan h
  obtain ⟨cur, -, hplace, hline⟩ := line_of_stretch htext hbefore hbreak
  have hto : (((cur ++ e.text.toList).length : Int) + 1 - 1).toNat =
      (cur ++ e.text.toList).length := by omega
  have hremaining : Text.dropFrom (s.line e.start.line).toList (e.stop.column - 1) =
      Text.lineAt (Text.lines (s.source.toList.drop stop.toNat)) 1 := by
    rw [hestart, hestop, hplace, hline, Text.dropFrom, if_neg (by dsimp only; omega), hto,
      List.drop_left, hstop]
  have hsameLine : e.stop.line = e.start.line := by rw [hestop, hplace, hestart]
  rw [Query.reach, if_neg (not_not_intro hsameLine), hremaining]

end Script

end ScriptNavigation
