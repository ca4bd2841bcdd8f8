/-
# Where names stand

The extent of a name is carved out of the extent around it: the name is looked for in the text,
and the offset at which it occurs first is added to the column of the start, as if there were no
line feeds.  The name really stands in the source at the offset of the start plus the one found.
Both agree exactly if there is no line feed in the text up to the end of the name, for otherwise
the name ends on a later line than the extent starts on.

Main facts:

* `Text.indexOf?_eq_some_iff`: a text is found at the first offset at which it occurs.
* `Position.line_after`: a text moves the line by its line feeds.
* `Extent.exists_ofSpan_within`: the extent of a part of a span.
* `Extent.piece_eq_iff`: when a part of a span is the piece counted in columns.
* `Extent.narrowTo_eq_ofSpan_iff`: when the extent of a name is its place in the source.
-/
import ScriptNavigation.Proofs.Place.Layout
import ScriptNavigation.Symbol.Naming

namespace ScriptNavigation

/-! ## The first occurrence of a text -/

/-- A text that occurs at the beginning occurs first there. -/
theorem Text.zero_eq_iff_first {pattern cs : List Char} (h : pattern <+: cs) {i : Nat} :
    0 = i ↔ pattern <+: cs.drop i ∧ ∀ j < i, ¬ pattern <+: cs.drop j := by
  constructor
  · rintro rfl
    exact ⟨h, fun j hj => absurd hj (Nat.not_lt_zero j)⟩
  · rintro ⟨-, hfirst⟩
    cases i with
    | zero => rfl
    | succ i => exact absurd h (hfirst 0 (Nat.succ_pos i))

/-- A text is found at the first offset at which it occurs. -/
theorem Text.indexOf?_eq_some_iff {pattern cs : List Char} {i : Nat} :
    Text.indexOf? pattern cs = some i ↔
      pattern <+: cs.drop i ∧ ∀ j < i, ¬ pattern <+: cs.drop j := by
  induction cs generalizing i with
  | nil =>
    rw [Text.indexOf?]
    by_cases hp : pattern = []
    · rw [if_pos (List.isEmpty_iff.mpr hp), Option.some_inj]
      exact Text.zero_eq_iff_first (List.prefix_nil.mpr hp)
    · simp [hp]
  | cons c cs ih =>
    rw [Text.indexOf?]
    by_cases hp : pattern <+: c :: cs
    · rw [if_pos (List.isPrefixOf_iff_prefix.mpr hp), Option.some_inj]
      exact Text.zero_eq_iff_first hp
    · rw [if_neg (fun h => hp (List.isPrefixOf_iff_prefix.mp h)), Option.map_eq_some_iff]
      constructor
      · rintro ⟨i, hi, rfl⟩
        obtain ⟨hoccurs, hfirst⟩ := ih.mp hi
        refine ⟨hoccurs, ?_⟩
        intro j hj
        cases j with
        | zero => exact hp
        | succ j => exact hfirst j (Nat.lt_of_succ_lt_succ hj)
      · rintro ⟨hoccurs, hfirst⟩
        cases i with
        | zero => exact absurd hoccurs hp
        | succ i =>
          refine ⟨i, ih.mpr ⟨hoccurs, ?_⟩, rfl⟩
          intro j hj
          exact hfirst (j + 1) (Nat.succ_lt_succ hj)

/-- A text moves the line by its line feeds. -/
theorem Position.line_after (p : Position) (cs : List Char) :
    (p.after cs).line = p.line + cs.count '\n' := by
  induction cs generalizing p with
  | nil => simp
  | cons c cs ih =>
    rw [after_cons, ih, step, List.count_cons]
    by_cases hc : c = '\n'
    · subst hc
      rw [if_pos rfl, if_pos (beq_self_eq_true '\n')]
      push_cast
      omega
    · rw [if_neg hc, if_neg (by simpa using hc)]
      rfl

/-- A class that takes several lines, with a constructor. -/
def ClassBody.source : String := "\nclass A \x7b\n  A() \x7b\x7d\n\x7d"

namespace Extent

open Position

variable {source : String} {start stop : Int} {file : Option String}
variable {e q : Extent String}

/-! ## Parts of a span -/

/-- The position of an offset within a span is behind the text up to there. -/
theorem ofOffset_within (h : ofSpan source start stop file = .ok e) {n : Nat}
    (hn : n ≤ e.text.toList.length) :
    ofOffset source.toList (start.toNat + n) = e.start.after (e.text.toList.take n) := by
  obtain ⟨length, hlength, hstart, -, htext⟩ := of_ofSpan h
  have hinner := toNat_stop_of_ofSpan h
  have hle : n ≤ length := by omega
  rw [hstart, ofOffset_add, ← htext, List.take_take, Nat.min_eq_left hle]

/-- A part of a span has an extent, which starts and ends behind the text up to there. -/
theorem exists_ofSpan_within (h : ofSpan source start stop file = .ok e) {i n : Nat}
    (hle : i + n ≤ e.text.toList.length) :
    ∃ q, ofSpan source (start + i) (start + i + n) file = .ok q ∧
      q.start = e.start.after (e.text.toList.take i) ∧
      q.stop = e.start.after (e.text.toList.take (i + n)) ∧
      q.text.toList = (e.text.toList.drop i).take n ∧ q.file = e.file := by
  obtain ⟨hstart, hstop, hsource⟩ := ofSpan_eq_ok_iff.mp ⟨e, h⟩
  obtain ⟨length, hlength, -, -, htext⟩ := of_ofSpan h
  have hinner := toNat_stop_of_ofSpan h
  have hinside : ∃ q, ofSpan source (start + i) (start + i + n) file = .ok q :=
    ofSpan_eq_ok_iff.mpr ⟨by omega, by omega, by omega⟩
  obtain ⟨q, hq⟩ := hinside
  obtain ⟨m, hm, hqstart, hqstop, hqtext⟩ := of_ofSpan hq
  have hi : (start + i).toNat = start.toNat + i := by omega
  obtain rfl : m = n := by omega
  refine ⟨q, hq, ?_, ?_, ?_, (file_of_ofSpan hq).trans (file_of_ofSpan h).symm⟩
  · rw [hqstart, hi, ofOffset_within h (by omega)]
  · rw [hqstop, hi, Nat.add_assoc, ofOffset_within h hle]
  · rw [← hqtext, hi, ← htext, List.drop_take, List.take_take, List.drop_drop,
      Nat.min_eq_left (by omega)]

/-- A part of a span is the piece that is counted in columns exactly if there is no line feed in
the text up to its end. -/
theorem piece_eq_iff {i n : Nat} {text : String} (hle : i + n ≤ e.text.toList.length)
    (hstart : q.start = e.start.after (e.text.toList.take i))
    (hstop : q.stop = e.start.after (e.text.toList.take (i + n)))
    (htext : q.text = text) (hfile : q.file = e.file) :
    e.piece i n text = q ↔ '\n' ∉ e.text.toList.take (i + n) := by
  have hlength : (e.text.toList.take (i + n)).length = i + n := List.length_take_of_le hle
  constructor
  · intro hq hfeed
    -- the text up to the end of the part ends on a later line
    have hline := line_after e.start (e.text.toList.take (i + n))
    rw [← hstop, ← hq] at hline
    have hcount : 0 < (e.text.toList.take (i + n)).count '\n' := List.count_pos_iff.mpr hfeed
    have hpiece : (e.piece i n text).stop.line = e.start.line := rfl
    omega
  · intro hfeed
    have hplain : ∀ c ∈ e.text.toList.take (i + n), c ≠ '\n' := by
      rintro c hc rfl
      exact hfeed hc
    have hbefore : ∀ c ∈ e.text.toList.take i, c ≠ '\n' := fun c hc =>
      hplain c ((List.take_prefix_take_left (Nat.le_add_right i n)).subset hc)
    have hi : (e.text.toList.take i).length = i := List.length_take_of_le (by omega)
    rw [after_of_no_feed _ hbefore, hi] at hstart
    rw [after_of_no_feed _ hplain, hlength] at hstop
    obtain ⟨qstart, qstop, qtext, qfile, hqle⟩ := q
    dsimp only at hstart hstop htext hfile
    subst hstart hstop htext hfile
    simp only [piece, mk.injEq, and_true, true_and, Position.mk.injEq]
    push_cast
    omega

/-- The whole extent is told by the extent. -/
theorem wholeExtent_inj {d e : Extent String} : wholeExtent d = wholeExtent e ↔ d = e := by
  constructor
  · intro h
    obtain ⟨start, stop, text, file, hle⟩ := d
    obtain ⟨start', stop', text', file', hle'⟩ := e
    simpa [wholeExtent, withText] using h
  · rintro rfl
    rfl

/-- The extent of a name is the place in the source at which the name occurs first in the text of
the extent around it, exactly if there is no line feed in that text up to the end of the name. -/
theorem narrowTo_eq_ofSpan_iff (h : ofSpan source start stop file = .ok e) {name : String}
    (hne : name ≠ "") {i : Nat} (hi : name.toList <+: e.text.toList.drop i)
    (hfirst : ∀ j < i, ¬ name.toList <+: e.text.toList.drop j) :
    ∃ q, ofSpan source (start + i) (start + i + name.toList.length) file = .ok q ∧
      (narrowTo e (.str name) = .ok (wholeExtent q) ↔
        '\n' ∉ e.text.toList.take (i + name.toList.length)) := by
  have hfound := Text.indexOf?_eq_some_iff.mpr ⟨hi, hfirst⟩
  have hle : i + name.toList.length ≤ e.text.toList.length := Text.le_of_indexOf? hfound
  obtain ⟨q, hq, hstart, hstop, htext, hfile⟩ := exists_ofSpan_within h hle
  have hname : q.text = name := by
    apply String.toList_inj.mp
    rw [htext]
    exact (List.prefix_iff_eq_take.mp hi).symm
  have hnamed : e.named? name = some (e.piece i name.toList.length name) := by
    rw [named?, if_neg hne, hfound]
    rfl
  refine ⟨q, hq, ?_⟩
  rw [narrowTo_text, hnamed, Option.getD_some, Except.ok.injEq, wholeExtent_inj,
    piece_eq_iff hle hstart hstop hname hfile]

/-- The name of a class stands on the line on which the class starts, but the name of its
constructor does not. -/
theorem narrowTo_eq_ofSpan_iff_class :
    ∃ e, ofSpan ClassBody.source 1 21 none = .ok e ∧
      (∃ q, ofSpan ClassBody.source 7 8 none = .ok q ∧
        narrowTo e (.str "A") = .ok (wholeExtent q)) ∧
      ∃ q, ofSpan ClassBody.source 13 16 none = .ok q ∧
        narrowTo e (.str "A()") ≠ .ok (wholeExtent q) := by
  have hspan : (ofSpan ClassBody.source 1 21 none).toOption.any (fun e =>
      e.text == "class A \x7b\n  A() \x7b\x7d\n\x7d") = true := by decide +kernel
  obtain ⟨e, he, htext⟩ := Result.exists_of_toOption_any hspan
  have htext := eq_of_beq htext
  obtain ⟨q, hq, hiff⟩ := narrowTo_eq_ofSpan_iff he (show "A" ≠ "" by decide) (i := 6)
    (by rw [htext]; decide) (by rw [htext]; decide)
  obtain ⟨q', hq', hiff'⟩ := narrowTo_eq_ofSpan_iff he (show "A()" ≠ "" by decide) (i := 12)
    (by rw [htext]; decide) (by rw [htext]; decide)
  refine ⟨e, he, ⟨q, hq, hiff.mpr ?_⟩, q', hq', fun hsame => hiff'.mp hsame ?_⟩
  · rw [htext]
    decide
  · rw [htext]
    decide

end Extent

end ScriptNavigation
