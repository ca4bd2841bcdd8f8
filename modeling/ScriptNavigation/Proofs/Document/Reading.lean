/-
# What a reader reports

A reader stops between two characters whenever the document is a text, since every token ends
with a byte of seven bits.  So the strings in a text are texts, and no reader finds fault with
their bytes.  A reader that meets a mismatch reports it with a message without tags, if the names
in the form are without tags.  Room for nesting is wanted only where it is limited.

Main facts:

* `Yields.bind`: what two readers yield one after the other.
* `yields_readQuoted`: a string in a text is a text.
* `yields_read`: what the readers of values, items and members yield, by induction on the fuel.
* `untagged_of_decode`, `ne_invalidText_of_decode`: both facts for a whole document.
* `ne_tooDeep_of_decode`: without a limit a document is read however deep it is nested.
-/
import ScriptNavigation.Proofs.Document.Encoding
import ScriptNavigation.Proofs.Document.Mismatch

namespace ScriptNavigation

open Markup

namespace Json

/-! ## What a reader yields -/

section Yields

variable {α β : Type} {T L : Prop}

/-- What a reader yields, given that the document is a text if `T` holds, and that the room for
nesting is limited only if `L` does: its result is good if it is read from a text, no fault is
found with the bytes of a text, a mismatch is reported without tags, and room is wanted only where
it is limited. -/
def Yields (T L : Prop) (good : α → Prop) : Reading α → Prop
  | .ok a => T → good a
  | .error .truncated => True
  | .error (.malformed _ _) => True
  | .error .invalidText => ¬T
  | .error (.mismatch m) => Untagged m.message
  | .error .tooDeep => L

/-- What two readers yield one after the other. -/
theorem Yields.bind {good : α → Prop} {good' : β → Prop} {x : Reading α} {f : α → Reading β}
    (hx : Yields T L good x) (hf : ∀ a, (T → good a) → Yields T L good' (f a)) :
    Yields T L good' (x >>= f) := by
  cases x with
  | ok a => exact hf a hx
  | error p => cases p <;> exact hx

/-- What is made of a result. -/
theorem Yields.map {good : α → Prop} {good' : β → Prop} {x : Reading α} {f : α → β}
    (hx : Yields T L good x) (hf : ∀ a, good a → good' (f a)) : Yields T L good' (x.map f) := by
  cases x with
  | ok a => exact fun hT => hf a (hx hT)
  | error p => cases p <;> exact hx

end Yields

/-- What is left after a reader has read something is a text. -/
def LeavesText {α : Type} (r : α × Bytes) : Prop := IsText r.2

variable {T L : Prop} {s : Bytes}

/-! ## Tokens -/

/-- Separators have seven bits. -/
theorem lt_of_isSpace {b : UInt8} (h : isSpace b = true) : b < 0x80 := by
  simp only [isSpace, Bool.or_eq_true, beq_iff_eq] at h
  rcases h with ((rfl | rfl) | rfl) | rfl <;> decide

/-- Digits have seven bits. -/
theorem lt_of_isDigit {b : UInt8} (h : isDigit b = true) : b < 0x80 := by
  simp only [isDigit, Bool.and_eq_true, decide_eq_true_eq] at h
  exact Nat.lt_of_le_of_lt h.2 (by decide)

/-- Hexadecimal digits have seven bits. -/
theorem lt_of_hexValue? {b : UInt8} {n : Nat} (h : hexValue? b = some n) : b < 0x80 := by
  unfold hexValue? at h
  split at h
  · exact lt_of_isDigit ‹_›
  · split at h
    · rename_i hletter
      simp only [Bool.and_eq_true, decide_eq_true_eq] at hletter
      exact Nat.lt_of_le_of_lt hletter.2 (by decide)
    · split at h
      · rename_i hletter
        simp only [Bool.and_eq_true, decide_eq_true_eq] at hletter
        exact Nat.lt_of_le_of_lt hletter.2 (by decide)
      · cases h

/-- What follows a character of seven bits is a text. -/
theorem isText_behind {c : Char} {b : UInt8} {rest : Bytes} (hb : (b == byte c) = true)
    (hc : byte c < 0x80) (hs : T → IsText (b :: rest)) : T → IsText rest := by
  intro hT
  apply IsText.tail _ (hs hT)
  rw [beq_iff_eq.mp hb]
  exact hc

/-- After separators a text goes on. -/
theorem isText_skipSpaces (h : IsText s) : IsText (skipSpaces s) :=
  h.dropWhile fun _ => lt_of_isSpace

theorem yields_readWord {word : String} {v : Json}
    (hword : (word.toList.map byte).all (fun b => b < 0x80) = true)
    (hs : T → IsText s) : Yields T L LeavesText (readWord word v s) := by
  unfold readWord
  dsimp only
  split
  · have hseven : ∀ b ∈ word.toList.map byte, b < 0x80 := fun b hb =>
      of_decide_eq_true (List.all_eq_true.mp hword b hb)
    intro hT
    exact (hs hT).drop_token hseven (List.isPrefixOf_iff_prefix.mp ‹_›)
  · split <;> trivial

theorem yields_readDigits (hs : T → IsText s) : Yields T L LeavesText (readDigits s) := by
  unfold readDigits
  dsimp only
  split
  · trivial
  · intro hT
    exact (hs hT).dropWhile fun _ => lt_of_isDigit

theorem yields_readFraction (hs : T → IsText s) : Yields T L LeavesText (readFraction s) := by
  unfold readFraction
  split
  · rename_i b rest
    split
    · exact (yields_readDigits (isText_behind ‹_› (by decide) hs)).map fun _ h => h
    · exact hs
  · exact hs

theorem yields_readExponent (hs : T → IsText s) : Yields T L LeavesText (readExponent s) := by
  unfold readExponent
  split
  · rename_i b rest
    split
    · rename_i hb
      have hrest : T → IsText rest := by
        rcases (Bool.or_eq_true _ _).mp hb with hb | hb
        · exact isText_behind hb (by decide) hs
        · exact isText_behind hb (by decide) hs
      split
      · rename_i sign rest'
        split
        · exact (yields_readDigits (isText_behind ‹_› (by decide) hrest)).map fun _ h => h
        · split
          · exact (yields_readDigits (isText_behind ‹_› (by decide) hrest)).map fun _ h => h
          · exact (yields_readDigits hrest).map fun _ h => h
      · trivial
    · exact hs
  · exact hs

theorem yields_readNumeral (hs : T → IsText s) : Yields T L LeavesText (readNumeral s) := by
  have hdigits : T → IsText (if s.head? == some (byte '-') then s.drop 1 else s) := by
    intro hT
    cases s with
    | nil => exact hs hT
    | cons b rest =>
      split
      · rename_i hsign
        rw [List.head?_cons, beq_iff_eq, Option.some_inj] at hsign
        refine (hs hT).tail ?_
        rw [hsign]
        decide
      · exact hs hT
  refine (yields_readDigits hdigits).bind fun r hr => ?_
  dsimp only
  split
  · trivial
  · refine (yields_readFraction hr).bind fun r hr => ?_
    refine (yields_readExponent hr).bind fun r hr => ?_
    exact hr

/-! ## Strings -/

theorem yields_readUnit (hs : T → IsText s) : Yields T L LeavesText (readUnit s) := by
  unfold readUnit
  split
  · split
    · rename_i ha hb hc hd
      intro hT
      exact ((((hs hT).tail (lt_of_hexValue? ha)).tail (lt_of_hexValue? hb)).tail
        (lt_of_hexValue? hc)).tail (lt_of_hexValue? hd)
    · trivial
  · trivial

/-- Both what is read and what is left are texts. -/
def ReadsText (r : Bytes × Bytes) : Prop := IsText r.1 ∧ IsText r.2

theorem yields_readEscapedPoint (hs : T → IsText s) :
    Yields T L ReadsText (readEscapedPoint s) := by
  refine (yields_readUnit hs).bind fun r hr => ?_
  obtain ⟨unit, rest⟩ := r
  dsimp only
  split
  · split
    · rename_i b u rest'
      split
      · rename_i hbu
        rw [Bool.and_eq_true, beq_iff_eq, beq_iff_eq] at hbu
        obtain ⟨rfl, rfl⟩ := hbu
        have hrest : T → IsText rest' := fun hT =>
          (IsText.tail (by decide) (hr hT)).tail (by decide)
        refine (yields_readUnit hrest).bind fun r hr => ?_
        obtain ⟨low, rest''⟩ := r
        dsimp only
        split
        · exact fun hT => ⟨isText_bytesOf _, hr hT⟩
        · trivial
      · trivial
    · trivial
  · split
    · trivial
    · exact fun hT => ⟨isText_bytesOf _, hr hT⟩

/-- A byte that is escaped, and the one that it stands for, have seven bits. -/
theorem lt_of_escapedByte? {b c : UInt8} (h : escapedByte? b = some c) : b < 0x80 ∧ c < 0x80 := by
  unfold escapedByte? at h
  split at h
  · rename_i hb
    cases h
    rw [Bool.or_eq_true, Bool.or_eq_true, beq_iff_eq, beq_iff_eq, beq_iff_eq] at hb
    rcases hb with (rfl | rfl) | rfl <;> decide
  · repeat' split at h
    all_goals cases h
    all_goals
      rename_i hb
      rw [beq_iff_eq.mp hb]
      decide

/-- A string in a text is a text: the bytes read so far and those that are left make one text. -/
theorem yields_readQuoted (fuel : Nat) (read s : Bytes) (hs : T → IsText (read.reverse ++ s)) :
    Yields T L ReadsText (readQuoted fuel read s) := by
  induction fuel generalizing read s with
  | zero => trivial
  | succ fuel ih =>
    cases s with
    | nil => trivial
    | cons b s =>
      unfold readQuoted
      split
      · -- the closing quote cuts the text
        rename_i hb
        rw [beq_iff_eq.mp hb] at hs
        exact fun hT => (hs hT).cut (by decide)
      · split
        · rename_i hb
          rw [beq_iff_eq.mp hb] at hs
          have hcut : T → IsText read.reverse ∧ IsText s := fun hT => (hs hT).cut (by decide)
          split
          · trivial
          · rename_i e s'
            split
            · rename_i he
              rw [beq_iff_eq.mp he] at hcut
              have hpoint := yields_readEscapedPoint (T := T) (L := L) (s := s')
                fun hT => (hcut hT).2.tail (by decide)
              split
              · rename_i bs s'' hbs
                rw [hbs] at hpoint
                apply ih
                intro hT
                rw [List.reverse_append, List.reverse_reverse, List.append_assoc]
                exact (hcut hT).1.append ((hpoint hT).1.append (hpoint hT).2)
              · rename_i p hp
                rw [hp] at hpoint
                cases p <;> exact hpoint
            · split
              · rename_i c hc
                obtain ⟨he, hc⟩ := lt_of_escapedByte? hc
                apply ih
                intro hT
                rw [List.reverse_cons, List.append_assoc]
                exact (hcut hT).1.append ((isText_singleton hc).append ((hcut hT).2.tail he))
              · trivial
        · split
          · trivial
          · apply ih
            intro hT
            rw [List.reverse_cons, List.append_assoc]
            exact hs hT

/-! ## Checks on the way -/

variable {form : Form} {path : JsonPath}

theorem yields_textOf {bs : Bytes} (h : T → IsText bs) :
    Yields T L (fun _ => True) (textOf bs) := by
  by_cases hbs : IsText bs
  · obtain ⟨text, htext⟩ := textOf_eq_ok_iff.mpr hbs
    rw [htext]
    exact fun _ => trivial
  · rw [textOf_of_not hbs]
    exact fun hT => hbs (h hT)

theorem yields_keyOf {bs : Bytes} (h : T → IsText bs) :
    Yields T L (fun _ => True) (keyOf form bs) := by
  have htext := yields_textOf (L := L) h
  unfold keyOf
  split
  · exact fun _ => trivial
  · rename_i p hp
    rw [hp] at htext
    split
    · exact fun _ => trivial
    · cases p <;> exact htext

/-- A check whose mismatches have messages without tags. -/
theorem yields_ofCheck {α : Type} {x : Except Mismatch α}
    (h : ∀ m, x = .error m → Untagged m.message) : Yields T L (fun _ => True) (ofCheck x) := by
  cases x with
  | ok a => exact fun _ => trivial
  | error m => exact h m rfl

theorem yields_refuse (h : form.PlainAt path) {typeName : String} (hname : Untagged typeName) :
    Yields T L (fun _ => True) (refuse form typeName path) := by
  unfold refuse
  split
  · exact fun _ => trivial
  · rename_i hrefused
    rcases h with hignored | ⟨-, hpath⟩
    · rw [Form.eq_ignored hignored] at hrefused
      exact absurd rfl hrefused
    · exact Mismatch.untagged_wrongType (Form.untagged_expectation form) hname hpath

theorem yields_fitting (h : form.PlainAt path) {r : Json × Bytes} (hr : T → IsText r.2) :
    Yields T L LeavesText (fitting form path r) :=
  (yields_refuse h (Form.untagged_typeName r.1)).bind fun _ _ => hr

theorem yields_readText (h : form.PlainAt path) (hs : T → IsText s) :
    Yields T L LeavesText (readText form path s) := by
  refine (yields_readQuoted (s.length + 1) [] s hs).bind fun r hr => ?_
  refine (yields_refuse h (by decide)).bind fun _ _ => ?_
  have hrest (text : String) : Yields T L LeavesText (.ok ((.str text : Json), r.2)) :=
    fun hT => (hr hT).2
  dsimp only
  split
  · exact hrest ""
  · exact (yields_textOf fun hT => (hr hT).1).bind fun text _ => hrest text

/-- The message about a number that cannot be held. -/
theorem untagged_of_value {n : Numeral} {m : Mismatch} (hpath : Untagged path.text)
    (hm : n.value path = .error m) : Untagged m.message := by
  unfold Numeral.value at hm
  split at hm
  · split at hm
    · cases hm
      have hsaid : Untagged "Integer value out of range" := by decide
      exact hsaid.append (Mismatch.untagged_place hpath)
    · cases hm
  · dsimp only at hm
    split at hm
    · cases hm
    · cases hm
      have hsaid : Untagged "Number out of range" := by decide
      exact hsaid.append (Mismatch.untagged_place hpath)

theorem yields_readNumber (h : form.PlainAt path) (hs : T → IsText s) :
    Yields T L LeavesText (readNumber form path s) := by
  refine (yields_readNumeral hs).bind fun r hr => ?_
  dsimp only
  split
  · exact hr
  · rename_i hread
    have hpath : Untagged path.text := by
      rcases h with hignored | ⟨-, hpath⟩
      · exact absurd hignored hread
      · exact hpath
    refine (yields_ofCheck fun m => untagged_of_value hpath).bind fun v _ => ?_
    exact yields_fitting h hr

/-! ## Values -/

/-- What is read behind the separator of an item or a member: nothing separates the first one,
and a comma each of the others. -/
theorem yields_separated {α : Type} {good : α → Prop} {isFirst : Prop} [Decidable isFirst]
    {b closing : UInt8} {rest : Bytes} {trailing missing : Malformation}
    {next : Bytes → Reading α} (hs : T → IsText (b :: rest))
    (hnext : ∀ s', (T → IsText s') → Yields T L good (next s')) :
    Yields T L good
      (if isFirst then pure (b :: rest) >>= next
        else if b == byte ',' then
          match skipSpaces rest with
          | [] => throw .truncated >>= next
          | c :: after =>
            if c == closing then throw (.malformed trailing (after.length + 1)) >>= next
            else pure (c :: after) >>= next
        else throw (.malformed missing (rest.length + 1)) >>= next) := by
  split
  · exact hnext _ hs
  · split
    · have hrest : T → IsText (skipSpaces rest) := fun hT =>
        isText_skipSpaces (isText_behind ‹_› (by decide) hs hT)
      split
      · trivial
      · rename_i c after hafter
        rw [hafter] at hrest
        split
        · trivial
        · exact hnext _ hrest
    · trivial

/-- What is read inside an array or an object. -/
theorem yields_inside {α : Type} {good : α → Prop} {room : Option Nat}
    {next : Option Nat → Reading α} (hroom : room ≠ none → L)
    (hnext : ∀ inside, (inside ≠ none → L) → Yields T L good (next inside)) :
    Yields T L good (roomInside room >>= next) := by
  cases room with
  | none => exact hnext none hroom
  | some levels =>
    have hlimited := hroom (Option.some_ne_none levels)
    cases levels with
    | zero => exact hlimited
    | succ rest => exact hnext (some rest) fun _ => hlimited

/-- What the readers of values, items and members yield with some fuel. -/
structure YieldsWithin (T L : Prop) (fuel : Nat) : Prop where
  value : ∀ {room} {form : Form} {path s}, (room ≠ none → L) → form.PlainAt path →
    (T → IsText s) → Yields T L LeavesText (readValue fuel room form path s)
  items : ∀ {room} {form : Form} {path s} index read, (room ≠ none → L) → form.PlainAt path →
    (T → IsText s) → Yields T L LeavesText (readItems fuel room form.item path index read s)
  members : ∀ {room} {form : Form} {path s} read, (room ≠ none → L) → form.PlainAt path →
    (T → IsText s) → Yields T L LeavesText (readMembers fuel room form path read s)

variable {room : Option Nat}

/-- The reader of values yields what it should if the readers of parts do. -/
theorem YieldsWithin.readValue {fuel : Nat} (ih : YieldsWithin T L fuel)
    (hroom : room ≠ none → L) (h : form.PlainAt path) (hs : T → IsText s) :
    Yields T L LeavesText (readValue (fuel + 1) room form path s) := by
  have hskip : T → IsText (skipSpaces s) := fun hT => isText_skipSpaces (hs hT)
  unfold Json.readValue
  split
  · trivial
  · rename_i b rest hb
    rw [hb] at hskip
    split
    · exact (yields_readWord (by decide) (isText_behind ‹_› (by decide) hskip)).bind fun r hr =>
        yields_fitting h hr
    split
    · exact (yields_readWord (by decide) (isText_behind ‹_› (by decide) hskip)).bind fun r hr =>
        yields_fitting h hr
    split
    · exact (yields_readWord (by decide) (isText_behind ‹_› (by decide) hskip)).bind fun r hr =>
        yields_fitting h hr
    split
    · exact yields_readText h (isText_behind ‹_› (by decide) hskip)
    split
    · refine (yields_refuse h (by decide)).bind fun _ _ => ?_
      refine yields_inside hroom fun inside hinside => ?_
      refine (ih.items 0 [] hinside h (isText_behind ‹_› (by decide) hskip)).bind fun r hr => ?_
      refine (yields_ofCheck fun m => Form.untagged_of_checkType h).bind fun _ _ => ?_
      exact hr
    split
    · refine (yields_refuse h (by decide)).bind fun _ _ => ?_
      refine yields_inside hroom fun inside hinside => ?_
      refine (ih.members [] hinside h (isText_behind ‹_› (by decide) hskip)).bind fun r hr => ?_
      refine (yields_ofCheck fun m => Form.untagged_of_checkRequired h).bind fun _ _ => ?_
      exact hr
    split
    · exact yields_readNumber h hskip
    · trivial

/-- The reader of items yields what it should if the readers of parts do. -/
theorem YieldsWithin.readItems {fuel : Nat} (ih : YieldsWithin T L fuel)
    (hroom : room ≠ none → L) (h : form.PlainAt path) (index : Nat) (read : List Json)
    (hs : T → IsText s) :
    Yields T L LeavesText (readItems (fuel + 1) room form.item path index read s) := by
  have hskip : T → IsText (skipSpaces s) := fun hT => isText_skipSpaces (hs hT)
  unfold Json.readItems
  split
  · trivial
  · rename_i b rest hb
    rw [hb] at hskip
    split
    · exact isText_behind ‹_› (by decide) hskip
    · dsimp only
      refine yields_separated hskip fun s' hs' => ?_
      refine (ih.value hroom (h.item index) hs').bind fun r hr => ?_
      exact ih.items (index + 1) (r.1 :: read) hroom h hr

/-- The reader of members yields what it should if the readers of parts do. -/
theorem YieldsWithin.readMembers {fuel : Nat} (ih : YieldsWithin T L fuel)
    (hroom : room ≠ none → L) (h : form.PlainAt path) (read : Members) (hs : T → IsText s) :
    Yields T L LeavesText (readMembers (fuel + 1) room form path read s) := by
  have hskip : T → IsText (skipSpaces s) := fun hT => isText_skipSpaces (hs hT)
  unfold Json.readMembers
  split
  · trivial
  · rename_i b rest hb
    rw [hb] at hskip
    split
    · exact isText_behind ‹_› (by decide) hskip
    · dsimp only
      refine yields_separated hskip fun s' hs' => ?_
      split
      · trivial
      · rename_i quote s₁
        split
        · trivial
        · rename_i hquote
          have hquote : (quote == byte '"') = true := by simpa using hquote
          have hs₁ : T → IsText s₁ := isText_behind hquote (by decide) hs'
          refine (yields_readQuoted (s₁.length + 1) [] s₁ hs₁).bind fun r hr => ?_
          refine (yields_keyOf fun hT => (hr hT).1).bind fun key _ => ?_
          have hs₂ : T → IsText (skipSpaces r.2) := fun hT => isText_skipSpaces (hr hT).2
          split
          · trivial
          · rename_i colon s₃ hrest
            rw [hrest] at hs₂
            split
            · trivial
            · rename_i hcolon
              have hcolon : (colon == byte ':') = true := by simpa using hcolon
              have hs₃ : T → IsText s₃ := isText_behind hcolon (by decide) hs₂
              refine (ih.value hroom (h.member key) hs₃).bind fun r hr => ?_
              exact ih.members (Members.insert read key r.1) hroom h hr

/-- All readers yield what they should, by induction on the fuel. -/
theorem yields_read (T L : Prop) (fuel : Nat) : YieldsWithin T L fuel := by
  induction fuel with
  | zero =>
    constructor
    · intros
      trivial
    · intros
      trivial
    · intros
      trivial
  | succ fuel ih =>
    constructor
    · intro room form path s hroom h hs
      exact ih.readValue hroom h hs
    · intro room form path s index read hroom h hs
      exact ih.readItems hroom h index read hs
    · intro room form path s read hroom h hs
      exact ih.readMembers hroom h read hs

/-! ## Whole documents -/

theorem yields_readWhole (hform : form.isPlain = true) (hs : T → IsText s)
    (hroom : room ≠ none → L) : Yields T L (fun _ => True) (readWhole form room s) := by
  have htop : form.PlainAt [] := Or.inr ⟨hform, by decide⟩
  refine ((yields_read T L _).value hroom htop hs).bind fun r _ => ?_
  dsimp only
  split
  · exact fun _ => trivial
  · trivial

/-- A document cannot be read because the reader meets a problem. -/
theorem exists_problem_of_decode {why : ReadFailure} (h : decode form s room = .error why) :
    ∃ p : Problem, readWhole form room s = .error p ∧ p.failure s.length = why := by
  rw [decode] at h
  cases hread : readWhole form room s with
  | ok v =>
    rw [hread] at h
    cases h
  | error p =>
    rw [hread] at h
    exact ⟨p, rfl, Except.error.inj h⟩

/-- A document that cannot be read is reported with a message without tags. -/
theorem untagged_of_decode {why : ReadFailure} (hform : form.isPlain = true)
    (h : decode form s room = .error why) : Untagged why.message := by
  have hyields := yields_readWhole (L := room ≠ none) hform (id : IsText s → IsText s) id
  obtain ⟨p, hread, rfl⟩ := exists_problem_of_decode h
  rw [hread] at hyields
  cases p with
  | truncated =>
    show Untagged ReadFailure.truncated.message
    decide
  | malformed what left =>
    have h₁ : Untagged "JSON is malformed: " := by decide
    have h₂ : Untagged what.message := by cases what <;> decide
    have h₃ : Untagged " (byte " := by decide
    have h₄ : Untagged ")" := by decide
    exact (((h₁.append h₂).append h₃).append (untagged_nat _)).append h₄
  | invalidText =>
    show Untagged ReadFailure.invalidText.message
    decide
  | mismatch m => exact hyields
  | tooDeep =>
    show Untagged ReadFailure.tooDeep.message
    decide

/-- No fault is found with the bytes of a text. -/
theorem ne_invalidText_of_decode {why : ReadFailure} (hform : form.isPlain = true)
    (hs : IsText s) (h : decode form s room = .error why) : why ≠ .invalidText := by
  have hyields := yields_readWhole (T := True) (L := room ≠ none) hform (fun _ => hs) id
  obtain ⟨p, hread, rfl⟩ := exists_problem_of_decode h
  rw [hread] at hyields
  cases p with
  | invalidText => exact absurd trivial hyields
  | _ => exact nofun

/-- Without a limit, a document is read however deep it is nested. -/
theorem ne_tooDeep_of_decode {why : ReadFailure} (hform : form.isPlain = true)
    (h : decode form s = .error why) : why ≠ .tooDeep := by
  have hyields := yields_readWhole (L := False) hform (id : IsText s → IsText s) (absurd rfl)
  obtain ⟨p, hread, rfl⟩ := exists_problem_of_decode h
  rw [hread] at hyields
  cases p with
  | tooDeep => exact absurd hyields id
  | _ => exact nofun

end Json

end ScriptNavigation
