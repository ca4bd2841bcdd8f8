/-
# Messages without tags

A message is printed in colour between two tags, and it is not protected first.  So it is shown
as it stands only if nothing in it is taken for a tag.  That is the case if no opening bracket in
it is followed by a character that a tag may start with, and if it ends neither in an opening
bracket nor in a backslash, which would have a meaning for the closing tag behind it.

Texts of this form can be joined, so a message has it if its parts do.

Main facts:

* `Untagged.append`: texts without tags can be joined.
* `split_untagged`: a text without tags is one plain piece.
* `TagPair.showPieces_append`: between two tags such a text is shown in front of what follows.
* `shown_red`: between the tags of a colour such a text is shown as it stands.
-/
import ScriptNavigation.Report.Console
import ScriptNavigation.Proofs.Report.Shown

namespace ScriptNavigation

namespace Markup

/-! ## Texts without tags -/

/-- No opening bracket in a text is followed by a character that a tag may start with. -/
def OpensNoTag (s : String) : Prop :=
  s.toList.IsChain fun a b => a = '[' → startsTag b = false

instance (s : String) : Decidable (OpensNoTag s) :=
  inferInstanceAs (Decidable (List.IsChain _ _))

/-- A text without tags, whatever text follows it. -/
structure Untagged (s : String) : Prop where
  opensNoTag : OpensNoTag s
  settled : ∀ c ∈ s.toList.getLast?, c ≠ '[' ∧ c ≠ '\\'

/-- Whether a text has no tags can be told from its characters and the last one of them. -/
theorem untagged_iff {s : String} : Untagged s ↔
    OpensNoTag s ∧ s.toList.getLast?.all (fun c => c != '[' && c != '\\') = true := by
  have hlast : s.toList.getLast?.all (fun c => c != '[' && c != '\\') = true ↔
      ∀ c ∈ s.toList.getLast?, c ≠ '[' ∧ c ≠ '\\' := by
    cases s.toList.getLast? <;> simp
  rw [hlast]
  exact ⟨fun h => ⟨h.opensNoTag, h.settled⟩, fun h => ⟨h.1, h.2⟩⟩

instance (s : String) : Decidable (Untagged s) := decidable_of_iff _ untagged_iff.symm

variable {s t : String}

/-- A text starts with a character that no tag starts with. -/
def StartsPlainly (s : String) : Prop := s.toList.head?.any (fun c => !startsTag c) = true

instance (s : String) : Decidable (StartsPlainly s) :=
  inferInstanceAs (Decidable (_ = true))

/-- How a text starts decides how a longer one does. -/
theorem StartsPlainly.append (hs : StartsPlainly s) (t : String) : StartsPlainly (s ++ t) := by
  obtain ⟨c, hc, hstart⟩ := (Option.any_eq_true _ _).mp hs
  refine (Option.any_eq_true _ _).mpr ⟨c, ?_, hstart⟩
  rw [String.toList_append, List.head?_append, hc, Option.some_or]

/-- A text that opens no tag may be followed by a text without tags that starts with a character
that no tag starts with. -/
theorem OpensNoTag.append (hs : OpensNoTag s) (ht : Untagged t)
    (hnext : StartsPlainly t) : Untagged (s ++ t) := by
  obtain ⟨c, hc, hstart⟩ := (Option.any_eq_true _ _).mp hnext
  have hlast : (s ++ t).toList.getLast? = t.toList.getLast? := by
    rw [String.toList_append, List.getLast?_append, Option.or_of_isSome]
    rw [List.getLast?_isSome]
    intro hnil
    rw [hnil] at hc
    cases hc
  refine ⟨?_, by rw [hlast]; exact ht.settled⟩
  unfold OpensNoTag
  rw [String.toList_append, List.isChain_append]
  refine ⟨hs, ht.opensNoTag, ?_⟩
  intro a _ b hb _
  rw [Option.mem_def, hc, Option.some_inj] at hb
  rw [← hb]
  exact Bool.not_eq_true' _ ▸ hstart

/-- Texts without tags can be joined. -/
theorem Untagged.append (hs : Untagged s) (ht : Untagged t) : Untagged (s ++ t) := by
  constructor
  · unfold OpensNoTag
    rw [String.toList_append, List.isChain_append]
    refine ⟨hs.opensNoTag, ht.opensNoTag, ?_⟩
    intro a ha b _ hbracket
    exact absurd hbracket (hs.settled a ha).1
  · intro c hc
    rw [String.toList_append, List.getLast?_append, Option.mem_def, Option.or_eq_some_iff] at hc
    rcases hc with hc | ⟨-, hc⟩
    · exact ht.settled c hc
    · exact hs.settled c hc

/-- A text without opening brackets and backslashes has no tags. -/
theorem untagged_of_forall (h : ∀ c ∈ s.toList, c ≠ '[' ∧ c ≠ '\\') : Untagged s := by
  constructor
  · unfold OpensNoTag
    generalize s.toList = cs at h
    induction cs with
    | nil => exact .nil
    | cons c cs ih =>
      rw [List.isChain_cons]
      refine ⟨?_, ih fun d hd => h d (List.mem_cons_of_mem c hd)⟩
      intro _ _ hc
      exact absurd hc (h c List.mem_cons_self).1
  · intro c hc
    exact h c (List.mem_of_getLast? hc)

/-! ## Numbers -/

/-- The characters of a number are digits. -/
theorem isDigit_of_mem_nat {n : Nat} {c : Char} (hc : c ∈ (toString n).toList) :
    c.isDigit = true := by
  have hdigits : (toString n).toList = Nat.toDigits 10 n := String.toList_ofList
  rw [hdigits] at hc
  exact Nat.isDigit_of_mem_toDigits (by decide) (Nat.le_refl 10) hc

/-- A number has no tags. -/
theorem untagged_nat (n : Nat) : Untagged (toString n) := by
  apply untagged_of_forall
  intro c hc
  have hdigit := isDigit_of_mem_nat hc
  constructor <;> rintro rfl <;> exact absurd hdigit (by decide)

/-- No tag starts like a number. -/
theorem startsPlainly_nat (n : Nat) : StartsPlainly (toString n) := by
  have hne : (toString n).toList ≠ [] := by
    have hdigits : (toString n).toList = Nat.toDigits 10 n := String.toList_ofList
    rw [hdigits]
    exact Nat.toDigits_ne_nil
  obtain ⟨c, cs, hcs⟩ := List.exists_cons_of_ne_nil hne
  have hdigit : c.isDigit = true := by
    apply isDigit_of_mem_nat (n := n)
    rw [hcs]
    exact List.mem_cons_self
  rw [StartsPlainly, hcs, List.head?_cons, Option.any_some, Bool.not_eq_true']
  cases hstart : startsTag c with
  | false => rfl
  | true =>
    exfalso
    simp only [Char.isDigit, Bool.and_eq_true, decide_eq_true_eq] at hdigit
    simp only [startsTag, Bool.or_eq_true, Bool.and_eq_true, decide_eq_true_eq,
      beq_iff_eq] at hstart
    rcases hstart with ((⟨hletter, -⟩ | rfl) | rfl) | rfl
    · exact absurd (Nat.le_trans (show 97 ≤ c.toNat from hletter) (show c.toNat ≤ 57 from hdigit.2))
        (by decide)
    · exact absurd hdigit.1 (by decide)
    · exact absurd hdigit.1 (by decide)
    · exact absurd hdigit.2 (by decide)

/-- A whole number has no tags. -/
theorem untagged_int (i : Int) : Untagged (toString i) := by
  cases i with
  | ofNat n => exact untagged_nat n
  | negSucc n =>
    have hsign : Untagged "-" := by decide
    exact hsign.append (untagged_nat (n + 1))

/-- No tag starts like a whole number. -/
theorem startsPlainly_int (i : Int) : StartsPlainly (toString i) := by
  cases i with
  | ofNat n => exact startsPlainly_nat n
  | negSucc n =>
    have hsign : StartsPlainly "-" := by decide
    exact hsign.append _

/-! ## Pieces -/

/-- What starts with a character that no tag starts with is no tag. -/
theorem tagBody?_eq_none {cs : List Char} (h : ∀ c ∈ cs.head?, startsTag c = false) :
    tagBody? cs = none := by
  cases cs with
  | nil => rfl
  | cons c cs =>
    have hc : startsTag c = false := h c rfl
    have hbody : (((c :: cs).takeWhile fun d => d != ']' && d != '[').head?.map startsTag).getD
        false = false := by
      rw [List.takeWhile_cons]
      split
      · exact hc
      · rfl
    unfold tagBody?
    dsimp only
    rw [hbody, Bool.false_and, if_neg Bool.false_ne_true]

/-- A text without tags is one plain piece, together with the backslashes in front of it. -/
theorem split_untagged {cs : List Char} (hne : cs ≠ [])
    (hopens : cs.IsChain fun a b => a = '[' → startsTag b = false)
    (hlast : ∀ c ∈ cs.getLast?, c ≠ '[' ∧ c ≠ '\\') (rest : List Char) (backslashes : Nat) :
    split backslashes 0 (cs ++ rest) =
      addPlain (List.replicate backslashes '\\' ++ cs) (split 0 0 rest) := by
  apply split_append hne _ fun c hc => (hlast c hc).2
  intro ds hds
  cases ds with
  | nil =>
    obtain ⟨front, rfl⟩ := hds
    exact absurd rfl (hlast '[' List.getLast?_concat).1
  | cons d ds =>
    apply tagBody?_eq_none
    rintro c ⟨⟩
    exact (List.isChain_cons.mp (hopens.suffix hds)).1 d rfl rfl

/-! ## Between two tags -/

/-- Two tags of which the first one opens a style and the second one closes it. -/
structure TagPair (opening closing : List Char) : Prop where
  opening_tag : tagBody? (opening ++ [']']) = some opening
  closing_tag : tagBody? (closing ++ [']']) = some closing
  undone : ∃ style, applyTag [] opening = .ok [style] ∧ applyTag [style] closing = .ok []

/-- The pieces of a text without tags between two tags, and of what follows. -/
theorem TagPair.pieces_append {opening closing : List Char} (h : TagPair opening closing)
    (hne : s ≠ "") (hs : Untagged s) (rest : List Char) :
    pieces (bracketed opening ++ (s.toList ++ (bracketed closing ++ rest))) =
      .tag 0 opening :: .plain s.toList :: .tag 0 closing :: pieces rest := by
  have hne : s.toList ≠ [] := by
    rwa [Ne, String.toList_eq_nil_iff]
  rw [pieces, split_bracketed h.opening_tag, split_untagged hne hs.opensNoTag hs.settled,
    split_bracketed h.closing_tag, addPlain,
    if_neg (by rwa [List.replicate_zero, List.nil_append, List.isEmpty_iff])]
  · rfl
  · rintro _ _ ⟨⟩

/-- A text without tags between two tags is shown in front of what follows. -/
theorem TagPair.showPieces_append {opening closing : List Char} (h : TagPair opening closing)
    (hne : s ≠ "") (hs : Untagged s) (rest : List Char) :
    showPieces [] (pieces (bracketed opening ++ (s.toList ++ (bracketed closing ++ rest)))) =
      (showPieces [] (pieces rest)).map (shownPlain s.toList ++ ·) := by
  obtain ⟨style, hopen, hclose⟩ := h.undone
  rw [h.pieces_append hne hs, showPieces_applied [] (by decide), hopen, Result.ok_bind,
    showPieces_plain, showPieces_applied [style] (by decide), hclose, Result.ok_bind]
  cases showPieces [] (pieces rest) <;> rfl

/-- A text without tags as the console shows it. -/
def plainly (s : String) : String := String.ofList (Text.tabbed (shownPlain s.toList))

/-- A text without tags between two tags is shown as it stands. -/
theorem TagPair.shown_between {before after : String} {opening closing : List Char}
    (h : TagPair opening closing) (hbefore : before.toList = bracketed opening)
    (hafter : after.toList = bracketed closing) (hne : s ≠ "") (hs : Untagged s) :
    shown (before ++ s ++ after) = .ok (plainly s) := by
  have hshown := h.showPieces_append hne hs []
  rw [show pieces [] = [] from rfl, showPieces, Result.map_ok, List.append_nil,
    List.append_nil] at hshown
  rw [shown, showChars_eq_showPieces, String.toList_append, String.toList_append, List.append_assoc,
    hbefore, hafter, hshown, Result.map_ok, plainly]

/-! ## Messages in red -/

theorem tagPair_red : TagPair "red".toList "/red".toList :=
  ⟨by decide, by decide, "red", Result.eq_ok_of_toOption (by decide +kernel),
    Result.eq_ok_of_toOption (by decide +kernel)⟩

/-- A text without tags between the tags of a colour is shown as it stands. -/
theorem shown_red (hne : s ≠ "") (hs : Untagged s) :
    shown ("[red]" ++ s ++ "[/red]") = .ok (plainly s) :=
  tagPair_red.shown_between rfl rfl hne hs

end Markup

end ScriptNavigation
