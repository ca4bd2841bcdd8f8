/-
# Pieces of a marked-up text

A marked-up text is read from the left, with the backslashes that have just been passed in mind.
Four things can come next: the end, one more backslash, a tag, and any other character.  What is
proved about pieces follows these four cases.

Whether a bracket starts a tag depends only on what follows it up to the next bracket, so it stays
the same where a text is protected: backslashes are put in front of opening brackets only.

Main facts:

* `pieceInduction`: the four cases.
* `flatMap_written`: the pieces of a text make it up.
* `split_protected`: a protected text has the pieces of the text, with other backslashes.
* `split_append`: a text without tags in front of another one is one plain piece.
-/
import ScriptNavigation.Report.Markup
import Mathlib.Data.List.Chain
import Mathlib.Data.List.Infix

namespace ScriptNavigation.Markup

/-! ## Tags -/

/-- What stands in front of the first bracket of a text, if that is a closing one. -/
def upToClosing? : List Char → Option (List Char)
  | [] => none
  | c :: cs =>
    if c = ']' then some []
    else if c = '[' then none
    else (upToClosing? cs).map (c :: ·)

/-- Whether a tag may have a given body, as far as its start is concerned. -/
def startsBody (body : List Char) : Bool := (body.head?.map startsTag).getD false

variable {b : Nat} {c : Char} {cs us body : List Char}

theorem upToClosing?_open : upToClosing? ('[' :: cs) = none := rfl

theorem upToClosing?_cons (hclose : c ≠ ']') (hopen : c ≠ '[') :
    upToClosing? (c :: cs) = (upToClosing? cs).map (c :: ·) := by
  rw [upToClosing?, if_neg hclose, if_neg hopen]

/-- What stands up to a bracket is found by dropping it. -/
theorem upToClosing?_eq_ite (cs : List Char) :
    upToClosing? cs =
      if (cs.drop (cs.takeWhile fun c => c != ']' && c != '[').length).head? == some ']' then
        some (cs.takeWhile fun c => c != ']' && c != '[')
      else none := by
  induction cs with
  | nil => rfl
  | cons c cs ih =>
    by_cases hclose : c = ']'
    · subst hclose
      rfl
    by_cases hopen : c = '['
    · subst hopen
      rfl
    have hinside : (c != ']' && c != '[') = true := by
      rw [bne_iff_ne.mpr hclose, bne_iff_ne.mpr hopen, Bool.and_self]
    rw [upToClosing?_cons hclose hopen, ih, List.takeWhile_cons, if_pos hinside, List.length_cons,
      List.drop_succ_cons]
    split <;> rfl

/-- A tag is what stands up to a closing bracket, if it starts like one. -/
theorem tagBody?_eq_filter (cs : List Char) :
    tagBody? cs = (upToClosing? cs).filter startsBody := by
  rw [upToClosing?_eq_ite, tagBody?]
  generalize (cs.takeWhile fun c => c != ']' && c != '[') = body
  cases (cs.drop body.length).head? == some ']' with
  | true =>
    rw [Bool.and_true, if_pos rfl, Option.filter_some]
    rfl
  | false =>
    rw [Bool.and_false, if_neg Bool.false_ne_true, Option.filter_none]

/-- A closing bracket ends a text without brackets in front of it. -/
theorem upToClosing?_append_close (hopen : '[' ∉ body) (hclose : ']' ∉ body) (rest : List Char) :
    upToClosing? (body ++ ']' :: rest) = some body := by
  induction body with
  | nil => rfl
  | cons c body ih =>
    rw [List.mem_cons, not_or] at hopen hclose
    rw [List.cons_append, upToClosing?_cons (Ne.symm hclose.1) (Ne.symm hopen.1),
      ih hopen.2 hclose.2]
    rfl

/-- What stands up to a closing bracket has no bracket in it. -/
theorem eq_append_of_upToClosing? (h : upToClosing? cs = some body) :
    '[' ∉ body ∧ ']' ∉ body ∧ ∃ rest, cs = body ++ ']' :: rest := by
  induction cs generalizing body with
  | nil => cases h
  | cons c cs ih =>
    by_cases hclose : c = ']'
    · subst hclose
      cases h
      exact ⟨List.not_mem_nil, List.not_mem_nil, cs, rfl⟩
    by_cases hopen : c = '['
    · subst hopen
      cases h
    rw [upToClosing?_cons hclose hopen, Option.map_eq_some_iff] at h
    obtain ⟨body, hbody, rfl⟩ := h
    obtain ⟨ho, hc, rest, rfl⟩ := ih hbody
    refine ⟨?_, ?_, rest, rfl⟩
    · exact List.not_mem_cons_of_ne_of_not_mem (Ne.symm hopen) ho
    · exact List.not_mem_cons_of_ne_of_not_mem (Ne.symm hclose) hc

/-- What is put behind a text closes nothing in it if it does not start by closing. -/
theorem upToClosing?_append (hus : upToClosing? us = none) (cs : List Char) :
    upToClosing? (cs ++ us) = upToClosing? cs := by
  induction cs with
  | nil => exact hus
  | cons c cs ih => rw [List.cons_append, upToClosing?, upToClosing?, ih]

/-- What is put behind a text makes no tag of it if it does not start by closing. -/
theorem tagBody?_append (hus : upToClosing? us = none) (cs : List Char) :
    tagBody? (cs ++ us) = tagBody? cs := by
  rw [tagBody?_eq_filter, tagBody?_eq_filter, upToClosing?_append hus]

/-- Backslashes close nothing. -/
theorem upToClosing?_replicate (b : Nat) (cs : List Char) :
    upToClosing? (List.replicate b '\\' ++ cs) =
      (upToClosing? cs).map (List.replicate b '\\' ++ ·) := by
  induction b with
  | zero => simp
  | succ b ih =>
    rw [List.replicate_succ, List.cons_append, upToClosing?_cons (by decide) (by decide), ih,
      Option.map_map]
    rfl

/-- A tag is closed, and holds no opening bracket. -/
theorem eq_append_of_tagBody? (h : tagBody? cs = some body) :
    '[' ∉ body ∧ ∃ rest, cs = body ++ ']' :: rest := by
  rw [tagBody?_eq_filter, Option.filter_eq_some_iff] at h
  obtain ⟨hopen, -, hrest⟩ := eq_append_of_upToClosing? h.1
  exact ⟨hopen, hrest⟩

/-- What a tag is does not depend on what follows it. -/
theorem tagBody?_append_close (h : tagBody? cs = some body) (rest : List Char) :
    tagBody? (body ++ ']' :: rest) = some body := by
  rw [tagBody?_eq_filter, Option.filter_eq_some_iff] at h ⊢
  obtain ⟨hopen, hclose, -⟩ := eq_append_of_upToClosing? h.1
  exact ⟨upToClosing?_append_close hopen hclose rest, h.2⟩

/-! ## Reading a text -/

/-- The characters that belong to a tag are passed. -/
theorem split_skip (skip : Nat) (cs : List Char) :
    split 0 skip cs = split 0 0 (cs.drop skip) := by
  induction cs generalizing skip with
  | nil => cases skip <;> rfl
  | cons c cs ih =>
    cases skip with
    | zero => rfl
    | succ skip =>
      rw [List.drop_succ_cons, split]
      exact ih skip

theorem split_backslash (b : Nat) (cs : List Char) :
    split b 0 ('\\' :: cs) = split (b + 1) 0 cs := rfl

/-- A tag is one piece with the backslashes in front of it. -/
theorem split_tag (b : Nat) {rest : List Char} (h : tagBody? (body ++ ']' :: rest) = some body) :
    split b 0 ('[' :: (body ++ ']' :: rest)) = .tag b body :: split 0 0 rest := by
  have hskip : split 0 (body.length + 1) (body ++ ']' :: rest) = split 0 0 rest := by
    rw [split_skip, List.drop_append, List.drop_eq_nil_of_le (by omega), Nat.add_sub_cancel_left]
    rfl
  rw [split, if_neg (by decide), if_pos rfl, h]
  exact congrArg _ hskip

theorem bracketed_append (body us : List Char) :
    bracketed body ++ us = '[' :: (body ++ ']' :: us) := by
  rw [bracketed, List.append_assoc]
  rfl

/-- A tag in its brackets is one piece with the backslashes in front of it. -/
theorem split_bracketed (h : tagBody? (body ++ [']']) = some body) (b : Nat) (us : List Char) :
    split b 0 (bracketed body ++ us) = .tag b body :: split 0 0 us := by
  rw [bracketed_append, split_tag b (tagBody?_append_close h us)]

/-- A character that starts no tag is plain, and so are the backslashes in front of it. -/
theorem split_char (b : Nat) (hc : c ≠ '\\') (h : c = '[' → tagBody? cs = none) :
    split b 0 (c :: cs) = addPlain (List.replicate b '\\' ++ [c]) (split 0 0 cs) := by
  have hnone : (if c = '[' then tagBody? cs else none) = none := by
    split
    · exact h ‹_›
    · rfl
  rw [split, if_neg hc, hnone]

/-- The four cases of reading a text `cs` behind `b` backslashes. -/
@[elab_as_elim]
theorem pieceInduction {motive : Nat → List Char → Prop}
    (nil : ∀ b, motive b [])
    (backslash : ∀ b cs, motive (b + 1) cs → motive b ('\\' :: cs))
    (tag : ∀ b body rest, tagBody? (body ++ ']' :: rest) = some body → motive 0 rest →
      motive b ('[' :: (body ++ ']' :: rest)))
    (char : ∀ b c cs, c ≠ '\\' → (c = '[' → tagBody? cs = none) → motive 0 cs →
      motive b (c :: cs))
    (b : Nat) (cs : List Char) : motive b cs := by
  induction hlength : cs.length using Nat.strong_induction_on generalizing b cs with
  | _ n ih =>
    subst hlength
    rcases cs with _ | ⟨c, cs⟩
    · exact nil b
    by_cases hc : c = '\\'
    · subst hc
      exact backslash b cs (ih _ (by simp) (b + 1) cs rfl)
    have hchar (hnone : c = '[' → tagBody? cs = none) : motive b (c :: cs) :=
      char b c cs hc hnone (ih _ (by simp) 0 cs rfl)
    by_cases hopen : c = '['
    · subst hopen
      cases hbody : tagBody? cs with
      | none => exact hchar fun _ => hbody
      | some body =>
        obtain ⟨-, rest, rfl⟩ := eq_append_of_tagBody? hbody
        refine tag b body rest hbody (ih _ ?_ 0 rest rfl)
        simp only [List.length_cons, List.length_append]
        omega
    · exact hchar fun h => absurd h hopen

/-! ## Pieces as they are written -/

/-- A piece as it is written. -/
def Piece.written : Piece → List Char
  | plain text => text
  | tag n body => List.replicate n '\\' ++ bracketed body

/-- A piece as it is written in a protected text. -/
def Piece.protect : Piece → Piece
  | plain text => plain text
  | tag n body => tag (2 * n + 1) body

@[simp]
theorem addPlain_nil (ps : List Piece) : addPlain [] ps = ps := by
  rcases ps with _ | ⟨⟨ys⟩ | ⟨n, body⟩, ps⟩ <;> rfl

/-- A plain piece behind a plain text that is put in front is one of those that were there, or
holds the text. -/
theorem of_plain_mem_addPlain {xs text : List Char} {ps : List Piece}
    (h : .plain text ∈ addPlain xs ps) :
    .plain text ∈ ps ∨ ∃ ys, (ys = [] ∨ .plain ys ∈ ps) ∧ text = xs ++ ys := by
  rcases xs with _ | ⟨x, xs⟩
  · exact .inl (addPlain_nil ps ▸ h)
  have hfront (hmem : .plain text ∈ Piece.plain (x :: xs) :: ps) :
      .plain text ∈ ps ∨ ∃ ys, (ys = [] ∨ .plain ys ∈ ps) ∧ text = x :: xs ++ ys := by
    rcases List.mem_cons.mp hmem with htext | hmem
    · exact .inr ⟨[], .inl rfl, by rw [Piece.plain.inj htext, List.append_nil]⟩
    · exact .inl hmem
  rcases ps with _ | ⟨⟨ys⟩ | ⟨n, body⟩, ps⟩
  · exact hfront h
  · rcases List.mem_cons.mp h with htext | hmem
    · exact .inr ⟨ys, .inr List.mem_cons_self, Piece.plain.inj htext⟩
    · exact .inl (List.mem_cons_of_mem _ hmem)
  · exact hfront h

/-- The tags behind a plain text that is put in front are those that were there. -/
theorem tag_mem_addPlain_iff {n : Nat} {xs : List Char} {ps : List Piece} :
    .tag n body ∈ addPlain xs ps ↔ .tag n body ∈ ps := by
  rcases xs with _ | ⟨x, xs⟩
  · rw [addPlain_nil]
  · rcases ps with _ | ⟨⟨ys⟩ | ⟨n, body⟩, ps⟩ <;> simp [addPlain]

/-- A plain text in front of some pieces is written in front of them. -/
theorem flatMap_addPlain (f : Piece → List Char) (hf : ∀ text, f (.plain text) = text)
    (xs : List Char) (ps : List Piece) :
    (addPlain xs ps).flatMap f = xs ++ ps.flatMap f := by
  rcases ps with _ | ⟨⟨ys⟩ | ⟨n, body⟩, ps⟩
  · cases xs <;> simp [addPlain, hf]
  · simp [addPlain, hf]
  · cases xs <;> simp [addPlain, hf]

theorem map_protect_addPlain (xs : List Char) (ps : List Piece) :
    (addPlain xs ps).map Piece.protect = addPlain xs (ps.map Piece.protect) := by
  rcases ps with _ | ⟨⟨ys⟩ | ⟨n, body⟩, ps⟩
  · cases xs <;> rfl
  · rfl
  · cases xs <;> rfl

/-- A plain text can be put in front in two parts. -/
theorem addPlain_append (xs ys : List Char) (ps : List Piece) :
    addPlain (xs ++ ys) ps = addPlain xs (addPlain ys ps) := by
  rcases ps with _ | ⟨⟨zs⟩ | ⟨n, body⟩, ps⟩
  · cases ys <;> simp [addPlain]
  · simp [addPlain]
  · cases ys <;> simp [addPlain]

/-- The pieces of a text make it up. -/
theorem flatMap_written (b : Nat) (cs : List Char) :
    (split b 0 cs).flatMap Piece.written = List.replicate b '\\' ++ cs := by
  induction b, cs using pieceInduction with
  | nil b =>
    rw [split, flatMap_addPlain _ fun _ => rfl, List.flatMap_nil]
  | backslash b cs ih =>
    rw [split_backslash, ih, List.replicate_succ', List.append_assoc]
    rfl
  | tag b body rest hbody ih =>
    rw [split_tag b hbody, List.flatMap_cons, ih, Piece.written, List.append_assoc,
      bracketed_append]
    rfl
  | char b c cs hc hnone ih =>
    rw [split_char b hc hnone, flatMap_addPlain _ fun _ => rfl, ih]
    simp

/-- No bracket opens in a tag. -/
theorem not_mem_of_tag_mem_split {n : Nat} (h : .tag n body ∈ split b 0 cs) : '[' ∉ body := by
  induction b, cs using pieceInduction with
  | nil b => exact absurd (tag_mem_addPlain_iff.mp h) List.not_mem_nil
  | backslash b cs ih => exact ih h
  | tag b found rest hfound ih =>
    rw [split_tag b hfound, List.mem_cons] at h
    rcases h with htag | hmem
    · obtain ⟨-, rfl⟩ := Piece.tag.inj htag
      exact (eq_append_of_tagBody? hfound).1
    · exact ih hmem
  | char b c cs hc hnone ih =>
    rw [split_char b hc hnone, tag_mem_addPlain_iff] at h
    exact ih h

/-! ## Protected texts -/

/-- Protecting a text changes nothing up to its first bracket, unless that one opens. -/
theorem upToClosing?_escaped (b : Nat) (cs : List Char) :
    upToClosing? ((split b 0 cs).flatMap Piece.escaped) =
      upToClosing? (List.replicate b '\\' ++ cs) := by
  induction b, cs using pieceInduction with
  | nil b => rw [split, flatMap_addPlain _ fun _ => rfl, List.flatMap_nil]
  | backslash b cs ih =>
    rw [split_backslash, ih, List.replicate_succ', List.append_assoc]
    rfl
  | tag b body rest hbody _ =>
    -- the tag opens, before and after
    rw [split_tag b hbody, List.flatMap_cons, Piece.escaped, List.append_assoc,
      upToClosing?_replicate, upToClosing?_replicate]
    rfl
  | char b c cs hc hnone ih =>
    rw [List.replicate_zero, List.nil_append] at ih
    rw [split_char b hc hnone, flatMap_addPlain _ fun _ => rfl, List.append_assoc,
      upToClosing?_replicate, upToClosing?_replicate, List.singleton_append, upToClosing?,
      upToClosing?, ih]

/-- A bracket starts a tag in a protected text if it does in the text. -/
theorem tagBody?_escaped (cs : List Char) :
    tagBody? ((pieces cs).flatMap Piece.escaped) = tagBody? cs := by
  rw [tagBody?_eq_filter, tagBody?_eq_filter, pieces, upToClosing?_escaped]
  rfl

/-- Backslashes are counted. -/
theorem split_replicate (b n : Nat) (cs : List Char) :
    split b 0 (List.replicate n '\\' ++ cs) = split (b + n) 0 cs := by
  induction n generalizing b with
  | zero => rfl
  | succ n ih =>
    rw [List.replicate_succ, List.cons_append, split_backslash, ih, Nat.add_assoc, Nat.add_comm 1]

/-- Backslashes at the end are plain. -/
theorem split_backslashes (b n : Nat) :
    split b 0 (List.replicate n '\\') = addPlain (List.replicate (b + n) '\\') [] := by
  rw [← List.append_nil (List.replicate n '\\'), split_replicate, split]

/-- A protected text has the pieces of the text, with other numbers of backslashes.  Further
backslashes behind it are plain. -/
theorem split_protected (n b : Nat) (cs : List Char) :
    split 0 0 ((split b 0 cs).flatMap Piece.escaped ++ List.replicate n '\\') =
      (split b 0 (cs ++ List.replicate n '\\')).map Piece.protect := by
  have hn : upToClosing? (List.replicate n '\\') = none := by
    rw [← List.append_nil (List.replicate n '\\'), upToClosing?_replicate]
    rfl
  induction b, cs using pieceInduction with
  | nil b =>
    rw [split, flatMap_addPlain _ fun _ => rfl, List.flatMap_nil, List.append_nil,
      split_replicate, Nat.zero_add, List.nil_append, split_backslashes, map_protect_addPlain,
      List.map_nil]
  | backslash b cs ih => exact ih
  | tag b body rest hbody ih =>
    -- there is one backslash more than twice as many in front of the same tag
    have hwritten (ds : List Char) :
        Piece.escaped (.tag b body) ++ ds =
          List.replicate (2 * b + 1) '\\' ++ '[' :: (body ++ ']' :: ds) := by
      rw [Piece.escaped, List.append_assoc, bracketed_append]
    have htext : '[' :: (body ++ ']' :: rest) ++ List.replicate n '\\' =
        '[' :: (body ++ ']' :: (rest ++ List.replicate n '\\')) := by
      simp
    rw [split_tag b hbody, List.flatMap_cons, List.append_assoc, hwritten, split_replicate,
      Nat.zero_add, split_tag _ (tagBody?_append_close hbody _), ih, htext,
      split_tag _ (tagBody?_append_close hbody _), List.map_cons]
    rfl
  | char b c cs hc hnone ih =>
    have hescaped : c = '[' →
        tagBody? ((split 0 0 cs).flatMap Piece.escaped ++ List.replicate n '\\') = none := by
      intro h
      rw [tagBody?_append hn, ← pieces, tagBody?_escaped]
      exact hnone h
    have htext : c = '[' → tagBody? (cs ++ List.replicate n '\\') = none := by
      intro h
      rw [tagBody?_append hn]
      exact hnone h
    rw [split_char b hc hnone, flatMap_addPlain _ fun _ => rfl, List.append_assoc,
      List.append_assoc, split_replicate, Nat.zero_add, List.singleton_append,
      split_char b hc hescaped, ih, List.cons_append, split_char b hc htext, map_protect_addPlain]

/-- A text that is protected by backslashes, with those behind it that end it. -/
theorem pieces_escapeChars (cs : List Char) :
    ∃ n, pieces (escapeChars cs) = (pieces (cs ++ List.replicate n '\\')).map Piece.protect := by
  rw [escapeChars]
  split
  · exact ⟨1, split_protected 1 0 cs⟩
  · refine ⟨0, ?_⟩
    have hprotected := split_protected 0 0 cs
    rwa [List.replicate_zero, List.append_nil] at hprotected

/-! ## Texts without tags -/

/-- No opening bracket of a text starts a tag. -/
def Tagless (cs : List Char) : Prop := ∀ ds, '[' :: ds <:+ cs → tagBody? ds = none

instance (cs : List Char) : Decidable (Tagless cs) :=
  decidable_of_iff (∀ ds ∈ cs.tails, ds.head? = some '[' → tagBody? ds.tail = none) <| by
    constructor
    · intro h ds hds
      exact h _ ((List.mem_tails _ _).mpr hds) rfl
    · rintro h (_ | ⟨c, ds⟩) hds hopen
      · cases hopen
      · cases hopen
        exact h ds ((List.mem_tails _ _).mp hds)

/-- A text without tags is a plain piece. -/
theorem Tagless.split_eq (h : Tagless cs) (b : Nat) :
    split b 0 cs = addPlain (List.replicate b '\\' ++ cs) [] := by
  induction b, cs using pieceInduction with
  | nil b => rw [split, List.append_nil]
  | backslash b cs ih =>
    rw [split_backslash, ih fun ds hds => h ds (hds.trans (List.suffix_cons _ cs)),
      List.replicate_succ', List.append_assoc]
    rfl
  | tag b body rest hbody _ =>
    rw [h _ List.suffix_rfl] at hbody
    cases hbody
  | char b c cs hc hnone ih =>
    rw [split_char b hc hnone, ih fun ds hds => h ds (hds.trans (List.suffix_cons c cs)),
      ← addPlain_append, List.append_assoc]
    rfl

/-- What starts in front of the last character of a text ends in it. -/
theorem eq_concat_of_suffix {a : Char} {ds : List Char} (front : List Char) (hac : a ≠ c)
    (h : front ++ a :: ds <:+ cs ++ [c]) : ∃ es, ds = es ++ [c] ∧ front ++ a :: es <:+ cs := by
  obtain hnil | ⟨es, heq, hes⟩ := List.suffix_concat_iff.mp h
  · exact absurd hnil (by simp)
  rcases List.eq_nil_or_concat ds with rfl | ⟨ds, d, rfl⟩
  · exact absurd (List.singleton_inj.mp (List.append_inj' heq rfl).2) hac
  · rw [List.concat_eq_append, ← List.cons_append, ← List.append_assoc] at heq
    obtain ⟨rfl, hd⟩ := List.append_inj' heq rfl
    exact ⟨ds, by rw [List.singleton_inj.mp hd, List.concat_eq_append], hes⟩

/-- A text has no tags with a character at its end that is no bracket. -/
theorem Tagless.concat (h : Tagless cs) (hopen : c ≠ '[') (hclose : c ≠ ']') :
    Tagless (cs ++ [c]) := by
  intro ds hds
  obtain ⟨es, rfl, hes⟩ := eq_concat_of_suffix [] hopen.symm hds
  rw [tagBody?_append (upToClosing?_cons hclose hopen)]
  exact h es hes

/-- A text whose pieces are all plain has no tags. -/
theorem tagless_of_split (h : ∀ n body, .tag n body ∉ split b 0 cs) : Tagless cs := by
  induction b, cs using pieceInduction with
  | nil b =>
    intro ds hds
    cases List.suffix_nil.mp hds
  | backslash b cs ih =>
    intro ds hds
    rcases List.suffix_cons_iff.mp hds with heq | hds
    · cases heq
    · exact ih h ds hds
  | tag b body rest hbody _ =>
    rw [split_tag b hbody] at h
    exact absurd List.mem_cons_self (h b body)
  | char b c cs hc hnone ih =>
    intro ds hds
    rcases List.suffix_cons_iff.mp hds with heq | hds
    · obtain ⟨hopen, rfl⟩ := List.cons.inj heq
      exact hnone hopen.symm
    · refine ih (fun n body hmem => h n body ?_) ds hds
      rw [split_char b hc hnone, tag_mem_addPlain_iff]
      exact hmem

/-- A text in front of another one is one plain piece, together with the backslashes in front of
it, if no bracket in it starts a tag and it does not end in a backslash. -/
theorem split_append (hne : cs ≠ []) (htags : ∀ ds, '[' :: ds <:+ cs → tagBody? (ds ++ us) = none)
    (hlast : ∀ c ∈ cs.getLast?, c ≠ '\\') (b : Nat) :
    split b 0 (cs ++ us) = addPlain (List.replicate b '\\' ++ cs) (split 0 0 us) := by
  induction cs generalizing b with
  | nil => exact absurd rfl hne
  | cons c cs ih =>
    have hnone : c = '[' → tagBody? (cs ++ us) = none := by
      rintro rfl
      exact htags cs List.suffix_rfl
    rcases eq_or_ne cs [] with rfl | hrest
    · exact split_char b (hlast c rfl) hnone
    have ih := ih hrest (fun ds hds => htags ds (hds.trans (List.suffix_cons c cs)))
      fun d hd => hlast d (by rwa [List.getLast?_cons_of_ne_nil hrest])
    by_cases hc : c = '\\'
    · rw [hc, List.cons_append, split_backslash, ih, List.replicate_succ', List.append_assoc]
      rfl
    · rw [List.cons_append, split_char b hc hnone, ih, ← addPlain_append, List.append_assoc]
      rfl

end ScriptNavigation.Markup
