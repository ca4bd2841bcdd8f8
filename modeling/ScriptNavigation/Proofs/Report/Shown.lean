/-
# Texts that are shown as they stand

Besides reading tags, the console changes a text in three ways: it puts pictures in, swallows some
characters and replaces tabs, and it takes away a backslash in front of an opening bracket.  A text
in which it finds nothing of the kind is called steady here.  Such a text is shown as it stands
exactly if it has no tags.  Protecting it takes the meaning of its tags away, so that it is shown as
it stands even with tags; only a single backslash at its end is shown twice.

Main facts:

* `showPieces_eq_left`: what is left of pieces when they are shown.
* `Steady.settled`: nothing is changed in the pieces of a steady text besides backslashes.
* `Steady.showPieces_eq_self_iff`: a steady text is shown as it stands if it has no tags, and only
  then; `Heading.shown_eq_self_iff` says the same of a line with a heading.
* `Steady.showPieces_escapeChars`: a protected steady text is shown as it stands.
-/
import ScriptNavigation.Proofs.Report.Pieces
import ScriptNavigation.Proofs.Result
import Mathlib.Data.List.Flatten
import Mathlib.Data.List.TakeWhile

namespace ScriptNavigation.Markup

variable {b : Nat} {c : Char} {cs ds xs body : List Char} {opened : List String} {ps : List Piece}

/-! ## Pictures -/

/-- A name between colons may stand for a picture.  Only two of the numbers do, and no name with a
slash in it, as a path has one. -/
def mayBePicture (name : List Char) : Bool :=
  if name.all Char.isDigit then (picture? name).isSome
  else !(name.contains '/' || name.contains '\\')

/-- A name that cannot stand for a picture has none. -/
theorem picture?_eq_none {name : List Char} (h : mayBePicture name = false) :
    picture? name = none := by
  rw [picture?, if_neg, if_neg]
  · rintro rfl
    exact absurd h (by decide)
  · rintro rfl
    exact absurd h (by decide)

/-- The name after a colon ends in front of the next colon, and it has no blanks. -/
theorem colonName?_eq_some_iff {name : List Char} :
    colonName? cs = some name ↔
      (∀ c ∈ name, (c != ':' && !Text.isBlank c) = true) ∧ ∃ rest, cs = name ++ ':' :: rest := by
  rw [colonName?]
  constructor
  · intro h
    split at h
    · next hcolon =>
      obtain rfl := Option.some_inj.mp h
      rw [beq_iff_eq, List.head?_eq_some_iff] at hcolon
      obtain ⟨rest, hrest⟩ := hcolon
      refine ⟨fun c hc => ?_, rest, ?_⟩
      · exact List.mem_takeWhile_imp (p := fun c => c != ':' && !Text.isBlank c) hc
      · rw [← hrest]
        exact (List.prefix_iff_eq_append.mp (List.takeWhile_prefix _)).symm
    · cases h
  · rintro ⟨hname, rest, rfl⟩
    have hrun : (name ++ ':' :: rest).takeWhile (fun c => c != ':' && !Text.isBlank c) = name := by
      rw [List.takeWhile_append_of_pos hname]
      exact List.append_nil name
    rw [hrun, List.drop_left, List.head?_cons, if_pos (beq_self_eq_true _)]

/-- The name after a colon stays the same when the text goes on. -/
theorem colonName?_append {name : List Char} (h : colonName? cs = some name) (ds : List Char) :
    colonName? (cs ++ ds) = some name := by
  obtain ⟨hname, rest, rfl⟩ := colonName?_eq_some_iff.mp h
  exact colonName?_eq_some_iff.mpr ⟨hname, rest ++ ds, by simp⟩

/-- No name between colons in a text may stand for a picture. -/
def Pictureless (cs : List Char) : Prop :=
  ∀ ds, ':' :: ds <:+ cs → ∀ name ∈ colonName? ds, mayBePicture name = false

instance (cs : List Char) : Decidable (Pictureless cs) :=
  decidable_of_iff
    (∀ ds ∈ cs.tails, ds.head? = some ':' →
      ∀ name ∈ colonName? ds.tail, mayBePicture name = false) <| by
    constructor
    · intro h ds hds
      exact h _ ((List.mem_tails _ _).mpr hds) rfl
    · rintro h (_ | ⟨c, ds⟩) hds hcolon
      · cases hcolon
      · cases hcolon
        exact h ds ((List.mem_tails _ _).mp hds)

theorem Pictureless.of_isInfix (h : Pictureless cs) (hds : ds <:+: cs) : Pictureless ds := by
  intro es hes name hname
  obtain ⟨front, back, rfl⟩ := hds
  obtain ⟨middle, rfl⟩ := hes
  exact h (es ++ back) ⟨front ++ middle, by simp⟩ name (colonName?_append hname back)

/-- No name between colons ends in another character than a colon. -/
theorem Pictureless.concat (h : Pictureless cs) (hc : c ≠ ':') : Pictureless (cs ++ [c]) := by
  intro ds hds name hname
  obtain ⟨es, rfl, hes⟩ := eq_concat_of_suffix [] hc.symm hds
  obtain ⟨hplain, rest, hrest⟩ := colonName?_eq_some_iff.mp hname
  rcases rest.eq_nil_or_concat with rfl | ⟨rest, d, rfl⟩
  · exact absurd (List.append_inj' hrest rfl).2 (by simpa using hc)
  · rw [List.concat_eq_append, ← List.cons_append, ← List.append_assoc] at hrest
    refine h es hes name (colonName?_eq_some_iff.mpr ⟨hplain, rest, ?_⟩)
    exact (List.append_inj' hrest rfl).1

/-- The characters of a name that has been dealt with are passed. -/
theorem putPictures_skip (skip : Nat) (cs : List Char) :
    putPictures skip cs = putPictures 0 (cs.drop skip) := by
  induction cs generalizing skip with
  | nil => cases skip <;> rfl
  | cons c cs ih =>
    cases skip with
    | zero => rfl
    | succ skip =>
      rw [List.drop_succ_cons, putPictures]
      exact ih skip

/-- No picture is put into a text in which no name may stand for one. -/
theorem Pictureless.putPictures_eq (h : Pictureless cs) : putPictures 0 cs = cs := by
  induction hlength : cs.length using Nat.strong_induction_on generalizing cs with
  | _ n ih =>
    subst hlength
    cases cs with
    | nil => rfl
    | cons c cs =>
      have hrest : putPictures 0 cs = cs :=
        ih _ (by simp) (h.of_isInfix (List.suffix_cons c cs).isInfix) rfl
      rw [putPictures]
      by_cases hc : c = ':'
      · subst hc
        rw [if_pos rfl]
        cases hname : colonName? cs with
        | none => exact congrArg _ hrest
        | some name =>
          -- the whole name is passed, so the induction goes on behind its second colon
          have hnone : picture? name = none := picture?_eq_none (h cs List.suffix_rfl name hname)
          obtain ⟨-, rest, rfl⟩ := colonName?_eq_some_iff.mp hname
          have hbehind : putPictures (name.length + 1) (name ++ ':' :: rest) = rest := by
            have hsuffix : rest <:+ ':' :: (name ++ ':' :: rest) :=
              ⟨':' :: name ++ [':'], by simp⟩
            have hdrop : (name ++ ':' :: rest).drop (name.length + 1) = rest := by simp
            rw [putPictures_skip, hdrop]
            exact ih _ (by simp; omega) (h.of_isInfix hsuffix.isInfix) rfl
          simp only [hnone, hbehind, List.cons_append]
      · rw [if_neg hc]
        exact congrArg _ hrest

/-! ## Plain texts -/

/-- No backslash stands directly in front of an opening bracket. -/
def EscapesNoBracket (cs : List Char) : Prop := cs.IsChain fun a b => a = '\\' → b ≠ '['

theorem escapesNoBracket_of_not_mem (h : '[' ∉ cs) : EscapesNoBracket cs := by
  induction cs with
  | nil => exact .nil
  | cons c cs ih =>
    rw [List.mem_cons, not_or] at h
    refine List.isChain_cons.mpr ⟨?_, ih h.2⟩
    rintro d hd - rfl
    exact h.2 (List.mem_of_head? hd)

theorem escapesNoBracket_replicate (n : Nat) : EscapesNoBracket (List.replicate n '\\') := by
  apply escapesNoBracket_of_not_mem
  intro hmem
  exact absurd (List.eq_of_mem_replicate hmem) (by decide)

theorem EscapesNoBracket.dropBracketEscapes_eq (h : EscapesNoBracket cs) :
    dropBracketEscapes cs = cs := by
  induction cs using dropBracketEscapes.induct with
  | case1 cs _ => exact absurd rfl ((List.isChain_cons_cons.mp h).1 rfl)
  | case2 c cs hc ih =>
    rw [dropBracketEscapes]
    · rw [ih (List.isChain_cons.mp h).2]
    · exact hc
  | case3 => rfl

/-- The console keeps a character as it is. -/
def isKept (c : Char) : Bool := !isSwallowed c && c != '\t'

/-- A plain text is shown as it stands if there is nothing in it that the console changes. -/
theorem shownPlain_eq_self (hpictures : Pictureless cs) (hkept : ∀ c ∈ cs, isKept c = true)
    (hbrackets : EscapesNoBracket cs) : shownPlain cs = cs := by
  rw [shownPlain, hbrackets.dropBracketEscapes_eq, hpictures.putPictures_eq, List.filter_eq_self]
  intro c hc
  exact (Bool.and_eq_true_iff.mp (hkept c hc)).1

/-! ## Pieces as they are shown -/

/-- The console changes nothing in a piece but its backslashes. -/
def Piece.Settled : Piece → Prop
  | plain text => shownPlain text = text
  | tag _ body => shownPlain (bracketed body) = bracketed body

/-- What is left of a piece when it is shown, if it is settled. -/
def Piece.left : Piece → List Char
  | plain text => text
  | tag n body => List.replicate (n / 2) '\\' ++ if n % 2 = 1 then bracketed body else []

theorem Piece.left_protect (p : Piece) : p.protect.left = p.written := by
  cases p with
  | plain text => rfl
  | tag n body =>
    rw [protect, left, written, if_pos (by omega), show (2 * n + 1) / 2 = n by omega]

/-- No more is left of a piece than was written. -/
theorem Piece.left_sublist_written (p : Piece) : p.left.Sublist p.written := by
  cases p with
  | plain text => exact .refl text
  | tag n body =>
    have hslashes : (List.replicate (n / 2) '\\').Sublist (List.replicate n '\\') :=
      (List.replicate_sublist_replicate _).mpr (Nat.div_le_self n 2)
    rw [left, written]
    split
    · exact hslashes.append (.refl _)
    · exact hslashes.append (List.nil_sublist _)

theorem flatMap_left_sublist (ps : List Piece) :
    (ps.flatMap Piece.left).Sublist (ps.flatMap Piece.written) :=
  List.Sublist.flatMap_right _ fun p _ => p.left_sublist_written

/-- Less is left of a tag than was written. -/
theorem Piece.length_left_tag (n : Nat) (body : List Char) :
    (tag n body).left.length < (tag n body).written.length := by
  have hbody : 0 < (bracketed body).length := by simp [bracketed]
  rw [left, written, List.length_append, List.length_append, List.length_replicate,
    List.length_replicate]
  split
  · omega
  · rw [List.length_nil]
    omega

/-- Less is left of some pieces than was written if there is a tag among them. -/
theorem tag_not_mem_of_flatMap_left (h : ps.flatMap Piece.left = ps.flatMap Piece.written)
    (n : Nat) (body : List Char) : .tag n body ∉ ps := by
  induction ps with
  | nil => exact List.not_mem_nil
  | cons p ps ih =>
    rw [List.flatMap_cons, List.flatMap_cons] at h
    have hlength := congrArg List.length h
    rw [List.length_append, List.length_append] at hlength
    have hp := p.left_sublist_written.length_le
    have hps := (flatMap_left_sublist ps).length_le
    rw [List.mem_cons, not_or]
    constructor
    · rintro rfl
      have := Piece.length_left_tag n body
      omega
    · exact ih ((flatMap_left_sublist ps).eq_of_length (by omega))

theorem showPieces_plain (opened : List String) (text : List Char) (ps : List Piece) :
    showPieces opened (.plain text :: ps) = (showPieces opened ps).map (shownPlain text ++ ·) := by
  rw [showPieces]
  cases showPieces opened ps <;> rfl

/-- A tag is shown behind an odd number of backslashes. -/
theorem showPieces_protected (opened : List String) {n : Nat} (hn : n % 2 = 1) (body : List Char)
    (ps : List Piece) :
    showPieces opened (.tag n body :: ps) =
      (showPieces opened ps).map
        (List.replicate (n / 2) '\\' ++ shownPlain (bracketed body) ++ ·) := by
  rw [showPieces, if_pos hn]
  cases showPieces opened ps <;> rfl

/-- A tag is applied behind an even number of backslashes. -/
theorem showPieces_applied (opened : List String) {n : Nat} (hn : n % 2 ≠ 1) (body : List Char)
    (ps : List Piece) :
    showPieces opened (.tag n body :: ps) =
      applyTag opened body >>= fun opened =>
        (showPieces opened ps).map (List.replicate (n / 2) '\\' ++ ·) := by
  rw [showPieces, if_neg hn]
  cases applyTag opened body with
  | error e => rfl
  | ok opened => cases h : showPieces opened ps <;> simp [h]

/-- Settled pieces are shown as what is left of them, if they can be shown. -/
theorem showPieces_eq_left (hps : ∀ p ∈ ps, p.Settled) (h : showPieces opened ps = .ok cs) :
    cs = ps.flatMap Piece.left := by
  induction ps generalizing opened cs with
  | nil =>
    cases h
    rfl
  | cons p ps ih =>
    rw [List.forall_mem_cons] at hps
    rw [List.flatMap_cons]
    cases p with
    | plain text =>
      rw [showPieces_plain, Result.map_eq_ok] at h
      obtain ⟨rest, hrest, rfl⟩ := h
      rw [ih hps.2 hrest, show shownPlain text = text from hps.1]
      rfl
    | tag n body =>
      by_cases hn : n % 2 = 1
      · rw [showPieces_protected opened hn, Result.map_eq_ok] at h
        obtain ⟨rest, hrest, rfl⟩ := h
        rw [ih hps.2 hrest, show shownPlain (bracketed body) = bracketed body from hps.1,
          Piece.left, if_pos hn]
      · rw [showPieces_applied opened hn, Result.bind_eq_ok] at h
        obtain ⟨opened, -, h⟩ := h
        obtain ⟨rest, hrest, rfl⟩ := Result.map_eq_ok.mp h
        rw [ih hps.2 hrest, Piece.left, if_neg hn, List.append_nil]

/-- Protected pieces can always be shown. -/
theorem exists_showPieces_protect (opened : List String) (ps : List Piece) :
    ∃ cs, showPieces opened (ps.map Piece.protect) = .ok cs := by
  induction ps with
  | nil => exact ⟨[], rfl⟩
  | cons p ps ih =>
    obtain ⟨cs, hcs⟩ := ih
    rw [List.map_cons]
    cases p with
    | plain text =>
      rw [Piece.protect, showPieces_plain, hcs]
      exact ⟨_, rfl⟩
    | tag n body =>
      rw [Piece.protect, showPieces_protected opened (by omega), hcs]
      exact ⟨_, rfl⟩

/-- Protected pieces are shown as they are written without protection, if they are settled. -/
theorem showPieces_protect (hps : ∀ p ∈ ps, p.Settled) (opened : List String) :
    showPieces opened (ps.map Piece.protect) = .ok (ps.flatMap Piece.written) := by
  obtain ⟨cs, hcs⟩ := exists_showPieces_protect opened ps
  have hsettled : ∀ p ∈ ps.map Piece.protect, p.Settled := by
    rw [List.forall_mem_map]
    intro p hp
    have := hps p hp
    cases p <;> exact this
  rw [hcs, showPieces_eq_left hsettled hcs, List.flatMap_map]
  simp only [Piece.left_protect]

/-- A plain text that does not take part in what stands behind it is shown in front of it. -/
theorem showPieces_addPlain (hxs : ∀ ys, shownPlain (xs ++ ys) = xs ++ shownPlain ys)
    (opened : List String) (ps : List Piece) :
    showPieces opened (addPlain xs ps) = (showPieces opened ps).map (xs ++ ·) := by
  have hself : shownPlain xs = xs := by
    have := hxs []
    rwa [List.append_nil, show shownPlain [] = [] from rfl, List.append_nil] at this
  rcases xs with _ | ⟨x, xs⟩
  · rw [addPlain_nil]
    cases showPieces opened ps <;> rfl
  rcases ps with _ | ⟨⟨ys⟩ | ⟨n, body⟩, ps⟩
  · change showPieces opened [.plain (x :: xs)] = _
    rw [showPieces_plain, hself]
  · rw [addPlain, showPieces_plain, showPieces_plain, hxs]
    cases showPieces opened ps <;> simp
  · change showPieces opened (.plain (x :: xs) :: .tag n body :: ps) = _
    rw [showPieces_plain, hself]

/-! ## Steady texts -/

/-- A backslash directly in front of an opening bracket belongs to a tag. -/
def EscapesTags (cs : List Char) : Prop := ∀ ds, '\\' :: '[' :: ds <:+ cs → tagBody? ds ≠ none

instance (cs : List Char) : Decidable (EscapesTags cs) :=
  decidable_of_iff
    (∀ ds ∈ cs.tails, ds.take 2 = ['\\', '['] → tagBody? (ds.drop 2) ≠ none) <| by
    constructor
    · intro h ds hds
      exact h _ ((List.mem_tails _ _).mpr hds) rfl
    · rintro h (_ | ⟨c, _ | ⟨d, ds⟩⟩) hds hfront
      · cases hfront
      · cases hfront
      · cases hfront
        exact h ds ((List.mem_tails _ _).mp hds)

theorem EscapesTags.suffix (h : EscapesTags cs) (hds : ds <:+ cs) : EscapesTags ds :=
  fun es hes => h es (hes.trans hds)

/-- If every backslash in front of an opening bracket belongs to a tag, none stands in front of a
character that starts no tag. -/
theorem EscapesTags.front (h : EscapesTags (List.replicate b '\\' ++ c :: cs))
    (hnone : c = '[' → tagBody? cs = none) :
    EscapesNoBracket (List.replicate b '\\' ++ [c]) := by
  refine List.isChain_append.mpr ⟨escapesNoBracket_replicate b, .singleton c, ?_⟩
  rintro a ha d ⟨⟩ rfl rfl
  cases b with
  | zero => cases ha
  | succ b =>
    refine h cs ?_ (hnone rfl)
    rw [List.replicate_succ', List.append_assoc]
    exact List.suffix_append _ _

/-- If every backslash in front of an opening bracket belongs to a tag, none is left in the plain
pieces. -/
theorem EscapesTags.of_mem_split {text : List Char} (h : EscapesTags (List.replicate b '\\' ++ cs))
    (htext : .plain text ∈ split b 0 cs) : EscapesNoBracket text := by
  induction b, cs using pieceInduction generalizing text with
  | nil b =>
    obtain hmem | ⟨ys, rfl | hmem, rfl⟩ := of_plain_mem_addPlain htext
    · cases hmem
    · rw [List.append_nil]
      exact escapesNoBracket_replicate b
    · cases hmem
  | backslash b cs ih =>
    rw [List.replicate_succ', List.append_assoc] at ih
    exact ih h htext
  | tag b body rest hbody ih =>
    rw [split_tag b hbody, List.mem_cons] at htext
    have hrest : rest <:+ List.replicate b '\\' ++ '[' :: (body ++ ']' :: rest) :=
      ⟨List.replicate b '\\' ++ '[' :: body ++ [']'], by simp⟩
    exact ih (h.suffix hrest) (htext.resolve_left nofun)
  | char b c cs hc hnone ih =>
    have hcs : cs <:+ List.replicate b '\\' ++ c :: cs :=
      (List.suffix_cons c cs).trans (List.suffix_append _ _)
    rw [split_char b hc hnone] at htext
    obtain hmem | ⟨ys, hys, rfl⟩ := of_plain_mem_addPlain htext
    · exact ih (h.suffix hcs) hmem
    have hys : EscapesNoBracket ys := by
      rcases hys with rfl | hmem
      · exact .nil
      · exact ih (h.suffix hcs) hmem
    refine List.isChain_append.mpr ⟨h.front hnone, hys, ?_⟩
    intro a ha d _ hbackslash
    rw [List.getLast?_concat, Option.mem_some_iff] at ha
    exact absurd (ha.trans hbackslash) hc

/-- A text in which the console changes nothing besides its tags. -/
structure Steady (cs : List Char) : Prop where
  pictureless : Pictureless cs
  kept : ∀ c ∈ cs, isKept c = true
  escapesTags : EscapesTags cs

instance (cs : List Char) : Decidable (Steady cs) :=
  decidable_of_iff (Pictureless cs ∧ cs.all isKept = true ∧ EscapesTags cs)
    ⟨fun h => ⟨h.1, List.all_eq_true.mp h.2.1, h.2.2⟩,
      fun h => ⟨h.pictureless, List.all_eq_true.mpr h.kept, h.escapesTags⟩⟩

theorem Steady.no_tab (h : Steady cs) : '\t' ∉ cs := by
  intro htab
  exact absurd (h.kept _ htab) (by decide)

/-- The pieces of a steady text are settled. -/
theorem Steady.settled (h : Steady cs) : ∀ p ∈ pieces cs, p.Settled := by
  intro p hp
  have hwritten : p.written <:+: cs := by
    have := List.infix_of_mem_flatten (List.mem_map_of_mem (f := Piece.written) hp)
    rwa [← List.flatMap_def, pieces, flatMap_written] at this
  cases p with
  | plain text =>
    refine shownPlain_eq_self (h.pictureless.of_isInfix hwritten) ?_ ?_
    · exact fun c hc => h.kept c (hwritten.subset hc)
    · exact EscapesTags.of_mem_split (b := 0) h.escapesTags hp
  | tag n body =>
    have hbracketed : bracketed body <:+: cs := (List.suffix_append _ _).isInfix.trans hwritten
    refine shownPlain_eq_self (h.pictureless.of_isInfix hbracketed) ?_ ?_
    · exact fun c hc => h.kept c (hbracketed.subset hc)
    · have hbody : '[' ∉ body ++ [']'] := by
        simpa using not_mem_of_tag_mem_split hp
      refine List.isChain_cons.mpr ⟨?_, escapesNoBracket_of_not_mem hbody⟩
      intro _ _ hbackslash
      exact absurd hbackslash (by decide)

/-- A steady text stays so with a character at the end that is neither a colon nor a bracket. -/
theorem Steady.concat (h : Steady cs) (hkept : isKept c = true)
    (hc : c ≠ ':' ∧ c ≠ '[' ∧ c ≠ ']') : Steady (cs ++ [c]) := by
  obtain ⟨hcolon, hopen, hclose⟩ := hc
  refine ⟨h.pictureless.concat hcolon, ?_, ?_⟩
  · intro d hd
    rcases List.mem_append.mp hd with hd | hd
    · exact h.kept d hd
    · rwa [List.mem_singleton.mp hd]
  · intro ds hds
    obtain ⟨es, rfl, hes⟩ := eq_concat_of_suffix ['\\'] hopen.symm hds
    rw [tagBody?_append (upToClosing?_cons hclose hopen)]
    exact h.escapesTags es hes

/-- A steady text stays so with backslashes at the end. -/
theorem Steady.append_backslashes (h : Steady cs) (n : Nat) :
    Steady (cs ++ List.replicate n '\\') := by
  induction n with
  | zero => rwa [List.replicate_zero, List.append_nil]
  | succ n ih =>
    rw [List.replicate_succ', ← List.append_assoc]
    exact ih.concat (by decide) (by decide)

/-! ## Texts as they are shown -/

/-- A steady text has no tags exactly if its pieces are shown as it stands. -/
theorem Steady.showPieces_eq_self_iff (h : Steady cs) (opened : List String) :
    showPieces opened (pieces cs) = .ok cs ↔ Tagless cs := by
  have hwritten : (pieces cs).flatMap Piece.written = cs := flatMap_written 0 cs
  constructor
  · intro hshown
    apply tagless_of_split
    apply tag_not_mem_of_flatMap_left
    exact (showPieces_eq_left h.settled hshown).symm.trans hwritten.symm
  · intro htags
    have hplain : (pieces cs).map Piece.protect = pieces cs := by
      rw [pieces, htags.split_eq, map_protect_addPlain, List.map_nil]
    have hshown := showPieces_protect h.settled opened
    rwa [hplain, hwritten] at hshown

/-- A steady text without tags is shown as it stands in front of a tag. -/
theorem Steady.shownPlain_eq (h : Steady cs) (htags : Tagless cs) : shownPlain cs = cs := by
  have hshown : showPieces [] (pieces cs) = .ok cs := (h.showPieces_eq_self_iff []).mpr htags
  rw [pieces, htags.split_eq, List.replicate_zero, List.nil_append] at hshown
  cases cs with
  | nil => rfl
  | cons c cs =>
    change showPieces [] [.plain (c :: cs)] = _ at hshown
    rw [showPieces_plain, showPieces, Result.map_ok, List.append_nil] at hshown
    exact Except.ok.inj hshown

/-- A steady text without tags is shown as it stands, in front of a tag too. -/
theorem Steady.showPieces_append (h : Steady cs) (htags : Tagless cs)
    (hlast : ∀ c ∈ cs.getLast?, c ≠ '\\') (hbody : tagBody? (body ++ [']']) = some body)
    (opened : List String) (us : List Char) :
    showPieces opened (pieces (cs ++ (bracketed body ++ us))) =
      (showPieces opened (pieces (bracketed body ++ us))).map (cs ++ ·) := by
  have htag : pieces (bracketed body ++ us) = .tag 0 body :: pieces us := split_bracketed hbody 0 us
  rcases eq_or_ne cs [] with rfl | hne
  · rw [List.nil_append]
    cases showPieces opened (pieces (bracketed body ++ us)) <;> rfl
  have hfront : pieces (cs ++ (bracketed body ++ us)) = .plain cs :: .tag 0 body :: pieces us := by
    rw [pieces, split_append hne ?_ hlast, ← pieces, htag, addPlain,
      if_neg (by rwa [List.replicate_zero, List.nil_append, List.isEmpty_iff])]
    · rfl
    · rintro _ _ ⟨⟩
    · intro ds hds
      rw [tagBody?_append (by rw [bracketed_append, upToClosing?_open])]
      exact htags ds hds
  rw [hfront, showPieces_plain, h.shownPlain_eq htags, htag]

/-- Nothing of a steady text is shown that was not written. -/
theorem Steady.sublist_of_showPieces (h : Steady cs)
    (hds : showPieces opened (pieces cs) = .ok ds) : ds.Sublist cs := by
  have hsub := flatMap_left_sublist (pieces cs)
  rwa [← showPieces_eq_left h.settled hds, pieces, flatMap_written] at hsub

/-- A protected steady text is shown as it stands, perhaps with more backslashes at its end. -/
theorem Steady.showPieces_escapeChars (h : Steady cs) :
    ∃ n, ∀ opened, showPieces opened (pieces (escapeChars cs)) =
      .ok (cs ++ List.replicate n '\\') := by
  obtain ⟨n, hn⟩ := pieces_escapeChars cs
  refine ⟨n, fun opened => ?_⟩
  rw [hn, showPieces_protect (h.append_backslashes n).settled, pieces, flatMap_written]
  rfl

/-- Every protected text can be shown. -/
theorem exists_showPieces_escapeChars (opened : List String) (cs : List Char) :
    ∃ ds, showPieces opened (pieces (escapeChars cs)) = .ok ds := by
  obtain ⟨n, hn⟩ := pieces_escapeChars cs
  rw [hn]
  exact exists_showPieces_protect opened _

/-- A text is shown as its pieces are, also if it has no brackets. -/
theorem showChars_eq_showPieces (cs : List Char) : showChars cs = showPieces [] (pieces cs) := by
  rw [showChars]
  split
  · rfl
  next hcontains =>
    have hopen : '[' ∉ cs := by simpa using hcontains
    have htags : Tagless cs := fun ds hds => absurd (hds.subset List.mem_cons_self) hopen
    rw [pieces, htags.split_eq, List.replicate_zero, List.nil_append]
    cases cs with
    | nil => rfl
    | cons c cs =>
      have hshown : shownPlain (c :: cs) =
          (putPictures 0 (c :: cs)).filter fun d => !isSwallowed d := by
        rw [shownPlain, (escapesNoBracket_of_not_mem hopen).dropBracketEscapes_eq]
      change _ = showPieces [] [.plain (c :: cs)]
      rw [showPieces_plain, hshown, showPieces, Result.map_ok, List.append_nil]

/-- A line without tabs is shown as its pieces are. -/
theorem shown_eq_ok {markup : String} (h : showPieces [] (pieces markup.toList) = .ok cs)
    (htab : '\t' ∉ cs) : shown markup = .ok (String.ofList cs) := by
  rw [shown, showChars_eq_showPieces, h, Result.map_ok, Text.tabbed_of_no_tab htab]

/-! ## Headings -/

/-- A text that stays apart from what follows it: it is plain, and is shown as it stands. -/
structure Heading (xs : List Char) : Prop where
  pieces_append : ∀ cs, pieces (xs ++ cs) = addPlain xs (pieces cs)
  shownPlain_append : ∀ cs, shownPlain (xs ++ cs) = xs ++ shownPlain cs
  no_tab : '\t' ∉ xs

/-- A text without opening brackets and backslashes stays apart if it does when it is plain. -/
theorem heading_of_plain (hopen : '[' ∉ xs) (hbackslash : '\\' ∉ xs)
    (hshown : ∀ cs, shownPlain (xs ++ cs) = xs ++ shownPlain cs) (htab : '\t' ∉ xs) :
    Heading xs := by
  refine ⟨fun cs => ?_, hshown, htab⟩
  rcases eq_or_ne xs [] with rfl | hne
  · rw [List.nil_append, addPlain_nil]
  refine split_append hne ?_ ?_ 0
  · intro ds hds
    exact absurd (hds.subset List.mem_cons_self) hopen
  · rintro c hc rfl
    exact hbackslash (List.mem_of_getLast? hc)

/-- What follows a heading is shown behind it. -/
theorem Heading.showPieces_append (h : Heading xs) (opened : List String) (cs : List Char) :
    showPieces opened (pieces (xs ++ cs)) = (showPieces opened (pieces cs)).map (xs ++ ·) := by
  rw [h.pieces_append, showPieces_addPlain h.shownPlain_append]

/-- Behind a heading a steady text is shown as it stands if it has no tags, and only then. -/
theorem Heading.shown_eq_self_iff {heading s : String} (h : Heading heading.toList)
    (hs : Steady s.toList) : shown (heading ++ s) = .ok (heading ++ s) ↔ Tagless s.toList := by
  rw [← hs.showPieces_eq_self_iff []]
  have hline := h.showPieces_append [] s.toList
  rw [← String.toList_append] at hline
  constructor
  · intro hshown
    rw [shown, showChars_eq_showPieces, hline, Result.map_eq_ok] at hshown
    obtain ⟨ds, hds, htabbed⟩ := hshown
    obtain ⟨es, hes, rfl⟩ := Result.map_eq_ok.mp hds
    have htab : '\t' ∉ heading.toList ++ es := by
      rw [List.mem_append, not_or]
      exact ⟨h.no_tab, fun hmem => hs.no_tab ((hs.sublist_of_showPieces hes).subset hmem)⟩
    rw [Text.tabbed_of_no_tab htab, ← String.toList_inj, String.toList_ofList,
      String.toList_append, List.append_cancel_left_eq] at htabbed
    rw [hes, htabbed]
  · intro hshown
    rw [hshown, Result.map_ok, ← String.toList_append] at hline
    rw [shown_eq_ok hline, String.ofList_toList]
    rw [String.toList_append, List.mem_append, not_or]
    exact ⟨h.no_tab, hs.no_tab⟩

end ScriptNavigation.Markup
