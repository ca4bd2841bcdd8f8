/-
# Outlines of any list of symbols

The symbols of an outline need not come from one script, and a name may stand for several classes.
Whatever the list is, the outline says of each symbol where it goes.  A symbol goes below the last
class before it that has the name of its owner, and to the top if there is no such class or if it
is no member.  To tell symbols apart that are the same, each is taken with its place in the list.

The groups that are built along the list are those that the places say, at each point of the list.
So nothing is lost and nothing is repeated: each symbol is at the top or below exactly one symbol
there, and it keeps the order of the list, as entries are picked out of the list by a filter.

Main facts:

* `attach_append`: where a member goes when the last class with the name is known.
* `above?_eq_some_iff`: a symbol goes below the last of the classes before it with the name.
* `add_placed`: what one more symbol adds.
* `perm_flatMap_below`: each symbol is at the top or below exactly one symbol.
* `recordOfOutline_placed`: the outline of any list of symbols.
-/
import Mathlib.Data.List.Induction
import Mathlib.Data.List.Nodup
import ScriptNavigation.Proofs.Symbol.Sameness
import ScriptNavigation.Report.OutlineTree

namespace ScriptNavigation

/-! ## Names of classes and of owners -/

theorem folded_eq_some_iff {d : Datum} {name : String} :
    d.folded.toOption = some name ↔ ∃ x, d = .str x ∧ Text.foldCase x = name := by
  constructor
  · intro h
    obtain ⟨x, hx, rfl⟩ := Result.map_eq_ok.mp (Result.eq_ok_of_toOption h)
    cases d <;> cases hx
    exact ⟨x, rfl, rfl⟩
  · rintro ⟨x, rfl, rfl⟩
    rfl

namespace Symbol

variable {S : Symbol} {name : String}

/-- The folded name of a class. -/
def className? (S : Symbol) : Option String :=
  if S.kind = .classType then S.name.folded.toOption else none

/-- The folded name of the owner of a member of which data is known. -/
def ownerName? (S : Symbol) : Option String :=
  if S.kind.isMember then S.member.bind fun m => m.owner.folded.toOption else none

/-- The names that an outline reads are texts: that of a class and that of the owner of a member. -/
structure Outlinable (S : Symbol) : Prop where
  name : S.kind = .classType → ∃ name, S.name = .str name
  owner : S.kind.isMember = true → ∀ m, S.member = some m → ∃ owner, m.owner = .str owner

theorem className?_eq_some_iff :
    S.className? = some name ↔
      S.kind = .classType ∧ ∃ x, S.name = .str x ∧ Text.foldCase x = name := by
  rw [className?, ← folded_eq_some_iff]
  split
  · next hk => simp [hk]
  · next hk => simp [hk]

theorem ownerName?_eq_some_iff :
    S.ownerName? = some name ↔ S.kind.isMember = true ∧
      ∃ m, S.member = some m ∧ ∃ x, m.owner = .str x ∧ Text.foldCase x = name := by
  simp only [← folded_eq_some_iff]
  rw [ownerName?]
  split
  · next hk => simp [hk, Option.bind_eq_some_iff]
  · next hk => simp [hk]

/-- A symbol that is no member has no owner. -/
theorem ownerName?_of_not_isMember (h : S.kind.isMember = false) : S.ownerName? = none := by
  rw [ownerName?, h, if_neg Bool.false_ne_true]

/-- A class is no member. -/
theorem ownerName?_of_className? (h : S.className? = some name) : S.ownerName? = none :=
  ownerName?_of_not_isMember (by rw [(className?_eq_some_iff.mp h).1]; rfl)

theorem Outlinable.ofHead_eq (h : S.Outlinable) :
    OutlineGroup.ofHead S = .ok ⟨S, S.className?, []⟩ := by
  rw [OutlineGroup.ofHead, className?]
  by_cases hk : S.kind = .classType
  · obtain ⟨name, hname⟩ := h.name hk
    rw [if_pos hk, if_pos hk, hname]
    rfl
  · rw [if_neg hk, if_neg hk]
    rfl

theorem Outlinable.ownerName?_eq (h : S.Outlinable) :
    OutlineGroup.ownerName? S = .ok S.ownerName? := by
  rw [OutlineGroup.ownerName?, ownerName?]
  cases hk : S.kind.isMember with
  | false => rfl
  | true =>
    cases hm : S.member with
    | none => rfl
    | some m =>
      obtain ⟨owner, howner⟩ := h.owner hk m hm
      dsimp only
      rw [if_pos rfl, howner, Option.bind_some, howner]
      rfl

open OutlineGroup in
/-- A symbol goes under the last class with the name of its owner, or else to the end. -/
theorem Outlinable.add_eq (h : S.Outlinable) (gs : List OutlineGroup) :
    add gs S = .ok ((S.ownerName?.bind fun owner => attach owner S gs).getD
      (gs ++ [⟨S, S.className?, []⟩])) := by
  rw [add, h.ownerName?_eq, Result.ok_bind]
  cases S.ownerName?.bind fun owner => attach owner S gs with
  | some gs' => rfl
  | none =>
    rw [h.ofHead_eq]
    rfl

end Symbol

/-- A member goes under the last class with the name of its owner. -/
theorem OutlineGroup.attach_append {gs hs : List OutlineGroup} {g : OutlineGroup}
    {owner : String} {m : Symbol} (hg : g.className = some owner)
    (hhs : ∀ h ∈ hs, h.className ≠ some owner) :
    attach owner m (gs ++ g :: hs) =
      some (gs ++ { g with members := g.members ++ [m] } :: hs) := by
  induction gs with
  | nil =>
    have hnone : attach owner m hs = none := by
      rw [← Option.not_isSome_iff_eq_none, attach_isSome_iff]
      rintro ⟨h, hmem, hname⟩
      exact hhs h hmem hname
    rw [List.nil_append, attach, hnone]
    exact if_pos hg
  | cons g' gs ih =>
    rw [List.cons_append, attach, ih]
    rfl

/-! ## Places in an outline -/

/-- A symbol in a list, with its place there. -/
abbrev PlacedSymbol := Symbol × Nat

namespace PlacedSymbol

open OutlineGroup

variable {ps : List PlacedSymbol} {c d m p : PlacedSymbol}

/-- Whether a symbol is a class that comes before a member, of which data is known, and has the
name of its owner, up to case. -/
def owns (c m : PlacedSymbol) : Bool :=
  decide (c.2 < m.2) && c.1.kind == .classType && m.1.kind.isMember &&
    m.1.member.any fun member => (sameName c.1.name member.owner).toOption == some true

/-- The last class before a member with the name of its owner. -/
def above? (ps : List PlacedSymbol) (m : PlacedSymbol) : Option PlacedSymbol :=
  ps.reverse.find? fun c => c.owns m

/-- The symbols at the top of an outline. -/
def tops (ps : List PlacedSymbol) : List PlacedSymbol :=
  ps.filter fun m => (above? ps m).isNone

/-- The symbols below another one in an outline. -/
def below (ps : List PlacedSymbol) (c : PlacedSymbol) : List PlacedSymbol :=
  ps.filter fun m => (above? ps m).any fun d => d.2 == c.2

/-- The group of a symbol at the top of an outline. -/
def group (ps : List PlacedSymbol) (c : PlacedSymbol) : OutlineGroup :=
  ⟨c.1, c.1.className?, (below ps c).map Prod.fst⟩

/-- The groups of an outline. -/
def groups (ps : List PlacedSymbol) : List OutlineGroup := (tops ps).map (group ps)

/-! ## Owners -/

theorem owns_iff :
    owns c m = true ↔
      c.2 < m.2 ∧ ∃ name, c.1.className? = some name ∧ m.1.ownerName? = some name := by
  simp only [owns, Bool.and_eq_true, decide_eq_true_iff, beq_iff_eq, Option.any_eq_true,
    Symbol.className?_eq_some_iff, Symbol.ownerName?_eq_some_iff]
  constructor
  · rintro ⟨⟨⟨hlt, hclass⟩, hmember⟩, member, hdata, hsame⟩
    obtain ⟨x, y, hx, hy, hfold⟩ := sameName_eq_true (Result.eq_ok_of_toOption hsame)
    exact ⟨hlt, _, ⟨hclass, x, hx, hfold⟩, hmember, member, hdata, y, hy, rfl⟩
  · rintro ⟨hlt, name, ⟨hclass, x, hx, hfold⟩, hmember, member, hdata, y, hy, hfold'⟩
    refine ⟨⟨⟨hlt, hclass⟩, hmember⟩, member, hdata, ?_⟩
    rw [hx, hy, sameName_text, Text.sameFolded_iff.mpr (hfold.trans hfold'.symm)]
    rfl

/-- The symbol above another one is the last of those that own it. -/
theorem above?_eq_some_iff :
    above? ps m = some c ↔ ∃ before after, ps = before ++ c :: after ∧ owns c m = true ∧
      ∀ d ∈ after, owns d m = false := by
  rw [above?, List.find?_eq_some_iff_append]
  constructor
  · rintro ⟨howns, after, before, hps, hafter⟩
    refine ⟨before.reverse, after.reverse, ?_, howns, ?_⟩
    · rw [← List.reverse_reverse ps, hps]
      simp
    · intro d hd
      simpa using hafter d (List.mem_reverse.mp hd)
  · rintro ⟨before, after, rfl, howns, hafter⟩
    refine ⟨howns, after.reverse, before.reverse, by simp, ?_⟩
    intro d hd
    simpa using hafter d (List.mem_reverse.mp hd)

theorem above?_eq_none_iff : above? ps m = none ↔ ∀ c ∈ ps, owns c m = false := by
  simp [above?]

/-- The symbol above another one owns it. -/
theorem owns_of_above? (h : above? ps m = some c) : c ∈ ps ∧ owns c m = true := by
  obtain ⟨before, after, rfl, howns, -⟩ := above?_eq_some_iff.mp h
  exact ⟨List.mem_append_right _ List.mem_cons_self, howns⟩

/-- Nothing is above a symbol that owns another one. -/
theorem above?_of_owns (h : owns c m = true) : above? ps c = none := by
  obtain ⟨-, name, hname, -⟩ := owns_iff.mp h
  rw [above?_eq_none_iff]
  intro d _
  rw [← Bool.not_eq_true, owns_iff, Symbol.ownerName?_of_className? hname]
  rintro ⟨-, name', -, hnone⟩
  cases hnone

/-! ## Lists in order -/

/-- The places of the symbols of a list increase. -/
def InOrder (ps : List PlacedSymbol) : Prop := ps.Pairwise fun c d => c.2 < d.2

theorem InOrder.snoc (h : InOrder (ps ++ [p])) : InOrder ps ∧ ∀ c ∈ ps, c.2 < p.2 := by
  obtain ⟨hps, -, hlast⟩ := List.pairwise_append.mp h
  exact ⟨hps, fun c hc => hlast c hc p (List.mem_singleton_self p)⟩

theorem InOrder.nodup (h : InOrder ps) : ps.Nodup :=
  h.imp fun hlt heq => Nat.ne_of_lt hlt (congrArg Prod.snd heq)

/-- The place of a symbol tells it apart from all others. -/
theorem InOrder.eq_of_place (h : InOrder ps) (hc : c ∈ ps) (hd : d ∈ ps) (hplace : c.2 = d.2) :
    c = d := by
  have hplaces : (ps.map Prod.snd).Nodup :=
    List.pairwise_map.mpr (h.imp fun hlt => Nat.ne_of_lt hlt)
  exact List.inj_on_of_nodup_map hplaces hc hd hplace

/-- The symbols of a list stand in order at their places. -/
theorem inOrder_zipIdx (symbols : List Symbol) : InOrder symbols.zipIdx := by
  rw [InOrder, ← List.pairwise_map (f := Prod.snd), List.zipIdx_map_snd]
  exact List.pairwise_lt_range'

/-! ## One more symbol -/

/-- What is above a symbol does not depend on what comes behind it. -/
theorem above?_snoc (hm : m.2 ≤ p.2) : above? (ps ++ [p]) m = above? ps m := by
  have hnot : owns p m = false := by
    rw [← Bool.not_eq_true, owns_iff]
    exact fun howns => Nat.not_lt.mpr hm howns.1
  rw [above?, List.reverse_append, List.reverse_singleton, List.singleton_append, List.find?_cons,
    hnot, above?]

/-- Symbols picked by what is above them are picked alike when one more comes behind them. -/
theorem filter_above?_snoc (hlast : ∀ c ∈ ps, c.2 < p.2) (pick : Option PlacedSymbol → Bool) :
    (ps ++ [p]).filter (fun m => pick (above? (ps ++ [p]) m)) =
      ps.filter (fun m => pick (above? ps m)) ++ bif pick (above? ps p) then [p] else [] := by
  have hps : ps.filter (fun m => pick (above? (ps ++ [p]) m)) =
      ps.filter (fun m => pick (above? ps m)) :=
    List.filter_congr fun m hm => by rw [above?_snoc (Nat.le_of_lt (hlast m hm))]
  rw [List.filter_append, hps, List.filter_singleton, above?_snoc (Nat.le_refl _)]

theorem below_snoc (hlast : ∀ c ∈ ps, c.2 < p.2) (c : PlacedSymbol) :
    below (ps ++ [p]) c =
      below ps c ++ bif (above? ps p).any fun d => d.2 == c.2 then [p] else [] :=
  filter_above?_snoc hlast fun above => above.any fun d : PlacedSymbol => d.2 == c.2

theorem group_congr {qs : List PlacedSymbol} (h : below qs c = below ps c) :
    group qs c = group ps c := by
  rw [group, group, h]

/-- A symbol that nothing is above goes to the end. -/
theorem groups_snoc_of_none (hlast : ∀ c ∈ ps, c.2 < p.2) (h : above? ps p = none) :
    groups (ps ++ [p]) = groups ps ++ [⟨p.1, p.1.className?, []⟩] := by
  have htops : tops (ps ++ [p]) = tops ps ++ [p] := by
    rw [tops, filter_above?_snoc hlast, h]
    rfl
  have hbelow (c : PlacedSymbol) : below (ps ++ [p]) c = below ps c := by
    rw [below_snoc hlast, h]
    exact List.append_nil _
  -- what is above some symbol is in the list already
  have hnone : below ps p = [] := by
    rw [below, List.filter_eq_nil_iff]
    intro m _ habove
    obtain ⟨c, hc, hplace⟩ := (Option.any_eq_true _ _).mp habove
    exact Nat.ne_of_lt (hlast c (owns_of_above? hc).1) (beq_iff_eq.mp hplace)
  have hgroups : (tops ps).map (group (ps ++ [p])) = groups ps :=
    List.map_congr_left fun c _ => group_congr (hbelow c)
  rw [groups, htops, List.map_append, hgroups, List.map_singleton, group, hbelow, hnone]
  rfl

/-- A symbol that another one is above goes to the end of the group of that one, and the groups
behind it have other names. -/
theorem groups_snoc_of_some (hps : InOrder (ps ++ [p])) (h : above? ps p = some c) :
    ∃ before after, groups ps = before ++ group ps c :: after ∧
      groups (ps ++ [p]) = before ++
        { group ps c with members := (group ps c).members ++ [p.1] } :: after ∧
      ∀ g ∈ after, g.className ≠ p.1.ownerName? := by
  obtain ⟨hin, hlast⟩ := hps.snoc
  obtain ⟨before, after, hsplit, howns, hafter⟩ := above?_eq_some_iff.mp h
  have hplaces : (∀ d ∈ before, c.2 ≠ d.2) ∧ ∀ d ∈ after, c.2 ≠ d.2 := by
    rw [hsplit] at hin
    obtain ⟨-, hcafter, hbefore⟩ := List.pairwise_append.mp hin
    exact ⟨fun d hd => Nat.ne_of_gt (hbefore d hd c List.mem_cons_self),
      fun d hd => Nat.ne_of_lt ((List.pairwise_cons.mp hcafter).1 d hd)⟩
  have hbelow (d : PlacedSymbol) :
      below (ps ++ [p]) d = below ps d ++ bif c.2 == d.2 then [p] else [] := by
    rw [below_snoc hlast, h, Option.any_some]
  have hother (d : PlacedSymbol) (hd : c.2 ≠ d.2) : group (ps ++ [p]) d = group ps d := by
    apply group_congr
    rw [hbelow, beq_eq_false_iff_ne.mpr hd, cond_false, List.append_nil]
  have hgroup : group (ps ++ [p]) c =
      { group ps c with members := (group ps c).members ++ [p.1] } := by
    rw [group, hbelow, beq_self_eq_true, cond_true, List.map_append, List.map_singleton, group]
  -- the symbol above is at the top itself, and stays between the same others there
  have htops : tops ps = (before.filter fun m => (above? ps m).isNone) ++
      c :: after.filter fun m => (above? ps m).isNone := by
    have hc : (above? ps c).isNone = true := by rw [above?_of_owns howns]; rfl
    calc tops ps = (before ++ c :: after).filter fun m => (above? ps m).isNone := by
          rw [tops, ← hsplit]
      _ = _ := by
          rw [List.filter_append, List.filter_cons_of_pos (by exact hc)]
  have htops' : tops (ps ++ [p]) = tops ps := by
    rw [tops, filter_above?_snoc hlast, h]
    exact List.append_nil _
  have hmap {qs : List PlacedSymbol} (hqs : ∀ d ∈ qs, c.2 ≠ d.2)
      (pick : PlacedSymbol → Bool) :
      (qs.filter pick).map (group (ps ++ [p])) = (qs.filter pick).map (group ps) :=
    List.map_congr_left fun d hd => hother d (hqs d (List.mem_of_mem_filter hd))
  refine ⟨(before.filter fun m => (above? ps m).isNone).map (group ps),
    (after.filter fun m => (above? ps m).isNone).map (group ps), ?_, ?_, ?_⟩
  · rw [groups, htops, List.map_append, List.map_cons]
  · rw [groups, htops', htops, List.map_append, List.map_cons, hmap hplaces.1, hmap hplaces.2,
      hgroup]
  · obtain ⟨hlt, name, -, howner⟩ := owns_iff.mp howns
    intro g hg hname
    obtain ⟨d, hd, rfl⟩ := List.mem_map.mp hg
    have hdafter := List.mem_of_mem_filter hd
    have hdps : d ∈ ps := hsplit ▸ List.mem_append_right _ (List.mem_cons_of_mem c hdafter)
    have hnot := hafter d hdafter
    rw [← Bool.not_eq_true, owns_iff] at hnot
    exact hnot ⟨hlast d hdps, name, hname.trans howner, howner⟩

/-- What one more symbol adds. -/
theorem add_placed (hps : InOrder (ps ++ [p])) (hp : p.1.Outlinable) :
    add (groups ps) p.1 = .ok (groups (ps ++ [p])) := by
  obtain ⟨-, hlast⟩ := hps.snoc
  rw [hp.add_eq]
  cases habove : above? ps p with
  | none =>
    have hattach : (p.1.ownerName?.bind fun owner => attach owner p.1 (groups ps)) = none := by
      rw [Option.bind_eq_none_iff]
      intro owner howner
      rw [← Option.not_isSome_iff_eq_none, attach_isSome_iff]
      rintro ⟨g, hg, hname⟩
      obtain ⟨c, hc, rfl⟩ := List.mem_map.mp hg
      have hcmem := List.mem_of_mem_filter hc
      have hnot := above?_eq_none_iff.mp habove c hcmem
      rw [← Bool.not_eq_true, owns_iff] at hnot
      exact hnot ⟨hlast c hcmem, owner, hname, howner⟩
    rw [hattach, Option.getD_none, groups_snoc_of_none hlast habove]
  | some c =>
    obtain ⟨before, after, hgroups, hgroups', hafter⟩ := groups_snoc_of_some hps habove
    obtain ⟨-, name, hname, howner⟩ := owns_iff.mp (owns_of_above? habove).2
    rw [howner] at hafter
    rw [howner, Option.bind_some, hgroups, hgroups', attach_append hname hafter,
      Option.getD_some]

/-- The groups that are built along a list are those that its places say. -/
theorem foldlM_add_placed (hps : InOrder ps) (h : ∀ p ∈ ps, p.1.Outlinable) :
    ps.foldlM (fun gs p => add gs p.1) [] = .ok (groups ps) := by
  induction ps using List.reverseRecOn with
  | nil => rfl
  | append_singleton ps p ih =>
    rw [List.foldlM_append, ih hps.snoc.1 fun q hq => h q (List.mem_append_left _ hq),
      Result.ok_bind, List.foldlM_cons,
      add_placed hps (h p (List.mem_append_right _ (List.mem_singleton_self p)))]
    rfl

/-! ## At the top or below -/

/-- A symbol is below another one exactly if that is the one above it. -/
theorem mem_below (hps : InOrder ps) (hc : c ∈ ps) :
    m ∈ below ps c ↔ m ∈ ps ∧ above? ps m = some c := by
  rw [below, List.mem_filter, Option.any_eq_true]
  refine and_congr_right fun _ => ⟨?_, fun h => ⟨c, h, beq_self_eq_true c.2⟩⟩
  rintro ⟨d, hd, hplace⟩
  rw [hd, hps.eq_of_place (owns_of_above? hd).1 hc (beq_iff_eq.mp hplace)]

theorem mem_tops : m ∈ tops ps ↔ m ∈ ps ∧ above? ps m = none := by
  rw [tops, List.mem_filter, Option.isNone_iff_eq_none]

/-- What is above a symbol is at the top. -/
theorem mem_tops_of_above? (h : above? ps m = some c) : c ∈ tops ps := by
  obtain ⟨hc, howns⟩ := owns_of_above? h
  exact mem_tops.mpr ⟨hc, above?_of_owns howns⟩

/-- Each symbol is at the top or below exactly one symbol there. -/
theorem perm_flatMap_below (hps : InOrder ps) :
    ((tops ps).flatMap fun c => c :: below ps c).Perm ps := by
  have htops : ∀ {c}, c ∈ tops ps → c ∈ ps ∧ above? ps c = none := mem_tops.mp
  have hnodup : ((tops ps).flatMap fun c => c :: below ps c).Nodup := by
    rw [List.nodup_flatMap]
    constructor
    · intro c hc
      obtain ⟨hcps, hnone⟩ := htops hc
      refine List.nodup_cons.mpr ⟨fun hcc => ?_, hps.nodup.sublist List.filter_sublist⟩
      obtain ⟨-, habove⟩ := (mem_below hps hcps).mp hcc
      cases hnone.symm.trans habove
    · refine (hps.nodup.sublist List.filter_sublist).imp_of_mem ?_
      intro c d hc hd hne m hmc hmd
      obtain ⟨hcps, hcnone⟩ := htops hc
      obtain ⟨hdps, hdnone⟩ := htops hd
      -- what is in both is at the top in one of them and below in the other, or has two above it
      rcases List.mem_cons.mp hmc with rfl | hmc <;> rcases List.mem_cons.mp hmd with rfl | hmd
      · exact hne rfl
      · cases hcnone.symm.trans ((mem_below hps hdps).mp hmd).2
      · cases hdnone.symm.trans ((mem_below hps hcps).mp hmc).2
      · have hcabove := ((mem_below hps hcps).mp hmc).2
        have hdabove := ((mem_below hps hdps).mp hmd).2
        exact hne (Option.some_inj.mp (hcabove.symm.trans hdabove))
  rw [List.perm_ext_iff_of_nodup hnodup hps.nodup]
  intro m
  rw [List.mem_flatMap]
  constructor
  · rintro ⟨c, hc, hm⟩
    rcases List.mem_cons.mp hm with rfl | hm
    · exact (htops hc).1
    · exact List.mem_of_mem_filter hm
  · intro hm
    cases habove : above? ps m with
    | none => exact ⟨m, mem_tops.mpr ⟨hm, habove⟩, List.mem_cons_self⟩
    | some c =>
      refine ⟨c, mem_tops_of_above? habove, List.mem_cons_of_mem c ?_⟩
      exact (mem_below hps (owns_of_above? habove).1).mpr ⟨hm, habove⟩

/-- No symbol behind the one above another one owns it. -/
theorem le_of_above? (hps : InOrder ps) (h : above? ps m = some c) (hd : d ∈ ps)
    (howns : owns d m = true) : d.2 ≤ c.2 := by
  obtain ⟨before, after, rfl, -, hafter⟩ := above?_eq_some_iff.mp h
  obtain ⟨-, -, hbefore⟩ := List.pairwise_append.mp hps
  rcases List.mem_append.mp hd with hd | hd
  · exact Nat.le_of_lt (hbefore d hd c List.mem_cons_self)
  · rcases List.mem_cons.mp hd with rfl | hd
    · exact Nat.le_refl _
    · exact absurd howns (Bool.eq_false_iff.mp (hafter d hd))

/-- A symbol is above another one exactly if it owns it and no later one does. -/
theorem above?_eq_some_iff_last (hps : InOrder ps) (hc : c ∈ ps) :
    above? ps m = some c ↔ owns c m = true ∧ ∀ d ∈ ps, owns d m = true → d.2 ≤ c.2 := by
  constructor
  · intro h
    exact ⟨(owns_of_above? h).2, fun d hd howns => le_of_above? hps h hd howns⟩
  · rintro ⟨howns, hlast⟩
    cases habove : above? ps m with
    | none => exact absurd howns (Bool.eq_false_iff.mp (above?_eq_none_iff.mp habove c hc))
    | some d =>
      obtain ⟨hd, hdowns⟩ := owns_of_above? habove
      have hplace := Nat.le_antisymm (hlast d hd hdowns) (le_of_above? hps habove hc howns)
      rw [hps.eq_of_place hd hc hplace]

end PlacedSymbol

/-! ## Records of an outline -/

namespace Datum

/-- The record of an entry without the list of what is below it. -/
def withoutChildren : Datum → Datum
  | .object members => .object (members.filter fun m => m.1 != "children")
  | d => d

/-- The records of what is below an entry. -/
def children : Datum → List Datum
  | .object members =>
    match members.lookup "children" with
    | some (.array ds) => ds
    | _ => []
  | _ => []

/-- An entry, followed by what is below it. -/
def flattened (d : Datum) : List Datum := d.withoutChildren :: d.children

end Datum

/-- The record of a symbol lists no children. -/
theorem Symbol.key_ne_children (S : Symbol) : ∀ m ∈ S.recordMembers, m.1 ≠ "children" := by
  unfold recordMembers
  cases S.member <;> simp

namespace PlacedSymbol

variable {ps : List PlacedSymbol} {c : PlacedSymbol}

/-- The record of a symbol at the top of an outline: for a class it lists what is below it. -/
def entry (ps : List PlacedSymbol) (c : PlacedSymbol) : Datum :=
  .object (c.1.recordMembers ++
    if c.1.kind = .classType then
      [("children", .array ((below ps c).map fun m => m.1.record))]
    else [])

theorem record_group (ps : List PlacedSymbol) (c : PlacedSymbol) :
    (group ps c).record = entry ps c := by
  rw [OutlineGroup.record, entry, group, List.map_map]
  rfl

/-- Only a class has symbols below it. -/
theorem below_eq_nil (hps : InOrder ps) (hc : c ∈ ps) (hk : c.1.kind ≠ .classType) :
    below ps c = [] := by
  rw [List.eq_nil_iff_forall_not_mem]
  intro m hm
  obtain ⟨-, name, hname, -⟩ := owns_iff.mp (owns_of_above? ((mem_below hps hc).mp hm).2).2
  exact hk (Symbol.className?_eq_some_iff.mp hname).1

/-- An entry is the record of its symbol, followed by those of the symbols below it. -/
theorem flattened_entry (hps : InOrder ps) (hc : c ∈ ps) :
    (entry ps c).flattened = (c :: below ps c).map fun m => m.1.record := by
  have hkeys := c.1.key_ne_children
  have hown : c.1.recordMembers.filter (fun m => m.1 != "children") = c.1.recordMembers :=
    List.filter_eq_self.mpr fun m hm => bne_iff_ne.mpr (hkeys m hm)
  have hnone : c.1.recordMembers.lookup "children" = none :=
    List.lookup_eq_none_iff.mpr fun m hm => by simpa using (hkeys m hm).symm
  rw [Datum.flattened, entry, Datum.withoutChildren, Datum.children, List.filter_append, hown,
    List.lookup_append, hnone, Option.none_or, List.map_cons, Symbol.record]
  by_cases hk : c.1.kind = .classType
  · simp [hk]
  · simp [hk, below_eq_nil hps hc hk]

theorem flatMap_flattened (hps : InOrder ps) :
    ((tops ps).map (entry ps)).flatMap Datum.flattened =
      ((tops ps).flatMap fun c => c :: below ps c).map fun m => m.1.record := by
  rw [List.flatMap_map, List.map_flatMap]
  exact List.flatMap_congr fun c hc => flattened_entry hps (List.mem_of_mem_filter hc)

end PlacedSymbol

section Outlines

open PlacedSymbol

variable {symbols : List Symbol}

/-- The outline of some symbols has an entry for each symbol at the top. -/
theorem recordOfOutline_eq (h : ∀ S ∈ symbols, S.Outlinable) :
    recordOfOutline symbols =
      .ok (.array ((tops symbols.zipIdx).map (entry symbols.zipIdx))) := by
  have hsymbols : symbols.zipIdx.map Prod.fst = symbols := List.zipIdx_map_fst 0 symbols
  have hgroups : OutlineGroup.ofSymbols symbols = .ok (groups symbols.zipIdx) := by
    rw [OutlineGroup.ofSymbols, ← hsymbols, List.foldlM_map, hsymbols]
    refine foldlM_add_placed (inOrder_zipIdx symbols) fun p hp => h p.1 ?_
    rw [← hsymbols]
    exact List.mem_map_of_mem hp
  rw [recordOfOutline, hgroups, Result.ok_bind, groups, List.map_map]
  congr 3
  exact funext (record_group _)

/-- The outline of any list of symbols, flattened, is the list of their records in some order.  The
entries keep the order of the list, and so do the symbols below each of them.  A symbol is below an
entry exactly if it is a member of which data is known and some class before it has the name of its
owner, and it is below the last such class. -/
theorem recordOfOutline_placed (h : ∀ S ∈ symbols, S.Outlinable) :
    (∃ entries, recordOfOutline symbols = .ok (.array entries) ∧
      entries = (tops symbols.zipIdx).map (entry symbols.zipIdx) ∧
      (entries.flatMap Datum.flattened).Perm (symbols.map Symbol.record)) ∧
      (tops symbols.zipIdx).Sublist symbols.zipIdx ∧
      (∀ c, (below symbols.zipIdx c).Sublist symbols.zipIdx) ∧
      ∀ m ∈ symbols.zipIdx,
        ((∃ c ∈ tops symbols.zipIdx, m ∈ below symbols.zipIdx c) ↔
          ∃ c ∈ symbols.zipIdx, owns c m = true) ∧
        ∀ c ∈ symbols.zipIdx, (m ∈ below symbols.zipIdx c ↔
          owns c m = true ∧ ∀ d ∈ symbols.zipIdx, owns d m = true → d.2 ≤ c.2) := by
  have hps := inOrder_zipIdx symbols
  have hrecords : symbols.zipIdx.map (fun m => m.1.record) = symbols.map Symbol.record := by
    conv_rhs => rw [← List.zipIdx_map_fst 0 symbols, List.map_map]
    rfl
  refine ⟨⟨_, recordOfOutline_eq h, rfl, ?_⟩, List.filter_sublist, fun c => List.filter_sublist,
    fun m hm => ⟨?_, fun c hc => ?_⟩⟩
  · rw [flatMap_flattened hps, ← hrecords]
    exact (perm_flatMap_below hps).map _
  · constructor
    · rintro ⟨c, hc, hmc⟩
      obtain ⟨hcps, -⟩ := mem_tops.mp hc
      exact ⟨c, hcps, (owns_of_above? ((mem_below hps hcps).mp hmc).2).2⟩
    · rintro ⟨c, hc, howns⟩
      cases habove : above? symbols.zipIdx m with
      | none => exact absurd howns (Bool.eq_false_iff.mp (above?_eq_none_iff.mp habove c hc))
      | some d =>
        exact ⟨d, mem_tops_of_above? habove,
          (mem_below hps (owns_of_above? habove).1).mpr ⟨hm, habove⟩⟩
  · rw [mem_below hps hc, above?_eq_some_iff_last hps hc]
    exact and_iff_right hm

namespace Garage

/-- A class. -/
def type (name : String) : Symbol :=
  ⟨.classType, .str name, Extent.nowhere.withText .null, none⟩

/-- A member of a class. -/
def member (kind : SymbolKind) (name owner : String) : Symbol :=
  ⟨kind, .str name, Extent.nowhere.withText .null, some { owner := .str owner }⟩

/-- Two classes of one name, up to case, with a member each, and a member of another class. -/
def listing : List Symbol :=
  [type "Car", member .method "Drive" "CAR", type "car", member .property "Wings" "Plane",
    member .property "Wheels" "Car"]

end Garage

/-- The members go below the last class of the name so far. -/
theorem recordOfOutline_placed_garage :
    (tops Garage.listing.zipIdx).map (fun c => (c.2, (below Garage.listing.zipIdx c).map Prod.snd))
        = [(0, [1]), (2, [4]), (3, [])] ∧
      ∃ entries, recordOfOutline Garage.listing = .ok (.array entries) ∧ entries.length = 3 ∧
        (entries.flatMap Datum.flattened).Perm (Garage.listing.map Symbol.record) := by
  have hplaces : (tops Garage.listing.zipIdx).map (fun c =>
      (c.2, (below Garage.listing.zipIdx c).map Prod.snd)) = [(0, [1]), (2, [4]), (3, [])] := by
    decide +kernel
  have hnames : ∀ S ∈ Garage.listing, S.Outlinable := by
    have htype (name : String) : (Garage.type name).Outlinable :=
      ⟨fun _ => ⟨name, rfl⟩, fun hk => nomatch hk⟩
    have hmember (kind : SymbolKind) (name owner : String) :
        (Garage.member kind name owner).Outlinable :=
      ⟨fun _ => ⟨name, rfl⟩, fun _ m hm => by cases hm; exact ⟨owner, rfl⟩⟩
    simp [Garage.listing, htype, hmember]
  obtain ⟨⟨entries, houtline, hentries, hperm⟩, -⟩ := recordOfOutline_placed hnames
  have hlength := congrArg List.length hplaces
  rw [List.length_map] at hlength
  refine ⟨hplaces, entries, houtline, ?_, hperm⟩
  rw [hentries, List.length_map, hlength]
  rfl

end Outlines

end ScriptNavigation
