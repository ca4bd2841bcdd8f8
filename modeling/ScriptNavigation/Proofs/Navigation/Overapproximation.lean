/-
# References that a guess rules out

The type of a receiver is a guess, and it decides the owner of the member that is accessed.
A query that guesses nothing gives such a member the wildcard as its owner, which is
compatible with every owner.  A guess reaches nothing else: not the name of the member, not
its extent, not the number of its parameters, and not the owner of a constructor.  So with
any guesses the references to a symbol are some of those that are found without guesses, in
the same order.

Main facts:

* `StandsIn.blurs_ofMethodCall`, `StandsIn.blurs_ofPropertyAccess`: what a guess changes.
* `denotesSame_blurs`: whatever matches also matches when less is known of its owner.
* `blurs_standingAt`: what stands at a node with guesses and without.
* `references_within_wildcard`: the references with guesses and without.
-/
import ScriptNavigation.Proofs.Navigation.Totality

namespace ScriptNavigation

/-! ## Members of which less is known -/

/-- A member is as another one, but for its owner: a member that is no constructor may have the
wildcard as its owner instead of a text. -/
structure Member.Blurs (m m' : Member) : Prop where
  isStatic : m.isStatic = m'.isStatic
  arity : m.arity = m'.arity
  isConstructor : m.isConstructor = m'.isConstructor
  owner : m.owner = m'.owner ∨
    m.isConstructor.truthy = false ∧ (∃ name, m.owner = .str name) ∧ m'.owner = wildcardType

theorem Member.Blurs.refl (m : Member) : m.Blurs m := ⟨rfl, rfl, rfl, Or.inl rfl⟩

/-- A symbol is as another one, but less may be known of the owner of its member. -/
structure Symbol.Blurs (C D : Symbol) : Prop where
  kind : C.kind = D.kind
  name : C.name = D.name
  extent : C.extent = D.extent
  member : Option.Rel Member.Blurs C.member D.member

theorem Symbol.Blurs.refl (C : Symbol) : C.Blurs C := by
  refine ⟨rfl, rfl, rfl, ?_⟩
  cases C.member with
  | none => exact .none
  | some m => exact .some (.refl m)

/-- What is printed of a symbol that is found: its kind, its name and its extent. -/
def Symbol.print (C : Symbol) : SymbolKind × Datum × Extent Datum := (C.kind, C.name, C.extent)

theorem Symbol.Blurs.print_eq {C D : Symbol} (h : C.Blurs D) : C.print = D.print := by
  rw [print, print, h.kind, h.name, h.extent]

/-! ## Matching -/

section Matching

open Result

variable {S C D : Symbol} {table : Option AliasTable}

/-- Whatever is compatible with an owner is compatible with the wildcard. -/
theorem compatibleOwners_wildcard (a : Datum) (owner : String) :
    Alike (· ≤ ·) (compatibleOwners a (.str owner)) (compatibleOwners a wildcardType) := by
  rw [compatibleOwners, compatibleOwners, isWildcard_wildcardType]
  cases a with
  | null => exact Bool.le_refl true
  | str t =>
    cases hwild : isWildcardName t with
    | true =>
      simp only [isWildcard, hwild, ok_bind, if_true]
      exact Bool.le_refl true
    | false =>
      simp only [isWildcard, hwild, ok_bind, Bool.false_eq_true, if_false, if_true, sameName_text]
      cases isWildcardName owner <;> exact Bool.le_true _
  | bool | int | float | array | object | node => exact rfl

/-- Owners that are the same, or of which the second is not known, are compatible alike. -/
theorem compatibleOwners_blurs {m m' : Member} (h : m.Blurs m') (a : Datum) :
    Alike (· ≤ ·) (compatibleOwners a m.owner) (compatibleOwners a m'.owner) := by
  rcases h.owner with howner | ⟨-, ⟨name, hname⟩, hwild⟩
  · rw [howner]
    exact Alike.refl Bool.le_refl _
  · rw [hname, hwild]
    exact compatibleOwners_wildcard a name

/-- Where a method matches, it matches also when less is known of its owner. -/
theorem sameMethod_blurs (h : C.Blurs D) : Alike (· ≤ ·) (sameMethod S C) (sameMethod S D) := by
  obtain ⟨-, hname, -, hmember⟩ := h
  rw [sameMethod, sameMethod, hname]
  generalize C.member = found at hmember ⊢
  generalize D.member = found' at hmember ⊢
  cases S.member with
  | none => exact Bool.le_refl false
  | some a =>
    cases hmember with
    | none => exact Bool.le_refl false
    | some hm =>
      simp only [sameStatic, hm.isStatic, hm.arity, hm.isConstructor]
      refine Alike.ite (fun _ => ?_) fun _ => ?_
      · refine Alike.ite (fun hboth => ?_) fun _ => Bool.le_refl false
        -- the owner of a constructor is not a guess
        rcases hm.owner with howner | ⟨hno, -, -⟩
        · rw [howner]
          exact Alike.refl Bool.le_refl _
        · rw [hm.isConstructor] at hno
          simp [hno] at hboth
      · refine Alike.ite (fun _ => Bool.le_refl false) fun _ => Alike.bind_same fun same => ?_
        refine Alike.ite (fun _ => Bool.le_refl false) fun _ => ?_
        exact Alike.ite (fun _ => Bool.le_refl false) fun _ => compatibleOwners_blurs hm a.owner

/-- Where a property matches, it matches also when less is known of its owner. -/
theorem sameProperty_blurs (h : C.Blurs D) :
    Alike (· ≤ ·) (sameProperty S C) (sameProperty S D) := by
  obtain ⟨-, hname, -, hmember⟩ := h
  rw [sameProperty, sameProperty, hname]
  generalize C.member = found at hmember ⊢
  generalize D.member = found' at hmember ⊢
  cases S.member with
  | none => exact Bool.le_refl false
  | some a =>
    cases hmember with
    | none => exact Bool.le_refl false
    | some hm =>
      simp only [sameStatic, hm.isStatic]
      refine Alike.ite (fun _ => Bool.le_refl false) fun _ => Alike.bind_same fun same => ?_
      exact Alike.ite (fun _ => Bool.le_refl false) fun _ => compatibleOwners_blurs hm a.owner

/-- Whatever matches a symbol matches it also when less is known of its owner. -/
theorem denotesSame_blurs (h : C.Blurs D) :
    Alike (· ≤ ·) (denotesSame table S C) (denotesSame table S D) := by
  rw [denotesSame, denotesSame, h.kind]
  refine Alike.ite (fun _ => Bool.le_refl false) fun _ => ?_
  cases S.kind.family with
  | method => exact sameMethod_blurs h
  | property => exact sameProperty_blurs h
  | _ =>
    -- the other families look at the name only
    simp only [h.name]
    exact Alike.refl Bool.le_refl _

end Matching

/-! ## Accesses -/

namespace Occurrence

variable {s : Script} {o : Occurrence} {infer : Inferer}

/-- The owner of an access does not depend on the inferer, or it is what the inferer guesses for
a receiver that is no type. -/
theorem ownerVia_cases (o : Occurrence) :
    (∀ infer infer', o.ownerVia infer = o.ownerVia infer') ∨
      ∃ receiver, o.childIn? .expression = some receiver ∧ receiver.kind ≠ .typeExpression ∧
        ∀ infer, o.ownerVia infer = (infer (.node receiver) >>= orWildcard) := by
  cases hreceiver : o.childIn? .expression with
  | none =>
    left
    intro infer infer'
    rw [ownerVia, ownerVia, hreceiver]
  | some receiver =>
    by_cases htype : receiver.kind = .typeExpression
    · left
      intro infer infer'
      rw [ownerVia, ownerVia, hreceiver]
      dsimp only
      rw [if_pos htype, if_pos htype]
    · by_cases hthis : Text.foldCase receiver.extent.text = "$this"
      · left
        intro infer infer'
        rw [ownerVia, ownerVia, hreceiver]
        dsimp only
        rw [if_neg htype, if_neg htype, if_pos hthis, if_pos hthis]
      · right
        refine ⟨receiver, rfl, htype, ?_⟩
        intro infer
        rw [ownerVia, hreceiver]
        dsimp only
        rw [if_neg htype, if_neg hthis]

namespace StandsIn

/-- The owner of an access is a text.  Without guesses it is the same text, or it is not known and
the access creates no object. -/
theorem ownerVia_wildcard (ho : o.StandsIn s) (hinfer : infer.NamesTypes s) :
    ∃ name owner, o.ownerVia infer = .ok (.str name) ∧
      o.ownerVia Inferer.wildcard = .ok owner ∧
      (.str name = owner ∨ o.isCreation = false ∧ owner = wildcardType) := by
  obtain ⟨guess, hguess⟩ := hinfer.exists_guess
  obtain ⟨owner, howner⟩ := ho.ownerVia_total hguess
  obtain ⟨name, rfl⟩ := exists_owner_of_ownerVia howner
  rcases o.ownerVia_cases with hfixed | ⟨receiver, hreceiver, htype, hguessed⟩
  · exact ⟨name, _, howner, (hfixed Inferer.wildcard infer).trans howner, Or.inl rfl⟩
  · refine ⟨name, wildcardType, howner, (hguessed Inferer.wildcard).trans rfl, Or.inr ⟨?_, rfl⟩⟩
    -- an object is created where the receiver is a type
    cases hnew : o.isCreation with
    | false => rfl
    | true =>
      obtain ⟨type, hof, hchild, -⟩ := ho.creation_receiver hnew
      obtain ⟨-, hkind⟩ := childOf?_eq_some.mp hof
      rw [hchild, Option.some_inj] at hreceiver
      exact absurd (hreceiver ▸ hkind) htype

/-- The symbol of a call with guesses and without. -/
theorem blurs_ofMethodCall (ho : o.StandsIn s) (hk : o.kind = .invokeMemberExpression)
    (hinfer : infer.NamesTypes s) :
    ∃ C D, Symbol.ofMethodCall infer o = .ok C ∧
      Symbol.ofMethodCall Inferer.wildcard o = .ok D ∧ C.Blurs D := by
  obtain ⟨guess, hguess⟩ := hinfer.exists_guess
  obtain ⟨name, owner, hname, howner, hsame⟩ := ho.ownerVia_wildcard hinfer
  have hwild : Inferer.wildcard.Guesses s fun _ => "object" := fun _ _ => rfl
  rw [ho.ofMethodCall_eq hk, ho.ofMethodCall_eq hk, hname, howner, ho.mapM_arguments hguess,
    ho.mapM_arguments hwild]
  refine ⟨_, _, rfl, rfl, rfl, rfl, rfl, .some ⟨rfl, ?_, rfl, ?_⟩⟩
  · simp [Member.arity]
  · rcases hsame with hsame | ⟨hno, hwild⟩
    · exact Or.inl hsame
    · exact Or.inr ⟨hno, ⟨name, rfl⟩, hwild⟩

/-- The symbol of an access to a property with guesses and without. -/
theorem blurs_ofPropertyAccess (ho : o.StandsIn s) (hk : o.kind = .memberExpression)
    (hinfer : infer.NamesTypes s) :
    ∃ C D, Symbol.ofPropertyAccess infer o = .ok C ∧
      Symbol.ofPropertyAccess Inferer.wildcard o = .ok D ∧ C.Blurs D := by
  obtain ⟨name, owner, hname, howner, hsame⟩ := ho.ownerVia_wildcard hinfer
  rw [ho.ofPropertyAccess_eq hk, ho.ofPropertyAccess_eq hk, hname, howner]
  refine ⟨_, _, rfl, rfl, rfl, rfl, rfl, .some ⟨rfl, rfl, rfl, ?_⟩⟩
  rcases hsame with hsame | ⟨-, hwild⟩
  · exact Or.inl hsame
  · exact Or.inr ⟨rfl, ⟨name, rfl⟩, hwild⟩

end StandsIn

end Occurrence

/-! ## References -/

namespace Query

open Occurrence Result

variable {s : Script} {o : Occurrence} {infer : Inferer} {S : Symbol} {table : Option AliasTable}

/-- Only at accesses does what stands at a node depend on guesses. -/
theorem standingAt_eq_of_no_access (h : o.kind.isMemberAccess = false) (infer infer' : Inferer) :
    Symbol.standingAt infer o = Symbol.standingAt infer' o := by
  rw [Symbol.standingAt, Symbol.standingAt]
  cases hk : o.kind
  case invokeMemberExpression | memberExpression =>
    rw [hk] at h
    exact absurd h (by decide)
  all_goals rfl

/-- What stands at a node with guesses and without, but for the keys of hashtables. -/
theorem blurs_standingAt (ho : o.StandsIn s) (hk : o.kind ≠ .hashtable)
    (hinfer : infer.NamesTypes s) :
    ∃ standing standing', Symbol.standingAt infer o = .ok standing ∧
      Symbol.standingAt Inferer.wildcard o = .ok standing' ∧
      List.Forall₂ Symbol.Blurs standing standing' := by
  cases haccess : o.kind.isMemberAccess with
  | false =>
    obtain ⟨standing, hstanding⟩ := standingAt_total ho hinfer fun h => absurd h hk
    exact ⟨standing, standing, hstanding,
      (standingAt_eq_of_no_access haccess Inferer.wildcard infer).trans hstanding,
      List.forall₂_same.mpr fun C _ => .refl C⟩
  | true =>
    have hboth : o.kind = .invokeMemberExpression ∨ o.kind = .memberExpression := by
      cases hk' : o.kind
      case invokeMemberExpression => exact Or.inl rfl
      case memberExpression => exact Or.inr rfl
      all_goals
        rw [hk'] at haccess
        cases haccess
    rcases hboth with hcall | hproperty
    · obtain ⟨C, D, hC, hD, hblurs⟩ := ho.blurs_ofMethodCall hcall hinfer
      refine ⟨[C], [D], ?_, ?_, .cons hblurs .nil⟩
      · simp only [Symbol.standingAt, hcall, hC]
        rfl
      · simp only [Symbol.standingAt, hcall, hD]
        rfl
    · obtain ⟨C, D, hC, hD, hblurs⟩ := ho.blurs_ofPropertyAccess hproperty hinfer
      refine ⟨[C], [D], ?_, ?_, .cons hblurs .nil⟩
      · simp only [Symbol.standingAt, hproperty, hC]
        rfl
      · simp only [Symbol.standingAt, hproperty, hD]
        rfl

/-- The symbols of a list are printed among those of another list, in the same order. -/
def Within (found all : List Symbol) : Prop :=
  (found.map Symbol.print).Sublist (all.map Symbol.print)

theorem Within.refl (found : List Symbol) : Within found found := List.Sublist.refl _

/-- What matches is printed among what matches when less is known of the owners. -/
theorem filterM_blurs {standing standing' : List Symbol}
    (h : List.Forall₂ Symbol.Blurs standing standing') :
    Alike Within (standing.filterM (denotesSame table S))
      (standing'.filterM (denotesSame table S)) := by
  induction h with
  | nil => exact List.Sublist.slnil
  | @cons C D standing standing' hCD _ ih =>
    rw [filterM_cons, filterM_cons]
    refine (denotesSame_blurs hCD).bind fun keep keep' hkeep => ih.bind fun found all hwithin => ?_
    cases keep with
    | true =>
      obtain rfl : keep' = true := hkeep rfl
      show Within (C :: found) (D :: all)
      rw [Within, List.map_cons, List.map_cons, hCD.print_eq]
      exact hwithin.cons_cons _
    | false =>
      cases keep' with
      | true => exact hwithin.cons _
      | false => exact hwithin

/-- What is listed at a node is printed among what is listed there without guesses. -/
theorem listAt_within (ho : o.StandsIn s) (hinfer : infer.NamesTypes s) :
    Alike Within (listAt ((Query.mk s infer false).referenceProbes S table) o)
      (listAt ((Query.mk s Inferer.wildcard false).referenceProbes S table) o) := by
  by_cases hk : o.kind = .hashtable
  · -- no guess is made at a hashtable, even if its keys cannot be built
    have hsame : listAt ((Query.mk s infer false).referenceProbes S table) o =
        listAt ((Query.mk s Inferer.wildcard false).referenceProbes S table) o := by
      by_cases hkey : S.kind.family = .hashtableKey
      · rw [listAt_referenceProbes_key _ table hk hkey, listAt_referenceProbes_key _ table hk hkey]
      · have hne : o.kind.symbolFamily? ≠ some S.kind.family := by
          rw [hk]
          exact fun h => hkey (Option.some_inj.mp h).symm
        rw [listAt_referenceProbes_of_ne _ table hne, listAt_referenceProbes_of_ne _ table hne]
    rw [hsame]
    exact Alike.refl Within.refl _
  · obtain ⟨standing, standing', hstanding, hstanding', hblurs⟩ := blurs_standingAt ho hk hinfer
    rw [listAt_referenceProbes (Query.mk s infer false) S table hstanding,
      listAt_referenceProbes (Query.mk s Inferer.wildcard false) S table hstanding']
    exact filterM_blurs hblurs

/-- What is listed at some nodes is printed among what is listed there without guesses. -/
theorem mapM_listAt_within {os : List Occurrence} (hos : ∀ o ∈ os, o.StandsIn s)
    (hinfer : infer.NamesTypes s) :
    Alike Within
      ((os.mapM (listAt ((Query.mk s infer false).referenceProbes S table))).map List.flatten)
      ((os.mapM (listAt ((Query.mk s Inferer.wildcard false).referenceProbes S table))).map
        List.flatten) := by
  induction os with
  | nil => exact List.Sublist.slnil
  | cons o os ih =>
    have hrest := ih fun p hp => hos p (List.mem_cons_of_mem _ hp)
    rw [map_flatten_mapM_cons, map_flatten_mapM_cons]
    refine (listAt_within (hos o List.mem_cons_self) hinfer).bind fun found all hfirst => ?_
    refine hrest.map fun rest rest' hlater => ?_
    rw [Within, List.map_append, List.map_append]
    exact hfirst.append hlater

/-- With any guesses the references to a symbol are printed among those found without guesses, in
the same order, and the one query fails as the other does.  That holds for the inferer of the
library in particular.  A symbol with texts that is no key makes neither query fail. -/
theorem references_within_wildcard (hs : s.WellTyped) (S : Symbol) (table : Option AliasTable) :
    (∀ infer : Inferer, infer.NamesTypes s →
      Alike Within ((Query.mk s infer false).references (some S) table)
        ((Query.mk s Inferer.wildcard false).references (some S) table)) ∧
      Alike Within ((Query.on s).references (some S) table)
        ((Query.mk s Inferer.wildcard false).references (some S) table) ∧
      (S.HasTexts → S.kind ≠ .hashtableKey →
        ∃ all, (Query.mk s Inferer.wildcard false).references (some S) table = .ok all) := by
  have hwithin : ∀ infer : Inferer, infer.NamesTypes s →
      Alike Within ((Query.mk s infer false).references (some S) table)
        ((Query.mk s Inferer.wildcard false).references (some S) table) := by
    intro infer hinfer
    rw [references_eq_gather, references_eq_gather, gather_eq, gather_eq]
    exact mapM_listAt_within (fun o ho => .of_mem_nodes hs ho) hinfer
  refine ⟨hwithin, hwithin _ (StandardInferer.syntactic.namesTypes hs), ?_⟩
  intro hS hkey
  exact references_total hs (StandardInferer.wildcard.namesTypes hs) hS hkey table

theorem references_within_wildcard_greeter :
    ∃ refs all, (Query.on Greeter.script).references (some Greeter.creator) none = .ok refs ∧
      (Query.mk Greeter.script Inferer.wildcard false).references (some Greeter.creator) none =
        .ok all ∧ Within refs all := by
  obtain ⟨hany, -, htotal⟩ :=
    references_within_wildcard Greeter.wellTyped_script Greeter.creator none
  have htexts : Greeter.creator.HasTexts := by
    refine ⟨⟨"GREETER", rfl⟩, ?_⟩
    rintro m ⟨⟩
    exact Or.inl rfl
  obtain ⟨all, hall⟩ := htotal htexts (by decide)
  have hwithin := hany (Query.on Greeter.script).infer
    (StandardInferer.syntactic.namesTypes Greeter.wellTyped_script)
  obtain ⟨refs, hrefs, hprint⟩ := hwithin.exists_ok hall
  exact ⟨refs, all, hrefs, hall, hprint⟩

end Query

end ScriptNavigation
