/-
# What does not depend on guesses

Two ways to guess types may give a member that is accessed another owner and the arguments of a
call other types, and that is all they can do.  Which node answers at a position is the same, and
so are the kind, the name and the extent of the symbol, whether it is static, whether it is a
constructor, and how many parameters it has.  Where the syntax says the owner the owner is the same
as well.  Declarations, the outline, the keys and the references to anything but members are found
without a guess.

Main facts:

* `StandsIn.sameAt_ofMethodCall`, `StandsIn.sameAt_ofPropertyAccess`: an access with two inferers.
* `alike_locateProbes`: what a node answers at a position with two inferers.
* `alike_firstAnswer`: a search answers alike if each of those asked does.
* `symbolUnder_independent`: what two inferers decide, and what they do not.
-/
import ScriptNavigation.Proofs.Navigation.InferredMember
import ScriptNavigation.Proofs.Navigation.Totality

namespace ScriptNavigation

/-- A kind that is not one of members does not belong to the family of one. -/
theorem SymbolKind.family_of_not_isMember {kind : SymbolKind} (h : kind.isMember = false) :
    kind.family ≠ .method ∧ kind.family ≠ .property := by
  revert h
  cases kind <;> decide

/-! ## Symbols up to guesses -/

/-- Two members are the same but for what is guessed: the owner and the types of parameters. -/
structure Member.SameButGuessed (m m' : Member) : Prop where
  isStatic : m.isStatic = m'.isStatic
  isConstructor : m.isConstructor = m'.isConstructor
  returnType : m.returnType = m'.returnType
  arity : m.arity = m'.arity

theorem Member.SameButGuessed.refl (m : Member) : m.SameButGuessed m := ⟨rfl, rfl, rfl, rfl⟩

/-- Whether the syntax says the owner of the member that a node declares or accesses.  It does at
a declaration, and where the receiver of an access is missing, a type or the object itself. -/
def Occurrence.SaysOwner (o : Occurrence) : Prop :=
  o.kind.isMemberAccess = true → ∀ receiver, o.childIn? .expression = some receiver →
    receiver.kind = .typeExpression ∨ Text.foldCase receiver.extent.text = "$this"

/-- Two symbols of a node are the same but for what is guessed. -/
structure Symbol.SameAt (o : Occurrence) (C D : Symbol) : Prop where
  kind : C.kind = D.kind
  name : C.name = D.name
  extent : C.extent = D.extent
  member : Option.Rel Member.SameButGuessed C.member D.member
  owner : o.SaysOwner → C.member.map Member.owner = D.member.map Member.owner

theorem Symbol.SameAt.refl (o : Occurrence) (C : Symbol) : C.SameAt o C := by
  refine ⟨rfl, rfl, rfl, ?_, fun _ => rfl⟩
  cases C.member with
  | none => exact .none
  | some m => exact .some (.refl m)

namespace Occurrence

variable {s : Script} {o : Occurrence} {infer infer' : Inferer} {C D : Symbol}

/-! ## Accesses -/

/-- An owner that the syntax says is not guessed. -/
theorem ownerVia_eq_of_saysOwner (hacc : o.kind.isMemberAccess = true) (h : o.SaysOwner)
    (infer infer' : Inferer) : o.ownerVia infer = o.ownerVia infer' := by
  rw [ownerVia, ownerVia]
  cases hreceiver : o.childIn? .expression with
  | none => rfl
  | some receiver =>
    dsimp only
    rcases h hacc receiver hreceiver with htype | hthis
    · rw [if_pos htype, if_pos htype]
    · rw [if_pos hthis, if_pos hthis]

namespace StandsIn

open Result

/-- Both inferers find an owner, and the same one if the syntax says it. -/
theorem alike_ownerVia (ho : o.StandsIn s) (hacc : o.kind.isMemberAccess = true)
    (hinfer : infer.NamesTypes s) (hinfer' : infer'.NamesTypes s) :
    Alike (fun a b => o.SaysOwner → a = b) (o.ownerVia infer) (o.ownerVia infer') := by
  obtain ⟨guess, hguess⟩ := hinfer.exists_guess
  obtain ⟨guess', hguess'⟩ := hinfer'.exists_guess
  obtain ⟨owner, howner⟩ := ho.ownerVia_total hguess
  obtain ⟨owner', howner'⟩ := ho.ownerVia_total hguess'
  rw [howner, howner']
  intro hsays
  have hsame := ownerVia_eq_of_saysOwner hacc hsays infer infer'
  rw [howner, howner'] at hsame
  exact Except.ok.inj hsame

/-- Both inferers give each argument of a call a type. -/
theorem alike_arguments (ho : o.StandsIn s) (hinfer : infer.NamesTypes s)
    (hinfer' : infer'.NamesTypes s) :
    Alike (fun types types' : List Datum => types.length = types'.length)
      (((o.childrenIn .arguments).map Value.node).mapM infer)
      (((o.childrenIn .arguments).map Value.node).mapM infer') := by
  obtain ⟨guess, hguess⟩ := hinfer.exists_guess
  obtain ⟨guess', hguess'⟩ := hinfer'.exists_guess
  rw [ho.mapM_arguments hguess, ho.mapM_arguments hguess']
  show List.length _ = List.length _
  rw [List.length_map, List.length_map]

/-- The symbol of a call with two inferers. -/
theorem sameAt_ofMethodCall (ho : o.StandsIn s) (hk : o.kind = .invokeMemberExpression)
    (hinfer : infer.NamesTypes s) (hinfer' : infer'.NamesTypes s) :
    Alike (Symbol.SameAt o) (Symbol.ofMethodCall infer o) (Symbol.ofMethodCall infer' o) := by
  have hacc : o.kind.isMemberAccess = true := by rw [hk]; rfl
  rw [ho.ofMethodCall_eq hk, ho.ofMethodCall_eq hk]
  refine (ho.alike_ownerVia hacc hinfer hinfer').bind fun owner owner' howner => ?_
  refine (ho.alike_arguments hinfer hinfer').bind fun types types' harity => ?_
  refine ⟨rfl, rfl, rfl, .some ⟨rfl, rfl, rfl, harity⟩, ?_⟩
  intro hsays
  exact congrArg some (howner hsays)

/-- The symbol of an access to a property with two inferers. -/
theorem sameAt_ofPropertyAccess (ho : o.StandsIn s) (hk : o.kind = .memberExpression)
    (hinfer : infer.NamesTypes s) (hinfer' : infer'.NamesTypes s) :
    Alike (Symbol.SameAt o) (Symbol.ofPropertyAccess infer o)
      (Symbol.ofPropertyAccess infer' o) := by
  have hacc : o.kind.isMemberAccess = true := by rw [hk]; rfl
  rw [ho.ofPropertyAccess_eq hk, ho.ofPropertyAccess_eq hk]
  refine (ho.alike_ownerVia hacc hinfer hinfer').bind fun owner owner' howner => ?_
  refine ⟨rfl, rfl, rfl, .some ⟨rfl, rfl, rfl, rfl⟩, ?_⟩
  intro hsays
  exact congrArg some (howner hsays)

end StandsIn

end Occurrence

namespace Query

open Occurrence Result

variable {s : Script} {infer infer' : Inferer} {o : Occurrence} {p : Position} {C D : Symbol}

/-! ## The symbol at a position -/

/-- Symbols that are the same but for guesses contain the same positions. -/
theorem rel_hit (h : C.SameAt o D) (p : Position) :
    Option.Rel (Symbol.SameAt o) (hit p C) (hit p D) := by
  rw [hit, hit, h.extent]
  split
  · exact .some h
  · exact .none

theorem rel_refl (o : Occurrence) (found : Option Symbol) :
    Option.Rel (Symbol.SameAt o) found found := by
  cases found with
  | none => exact .none
  | some C => exact .some (.refl o C)

/-- What an access to a property answers with two inferers. -/
theorem alike_hitPropertyAccess (ho : o.StandsIn s) (hk : o.kind = .memberExpression)
    (hinfer : infer.NamesTypes s) (hinfer' : infer'.NamesTypes s) (p : Position) :
    Alike (Option.Rel (Symbol.SameAt o)) ((Query.mk s infer false).hitPropertyAccess p o)
      ((Query.mk s infer' false).hitPropertyAccess p o) := by
  rw [ho.hitPropertyAccess_eq hk, ho.hitPropertyAccess_eq hk]
  refine Alike.ite (fun _ => .none) fun _ => ?_
  exact (ho.sameAt_ofPropertyAccess hk hinfer hinfer').map fun C D h => rel_hit h p

/-- What a call answers with two inferers. -/
theorem alike_hitMethodCall (ho : o.StandsIn s) (hk : o.kind = .invokeMemberExpression)
    (hinfer : infer.NamesTypes s) (hinfer' : infer'.NamesTypes s) (p : Position) :
    Alike (Option.Rel (Symbol.SameAt o)) ((Query.mk s infer false).hitMethodCall p o)
      ((Query.mk s infer' false).hitMethodCall p o) := by
  rw [ho.hitMethodCall_eq hk, ho.hitMethodCall_eq hk]
  refine Alike.ite (fun _ => .none) fun _ => Alike.ite (fun _ => ?_) fun _ => ?_
  · exact (ho.sameAt_ofMethodCall hk hinfer hinfer').map fun C D h => .some h
  · exact Alike.refl (rel_refl o) _

/-- What a node answers at a position with two inferers. -/
theorem alike_locateProbes (ho : o.StandsIn s) (hinfer : infer.NamesTypes s)
    (hinfer' : infer'.NamesTypes s) (p : Position) (whole : Bool) :
    Alike (Option.Rel (Symbol.SameAt o))
      (askAt ((Query.mk s infer false).locateProbes p whole) o)
      (askAt ((Query.mk s infer' false).locateProbes p whole) o) := by
  rw [askAt, askAt]
  cases hk : o.kind
  case memberExpression => exact alike_hitPropertyAccess ho hk hinfer hinfer' p
  case invokeMemberExpression => exact alike_hitMethodCall ho hk hinfer hinfer' p
  -- nothing is guessed at the other nodes
  all_goals exact Alike.refl (rel_refl o) _

/-- A search answers alike if each of those asked does, and the same one answers. -/
theorem alike_firstAnswer {α β : Type} {r : α → β → β → Prop} {ask ask' : α → Result (Option β)}
    {as : List α} (h : ∀ a ∈ as, Alike (Option.Rel (r a)) (ask a) (ask' a)) :
    Alike (Option.Rel fun b b' => ∃ a ∈ as,
        ask a = .ok (some b) ∧ ask' a = .ok (some b') ∧ r a b b')
      (firstAnswer ask as) (firstAnswer ask' as) := by
  induction as with
  | nil => exact .none
  | cons a as ih =>
    have hrest := ih fun b hb => h b (List.mem_cons_of_mem a hb)
    rw [firstAnswer, firstAnswer]
    refine (h a List.mem_cons_self).with_answers.bind ?_
    rintro found found' ⟨hask, hask', hrel⟩
    cases hrel with
    | some hb => exact .some ⟨a, List.mem_cons_self, hask, hask', hb⟩
    | none =>
      refine hrest.imp fun later later' hlater => ?_
      cases hlater with
      | none => exact .none
      | some hanswers =>
        obtain ⟨d, hd, hanswers⟩ := hanswers
        exact .some ⟨d, List.mem_cons_of_mem a hd, hanswers⟩

/-- The symbol at a position with two inferers: none with both, or one with both that is found at
the same node and is the same but for what is guessed. -/
theorem rel_symbolUnder (hs : s.WellTyped) (hinfer : infer.NamesTypes s)
    (hinfer' : infer'.NamesTypes s) (whole : Bool) (hline : 1 ≤ p.line) (hcolumn : 1 ≤ p.column) :
    ∃ found found', (Query.mk s infer false).symbolUnder p whole = .ok found ∧
      (Query.mk s infer' false).symbolUnder p whole = .ok found' ∧
      Option.Rel (fun C D => ∃ o ∈ s.nodes,
        askAt ((Query.mk s infer false).locateProbes p whole) o = .ok (some C) ∧
          askAt ((Query.mk s infer' false).locateProbes p whole) o = .ok (some D) ∧
          C.SameAt o D) found found' := by
  have hnode : ∀ o ∈ s.nodes, Alike (Option.Rel (Symbol.SameAt o))
      (askAt ((Query.mk s infer false).locateProbes p whole) o)
      (askAt ((Query.mk s infer' false).locateProbes p whole) o) :=
    fun o ho => alike_locateProbes (.of_mem_nodes hs ho) hinfer hinfer' p whole
  have hsearch := alike_firstAnswer hnode
  obtain ⟨guess', hguess'⟩ := hinfer'.exists_guess
  obtain ⟨found', hfound'⟩ := symbolUnder_total hs hguess' whole hline hcolumn
  simp only [symbolUnder, requirePosition_eq hline hcolumn, Result.ok_bind, first_eq] at hfound' ⊢
  obtain ⟨found, hfound, hrel⟩ := hsearch.exists_ok hfound'
  exact ⟨found, found', hfound, hfound', hrel⟩

/-! ## References -/

/-- Only accesses to members are looked for with guesses. -/
theorem occurrences_independent {family : SymbolKind} (hmethod : family ≠ .method)
    (hproperty : family ≠ .property) (infer infer' : Inferer) :
    occurrences infer family = occurrences infer' family := by
  cases family
  case method => exact absurd rfl hmethod
  case property => exact absurd rfl hproperty
  all_goals rfl

/-- The references to anything but a member are found without a guess. -/
theorem references_independent {S : Symbol} (hS : S.kind.isMember = false) (infer infer' : Inferer)
    (cancelled : Bool) (table : Option AliasTable) :
    (Query.mk s infer cancelled).references (some S) table =
      (Query.mk s infer' cancelled).references (some S) table := by
  obtain ⟨hmethod, hproperty⟩ := SymbolKind.family_of_not_isMember hS
  have hprobes : (Query.mk s infer cancelled).referenceProbes S table =
      (Query.mk s infer' cancelled).referenceProbes S table := by
    rw [referenceProbes, referenceProbes, occurrences_independent hmethod hproperty infer infer']
  rw [references, references, hprobes]
  rfl

/-! ## What two inferers decide -/

/-- Two inferers that name a type for each node find a symbol at the same positions and at the same
nodes; it is the same symbol but for the owner of a member and the types of its parameters, and the
owner is the same if the syntax says it.  Declarations, the outline, the keys and the references to
anything but members do not depend on the inferer. -/
theorem symbolUnder_independent (hs : s.WellTyped) (hinfer : infer.NamesTypes s)
    (hinfer' : infer'.NamesTypes s) :
    (∀ (p : Position) (whole : Bool), 1 ≤ p.line → 1 ≤ p.column →
        ∃ found found', (Query.mk s infer false).symbolUnder p whole = .ok found ∧
          (Query.mk s infer' false).symbolUnder p whole = .ok found' ∧
          Option.Rel (fun C D => ∃ o ∈ s.nodes,
            askAt ((Query.mk s infer false).locateProbes p whole) o = .ok (some C) ∧
              askAt ((Query.mk s infer' false).locateProbes p whole) o = .ok (some D) ∧
              C.SameAt o D) found found') ∧
      ∀ cancelled,
        (∀ S, (Query.mk s infer cancelled).declaration S =
          (Query.mk s infer' cancelled).declaration S) ∧
        (Query.mk s infer cancelled).outline = (Query.mk s infer' cancelled).outline ∧
        (Query.mk s infer cancelled).keys = (Query.mk s infer' cancelled).keys ∧
        ∀ S : Symbol, S.kind.isMember = false → ∀ table,
          (Query.mk s infer cancelled).references (some S) table =
            (Query.mk s infer' cancelled).references (some S) table := by
  refine ⟨?_, fun cancelled => ⟨fun S => rfl, rfl, rfl, ?_⟩⟩
  · intro p whole hline hcolumn
    exact rel_symbolUnder hs hinfer hinfer' whole hline hcolumn
  · intro S hS table
    exact references_independent hS infer infer' cancelled table

/-- The owner of the property of a new object is a guess.  With and without guesses the property
is found at its name, with two different owners. -/
theorem symbolUnder_independent_object :
    ∃ C D, (StandardInferer.wildcard.query StaticAccess.script).symbolUnder ⟨1, 34⟩ false =
        .ok (some C) ∧
      (StandardInferer.syntactic.query StaticAccess.script).symbolUnder ⟨1, 34⟩ false =
        .ok (some D) ∧
      (C.member.bind fun m => m.owner.str?) = some "object" ∧
      (D.member.bind fun m => m.owner.str?) = some "A" ∧
      C.kind = D.kind ∧ C.name = D.name ∧ C.extent = D.extent := by
  have howner : ((StandardInferer.wildcard.query StaticAccess.script).symbolUnder ⟨1, 34⟩
      false).toOption.any (fun found => found.any fun C =>
        (C.member.bind fun m => m.owner.str?) == some "object") = true := by
    decide +kernel
  have howner' : ((StandardInferer.syntactic.query StaticAccess.script).symbolUnder ⟨1, 34⟩
      false).toOption.any (fun found => found.any fun D =>
        (D.member.bind fun m => m.owner.str?) == some "A") = true := by
    decide +kernel
  obtain ⟨hposition, -⟩ := symbolUnder_independent StaticAccess.wellTyped_script
    (StandardInferer.wildcard.namesTypes StaticAccess.wellTyped_script)
    (StandardInferer.syntactic.namesTypes StaticAccess.wellTyped_script)
  obtain ⟨found, found', hfound, hfound', hrel⟩ :=
    hposition ⟨1, 34⟩ false (by decide) (by decide)
  obtain ⟨guessless, hguessless, hany⟩ := Result.exists_of_toOption_any howner
  obtain ⟨guessed, hguessed, hany'⟩ := Result.exists_of_toOption_any howner'
  obtain rfl : found = guessless := Except.ok.inj (hfound.symm.trans hguessless)
  obtain rfl : found' = guessed := Except.ok.inj (hfound'.symm.trans hguessed)
  cases hrel with
  | none => exact absurd hany Bool.false_ne_true
  | some hsame =>
    obtain ⟨o, -, -, -, hsame⟩ := hsame
    exact ⟨_, _, hfound, hfound', eq_of_beq hany, eq_of_beq hany', hsame.kind, hsame.name,
      hsame.extent⟩

end Query

end ScriptNavigation
