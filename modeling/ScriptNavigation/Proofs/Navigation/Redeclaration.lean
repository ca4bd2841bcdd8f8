/-
# The declaration of a declaration

Going to the declaration of a symbol and from there once more leads to the same place.  What
the first declaration matches is matched by the symbol too, so nothing that stands before it
can be the second one.  This needs that the types around members are known: a member of a type
that may be any type matches members of all types, also those that the symbol does not match.

Main facts:

* `Script.OwnsMembers`: every member stands in a type whose name is no wildcard.
* `declaration_idempotent`: the declaration of a declaration is that declaration.
* `Homonyms.declaration_of_declaration`: in a type that stands for any type it may be another.
-/
import ScriptNavigation.Proofs.Navigation.FirstDeclaration
import ScriptNavigation.Proofs.Symbol.KnownOwner

namespace ScriptNavigation

/-- The innermost type around each node that declares a member has a name of its own, which does
not stand for any type. -/
def Script.OwnsMembers (s : Script) : Prop :=
  ∀ m ∈ s.nodes, m.kind.declaresMember = true →
    ∃ c, m.typeAround? = some c ∧ isWildcardName (c.textIn .name) = false

namespace Occurrence

variable {s : Script} {o : Occurrence} {C : Symbol}

/-- The owner of what a node declares is known, if the types around members are. -/
theorem ownerKnown_of_declaration? (hs : s.OwnsMembers) (ho : o ∈ s.nodes)
    (h : o.declaration? = some C) : C.OwnerKnown := by
  intro m hm
  obtain ⟨hk, howner⟩ := owner_of_declaration? h hm
  obtain ⟨c, hc, hname⟩ := hs o ho hk
  have hne : c.textIn .name ≠ "" := by
    intro hempty
    rw [hempty] at hname
    exact absurd hname (by decide +kernel)
  rw [howner, typeNameAround, hc, nameOr]
  exact (congrArg (fun name => isWildcard (.str name)) (if_neg hne)).trans (congrArg _ hname)

end Occurrence

namespace Query

open Occurrence

variable {q : Query} {S D : Symbol}

/-- The declaration of a declaration is that declaration again, if every member stands in a type
whose name is no wildcard and every constructor is named like its type. -/
theorem declaration_idempotent (hs : q.script.WellTyped) (howned : q.script.OwnsMembers)
    (hnamed : q.script.NamesConstructors) (h : q.declaration (some S) = .ok (some D)) :
    q.declaration (some D) = .ok (some D) := by
  obtain ⟨hgoes, before, o, after, hsplit, ⟨hD, hSD⟩, hbefore⟩ := (declaration_eq_some_iff hs).mp h
  have ho : o ∈ q.script.nodes := hsplit ▸ List.mem_append_right _ List.mem_cons_self
  refine (declaration_eq_some_iff hs).mpr ⟨hgoes, before, o, after, hsplit, ⟨hD, ?_⟩, ?_⟩
  · exact matches_of_declaration? hnamed ho hD (.refl D)
  · intro c hc C hC
    have hregular := regular_of_declaration? hD
    have hregular' := regular_of_declaration? hC
    obtain ⟨same, hsame⟩ := denotesSame_total none hregular.hasTexts hregular'.hasTexts
    cases same with
    | false => exact hsame
    | true =>
      -- the symbol matches `C` as well, but was not sent to it
      have hSC : denotesSame none S C = .ok true :=
        denotesSame_trans hregular hregular' (ownerKnown_of_declaration? howned ho hD)
          (not_misnamed_of_declaration? hnamed ho hD) hSD hsame
      rw [hbefore c hc C hC] at hSC
      cases hSC

theorem declaration_idempotent_greeter :
    ∃ D, (Query.on Greeter.script).declaration (some Greeter.creator) = .ok (some D) ∧
      D.kind = .constructor ∧
      (Query.on Greeter.script).declaration (some D) = .ok (some D) := by
  have hfound : ((Query.on Greeter.script).declaration (some Greeter.creator)).toOption.any
      (fun found => found.any fun D => D.kind == .constructor) = true := by decide +kernel
  have howned : ∀ m ∈ Greeter.script.nodes, m.kind.declaresMember = true →
      (m.typeAround?.any fun c => isWildcardName (c.textIn .name) == false) = true := by
    decide +kernel
  have hnamed : Greeter.script.NamesConstructors := by
    unfold Script.NamesConstructors
    decide +kernel
  obtain ⟨found, hD, hany⟩ := Result.exists_of_toOption_any hfound
  obtain ⟨D, rfl, hkind⟩ := (Option.any_eq_true _ _).mp hany
  refine ⟨D, hD, eq_of_beq hkind, ?_⟩
  refine declaration_idempotent Greeter.wellTyped_script ?_ hnamed hD
  intro m hm hk
  obtain ⟨c, hc, hname⟩ := (Option.any_eq_true _ _).mp (howned m hm hk)
  exact ⟨c, hc, eq_of_beq hname⟩

end Query

/-! ## A type that stands for any type -/

namespace Homonyms

/-- The text of the script. -/
def source : String :=
  "class A \x7b m() \x7b\x7d \x7d class C \x7b class object \x7b m() \x7b\x7d \x7d \x7d"

/-- The method of a class. -/
def method (offset : Nat) : Node := .method (.inLine offset "m() \x7b\x7d") "m" false

/-- A script with a class, and another one around a class named like the wildcard type. -/
def script : Script :=
  .inLine source
    [.classType (.inLine 0 "class A \x7b m() \x7b\x7d \x7d") "A" [method 10],
      .classType (.inLine 19 "class C \x7b class object \x7b m() \x7b\x7d \x7d \x7d") "C"
        [.classType (.inLine 29 "class object \x7b m() \x7b\x7d \x7d") "object" [method 44]]]

/-- The method as it is known of a third class. -/
def called : Symbol :=
  ⟨.method, .str "m", Extent.nowhere.withText .null, some { owner := .str "B" }⟩

/-- The innermost type around a member decides: inside a class named like the wildcard type the
declaration of a declaration may be another one, even inside a class with a name of its own. -/
theorem declaration_of_declaration :
    script.WellTyped ∧ script.NamesConstructors ∧
      (∀ m ∈ script.nodes, m.kind.declaresMember = true →
        ∃ c ∈ m.ancestors, c.kind = .typeDefinition ∧ isWildcardName (c.textIn .name) = false) ∧
      ∃ D, (Query.on script).declaration (some called) = .ok (some D) ∧
        (Query.on script).declaration (some D) ≠ .ok (some D) := by
  have hrun : ((Query.on script).declaration (some called)).toOption.any (fun found =>
      found.any fun D => ((Query.on script).declaration (some D)).toOption.any fun found' =>
        found'.any fun D' => D.extent.start.column == 45 && D'.extent.start.column == 11) =
          true := by decide +kernel
  obtain ⟨found, hD, hrun⟩ := Result.exists_of_toOption_any hrun
  obtain ⟨D, rfl, hrun⟩ := (Option.any_eq_true _ _).mp hrun
  obtain ⟨found', hD', hrun⟩ := Result.exists_of_toOption_any hrun
  obtain ⟨D', rfl, hcolumns⟩ := (Option.any_eq_true _ _).mp hrun
  refine ⟨by decide +kernel, by unfold Script.NamesConstructors; decide +kernel,
    by decide +kernel, D, hD, ?_⟩
  rw [hD']
  rintro ⟨⟩
  rw [Bool.and_eq_true, beq_iff_eq, beq_iff_eq] at hcolumns
  exact absurd (hcolumns.1.symm.trans hcolumns.2) (by decide)

end Homonyms

end ScriptNavigation
