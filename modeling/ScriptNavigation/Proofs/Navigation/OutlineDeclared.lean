/-
# Every entry of the outline is declared

What a node contributes to the outline agrees with what it declares; only the extents may
differ, as functions and configurations are listed over their whole extents.  A symbol that
agrees with a declaration is matched by it, so each entry of the outline has a declaration, at
the node it comes from or before.  Constructors are the exception again: one that is not named
like its type is not found.

Main facts:

* `agrees_of_outlinedSymbol?`: what a node contributes to the outline agrees with what it declares.
* `outline_declared`: each entry of the outline has a declaration at its node or before it.
* `Unnamed.entry_without_declaration`: in a class without a name it may have none.
-/
import ScriptNavigation.Proofs.Navigation.FirstDeclaration

namespace ScriptNavigation

namespace Occurrence

variable {o : Occurrence} {S : Symbol}

/-- A node declares what it contributes to the outline, up to the extent. -/
theorem agrees_of_outlinedSymbol? (h : o.outlinedSymbol? = some S) :
    ∃ C, o.declaration? = some C ∧ C.Agrees S := by
  unfold outlinedSymbol? at h
  unfold declaration?
  cases hk : o.kind
  all_goals simp only [hk] at h
  case functionDefinition =>
    split at h
    · cases h
    · cases h
      exact ⟨_, rfl, rfl, rfl, rfl⟩
  case assignment =>
    split at h
    · exact ⟨S, h, .refl S⟩
    · cases h
  case configurationDefinition | typeDefinition | functionMember | propertyMember =>
    cases h
    exact ⟨_, rfl, rfl, rfl, rfl⟩
  all_goals cases h

end Occurrence

namespace Query

open Occurrence

variable {s : Script}

/-- Each entry of the outline has a declaration, of the same family: it is built at the node that
contributes the entry or at one before it, if constructors are named like their types. -/
theorem outline_declared (hs : s.WellTyped) (hnamed : s.NamesConstructors) (infer : Inferer) :
    (Query.mk s infer false).outline = .ok (s.nodes.filterMap outlinedSymbol?) ∧
      ∀ o ∈ s.nodes, ∀ S, o.outlinedSymbol? = some S →
        ∃ D, (Query.mk s infer false).declaration (some S) = .ok (some D) ∧
          D.kind.family = S.kind.family ∧
          ∃ d ∈ s.nodes, d.index ≤ o.index ∧
            ∃ build, (declarations S.kind.family).lookup d.kind = some build ∧
              build d = .ok (some D) := by
  refine ⟨outline_eq hs infer, ?_⟩
  intro o ho S hS
  obtain ⟨C, hC, hagrees⟩ := agrees_of_outlinedSymbol? hS
  have hregular := (regular_of_declaration? hC).of_agrees hagrees
  obtain ⟨D, hD, d, hd, hindex, hdeclares⟩ := exists_declaration_of_match infer hs
    hregular.hasTexts ho hC (matches_of_declaration? hnamed ho hC hagrees)
  obtain ⟨-, -, -, -, -, hsame⟩ := exists_of_declaration hD
  have hfam := family_eq_of_denotesSame hsame
  exact ⟨D, hD, hfam, d, hd, hindex,
    exists_build_of_declaration? (.of_mem_nodes hs hd) hdeclares hfam⟩

theorem outline_declared_greeter :
    ∃ o ∈ Greeter.script.nodes, o.kind = .functionMember ∧ ∃ S D, o.outlinedSymbol? = some S ∧
      (Query.on Greeter.script).declaration (some S) = .ok (some D) := by
  have hnamed : Greeter.script.NamesConstructors := by
    unfold Script.NamesConstructors
    decide +kernel
  obtain ⟨-, hdeclared⟩ := outline_declared Greeter.wellTyped_script hnamed
    (Inferer.syntactic Greeter.script.evidence)
  have hmember : Greeter.script.nodes.any (fun o => o.kind == .functionMember) = true := by
    decide +kernel
  obtain ⟨o, ho, hk⟩ := List.any_eq_true.mp hmember
  have hS : o.outlinedSymbol? = some (o.methodSymbol false) := by
    simp only [outlinedSymbol?, eq_of_beq hk]
  obtain ⟨D, hD, -⟩ := hdeclared o ho _ hS
  exact ⟨o, ho, eq_of_beq hk, _, D, hS, hD⟩

end Query

/-! ## A class without a name -/

namespace Unnamed

/-- The text of the script. -/
def source : String := "class \x7b () \x7b\x7d \x7d"

/-- A class and a constructor in it, both without a name. -/
def type : Node :=
  .classType (.inLine 0 source) "" [.method (.inLine 8 "() \x7b\x7d") "" true]

/-- The script of the class. -/
def script : Script := .inLine source [type]

/-- A constructor that is named like the class around it, but belongs to the wildcard type as the
class has no name, is an entry of the outline without a declaration. -/
theorem entry_without_declaration :
    script.WellTyped ∧
      (∀ m ∈ script.nodes, m.kind = .functionMember → m.flagIn .isConstructor = true →
        ∃ c, m.typeAround? = some c ∧ m.textIn .name = c.textIn .name) ∧
      ∃ o ∈ script.nodes, ∃ S, o.outlinedSymbol? = some S ∧
        (Query.on script).declaration (some S) = .ok none := by
  have hnamed : ∀ m ∈ script.nodes, m.kind = .functionMember → m.flagIn .isConstructor = true →
      (m.typeAround?.any fun c => m.textIn .name == c.textIn .name) = true := by decide +kernel
  have hentry : script.nodes.any (fun o => o.outlinedSymbol?.any fun S =>
      ((Query.on script).declaration (some S)).toOption.any Option.isNone) = true := by
    decide +kernel
  refine ⟨by decide +kernel, ?_, ?_⟩
  · intro m hm hk hctor
    obtain ⟨c, hc, hname⟩ := (Option.any_eq_true _ _).mp (hnamed m hm hk hctor)
    exact ⟨c, hc, eq_of_beq hname⟩
  · obtain ⟨o, ho, hfound⟩ := List.any_eq_true.mp hentry
    obtain ⟨S, hS, hnone⟩ := (Option.any_eq_true _ _).mp hfound
    obtain ⟨found, hD, hnone⟩ := Result.exists_of_toOption_any hnone
    rw [Option.isNone_iff_eq_none] at hnone
    exact ⟨o, ho, S, hS, hnone ▸ hD⟩

end Unnamed

end ScriptNavigation
