/-
# What the outline lists

In a well-typed script each node contributes at most one symbol to the outline, which can
always be built and depends on the node alone.  So the outline is the list of these symbols
in document order.  The members in it are those of the nodes that declare members, and the
classes those of the nodes that define types.

Main facts:

* `outline_eq`: the outline is the list of the symbols that the nodes contribute.
* `isMember_of_outlined`, `isClass_of_outlined`: which symbols in it are members and classes.
-/
import ScriptNavigation.Proofs.Navigation.Answers
import ScriptNavigation.Proofs.Reading.Probe

namespace ScriptNavigation

/-- Whether nodes of a kind declare a member of a type. -/
def NodeKind.declaresMember : NodeKind → Bool
  | .functionMember | .propertyMember => true
  | _ => false

namespace Occurrence

/-- The symbol that a node contributes to the outline, if it contributes one.  A function that
is the body of a method contributes none, nor does an assignment in an inner block. -/
def outlinedSymbol? (o : Occurrence) : Option Symbol :=
  match o.kind with
  | .functionDefinition =>
    if (o.parent?.map kind) = some .functionMember then none
    else some (o.declaredSymbol o.functionKind true)
  | .configurationDefinition => some (o.declaredSymbol .configuration true)
  | .assignment => if Query.isTopLevel o then o.target?.map Symbol.ofVariable else none
  | .typeDefinition => some (o.declaredSymbol .classType false)
  | .functionMember => some (o.methodSymbol false)
  | .propertyMember => some (o.propertySymbol false)
  | _ => none

variable {o : Occurrence} {S : Symbol}

/-- The symbol that a node contributes is a member or a class when the node declares one. -/
theorem kind_of_outlined (h : o.outlinedSymbol? = some S) :
    S.kind.isMember = o.kind.declaresMember ∧ (S.kind = .classType ↔ o.kind = .typeDefinition) := by
  unfold outlinedSymbol? at h
  cases hk : o.kind
  all_goals simp only [hk] at h
  case functionDefinition =>
    split at h
    · cases h
    · cases h
      rw [declaredSymbol, functionKind]
      split <;> exact ⟨rfl, iff_of_false nofun nofun⟩
  case assignment =>
    split at h
    · obtain ⟨target, -, rfl⟩ := Option.map_eq_some_iff.mp h
      exact ⟨rfl, iff_of_false nofun nofun⟩
    · cases h
  case functionMember =>
    cases h
    rw [methodSymbol]
    dsimp only
    split <;> exact ⟨rfl, iff_of_false nofun nofun⟩
  case configurationDefinition | propertyMember =>
    cases h
    exact ⟨rfl, iff_of_false nofun nofun⟩
  case typeDefinition =>
    cases h
    exact ⟨rfl, iff_of_true rfl rfl⟩
  all_goals cases h

theorem isMember_of_outlined (h : o.outlinedSymbol? = some S) :
    S.kind.isMember = o.kind.declaresMember :=
  (kind_of_outlined h).1

theorem isClass_of_outlined (h : o.outlinedSymbol? = some S) :
    S.kind = .classType ↔ o.kind = .typeDefinition :=
  (kind_of_outlined h).2

/-- A node that defines a type contributes a symbol with its name. -/
theorem name_of_outlined_type (hk : o.kind = .typeDefinition)
    (h : o.outlinedSymbol? = some S) : S.name = .str (o.textIn .name) := by
  simp only [outlinedSymbol?, hk] at h
  cases h
  rfl

/-- A node that declares a member contributes one, owned by the innermost type around it. -/
theorem outlined_of_declaresMember (hk : o.kind.declaresMember = true) :
    ∃ S m, o.outlinedSymbol? = some S ∧ S.kind.isMember = true ∧ S.member = some m ∧
      m.owner = .str (nameOr o.typeNameAround "object") := by
  have hkind : o.kind = .functionMember ∨ o.kind = .propertyMember := by
    revert hk
    cases o.kind <;> decide
  have hmember {S : Symbol} (h : o.outlinedSymbol? = some S) : S.kind.isMember = true :=
    (isMember_of_outlined h).trans hk
  rcases hkind with hkind | hkind
  · have h : o.outlinedSymbol? = some (o.methodSymbol false) := by
      simp only [outlinedSymbol?, hkind]
    exact ⟨_, _, h, hmember h, rfl, rfl⟩
  · have h : o.outlinedSymbol? = some (o.propertySymbol false) := by
      simp only [outlinedSymbol?, hkind]
    exact ⟨_, _, h, hmember h, rfl, rfl⟩

end Occurrence

namespace Query

open Occurrence

variable {s : Script} {o : Occurrence}

theorem listed_eq {build : Occurrence → Result Symbol} {S : Symbol} (h : build o = .ok S) :
    listed build o = .ok [S] := by
  rw [listed, h]
  rfl

/-- The probes for the outline list what a node contributes to it. -/
theorem listAt_outlineProbes (ho : o.StandsIn s) :
    listAt outlineProbes o = .ok o.outlinedSymbol?.toList := by
  rw [listAt, outlinedSymbol?]
  cases hk : o.kind
  case functionDefinition =>
    refine (ho.outlineFunction_eq hk).trans ?_
    dsimp only
    split <;> rfl
  case configurationDefinition => exact listed_eq (ho.ofConfiguration_eq hk true)
  case assignment =>
    refine (ho.outlineVariable_eq hk).trans ?_
    dsimp only
    split <;> rfl
  case typeDefinition => exact listed_eq (ho.ofType_eq hk false)
  case functionMember => exact listed_eq (ho.ofMethod_eq hk false)
  case propertyMember => exact listed_eq (ho.ofProperty_eq hk false)
  all_goals rfl

/-- The outline of a well-typed script is the list of what its nodes contribute, in document
order. -/
theorem outline_eq (hs : s.WellTyped) (infer : Inferer) :
    (Query.mk s infer false).outline = .ok (s.nodes.filterMap outlinedSymbol?) := by
  have hlist : ∀ o ∈ s.nodes, listAt outlineProbes o = .ok o.outlinedSymbol?.toList :=
    fun o ho => listAt_outlineProbes (.of_mem_nodes hs ho)
  rw [outline, gather_eq, Result.mapM_eq_ok hlist, Result.map_ok,
    List.filterMap_eq_flatMap_toList, List.flatMap_def]

end Query

end ScriptNavigation
