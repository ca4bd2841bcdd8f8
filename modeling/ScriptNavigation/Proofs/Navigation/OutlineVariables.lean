/-
# The variables in the outline

An assignment is told to stand in the outermost block by the number of nodes above it.  In a
well-typed script whose root is a block of a script, the two levels below the root hold the
named blocks and their statements, or the parameters of the script.  So the assignments with at
most two nodes above them are the statements of the outermost blocks, and what is assigned
anywhere deeper is not listed.

Main facts:

* `isTopLevel_iff`: which assignments stand in the outermost block.
* `filterMap_preorder_of_block`: the variables that are listed from a block of the root.
* `outline_variables`: the variables in the outline are those that the statements of the outermost
  blocks assign to.
-/
import ScriptNavigation.Proofs.Navigation.Outline
import ScriptNavigation.Proofs.Tree.Parents

namespace ScriptNavigation

namespace Occurrence

/-- The variable that an assignment assigns to, if the node is one. -/
def assignedSymbol? (o : Occurrence) : Option Symbol :=
  if o.kind = .assignment then o.target?.map Symbol.ofVariable else none

/-- The variable that a node contributes to the outline. -/
def outlinedVariable? (o : Occurrence) : Option Symbol :=
  o.outlinedSymbol?.filter fun S => S.kind == .variableName

variable {o c : Occurrence} {S : Symbol}

/-- Only an assignment contributes a variable. -/
theorem isVariable_of_outlined (h : o.outlinedSymbol? = some S) :
    S.kind = .variableName ↔ o.kind = .assignment := by
  unfold outlinedSymbol? at h
  cases hk : o.kind
  all_goals simp only [hk] at h
  case assignment =>
    split at h
    · obtain ⟨target, -, rfl⟩ := Option.map_eq_some_iff.mp h
      exact iff_of_true rfl rfl
    · cases h
  case functionDefinition =>
    split at h
    · cases h
    · cases h
      rw [declaredSymbol, functionKind]
      split <;> exact iff_of_false (by rintro ⟨⟩) (by rintro ⟨⟩)
  case functionMember =>
    cases h
    rw [methodSymbol]
    dsimp only
    split <;> exact iff_of_false (by rintro ⟨⟩) (by rintro ⟨⟩)
  case configurationDefinition | typeDefinition | propertyMember =>
    cases h
    exact iff_of_false (by rintro ⟨⟩) (by rintro ⟨⟩)
  all_goals cases h

/-- The variables in the outline come from the assignments in the outermost block. -/
theorem outlinedVariable?_eq (o : Occurrence) :
    o.outlinedVariable? = if Query.isTopLevel o then o.assignedSymbol? else none := by
  rw [outlinedVariable?, assignedSymbol?]
  by_cases hk : o.kind = .assignment
  · rw [if_pos hk, outlinedSymbol?, hk]
    dsimp only
    split
    · cases o.target? <;> rfl
    · rfl
  · rw [if_neg hk, ite_self, Option.filter_eq_none_iff]
    intro S hS
    rw [beq_iff_eq, isVariable_of_outlined hS]
    exact hk

/-- A node that is no assignment contributes no variable. -/
theorem outlinedVariable?_of_ne (hk : o.kind ≠ .assignment) : o.outlinedVariable? = none := by
  rw [outlinedVariable?_eq, assignedSymbol?, if_neg hk, ite_self]

/-! ## Two levels below the root -/

/-- Of a tree with two nodes above its top only the top contributes a variable. -/
theorem filterMap_preorder_of_statement (ho : o.ancestors.length = 2) :
    o.preorder.filterMap outlinedVariable? = o.assignedSymbol?.toList := by
  have hbelow : (o.children.flatMap preorder).filterMap outlinedVariable? = [] := by
    rw [List.filterMap_eq_nil_iff]
    intro p hp
    obtain ⟨c, hc, hpc⟩ := List.mem_flatMap.mp hp
    have hdeep := length_ancestors_le hpc
    rw [length_ancestors_of_mem_children hc, ho] at hdeep
    rw [outlinedVariable?_eq, if_neg]
    rw [Query.isTopLevel, decide_eq_true_eq]
    omega
  have htop : Query.isTopLevel o = true := by
    rw [Query.isTopLevel, ho]
    rfl
  rw [preorder_eq, List.filterMap_cons, hbelow, outlinedVariable?_eq, if_pos htop]
  cases o.assignedSymbol? <;> rfl

/-- Of a tree with one node above its top, which is no assignment, the children of the top
contribute variables. -/
theorem filterMap_preorder_of_block (ho : o.ancestors.length = 1) (hk : o.kind ≠ .assignment) :
    o.preorder.filterMap outlinedVariable? = o.children.filterMap assignedSymbol? := by
  rw [preorder_eq, List.filterMap_cons, outlinedVariable?_of_ne hk, List.filterMap_flatMap,
    List.filterMap_eq_flatMap_toList]
  refine List.flatMap_congr fun c hc => filterMap_preorder_of_statement ?_
  rw [length_ancestors_of_mem_children hc, ho]

end Occurrence

namespace Script

open Occurrence

variable {s : Script} {o c : Occurrence}

/-- The statements of the outermost blocks of a script, in document order. -/
def topStatements (s : Script) : List Occurrence :=
  (s.top.childrenIn .blocks).flatMap fun block => block.childrenIn .statements

theorem standsIn_top (hs : s.WellTyped) : s.top.StandsIn s := ⟨hs, s.top.self_mem_preorder⟩

/-- The variables that the nodes of a script contribute to the outline are those that its
outermost statements assign to. -/
theorem filterMap_outlinedVariable? (hs : s.WellTyped) (hroot : s.root.kind = .scriptBlock) :
    s.nodes.filterMap outlinedVariable? = s.topStatements.filterMap assignedSymbol? := by
  have htop := standsIn_top hs
  have htopkind : s.top.kind = .scriptBlock := hroot
  -- the parameters of the script are no assignments
  have hparameters : (s.top.childIn? .paramBlock).toList.flatMap
      (fun c => c.preorder.filterMap outlinedVariable?) = [] := by
    rw [List.flatMap_eq_nil_iff]
    intro c hc
    have hparam := Option.mem_toList.mp hc
    have hkind : c.kind = .paramBlock := htop.kind_of_childIn hroot rfl hparam
    have hin := htop.childIn hparam
    rw [filterMap_preorder_of_block
        (length_ancestors_of_mem_children (mem_children_of_childIn? hparam)) (hkind ▸ nofun),
      hin.children_paramBlock hkind, List.filterMap_eq_nil_iff]
    intro p hp
    rw [assignedSymbol?, hin.kind_of_mem_childrenIn hkind rfl hp, if_neg nofun]
  have hblocks : (s.top.childrenIn .blocks).flatMap
      (fun c => c.preorder.filterMap outlinedVariable?) =
        s.topStatements.filterMap assignedSymbol? := by
    rw [topStatements, List.filterMap_flatMap]
    refine List.flatMap_congr fun c hc => ?_
    have hkind : c.kind = .namedBlock := htop.kind_of_mem_childrenIn hroot rfl hc
    rw [filterMap_preorder_of_block
        (length_ancestors_of_mem_children (mem_children_of_childrenIn hc)) (hkind ▸ nofun),
      (htop.of_mem_childrenIn hc).children_namedBlock hkind]
  rw [nodes_eq, preorder_eq, List.filterMap_cons,
    outlinedVariable?_of_ne (htopkind ▸ nofun), List.filterMap_flatMap,
    htop.children_scriptBlock hroot, List.flatMap_append, hparameters, hblocks, List.nil_append]

/-- Above an outermost statement there are its block and the root. -/
theorem ancestors_of_mem_topStatements (h : o ∈ s.topStatements) :
    ∃ block ∈ s.top.childrenIn .blocks, o.ancestors = [block, s.top] := by
  obtain ⟨block, hblock, ho⟩ := List.mem_flatMap.mp h
  refine ⟨block, hblock, ?_⟩
  rw [ancestors_of_parent? (parent?_of_mem_children (mem_children_of_childrenIn ho)),
    ancestors_of_parent? (parent?_of_mem_children (mem_children_of_childrenIn hblock))]
  rfl

/-- An assignment two levels below the root is a statement of one of the blocks of the root. -/
theorem mem_topStatements (hs : s.WellTyped) (hroot : s.root.kind = .scriptBlock)
    (hc : c ∈ s.top.children) (ho : o ∈ c.children) (hk : o.kind = .assignment) :
    o ∈ s.topStatements := by
  have htop := standsIn_top hs
  have hin := htop.child hc
  rcases htop.kind_of_mem_children_scriptBlock hroot hc with hkind | ⟨hkind, hblock⟩
  · rw [hin.children_paramBlock hkind] at ho
    exact absurd (hk.symm.trans (hin.kind_of_mem_childrenIn hkind rfl ho)) nofun
  · rw [hin.children_namedBlock hkind] at ho
    exact List.mem_flatMap.mpr ⟨c, hblock, ho⟩

/-- The assignments with at most two nodes above them are outermost statements. -/
theorem isTopLevel_iff (hroot : s.root.kind = .scriptBlock) (ho : o.StandsIn s)
    (hk : o.kind = .assignment) : Query.isTopLevel o = true ↔ o ∈ s.topStatements := by
  have htopkind : s.top.kind = .scriptBlock := hroot
  rw [Query.isTopLevel, decide_eq_true_eq]
  constructor
  · intro hdepth
    have hne : o ≠ s.top := by
      rintro rfl
      exact absurd (hk.symm.trans htopkind) nofun
    obtain ⟨c, hc, hoc, -⟩ := exists_parent_of_mem_preorder ho.mem hne
    have hctop : c ≠ s.top := by
      rintro rfl
      have hroots := (standsIn_top ho.wellTyped).kind_of_mem_children_scriptBlock hroot hoc
      rcases hroots with hkind | ⟨hkind, -⟩
      · exact absurd (hk.symm.trans hkind) nofun
      · exact absurd (hk.symm.trans hkind) nofun
    obtain ⟨r, hr, hcr, -⟩ := exists_parent_of_mem_preorder hc hctop
    rw [length_ancestors_of_mem_children hoc, length_ancestors_of_mem_children hcr] at hdepth
    -- there is no room for another node above the parent of the parent
    have hrtop : r = s.top := by
      by_contra hne
      have hpos := List.length_pos_of_mem (mem_ancestors_of_mem_preorder hr hne)
      omega
    exact mem_topStatements ho.wellTyped hroot (hrtop ▸ hcr) hoc hk
  · intro h
    obtain ⟨block, -, habove⟩ := ancestors_of_mem_topStatements h
    rw [habove]
    exact Nat.le_refl 2

/-- The outermost statements stand in document order. -/
theorem topStatements_sublist (hs : s.WellTyped) (hroot : s.root.kind = .scriptBlock) :
    s.topStatements.Sublist s.nodes := by
  have htop := standsIn_top hs
  have hblock : ∀ block ∈ s.top.childrenIn .blocks,
      (block.childrenIn .statements).Sublist block.preorder := by
    intro block hblock
    have hkind : block.kind = .namedBlock := htop.kind_of_mem_childrenIn hroot rfl hblock
    rw [← (htop.of_mem_childrenIn hblock).children_namedBlock hkind]
    exact children_sublist block
  rw [nodes_eq, preorder_eq, htop.children_scriptBlock hroot, List.flatMap_append, topStatements]
  exact (List.Sublist.flatMap_right _ hblock).trans
    ((List.sublist_append_right _ _).trans (List.sublist_cons_self _ _))

end Script

namespace Query

open Occurrence

variable {s : Script}

/-- The variables in the outline of a well-typed script are those that the statements of its
outermost blocks assign to, in document order; an assignment with any other node above it is not
listed. -/
theorem outline_variables (hs : s.WellTyped) (hroot : s.root.kind = .scriptBlock)
    (infer : Inferer) :
    (∃ symbols, (Query.mk s infer false).outline = .ok symbols ∧
      symbols.filter (fun S => S.kind == .variableName) =
        s.topStatements.filterMap assignedSymbol?) ∧
    s.topStatements.Sublist s.nodes ∧
    ∀ o ∈ s.nodes, o.kind = .assignment → ∀ a ∈ o.ancestors, a ≠ s.top →
      a ∉ s.top.childrenIn .blocks → listAt outlineProbes o = .ok [] := by
  refine ⟨⟨_, outline_eq hs infer, ?_⟩, Script.topStatements_sublist hs hroot, ?_⟩
  · rw [List.filter_filterMap]
    exact Script.filterMap_outlinedVariable? hs hroot
  · intro o ho hk a ha htop hblocks
    have hin : o.StandsIn s := .of_mem_nodes hs ho
    have hdeep : ¬ isTopLevel o = true := by
      rw [Script.isTopLevel_iff hroot hin hk]
      intro hmem
      obtain ⟨block, hblock, habove⟩ := Script.ancestors_of_mem_topStatements hmem
      rw [habove] at ha
      rcases List.mem_pair.mp ha with rfl | rfl
      · exact hblocks hblock
      · exact htop rfl
    rw [listAt_outlineProbes hin, outlinedSymbol?, hk]
    dsimp only
    rw [if_neg hdeep]
    rfl

end Query

/-! ## An assignment in an assignment -/

namespace ChainedAssignment

/-- The text of a script that assigns one value to two variables. -/
def source : String := "$a = $b = 1"

/-- The assignment of a value to a variable. -/
def assignment (offset : Nat) (text name : String) (value : Node) : Node :=
  .inLine .assignment offset text
    [(.left, .node (.variableUse (.inLine offset ("$" ++ name)) name)),
      (.operator, .str "="), (.right, .node value)]

/-- The script of the two assignments. -/
def script : Script :=
  .inLine source [assignment 0 source "a" (assignment 5 "$b = 1" "b"
    (.inLine .constant 10 "1" [(.value, .int 1), (.staticType, .str "int")]))]

end ChainedAssignment

/-- Of two variables that get a value in one statement the first one is listed, and not the
second one, as its assignment stands inside that of the first. -/
theorem Query.outline_variables_chained :
    (∃ symbols, (Query.on ChainedAssignment.script).outline = .ok symbols ∧
      (symbols.filter fun S => S.kind == .variableName).map (fun S => S.extent.start) =
        [⟨1, 1⟩]) ∧
      ∃ o ∈ ChainedAssignment.script.nodes, o.kind = .assignment ∧
        o.extent.start = ⟨1, 6⟩ ∧ listAt outlineProbes o = .ok [] := by
  have htyped : ChainedAssignment.script.WellTyped := by decide +kernel
  obtain ⟨⟨symbols, hsymbols, hvariables⟩, -, hdeeper⟩ := Query.outline_variables htyped rfl
    (Inferer.syntactic ChainedAssignment.script.evidence)
  have hstarts : (ChainedAssignment.script.topStatements.filterMap
      Occurrence.assignedSymbol?).map (fun S => S.extent.start) = [⟨1, 1⟩] := by decide +kernel
  have hinner : ∃ o ∈ ChainedAssignment.script.nodes, o.kind = .assignment ∧
      o.extent.start = ⟨1, 6⟩ ∧ ∃ a ∈ o.ancestors, a.kind = .assignment := by decide +kernel
  refine ⟨⟨symbols, hsymbols, hvariables ▸ hstarts⟩, ?_⟩
  obtain ⟨o, ho, hk, hstart, a, ha, hkind⟩ := hinner
  refine ⟨o, ho, hk, hstart, hdeeper o ho hk a ha ?_ ?_⟩
  · rintro rfl
    cases hkind
  · intro hblock
    have hnamed : ∀ b ∈ ChainedAssignment.script.top.childrenIn .blocks, b.kind = .namedBlock := by
      decide +kernel
    exact absurd (hkind.symm.trans (hnamed a hblock)) nofun

end ScriptNavigation
