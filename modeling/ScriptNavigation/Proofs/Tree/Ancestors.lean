/-
# What stands between a node and what is above it

A node and all those below it stand next to each other in document order.  So whatever comes
between a node and one above it is below the upper one too: on the way down to a node no
other subtree is left open.

Main facts:

* `suffix_ancestors`: what is above the top of a tree is above each of its nodes.
* `length_ancestors_of_mem_children`: a child has one node more above it.
* `mem_preorder_of_mem_ancestors`: a node belongs to the tree of each node above it.
* `pairwise_index_preorder`: numbers grow in document order.
* `mem_ancestors_of_between`: what comes between a node and one above it is below the latter.
* `index_lt_of_split`: the numbers of the nodes before and after one of them.
-/
import ScriptNavigation.Proofs.Tree.Numbering

namespace ScriptNavigation

namespace Occurrence

variable {n : Node} {o p a d : Occurrence}

/-- What is above the top of a tree, and the top itself, is above each node below it. -/
theorem suffix_ancestors (h : p ∈ o.preorder) : o :: o.ancestors <:+ p :: p.ancestors := by
  induction o using childInduction with
  | step o ih =>
    rcases mem_preorder_iff.mp h with rfl | ⟨c, hc, hpc⟩
    · exact List.suffix_rfl
    · have hup : o :: o.ancestors <:+ c :: c.ancestors := by
        rw [ancestors_of_parent? (parent?_of_mem_children hc)]
        exact List.suffix_cons c _
      exact hup.trans (ih c hc hpc)

/-- There are at least as many nodes above a node of a tree as above the top. -/
theorem length_ancestors_le (h : p ∈ o.preorder) : o.ancestors.length ≤ p.ancestors.length :=
  Nat.le_of_succ_le_succ (suffix_ancestors h).length_le

/-- A child has one node more above it. -/
theorem length_ancestors_of_mem_children (h : p ∈ o.children) :
    p.ancestors.length = o.ancestors.length + 1 := by
  rw [ancestors_of_parent? (parent?_of_mem_children h), List.length_cons]

/-- The top of a tree is above every other node of it. -/
theorem mem_ancestors_of_mem_preorder (h : p ∈ o.preorder) (hne : p ≠ o) : o ∈ p.ancestors := by
  rcases List.mem_cons.mp ((suffix_ancestors h).subset List.mem_cons_self) with rfl | hmem
  · exact absurd rfl hne
  · exact hmem

/-- A node of a tree belongs to the tree of each node above it, up to the top. -/
theorem mem_preorder_or_mem_ancestors (hp : p ∈ o.preorder) (ha : a ∈ p.ancestors) :
    p ∈ a.preorder ∨ a ∈ o.ancestors := by
  induction o using childInduction with
  | step o ih =>
    rcases mem_preorder_iff.mp hp with rfl | ⟨c, hc, hpc⟩
    · exact Or.inr ha
    · rcases ih c hc hpc with hmem | habove
      · exact Or.inl hmem
      · rw [ancestors_of_parent? (parent?_of_mem_children hc), List.mem_cons] at habove
        rcases habove with rfl | habove
        · exact Or.inl hp
        · exact Or.inr habove

/-- A node belongs to the tree of each node above it. -/
theorem mem_preorder_of_mem_ancestors (hp : p ∈ (root n).preorder) (ha : a ∈ p.ancestors) :
    p ∈ a.preorder := by
  rcases mem_preorder_or_mem_ancestors hp ha with hmem | habove
  · exact hmem
  · exact absurd habove List.not_mem_nil

/-- The numbers of a tree grow in document order. -/
theorem pairwise_index_preorder (o : Occurrence) :
    o.preorder.Pairwise fun p q => p.index < q.index := by
  rw [← List.pairwise_map, map_index_preorder]
  exact List.pairwise_lt_range'

/-- The nodes of a tree whose numbers are among those of a part of it belong to the part. -/
theorem mem_preorder_of_index (ha : a ∈ o.preorder) (hd : d ∈ o.preorder)
    (hle : a.index ≤ d.index) (hlt : d.index < a.index + a.size) : d ∈ a.preorder := by
  have hnumber : d.index ∈ a.preorder.map index := by
    rw [map_index_preorder, List.mem_range']
    exact ⟨d.index - a.index, by omega, by omega⟩
  obtain ⟨e, he, hindex⟩ := List.mem_map.mp hnumber
  rwa [eq_of_index_eq hd (mem_preorder_trans ha he) hindex.symm]

/-- What comes between a node and one above it, in document order, is below the latter. -/
theorem mem_ancestors_of_between (hp : p ∈ (root n).preorder) (hd : d ∈ (root n).preorder)
    (ha : a ∈ p.ancestors) (had : a.index < d.index) (hdp : d.index < p.index) :
    a ∈ d.ancestors := by
  have hpa := mem_preorder_of_mem_ancestors hp ha
  have hlt := (index_of_mem_preorder hpa).2
  have hda : d ∈ a.preorder :=
    mem_preorder_of_index (mem_preorder_of_ancestor hp ha) hd (Nat.le_of_lt had) (by omega)
  refine mem_ancestors_of_mem_preorder hda ?_
  rintro rfl
  exact Nat.lt_irrefl _ had

end Occurrence

/-! ## The nodes of a script before and after one of them -/

namespace Script

open Occurrence

variable {s : Script} {seen rest : List Occurrence} {o d : Occurrence}

/-- A node has a greater number than those before it and a smaller one than those after it. -/
theorem index_lt_of_split (h : s.nodes = seen ++ o :: rest) :
    (∀ d ∈ seen, d.index < o.index) ∧ ∀ d ∈ rest, o.index < d.index := by
  have hpairwise := pairwise_index_preorder s.top
  rw [← s.nodes_eq, h, List.pairwise_append, List.pairwise_cons] at hpairwise
  exact ⟨fun d hd => hpairwise.2.2 d hd o List.mem_cons_self, hpairwise.2.1.1⟩

/-- The nodes with smaller numbers than another stand before it. -/
theorem mem_of_index_lt (h : s.nodes = seen ++ o :: rest) (hd : d ∈ s.nodes)
    (hlt : d.index < o.index) : d ∈ seen := by
  rw [h, List.mem_append, List.mem_cons] at hd
  rcases hd with hd | rfl | hd
  · exact hd
  · exact absurd hlt (Nat.lt_irrefl _)
  · exact absurd hlt (Nat.lt_asymm ((index_lt_of_split h).2 d hd))

end Script

end ScriptNavigation
