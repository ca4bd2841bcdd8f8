/-
# Parents and the order of a walk

The parent of a node is known from its place, and the numbers of nodes are those of a walk.  The
two describe the same tree: every node but the top is a child of one node, that node is its
parent and has a smaller number, and the nodes below a node are the block of numbers after its
own.  Parents can also be found by a loop over the children that takes the last node first, in an
order quite different from that of a walk.  The loop sets one link for each node but the top, and
the links are the parents.

Main facts:

* `flatMap_children_perm`: the children of all nodes are all nodes but the top, each once.
* `links_perm`: the links that the loop sets are the parents of the nodes.
* `pairwise_ancestors`: the numbers on the way up from a node fall.
* `mem_ancestors_iff_index`: what is below a node is told by the numbers.
* `parentsFollowWalk`: parents and numbers of a script describe the same tree.
-/
import Mathlib.Data.List.Perm.Basic
import ScriptNavigation.Proofs.Tree.Ancestors

namespace ScriptNavigation

namespace Occurrence

variable {n : Node} {o p d : Occurrence}

/-! ## Children of all nodes -/

/-- The children of the nodes of a tree are its nodes but the top, each of them once. -/
theorem flatMap_children_perm (o : Occurrence) :
    (o.preorder.flatMap children).Perm o.preorder.tail := by
  induction o using childInduction with
  | step o ih =>
    have hbelow : (o.children.flatMap fun c => c.preorder.flatMap children).Perm
        (o.children.flatMap fun c => c.preorder.tail) :=
      List.Perm.flatMap_left _ ih
    have hjoined : (o.children.map id ++ o.children.flatMap fun c => c.preorder.tail).Perm
        (o.children.flatMap fun c => c :: c.preorder.tail) :=
      List.map_append_flatMap_perm _ _ _
    have hwhole : (fun c : Occurrence => c :: c.preorder.tail) = preorder := by
      funext c
      rw [preorder_eq, List.tail_cons]
    rw [List.map_id, hwhole] at hjoined
    rw [preorder_eq, List.flatMap_cons, List.flatMap_assoc, List.tail_cons]
    exact (hbelow.append_left _).trans hjoined

/-- A node of a tree is a child of its parent, and the parent belongs to the tree. -/
theorem exists_parent_of_mem_preorder (h : p ∈ o.preorder) (hne : p ≠ o) :
    ∃ q ∈ o.preorder, p ∈ q.children ∧ p.parent? = some q := by
  have hmem : p ∈ o.preorder.flatMap children := by
    rw [(flatMap_children_perm o).mem_iff]
    rw [preorder_eq, List.mem_cons] at h
    rw [preorder_eq, List.tail_cons]
    exact h.resolve_left hne
  obtain ⟨q, hq, hpq⟩ := List.mem_flatMap.mp hmem
  exact ⟨q, hq, hpq, parent?_of_mem_children hpq⟩

/-! ## The way up -/

/-- The numbers on the way up from a node of a tree fall, if they do on that from the top. -/
theorem pairwise_ancestors (hp : p ∈ o.preorder)
    (ho : (o :: o.ancestors).Pairwise fun a b => b.index < a.index) :
    (p :: p.ancestors).Pairwise fun a b => b.index < a.index := by
  induction o using childInduction with
  | step o ih =>
    rcases mem_preorder_iff.mp hp with rfl | ⟨c, hc, hpc⟩
    · exact ho
    · refine ih c hc hpc ?_
      rw [ancestors_of_parent? (parent?_of_mem_children hc)]
      have hfall := List.pairwise_cons.mp ho
      refine List.pairwise_cons.mpr ⟨?_, ho⟩
      intro a ha
      rcases List.mem_cons.mp ha with rfl | ha
      · exact index_lt_of_mem_children hc
      · exact Nat.lt_trans (hfall.1 a ha) (index_lt_of_mem_children hc)

/-- The way up from a node ends at the root. -/
theorem getLast?_ancestors (hp : p ∈ (root n).preorder) :
    (p :: p.ancestors).getLast? = some (root n) := by
  obtain ⟨below, hbelow⟩ := suffix_ancestors hp
  rw [← hbelow, ancestors, List.getLast?_append]
  rfl

/-! ## The nodes below a node -/

/-- The nodes below a node are those whose way up goes through it. -/
theorem mem_ancestors_iff_mem_preorder (hd : d ∈ (root n).preorder) :
    o ∈ d.ancestors ↔ d ∈ o.children.flatMap preorder := by
  constructor
  · intro h
    have hmem := mem_preorder_of_mem_ancestors hd h
    have hlt := index_lt_of_mem_ancestors hd (fun a ha => absurd ha List.not_mem_nil) o h
    rw [preorder_eq, List.mem_cons] at hmem
    refine hmem.resolve_left ?_
    rintro rfl
    exact Nat.lt_irrefl _ hlt
  · intro h
    obtain ⟨c, hc, hdc⟩ := List.mem_flatMap.mp h
    have hlt := index_lt_of_mem_children hc
    have hle := (index_of_mem_preorder hdc).1
    refine mem_ancestors_of_mem_preorder (mem_preorder_iff.mpr (Or.inr ⟨c, hc, hdc⟩)) ?_
    rintro rfl
    omega

/-- The numbers of a part of a tree are numbers of the tree. -/
theorem index_add_size_le (h : p ∈ o.preorder) : p.index + p.size ≤ o.index + o.size := by
  have hpos : 0 < p.size := p.node.size_pos
  have hlast : p.index + (p.size - 1) ∈ p.preorder.map index := by
    rw [map_index_preorder, List.mem_range']
    exact ⟨p.size - 1, by omega, by omega⟩
  obtain ⟨q, hq, hindex⟩ := List.mem_map.mp hlast
  have hlt := (index_of_mem_preorder (mem_preorder_trans h hq)).2
  omega

/-- The nodes below a node have the numbers after its own, as many as there are. -/
theorem mem_ancestors_iff_index (ho : o ∈ (root n).preorder) (hd : d ∈ (root n).preorder) :
    o ∈ d.ancestors ↔ o.index < d.index ∧ d.index < o.index + o.size := by
  constructor
  · intro h
    refine ⟨index_lt_of_mem_ancestors hd (fun a ha => absurd ha List.not_mem_nil) o h, ?_⟩
    exact (index_of_mem_preorder (mem_preorder_of_mem_ancestors hd h)).2
  · rintro ⟨hlt, hend⟩
    refine mem_ancestors_of_mem_preorder (mem_preorder_of_index ho hd (Nat.le_of_lt hlt) hend) ?_
    rintro rfl
    exact Nat.lt_irrefl _ hlt

/-! ## Links -/

/-- As many nodes stand on a stack and below it in whatever order they stand. -/
theorem totalSize_perm {os ps : List Occurrence} (h : os.Perm ps) :
    totalSize os = totalSize ps := by
  induction h with
  | nil => rfl
  | cons o _ ih => rw [totalSize_cons, totalSize_cons, ih]
  | swap o p os =>
    simp only [totalSize_cons]
    omega
  | trans _ _ ih₁ ih₂ => rw [ih₁, ih₂]

/-- The number of a node with that of its parent, for a node that has one. -/
def link? (o : Occurrence) : Option (Nat × Nat) :=
  o.parent?.map fun p => (o.index, p.index)

/-- The links of the children of a node, in order. -/
def childLinks (o : Occurrence) : List (Nat × Nat) :=
  o.children.map fun c => (c.index, o.index)

/-- A node is the parent that its children have. -/
theorem childLinks_eq_filterMap (o : Occurrence) : o.childLinks = o.children.filterMap link? := by
  rw [childLinks, ← List.filterMap_eq_map']
  refine List.filterMap_congr fun c hc => ?_
  rw [link?, parent?_of_mem_children hc]
  rfl

end Occurrence

namespace Walk

open Occurrence

/-- The links that a loop sets which takes a node from a stack, links its children to it and puts
them on the stack, so that the last child is the next one: the number of each child with that of
the node, in the order in which they are set. -/
def links (stack : List Occurrence) : List (Nat × Nat) :=
  match stack with
  | [] => []
  | o :: rest => o.childLinks ++ links (o.children.reverse ++ rest)
termination_by totalSize stack
decreasing_by
  have hchildren := totalSize_children o
  have hreverse := totalSize_perm (List.reverse_perm o.children)
  simp only [totalSize_append, totalSize_cons]
  omega

/-- The loop links the children of all nodes of the trees on the stack. -/
theorem links_perm_childLinks (stack : List Occurrence) :
    (links stack).Perm ((stack.flatMap preorder).flatMap childLinks) := by
  fun_induction links stack with
  | case1 => exact .nil
  | case2 o rest ih =>
    have hturned : ((o.children.reverse ++ rest).flatMap preorder).Perm
        (o.children.flatMap preorder ++ rest.flatMap preorder) := by
      rw [List.flatMap_append]
      exact ((List.reverse_perm _).flatMap_right _).append_right _
    have hbelow := ih.trans (hturned.flatMap_right childLinks)
    rw [List.flatMap_cons, preorder_eq, List.cons_append, List.flatMap_cons]
    exact hbelow.append_left _

/-- The links that are set below the root of a tree are the parents of its nodes, each of them
set once. -/
theorem links_perm (n : Node) :
    (links [.root n]).Perm ((Occurrence.root n).preorder.filterMap link?) := by
  have hlinks := links_perm_childLinks [.root n]
  have hparents := (flatMap_children_perm (.root n)).filterMap link?
  rw [List.flatMap_singleton, funext childLinks_eq_filterMap, ← List.filterMap_flatMap] at hlinks
  have htop : (Occurrence.root n).preorder.filterMap link? =
      (Occurrence.root n).preorder.tail.filterMap link? := by
    rw [preorder_eq, List.tail_cons]
    rfl
  rw [htop]
  exact hlinks.trans hparents

/-- There is a link for each node of a tree but the top. -/
theorem length_links (o : Occurrence) : (links [o]).length + 1 = o.size := by
  have hlinks := (links_perm_childLinks [o]).length_eq
  have hchildren := (flatMap_children_perm o).length_eq
  rw [List.flatMap_singleton, List.length_flatMap] at hlinks
  rw [List.length_flatMap, List.length_tail, length_preorder] at hchildren
  have hpos : 0 < o.size := o.node.size_pos
  simp only [childLinks, List.length_map] at hlinks
  omega

end Walk

namespace Script

open Occurrence

/-! ## Scripts -/

/-- Parents and the numbers of a walk describe the same tree. -/
structure ParentsFollowWalk (s : Script) : Prop where
  /-- The nodes are numbered in the order of a walk, from zero. -/
  numbers : s.nodes.map index = List.range s.nodes.length
  /-- The loop over the children counts the nodes of a walk. -/
  count : (Walk.links [s.top]).length + 1 = s.nodes.length ∧ s.size = s.nodes.length
  /-- The loop links each node that has a parent to its parent, once. -/
  links : (Walk.links [s.top]).Perm (s.nodes.filterMap link?)
  /-- Each node but the first of the walk is among the children of the nodes, once. -/
  children : (s.nodes.flatMap children).Perm s.nodes.tail
  /-- The first node has no parent. -/
  top : ∀ o ∈ s.nodes, o.index = 0 → o.parent? = none ∧ o.ancestors = []
  /-- Every other node is a child of its parent, which has a smaller number, and a child of no
  other node. -/
  parent : ∀ o ∈ s.nodes, o.index ≠ 0 →
    ∃ p ∈ s.nodes, o.parent? = some p ∧ p.index < o.index ∧
      ∀ q ∈ s.nodes, (∃ c ∈ q.children, c.index = o.index) ↔ q = p
  /-- The numbers on the way up from a node fall, down to that of the first node. -/
  ancestors : ∀ o ∈ s.nodes, ((o :: o.ancestors).map index).Pairwise (· > ·) ∧
    ((o :: o.ancestors).map index).getLast? = some 0
  /-- The nodes below a node are those on whose way up it is, and have the numbers after its
  own without a gap. -/
  descendants : ∀ o ∈ s.nodes, o.index + o.size ≤ s.nodes.length ∧ ∀ d ∈ s.nodes,
    (d ∈ o.children.flatMap preorder ↔ o ∈ d.ancestors) ∧
      (o ∈ d.ancestors ↔ o.index < d.index ∧ d.index < o.index + o.size)

variable {s : Script} {o : Occurrence}

/-- The node with the number zero is the top. -/
theorem eq_top_iff (ho : o ∈ s.nodes) : o = s.top ↔ o.index = 0 := by
  rw [s.nodes_eq] at ho
  constructor
  · rintro rfl
    rfl
  · intro h
    exact eq_of_index_eq ho s.top.self_mem_preorder h

/-- Whoever has a child with the number of a node is the parent of the node. -/
theorem parent?_of_child_index {q c : Occurrence} (ho : o ∈ s.nodes) (hq : q ∈ s.nodes)
    (hc : c ∈ q.children) (h : c.index = o.index) : o.parent? = some q := by
  rw [s.nodes_eq] at ho hq
  rw [← eq_of_index_eq (mem_preorder_of_child hq hc) ho h]
  exact parent?_of_mem_children hc

/-- A node that is not the top is a child of one node, its parent, and has a greater number. -/
theorem exists_parent (ho : o ∈ s.nodes) (hne : o.index ≠ 0) :
    ∃ p ∈ s.nodes, o.parent? = some p ∧ p.index < o.index ∧
      ∀ q ∈ s.nodes, (∃ c ∈ q.children, c.index = o.index) ↔ q = p := by
  have htree : o ∈ s.top.preorder := by rwa [← s.nodes_eq]
  obtain ⟨p, hp, hchild, hparent⟩ :=
    exists_parent_of_mem_preorder htree fun h => hne ((eq_top_iff ho).mp h)
  rw [← s.nodes_eq] at hp
  refine ⟨p, hp, hparent, index_lt_of_mem_children hchild, ?_⟩
  intro q hq
  constructor
  · rintro ⟨c, hc, h⟩
    have hother := parent?_of_child_index ho hq hc h
    rw [hparent] at hother
    exact (Option.some_inj.mp hother).symm
  · rintro rfl
    exact ⟨o, hchild, rfl⟩

theorem size_eq_length (s : Script) : s.size = s.nodes.length := by
  rw [s.nodes_eq, length_preorder]
  rfl

/-- In every script parents and the numbers of a walk describe the same tree. -/
theorem parentsFollowWalk (s : Script) : s.ParentsFollowWalk where
  numbers := by
    rw [s.nodes_eq, map_index_preorder, length_preorder, List.range_eq_range']
    rfl
  count := by
    refine ⟨?_, s.size_eq_length⟩
    rw [Walk.length_links, ← s.size_eq_length]
    rfl
  links := by
    rw [s.nodes_eq]
    exact Walk.links_perm s.root
  children := by
    rw [s.nodes_eq]
    exact flatMap_children_perm s.top
  top := by
    intro o ho h
    rw [(eq_top_iff ho).mpr h]
    exact ⟨rfl, rfl⟩
  parent := fun o ho hne => exists_parent ho hne
  ancestors := by
    intro o ho
    rw [s.nodes_eq] at ho
    refine ⟨List.pairwise_map.mpr (pairwise_ancestors ho (List.pairwise_singleton _ _)), ?_⟩
    rw [List.getLast?_map, getLast?_ancestors ho]
    rfl
  descendants := by
    intro o ho
    have hsize := s.size_eq_length
    rw [s.nodes_eq] at ho hsize
    rw [s.nodes_eq]
    refine ⟨?_, ?_⟩
    · have hle := index_add_size_le ho
      rw [← hsize]
      exact Nat.le_trans hle (Nat.le_of_eq (Nat.zero_add _))
    · intro d hd
      exact ⟨(mem_ancestors_iff_mem_preorder hd).symm, mem_ancestors_iff_index ho hd⟩

end Script

end ScriptNavigation
