/-
# Document order and the numbers of nodes

An occurrence and all those below it, in document order, are numbered without gaps.  So the
number of an occurrence tells it apart from all others of the same tree, and what stands
above or below an occurrence of a tree belongs to the tree as well.

Main facts:

* `map_index_preorder`: the numbers of a tree in document order are consecutive.
* `eq_of_index_eq`: an occurrence of a tree is determined by its number.
* `mem_preorder_of_ancestor`: what is above an occurrence of a tree belongs to the tree.
-/
import Mathlib.Data.List.Flatten
import Mathlib.Data.List.Nodup
import ScriptNavigation.Tree.Script

namespace ScriptNavigation

namespace Occurrence

/-! ## Membership in a tree -/

/-- An occurrence belongs to its own tree. -/
theorem self_mem_preorder (o : Occurrence) : o ∈ o.preorder := by
  rw [preorder_eq]
  exact List.mem_cons_self

/-- An occurrence of a tree is the top one or belongs to the tree of a child. -/
theorem mem_preorder_iff {o p : Occurrence} :
    p ∈ o.preorder ↔ p = o ∨ ∃ c ∈ o.children, p ∈ c.preorder := by
  rw [preorder_eq, List.mem_cons, List.mem_flatMap]

/-- A property of occurrences holds for all if it is passed on from the children. -/
@[elab_as_elim]
theorem childInduction {motive : Occurrence → Prop}
    (step : ∀ o, (∀ c ∈ o.children, motive c) → motive o) (o : Occurrence) : motive o := by
  -- on the number of nodes, which is smaller for a child
  induction hn : o.size using Nat.strongRecOn generalizing o with
  | ind n ih =>
    apply step
    intro c hc
    exact ih c.size (hn ▸ size_lt_of_mem_children hc) c rfl

/-- The tree of an occurrence of a tree is part of that tree. -/
theorem mem_preorder_trans {o p q : Occurrence} (hp : p ∈ o.preorder) (hq : q ∈ p.preorder) :
    q ∈ o.preorder := by
  induction o using childInduction with
  | step o ih =>
    rcases mem_preorder_iff.mp hp with rfl | ⟨c, hc, hpc⟩
    · exact hq
    · exact mem_preorder_iff.mpr (Or.inr ⟨c, hc, ih c hc hpc⟩)

/-- The children of an occurrence of a tree belong to the tree. -/
theorem mem_preorder_of_child {o p c : Occurrence} (hp : p ∈ o.preorder) (hc : c ∈ p.children) :
    c ∈ o.preorder :=
  mem_preorder_trans hp (mem_preorder_iff.mpr (Or.inr ⟨c, hc, c.self_mem_preorder⟩))

/-- The children of an occurrence stand below it in order. -/
theorem children_sublist (o : Occurrence) : o.children.Sublist o.preorder := by
  have hbelow : (o.children.flatMap fun c => [c]).Sublist (o.children.flatMap preorder) := by
    refine List.Sublist.flatMap_right _ fun c _ => ?_
    exact List.singleton_sublist.mpr c.self_mem_preorder
  rw [List.flatMap_singleton'] at hbelow
  rw [preorder_eq]
  exact hbelow.trans (List.sublist_cons_self _ _)

/-! ## Parents -/

mutual

theorem parent?_of_mem_place {o c : Occurrence} (i : Nat) :
    (v : Value Node) → c ∈ (place o i v).nodes → c.parent? = some o
  | .null, h | .bool _, h | .int _, h | .float _, h | .str _, h | .object _, h => by
    simp [place, Value.nodes] at h
  | .node n, h => by
    rw [place, Value.nodes, List.mem_singleton] at h
    rw [h, parent?]
  | .array vs, h => by
    rw [place, Value.nodes] at h
    exact parent?_of_mem_placeAll i vs h

theorem parent?_of_mem_placeAll {o c : Occurrence} (i : Nat) :
    (vs : List (Value Node)) → c ∈ Value.nodesOfAll (placeAll o i vs) → c.parent? = some o
  | [], h => by simp [placeAll, Value.nodesOfAll] at h
  | v :: vs, h => by
    rw [placeAll, Value.nodesOfAll, List.mem_append] at h
    rcases h with h | h
    · exact parent?_of_mem_place i v h
    · exact parent?_of_mem_placeAll _ vs h

end

theorem parent?_of_mem_placeFields {o c : Occurrence} (i : Nat) (fs : List (Field × Value Node))
    (h : c ∈ (placeFields o i fs).flatMap fun f => f.2.nodes) : c.parent? = some o := by
  induction fs generalizing i with
  | nil => simp [placeFields] at h
  | cons f fs ih =>
    obtain ⟨f, v⟩ := f
    rw [placeFields, List.flatMap_cons, List.mem_append] at h
    rcases h with h | h
    · exact parent?_of_mem_place i v h
    · exact ih _ h

/-- The parent of a child is the occurrence whose child it is. -/
theorem parent?_of_mem_children {o c : Occurrence} (h : c ∈ o.children) : c.parent? = some o :=
  parent?_of_mem_placeFields _ _ h

/-- Above an occurrence there are its parent and what is above the parent. -/
theorem ancestors_of_parent? {o p : Occurrence} (h : o.parent? = some p) :
    o.ancestors = p :: p.ancestors := by
  cases o with
  | root n => simp [parent?] at h
  | inside q i n =>
    rw [parent?, Option.some_inj] at h
    rw [ancestors, h]

/-- What is above an occurrence of a tree belongs to the tree or is above its top. -/
theorem mem_preorder_or_of_ancestor {o p a : Occurrence} (hp : p ∈ o.preorder)
    (ha : a ∈ p.ancestors) : a ∈ o.preorder ∨ a ∈ o.ancestors := by
  induction o using childInduction with
  | step o ih =>
    rcases mem_preorder_iff.mp hp with rfl | ⟨c, hc, hpc⟩
    · exact Or.inr ha
    · rcases ih c hc hpc with h | h
      · exact Or.inl (mem_preorder_iff.mpr (Or.inr ⟨c, hc, h⟩))
      · rw [ancestors_of_parent? (parent?_of_mem_children hc), List.mem_cons] at h
        rcases h with rfl | h
        · exact Or.inl a.self_mem_preorder
        · exact Or.inr h

/-- What is above an occurrence of a tree belongs to the tree. -/
theorem mem_preorder_of_ancestor {n : Node} {o a : Occurrence} (ho : o ∈ (root n).preorder)
    (ha : a ∈ o.ancestors) : a ∈ (root n).preorder := by
  rcases mem_preorder_or_of_ancestor ho ha with h | h
  · exact h
  · simp [ancestors] at h

/-! ## Numbers -/

/-- Occurrences next to each other with all that is below them, numbered from `i` on. -/
def NumberedFrom : Nat → List Occurrence → Prop
  | _, [] => True
  | i, o :: os => o.index = i ∧ NumberedFrom (i + o.size) os

theorem numberedFrom_append (i : Nat) (os ps : List Occurrence) :
    NumberedFrom i (os ++ ps) ↔ NumberedFrom i os ∧ NumberedFrom (i + totalSize os) ps := by
  induction os generalizing i with
  | nil => simp [NumberedFrom]
  | cons o os ih =>
    rw [List.cons_append, NumberedFrom, NumberedFrom, ih, totalSize_cons, Nat.add_assoc, and_assoc]

mutual

theorem numberedFrom_place (o : Occurrence) (i : Nat) :
    (v : Value Node) →
      NumberedFrom i (place o i v).nodes ∧ totalSize (place o i v).nodes = Node.valueSize v
  | .null | .bool _ | .int _ | .float _ | .str _ | .object _ => ⟨trivial, rfl⟩
  | .node n => ⟨⟨rfl, trivial⟩, rfl⟩
  | .array vs => by
    rw [place, Value.nodes, Node.valueSize]
    exact numberedFrom_placeAll o i vs

theorem numberedFrom_placeAll (o : Occurrence) (i : Nat) :
    (vs : List (Value Node)) →
      NumberedFrom i (Value.nodesOfAll (placeAll o i vs)) ∧
        totalSize (Value.nodesOfAll (placeAll o i vs)) = Node.valuesSize vs
  | [] => ⟨trivial, rfl⟩
  | v :: vs => by
    obtain ⟨hv, sv⟩ := numberedFrom_place o i v
    obtain ⟨hvs, svs⟩ := numberedFrom_placeAll o (i + Node.valueSize v) vs
    rw [placeAll, Value.nodesOfAll, Node.valuesSize, numberedFrom_append, totalSize_append, sv, svs]
    exact ⟨⟨hv, hvs⟩, rfl⟩

end

theorem numberedFrom_placeFields (o : Occurrence) (i : Nat) (fs : List (Field × Value Node)) :
    NumberedFrom i ((placeFields o i fs).flatMap fun f => f.2.nodes) := by
  induction fs generalizing i with
  | nil => exact trivial
  | cons f fs ih =>
    obtain ⟨f, v⟩ := f
    obtain ⟨hv, sv⟩ := numberedFrom_place o i v
    rw [placeFields, List.flatMap_cons, numberedFrom_append, sv]
    exact ⟨hv, ih _⟩

/-- Trees next to each other are numbered from the number on that they start with. -/
theorem NumberedFrom.le_index {i : Nat} {os : List Occurrence} {o : Occurrence}
    (h : NumberedFrom i os) (ho : o ∈ os) : i ≤ o.index := by
  induction os generalizing i with
  | nil => exact absurd ho List.not_mem_nil
  | cons p os ih =>
    obtain ⟨rfl, hos⟩ := h
    rcases List.mem_cons.mp ho with rfl | ho
    · exact Nat.le_refl _
    · exact Nat.le_of_add_right_le (ih hos ho)

/-- Of two trees next to each other the first one ends before the second one starts. -/
theorem NumberedFrom.add_size_le {i : Nat} {os : List Occurrence} {o p : Occurrence}
    (h : NumberedFrom i os) (ho : o ∈ os) (hp : p ∈ os) (hlt : o.index < p.index) :
    o.index + o.size ≤ p.index := by
  induction os generalizing i with
  | nil => exact absurd ho List.not_mem_nil
  | cons q os ih =>
    obtain ⟨rfl, hos⟩ := h
    rcases List.mem_cons.mp ho with rfl | ho'
    · rcases List.mem_cons.mp hp with rfl | hp'
      · exact absurd hlt (Nat.lt_irrefl _)
      · exact hos.le_index hp'
    · rcases List.mem_cons.mp hp with rfl | hp'
      · have hle := hos.le_index ho'
        omega
      · exact ih hos ho' hp'

/-- Trees next to each other use up as many numbers as they have nodes. -/
theorem NumberedFrom.index_lt {i : Nat} {os : List Occurrence} {o : Occurrence}
    (h : NumberedFrom i os) (ho : o ∈ os) : o.index < i + totalSize os := by
  induction os generalizing i with
  | nil => exact absurd ho List.not_mem_nil
  | cons p os ih =>
    obtain ⟨rfl, hos⟩ := h
    have hpos : 0 < p.size := p.node.size_pos
    rw [totalSize_cons]
    rcases List.mem_cons.mp ho with rfl | ho
    · omega
    · have hlt := ih hos ho
      omega

/-- The children of an occurrence are numbered from the number after its own. -/
theorem numberedFrom_children (o : Occurrence) : NumberedFrom (o.index + 1) o.children :=
  numberedFrom_placeFields o _ _

/-- If trees next to each other are numbered one after the other, and each of them without
gaps, then all of them are. -/
theorem map_index_flatMap_preorder {i : Nat} {os : List Occurrence} (h : NumberedFrom i os)
    (htree : ∀ o ∈ os, o.preorder.map index = List.range' o.index o.size) :
    (os.flatMap preorder).map index = List.range' i (totalSize os) := by
  induction os generalizing i with
  | nil => rfl
  | cons o os ih =>
    obtain ⟨rfl, hos⟩ := h
    rw [List.flatMap_cons, List.map_append, htree o List.mem_cons_self,
      ih hos fun p hp => htree p (List.mem_cons_of_mem _ hp), totalSize_cons]
    simp

/-- The numbers of a tree in document order are consecutive. -/
theorem map_index_preorder (o : Occurrence) :
    o.preorder.map index = List.range' o.index o.size := by
  induction o using childInduction with
  | step o ih =>
    rw [preorder_eq, List.map_cons,
      map_index_flatMap_preorder (numberedFrom_children o) ih, ← totalSize_children,
      List.range'_succ]

/-- A tree in document order has as many occurrences as it has nodes. -/
theorem length_preorder (o : Occurrence) : o.preorder.length = o.size := by
  rw [← List.length_map index, map_index_preorder, List.length_range']

/-- An occurrence of a tree is determined by its number. -/
theorem eq_of_index_eq {o p q : Occurrence} (hp : p ∈ o.preorder) (hq : q ∈ o.preorder)
    (h : p.index = q.index) : p = q := by
  -- consecutive numbers are all different
  have hnodup : (o.preorder.map index).Nodup := by
    rw [map_index_preorder]
    exact List.nodup_range'
  exact List.inj_on_of_nodup_map hnodup hp hq h

/-- A child has a greater number than its parent. -/
theorem index_lt_of_mem_children {o c : Occurrence} (h : c ∈ o.children) :
    o.index < c.index := by
  have hmem : c.index ∈ (o.children.flatMap preorder).map index :=
    List.mem_map_of_mem (List.mem_flatMap.mpr ⟨c, h, c.self_mem_preorder⟩)
  rw [map_index_flatMap_preorder (numberedFrom_children o) fun p _ => map_index_preorder p,
    List.mem_range'] at hmem
  obtain ⟨i, -, hi⟩ := hmem
  omega

/-- The numbers of a tree start with that of its top and are as many as its nodes. -/
theorem index_of_mem_preorder {o p : Occurrence} (h : p ∈ o.preorder) :
    o.index ≤ p.index ∧ p.index < o.index + o.size := by
  have hmem : p.index ∈ o.preorder.map index := List.mem_map_of_mem h
  rw [map_index_preorder, List.mem_range'] at hmem
  obtain ⟨i, hi, heq⟩ := hmem
  omega

/-- What is above an occurrence of a tree has a smaller number, if that holds of its top. -/
theorem index_lt_of_mem_ancestors {o p : Occurrence} (hp : p ∈ o.preorder)
    (ho : ∀ a ∈ o.ancestors, a.index < o.index) : ∀ a ∈ p.ancestors, a.index < p.index := by
  induction o using childInduction with
  | step o ih =>
    rcases mem_preorder_iff.mp hp with rfl | ⟨c, hc, hpc⟩
    · exact ho
    · refine ih c hc hpc fun a ha => ?_
      have hlt := index_lt_of_mem_children hc
      rw [ancestors_of_parent? (parent?_of_mem_children hc), List.mem_cons] at ha
      rcases ha with rfl | ha
      · exact hlt
      · exact Nat.lt_trans (ho a ha) hlt

end Occurrence

namespace Script

/-- The nodes of a script are those of its tree in document order. -/
theorem nodes_eq (s : Script) : s.nodes = s.top.preorder := Walk.order_eq_preorder s.top

end Script

end ScriptNavigation
