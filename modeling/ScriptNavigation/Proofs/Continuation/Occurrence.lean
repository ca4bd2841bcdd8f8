/-
# Nodes of a tree that is continued

Each node of a tree stands again in the tree that is continued, with the same number: the
node is carried over.  Only the root and its last block change, and of the fields of the
block only the statements, which have further ones behind them.  Since the block is the last
child of the root and the statements are its last field, the trees of the further statements
come behind all other nodes.

Main facts:

* `Occurrence.map_node_preorder`: the nodes below a node are the same wherever it stands.
* `Occurrence.carried`: a node at its place in the tree that is continued.
* `Frame.readsLike_carried`: the fields of a node but the block read like before.
* `Frame.holdsLike_carried`: no field but the statements of the block changes.
* `Frame.children_last_add`: the block has the further statements behind its own.
* `Frame.preorder_top_add`: the nodes are those carried over and behind them the added ones.
-/
import ScriptNavigation.Proofs.Continuation.Tree
import ScriptNavigation.Proofs.Mirror.Field

namespace ScriptNavigation

namespace Value

variable {ν μ : Type}

theorem trimAll_append (vs ws : List (Value ν)) :
    trimAll (vs ++ ws) = trimAll vs ++ trimAll ws := by
  induction vs with
  | nil => rfl
  | cons v vs ih => rw [List.cons_append, trimAll, trimAll, ih, List.cons_append]

theorem nodesOfAll_append (vs ws : List (Value ν)) :
    nodesOfAll (vs ++ ws) = nodesOfAll vs ++ nodesOfAll ws := by
  rw [nodesOfAll_eq_flatMap, nodesOfAll_eq_flatMap, nodesOfAll_eq_flatMap, List.flatMap_append]

theorem mapAll_append (g : ν → μ) (vs ws : List (Value ν)) :
    mapAll g (vs ++ ws) = mapAll g vs ++ mapAll g ws := by
  induction vs with
  | nil => rfl
  | cons v vs ih => rw [List.cons_append, mapAll, mapAll, ih, List.cons_append]

end Value

namespace Node

variable (f : Field) (change : Value Node → Value Node)

@[simp] theorem kind_changeField (n : Node) : (changeField f change n).kind = n.kind := by
  cases n
  rfl

@[simp] theorem extent_changeField (n : Node) : (changeField f change n).extent = n.extent := by
  cases n
  rfl

end Node

namespace Occurrence

theorem placeAll_append (o : Occurrence) (i : Nat) (vs ws : List (Value Node)) :
    placeAll o i (vs ++ ws) = placeAll o i vs ++ placeAll o (i + Node.valuesSize vs) ws := by
  induction vs generalizing i with
  | nil => rfl
  | cons v vs ih =>
    rw [List.cons_append, placeAll, placeAll, ih, Node.valuesSize, Nat.add_assoc, List.cons_append]

/-- The nodes below a node are the same wherever it stands. -/
theorem map_node_preorder (o : Occurrence) :
    o.preorder.map node = (root o.node).preorder.map node := by
  -- on the number of nodes, which is smaller for the children at either place
  induction hn : o.size using Nat.strongRecOn generalizing o with
  | ind k ih =>
    have hbelow : ∀ p : Occurrence, p.size = k → (p.children.flatMap preorder).map node =
        p.node.children.flatMap fun n => (root n).preorder.map node := by
      intro p hp
      rw [← map_node_children, List.flatMap_map, List.map_flatMap]
      exact List.flatMap_congr fun c hc => ih c.size (hp ▸ size_lt_of_mem_children hc) c rfl
    rw [preorder_eq, preorder_eq (root o.node), List.map_cons, List.map_cons, hbelow o hn,
      hbelow (root o.node) hn]
    rfl

section

variable (extra : List Node) (j : Nat)

/-! ## Nodes that are carried over -/

/-- A node at its place in the tree that is continued, the last block having the number `j`. -/
def carried : Occurrence → Occurrence
  | root n => root (n.continued extra)
  | inside p i n => inside (carried p) i (if i = j then n.addStatements extra else n)

variable {extra j}

@[simp] theorem index_carried (o : Occurrence) : (carried extra j o).index = o.index := by
  cases o <;> rfl

@[simp] theorem kind_carried (o : Occurrence) : (carried extra j o).kind = o.kind := by
  cases o with
  | root n =>
    show (n.continued extra).kind = n.kind
    exact Node.kind_changeField _ _ n
  | inside p i n =>
    show (if i = j then n.addStatements extra else n).kind = n.kind
    split
    · exact Node.kind_changeField _ _ n
    · rfl

@[simp] theorem extent_carried (o : Occurrence) : (carried extra j o).extent = o.extent := by
  cases o with
  | root n =>
    show (n.continued extra).extent = n.extent
    exact Node.extent_changeField _ _ n
  | inside p i n =>
    show (if i = j then n.addStatements extra else n).extent = n.extent
    split
    · exact Node.extent_changeField _ _ n
    · rfl

theorem parent?_carried (o : Occurrence) :
    (carried extra j o).parent? = o.parent?.map (carried extra j) := by
  cases o <;> rfl

theorem ancestors_carried (o : Occurrence) :
    (carried extra j o).ancestors = o.ancestors.map (carried extra j) := by
  induction o with
  | root n => rfl
  | inside p i n ih => rw [carried, ancestors, ih, ancestors, List.map_cons]

/-- Only the root and the block change. -/
theorem node_carried {o : Occurrence} (htop : o.index ≠ 0) (hlast : o.index ≠ j) :
    (carried extra j o).node = o.node := by
  cases o with
  | root n => exact absurd rfl htop
  | inside p i n => exact if_neg hlast

/-! ## Fields -/

mutual

/-- A value without the block is carried over node by node. -/
theorem trim_place_carried (o : Occurrence) (i : Nat) :
    (v : Value Node) → (∀ c ∈ (place o i v).nodes, c.index ≠ j) →
      (place (carried extra j o) i v).trim = (place o i v).trim.map (carried extra j)
  | .null, _ | .bool _, _ | .int _, _ | .float _, _ | .str _, _ | .object _, _ => rfl
  | .node n, h => by
    have hi : i ≠ j := h (inside o i n) (List.mem_singleton_self _)
    rw [place, place, Value.trim, Value.trim, Value.map, carried, if_neg hi]
  | .array vs, h => by
    rw [place, place, Value.trim, Value.trim, Value.map, trimAll_placeAll_carried o i vs h]

theorem trimAll_placeAll_carried (o : Occurrence) (i : Nat) :
    (vs : List (Value Node)) → (∀ c ∈ Value.nodesOfAll (placeAll o i vs), c.index ≠ j) →
      Value.trimAll (placeAll (carried extra j o) i vs) =
        Value.mapAll (carried extra j) (Value.trimAll (placeAll o i vs))
  | [], _ => rfl
  | v :: vs, h => by
    rw [placeAll, Value.nodesOfAll] at h
    rw [placeAll, placeAll, Value.trimAll, Value.trimAll, Value.mapAll,
      trim_place_carried o i v fun c hc => h c (List.mem_append_left _ hc),
      trimAll_placeAll_carried o _ vs fun c hc => h c (List.mem_append_right _ hc)]

end

theorem trim_placeFields_carried (o : Occurrence) (i : Nat) (fs : List (Field × Value Node))
    (h : ∀ c ∈ (placeFields o i fs).flatMap (fun e => e.2.nodes), c.index ≠ j) :
    ((placeFields (carried extra j o) i fs).map fun e => (e.1, e.2.trim)) =
      (placeFields o i fs).map fun e => (e.1, e.2.trim.map (carried extra j)) := by
  induction fs generalizing i with
  | nil => rfl
  | cons entry fs ih =>
    obtain ⟨f, v⟩ := entry
    rw [placeFields, List.flatMap_cons] at h
    rw [placeFields, placeFields, List.map_cons, List.map_cons,
      trim_place_carried o i v fun c hc => h c (List.mem_append_left _ hc),
      ih _ fun c hc => h c (List.mem_append_right _ hc)]

/-- The fields of a node read like before if neither it nor one of its children changes. -/
theorem readsLike_of_index_ne {o : Occurrence} (htop : o.index ≠ 0) (hlast : o.index ≠ j)
    (h : ∀ c ∈ o.children, c.index ≠ j) : (carried extra j o).ReadsLike o (carried extra j) := by
  rw [ReadsLike, fields, index_carried, node_carried htop hlast]
  exact trim_placeFields_carried o (o.index + 1) o.node.fields h

/-- Trees that are carried over one by one are carried over next to each other. -/
theorem flatMap_preorder_carried {os : List Occurrence}
    (h : ∀ o ∈ os, (carried extra j o).preorder = o.preorder.map (carried extra j)) :
    (os.map (carried extra j)).flatMap preorder =
      (os.flatMap preorder).map (carried extra j) := by
  rw [List.flatMap_map, List.map_flatMap]
  exact List.flatMap_congr h

/-- A tree in which no node changes is carried over node by node. -/
theorem preorder_carried {o : Occurrence} (h : ∀ p ∈ o.preorder, p.index ≠ 0 ∧ p.index ≠ j) :
    (carried extra j o).preorder = o.preorder.map (carried extra j) := by
  induction o using childInduction with
  | step o ih =>
    have hchild : ∀ c ∈ o.children, ∀ p ∈ c.preorder, p ∈ o.preorder := fun c hc p hp =>
      mem_preorder_iff.mpr (Or.inr ⟨c, hc, hp⟩)
    obtain ⟨htop, hlast⟩ := h o o.self_mem_preorder
    have hread : (carried extra j o).ReadsLike o (carried extra j) :=
      readsLike_of_index_ne htop hlast fun c hc =>
        (h c (hchild c hc c c.self_mem_preorder)).2
    have hbelow := flatMap_preorder_carried fun c hc => ih c hc fun p hp => h p (hchild c hc p hp)
    rw [preorder_eq, preorder_eq, hread.children, hbelow, List.map_cons]

/-- The tree of a child is carried over node by node if it ends before the block or starts
behind it. -/
theorem preorder_carried_of_child {o c : Occurrence} (hc : c ∈ o.children)
    (h : c.index + c.size ≤ j ∨ j < c.index) :
    (carried extra j c).preorder = c.preorder.map (carried extra j) := by
  have hpos := index_lt_of_mem_children hc
  apply preorder_carried
  intro p hp
  have hindex := index_of_mem_preorder hp
  omega

end

end Occurrence

/-! ## The root and its last block -/

namespace Node

namespace Frame

open Occurrence

variable (F : Frame) (extra : List Node)

/-- The script block at its place. -/
def top : Occurrence := .root F.root

/-- The last block at its place. -/
def last : Occurrence := .inside F.top F.blockIndex F.block

/-- What stands in front of the last block. -/
def before : List Occurrence :=
  (place F.top 1 F.paramBlock).nodes ++
    Value.nodesOfAll (placeAll F.top (1 + valueSize F.paramBlock) F.front)

/-- The further statements at their places. -/
def further : List Occurrence :=
  Value.nodesOfAll (placeAll (F.add extra).last (F.blockIndex + 1 + valuesSize F.statements)
    (extra.map .node))

/-- The nodes of the further statements. -/
def added : List Occurrence := (F.further extra).flatMap preorder

theorem carried_top : carried extra F.blockIndex F.top = (F.add extra).top :=
  congrArg Occurrence.root (F.continued_root extra)

theorem carried_last : carried extra F.blockIndex F.last = (F.add extra).last := by
  rw [last, carried, if_pos rfl, carried_top]
  rfl

/-! ### Fields -/

theorem fields_top : F.top.fields =
    [(.paramBlock, place F.top 1 F.paramBlock),
      (.blocks, .array (placeAll F.top (1 + valueSize F.paramBlock) F.front ++
        [.node F.last]))] := by
  have hblocks := placeAll_append F.top (1 + valueSize F.paramBlock) F.front [.node F.block]
  exact congrArg (fun blocks => [(Field.paramBlock, place F.top 1 F.paramBlock),
    (Field.blocks, Value.array blocks)]) hblocks

theorem fields_last : F.last.fields =
    [(.blockKind, .str F.blockKind),
      (.statements, .array (placeAll F.last (F.blockIndex + 1) F.statements))] := rfl

theorem children_top : F.top.children = F.before ++ [F.last] := by
  rw [Occurrence.children, fields_top, List.flatMap_cons, List.flatMap_cons, List.flatMap_nil,
    List.append_nil, Value.nodes, Value.nodesOfAll_append, ← List.append_assoc]
  rfl

/-- The last block of a frame is the last one of its script block. -/
theorem childrenIn_blocks : F.top.childrenIn .blocks =
    Value.nodesOfAll (placeAll F.top (1 + valueSize F.paramBlock) F.front) ++ [F.last] := by
  have hblocks : F.top.childrenIn .blocks = Value.nodesOfAll
      (placeAll F.top (1 + valueSize F.paramBlock) F.front ++ [.node F.last]) := by
    rw [childrenIn, field?, fields_top]
    rfl
  rw [hblocks, Value.nodesOfAll_append]
  rfl

theorem mem_children_top : F.last ∈ F.top.children := by
  rw [children_top]
  exact List.mem_append_right _ (List.mem_singleton_self _)

/-- What stands in front of the last block has smaller numbers. -/
theorem index_lt_of_mem_before {c : Occurrence} (hc : c ∈ F.before) : c.index < F.blockIndex := by
  rw [before, List.mem_append] at hc
  unfold blockIndex
  rcases hc with hc | hc
  · obtain ⟨hnumbered, hsize⟩ := numberedFrom_place F.top 1 F.paramBlock
    have hlt := hnumbered.index_lt hc
    omega
  · obtain ⟨hnumbered, hsize⟩ :=
      numberedFrom_placeAll F.top (1 + valueSize F.paramBlock) F.front
    have hlt := hnumbered.index_lt hc
    omega

/-- The fields of the root read like before, with the block carried over. -/
theorem readsLike_top :
    (carried extra F.blockIndex F.top).ReadsLike F.top (carried extra F.blockIndex) := by
  have hparam : (place (F.add extra).top 1 F.paramBlock).trim =
      (place F.top 1 F.paramBlock).trim.map (carried extra F.blockIndex) := by
    rw [← carried_top]
    exact trim_place_carried F.top 1 F.paramBlock fun c hc =>
      Nat.ne_of_lt (F.index_lt_of_mem_before (List.mem_append_left _ hc))
  have hfront : Value.trimAll (placeAll (F.add extra).top (1 + valueSize F.paramBlock) F.front) =
      Value.mapAll (carried extra F.blockIndex)
        (Value.trimAll (placeAll F.top (1 + valueSize F.paramBlock) F.front)) := by
    rw [← carried_top]
    exact trimAll_placeAll_carried F.top _ F.front fun c hc =>
      Nat.ne_of_lt (F.index_lt_of_mem_before (List.mem_append_right _ hc))
  have hblocks : Value.trimAll (placeAll (F.add extra).top (1 + valueSize F.paramBlock) F.front ++
        [.node (F.add extra).last]) =
      Value.mapAll (carried extra F.blockIndex) (Value.trimAll
        (placeAll F.top (1 + valueSize F.paramBlock) F.front ++ [.node F.last])) := by
    rw [Value.trimAll_append, Value.trimAll_append, Value.mapAll_append, ← hfront, ← carried_last]
    rfl
  rw [ReadsLike, carried_top, fields_top, fields_top]
  exact congrArg₂ (fun v vs => [(Field.paramBlock, v), (Field.blocks, Value.array vs)])
    hparam hblocks

/-- The fields of a node but the block read like before. -/
theorem readsLike_carried {o : Occurrence} (ho : o ∈ F.top.preorder) (hne : o ≠ F.last) :
    (carried extra F.blockIndex o).ReadsLike o (carried extra F.blockIndex) := by
  have hlast : F.last ∈ F.top.preorder :=
    mem_preorder_of_child F.top.self_mem_preorder F.mem_children_top
  by_cases htop : o = F.top
  · rw [htop]
    exact F.readsLike_top extra
  · refine readsLike_of_index_ne ?_ ?_ ?_
    · exact fun hindex => htop (eq_of_index_eq ho F.top.self_mem_preorder hindex)
    · exact fun hindex => hne (eq_of_index_eq ho hlast hindex)
    · -- the block is a child of the root only
      intro c hc hindex
      have hc' : c = F.last := eq_of_index_eq (mem_preorder_of_child ho hc) hlast hindex
      have hparent := parent?_of_mem_children hc
      rw [hc'] at hparent
      exact htop (Option.some_inj.mp hparent).symm

/-! ### The block -/

/-- But its statements, a block has nothing but a text. -/
theorem field?_last {f : Field} (hf : f ≠ .statements) :
    F.last.field? f = if f = .blockKind then some (.str F.blockKind) else none := by
  rw [field?, fields_last, List.lookup_cons, List.lookup_cons, List.lookup_nil]
  cases f
  case blockKind => rfl
  case statements => exact absurd rfl hf
  all_goals rfl

/-- But its statements, a block keeps its fields. -/
theorem holdsLike_last {f : Field} (hf : f ≠ .statements) :
    (F.add extra).last.HoldsLike F.last (carried extra F.blockIndex) f := by
  rw [HoldsLike, field?_last _ hf, field?_last _ hf]
  split <;> rfl

/-- No field but the statements of the block changes. -/
theorem holdsLike_carried {o : Occurrence} (ho : o ∈ F.top.preorder) {f : Field}
    (hf : f ≠ .statements) :
    (carried extra F.blockIndex o).HoldsLike o (carried extra F.blockIndex) f := by
  by_cases hne : o = F.last
  · rw [hne, carried_last]
    exact F.holdsLike_last extra hf
  · exact (F.readsLike_carried extra ho hne).holdsLike f

theorem children_last : F.last.children =
    Value.nodesOfAll (placeAll F.last (F.blockIndex + 1) F.statements) := by
  rw [Occurrence.children, fields_last, List.flatMap_cons, List.flatMap_cons, List.flatMap_nil,
    List.append_nil]
  rfl

/-- The statements have greater numbers than the block. -/
theorem index_lt_of_mem_children_last {c : Occurrence} (hc : c ∈ F.last.children) :
    F.blockIndex < c.index := index_lt_of_mem_children hc

theorem childrenIn_statements : F.last.childrenIn .statements = F.last.children := by
  rw [children_last]
  rfl

/-- A block has the further statements behind its own. -/
theorem children_last_add : (F.add extra).last.children =
    F.last.children.map (carried extra F.blockIndex) ++ F.further extra := by
  have hown : Value.nodesOfAll (placeAll (F.add extra).last (F.blockIndex + 1) F.statements) =
      F.last.children.map (carried extra F.blockIndex) := by
    have htrim : Value.trimAll
          (placeAll (F.add extra).last (F.blockIndex + 1) F.statements) =
        Value.mapAll (carried extra F.blockIndex)
          (Value.trimAll (placeAll F.last (F.blockIndex + 1) F.statements)) := by
      rw [← carried_last]
      exact trimAll_placeAll_carried F.last _ F.statements fun c hc =>
        Nat.ne_of_gt (F.index_lt_of_mem_children_last (F.children_last ▸ hc))
    rw [← Value.nodesOfAll_trimAll, htrim, Value.nodesOfAll_mapAll, Value.nodesOfAll_trimAll,
      children_last]
  rw [children_last, ← hown, further, blockIndex_add, add, placeAll_append,
    Value.nodesOfAll_append]

/-- The further statements are put behind those of the block. -/
theorem map_node_further : (F.further extra).map node = extra := by
  rw [further, map_node_nodes_placeAll, Value.nodesOfAll_eq_flatMap, List.flatMap_map]
  exact List.flatMap_singleton' extra

/-- The nodes of the statements are those of before and the further ones. -/
theorem map_statements_carried :
    ((carried extra F.blockIndex F.last).childrenIn .statements).map node =
      (F.last.childrenIn .statements).map node ++ extra := by
  rw [carried_last, childrenIn_statements, childrenIn_statements, children_last_add,
    List.map_append, map_node_further, List.map_map]
  congr 1
  apply List.map_congr_left
  intro c hc
  have hlt := F.index_lt_of_mem_children_last hc
  exact node_carried (by omega) (by omega)

/-! ### The nodes of the tree -/

/-- The trees in front of the block are carried over. -/
theorem preorder_of_mem_before {c : Occurrence} (hc : c ∈ F.before) :
    (carried extra F.blockIndex c).preorder = c.preorder.map (carried extra F.blockIndex) := by
  have hchild : c ∈ F.top.children := by
    rw [children_top]
    exact List.mem_append_left _ hc
  exact preorder_carried_of_child hchild (Or.inl ((numberedFrom_children F.top).add_size_le hchild
    F.mem_children_top (F.index_lt_of_mem_before hc)))

/-- The nodes of the block are those carried over and behind them the added ones. -/
theorem preorder_last_add : (F.add extra).last.preorder =
    F.last.preorder.map (carried extra F.blockIndex) ++ F.added extra := by
  have hown : (F.last.children.map (carried extra F.blockIndex)).flatMap preorder =
      (F.last.children.flatMap preorder).map (carried extra F.blockIndex) :=
    flatMap_preorder_carried fun c hc =>
      preorder_carried_of_child hc (Or.inr (F.index_lt_of_mem_children_last hc))
  rw [preorder_eq, preorder_eq F.last, children_last_add, List.flatMap_append, hown, List.map_cons,
    carried_last, List.cons_append, added]

/-- The nodes of the tree are those carried over and behind them the added ones. -/
theorem preorder_top_add : (F.add extra).top.preorder =
    F.top.preorder.map (carried extra F.blockIndex) ++ F.added extra := by
  have hbefore : (F.before.map (carried extra F.blockIndex)).flatMap preorder =
      (F.before.flatMap preorder).map (carried extra F.blockIndex) :=
    flatMap_preorder_carried fun c hc => F.preorder_of_mem_before extra hc
  have hchildren := (F.readsLike_top extra).children
  rw [carried_top, children_top F, List.map_append, List.map_singleton, carried_last] at hchildren
  rw [preorder_eq, hchildren, preorder_eq F.top, children_top, List.flatMap_append, hbefore,
    List.flatMap_singleton, preorder_last_add, List.flatMap_append, List.flatMap_singleton,
    List.map_cons, List.map_append, carried_top, List.cons_append, List.append_assoc]

end Frame

end Node

end ScriptNavigation
