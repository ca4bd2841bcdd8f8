/-
# A wrapped statement

The statements of a block may be of any kind, so one of them can be wrapped and the script
stays well typed.  The script with the wrapped statement mirrors the script: only the
statements of the block show the wrapper in place of a node, and nothing looks for wrappers
above a node.

Main facts:

* `IsStatementOf.wellTyped_wrapped`: wrapping a statement keeps a script well typed.
* `IsStatementOf.statements_twin`: the block has the wrapper in place of the statement.
* `IsStatementOf.mirrors`: each node of the script has a twin that reads the same.
* `nodes_wrapped`: the nodes are the twins in the same order, and the wrapper.
-/
import ScriptNavigation.Proofs.Mirror.Reading
import ScriptNavigation.Proofs.Mirror.Typed
import ScriptNavigation.Proofs.Wrapping.Occurrence

namespace ScriptNavigation

namespace Occurrence

/-! ## Statements of blocks -/

/-- A node is a statement of a block of a well-typed script. -/
structure IsStatementOf (statement block : Occurrence) (s : Script) : Prop where
  standsIn : block.StandsIn s
  kind : block.kind = .namedBlock ∨ block.kind = .statementBlock
  mem : statement ∈ block.childrenIn .statements

/-- The only nodes in the fields of a block are its statements. -/
theorem StandsIn.childrenIn_block {block : Occurrence} {s : Script} (hblock : block.StandsIn s)
    (hk : block.kind = .namedBlock ∨ block.kind = .statementBlock) {f : Field}
    (hf : f ≠ .statements) : block.childrenIn f = [] := by
  unfold childrenIn
  cases hd : block.field? f with
  | none => rfl
  | some d =>
    obtain ⟨type, htype, hadmits⟩ := exists_type_of_field? hblock.isTyped hd
    -- beside its statements a block has a text at most
    have htext : ∃ text, type = .text text := by
      rcases hk with hk | hk <;> rw [hk] at htype <;> cases f
      case inl.blockKind =>
        cases htype
        exact ⟨_, rfl⟩
      case inl.statements | inr.statements => exact absurd rfl hf
      all_goals cases htype
    obtain ⟨text, rfl⟩ := htext
    cases d with
    | str t => rfl
    | null | bool | int | float | array | object | node => cases hadmits

/-- A block admits statements of all kinds. -/
theorem admitsAllKinds_block {block : Occurrence}
    (hk : block.kind = .namedBlock ∨ block.kind = .statementBlock) :
    ∀ e ∈ block.kind.schema, e.2.admitsAllKinds = true := by
  rcases hk with hk | hk <;> rw [hk] <;> decide

namespace IsStatementOf

variable {s : Script} {statement block o c : Occurrence} (h : statement.IsStatementOf block s)
include h

theorem mem_children : statement ∈ block.children := mem_children_of_childrenIn h.mem

theorem statement_standsIn : statement.StandsIn s := h.standsIn.of_mem_childrenIn h.mem

theorem index_pos : 0 < statement.index :=
  Nat.zero_lt_of_lt (index_lt_of_mem_children h.mem_children)

/-- Only a child of the block can be the statement. -/
theorem eq_block_of_index_eq (ho : o.StandsIn s) (hc : c ∈ o.children)
    (hindex : c.index = statement.index) : o = block := by
  have hsame : c = statement :=
    eq_of_index_eq (ho.child hc).mem h.statement_standsIn.mem hindex
  have hparent := parent?_of_mem_children hc
  rw [hsame, parent?_of_mem_children h.mem_children] at hparent
  exact (Option.some_inj.mp hparent).symm

/-- No field but the statements of the block holds the statement. -/
theorem index_ne (ho : o.StandsIn s) {f : Field} (hf : f ≠ .statements)
    (hc : c ∈ o.childrenIn f) : c.index ≠ statement.index := by
  intro hindex
  have hblock := h.eq_block_of_index_eq ho (mem_children_of_childrenIn hc) hindex
  rw [hblock, h.standsIn.childrenIn_block h.kind hf] at hc
  exact absurd hc List.not_mem_nil

variable (extent : Extent String) (originalKind : String)

/-! ## The script with the wrapper -/

omit h in
theorem top_wrapped (j : Nat) :
    (s.wrapped j extent originalKind).top = shown extent originalKind j s.top := rfl

/-- The nodes of the script with the wrapper are the twins in the same order, with the wrapper
before the twin of the statement. -/
theorem preorder_wrapped :
    (s.wrapped statement.index extent originalKind).top.preorder =
      s.top.preorder.flatMap (wrappedAndTwin extent originalKind statement.index) := by
  rw [top_wrapped, preorder_shown h.index_pos]

theorem nodes_wrapped :
    (s.wrapped statement.index extent originalKind).nodes =
      s.nodes.flatMap (wrappedAndTwin extent originalKind statement.index) := by
  rw [Script.nodes_eq, Script.nodes_eq, h.preorder_wrapped]

/-- The other statements of the block stay what they are. -/
theorem node_shown_of_index_ne (hc : c ∈ block.children) (hne : c.index ≠ statement.index) :
    (shown extent originalKind statement.index c).node = c.node := by
  rw [shown_of_index_ne hne, node_twin]
  rcases Nat.lt_or_gt_of_ne hne with hlt | hgt
  · have hle := (numberedFrom_children block).add_size_le hc h.mem_children hlt
    exact Node.wrapBelow_of_add_size_le extent originalKind _ c.node hle
  · exact Node.wrapBelow_of_le extent originalKind _ (Nat.le_of_lt hgt) c.node

/-- The twin of the block has the same statements, but for the wrapper around the wrapped
one. -/
theorem statements_twin :
    ((twin extent originalKind statement.index block).childrenIn .statements).map node =
      (block.childrenIn .statements).map fun c =>
        if c.index = statement.index then Node.wrapper extent originalKind c.node else c.node := by
  rw [((readsLike_twin h.index_pos block).holdsLike .statements).childrenIn, List.map_map]
  apply List.map_congr_left
  intro c hc
  rw [Function.comp_apply]
  split
  · rename_i hindex
    exact node_shown_of_index_eq h.index_pos hindex
  · rename_i hindex
    exact h.node_shown_of_index_ne extent originalKind (mem_children_of_childrenIn hc) hindex

theorem isTyped_twin (ho : o.StandsIn s) :
    (twin extent originalKind statement.index o).node.isTyped = true := by
  refine (readsLike_twin h.index_pos o).isTyped (kind_twin o) ho.isTyped ?_
  -- in the block the kind of a statement may change, since all kinds are admitted there
  by_cases hblock : o = block
  · exact Or.inl (admitsAllKinds_block (hblock ▸ h.kind))
  · refine Or.inr fun c hc => ?_
    have hindex : c.index ≠ statement.index :=
      fun hindex => hblock (h.eq_block_of_index_eq ho hc hindex)
    rw [shown_of_index_ne hindex, kind_twin]

/-- Wrapping a statement keeps a script well typed. -/
theorem wellTyped_wrapped : (s.wrapped statement.index extent originalKind).WellTyped := by
  intro o' ho'
  rw [h.preorder_wrapped, List.mem_flatMap] at ho'
  obtain ⟨o, ho, ho'⟩ := ho'
  rw [wrappedAndTwin, List.mem_append, Option.mem_toList, List.mem_singleton] at ho'
  rcases ho' with hwrapper | rfl
  · exact isTyped_of_wrapping? hwrapper
  · exact h.isTyped_twin extent originalKind ⟨h.standsIn.wellTyped, ho⟩

theorem standsIn_twin (ho : o.StandsIn s) :
    (twin extent originalKind statement.index o).StandsIn
      (s.wrapped statement.index extent originalKind) := by
  refine ⟨h.wellTyped_wrapped extent originalKind, ?_⟩
  rw [h.preorder_wrapped, List.mem_flatMap]
  exact ⟨o, ho.mem, List.mem_append_right _ (List.mem_singleton_self _)⟩

/-- A twin is the body of a method where the node is: a statement never is one. -/
theorem inMethod_twin (ho : o.StandsIn s) :
    (twin extent originalKind statement.index o).parent?.map Occurrence.kind =
        some .functionMember ↔
      o.parent?.map Occurrence.kind = some .functionMember := by
  rw [parent?_twin]
  cases hw : wrapping? extent originalKind statement.index o with
  | none =>
    have hkind : Occurrence.kind ∘ twin extent originalKind statement.index = Occurrence.kind :=
      funext fun a => kind_twin a
    rw [Option.isSome_none, if_neg Bool.false_ne_true, Option.map_map, hkind]
  | some w =>
    -- above the statement there is a block, and above its twin the wrapper
    have hsame : o = statement :=
      eq_of_index_eq ho.mem h.statement_standsIn.mem (index_of_wrapping? hw).1
    have hparent := parent?_of_mem_children h.mem_children
    rw [Option.isSome_some, if_pos rfl, Option.map_some, kind_of_wrapping? hw, hsame, hparent,
      Option.map_some]
    rcases h.kind with hk | hk <;> rw [hk] <;> decide

/-- The script with the wrapper mirrors the script. -/
theorem mirrors :
    Mirrors s (s.wrapped statement.index extent originalKind)
      (twin extent originalKind statement.index) where
  standsIn ho := h.standsIn_twin extent originalKind ho
  kind {o} _ := kind_twin o
  extent {o} _ := extent_twin o
  textIn {o} _ f := ((readsLike_twin h.index_pos o).holdsLike f).textIn
  flagIn {o} _ f := ((readsLike_twin h.index_pos o).holdsLike f).flagIn
  childIn? {o} ho f hf := by
    rw [((readsLike_twin h.index_pos o).holdsLike f).childIn?]
    apply Option.map_congr
    intro c hc
    exact shown_of_index_ne (h.index_ne ho hf (mem_childrenIn_of_childIn? hc))
  childrenIn {o} ho f hf := by
    rw [((readsLike_twin h.index_pos o).holdsLike f).childrenIn]
    apply List.map_congr_left
    intro c hc
    exact shown_of_index_ne (h.index_ne ho hf hc)
  pairsIn {o} ho f hf := by
    rw [((readsLike_twin h.index_pos o).holdsLike f).pairsIn]
    apply List.map_congr_left
    intro p hp
    obtain ⟨hfst, hsnd⟩ := mem_childrenIn_of_mem_pairsIn hp
    rw [Prod.map, Prod.map, shown_of_index_ne (h.index_ne ho hf hfst),
      shown_of_index_ne (h.index_ne ho hf hsnd)]
  typeAround? {o} _ := by
    apply find?_ancestors_twin
    · intro w hw
      rw [hw]
      rfl
    · intro a
      rw [kind_twin]
  callableAround? {o} _ := by
    apply find?_ancestors_twin
    · intro w hw
      rw [hw]
      rfl
    · intro a
      rw [kind_twin]
  inMethod {o} ho := h.inMethod_twin extent originalKind ho
  index {o a} _ _ := index_twin_inj h.index_pos o a
  around {o a} _ _ := by
    apply any_ancestors_twin
    · intro p w hw
      rw [(index_of_wrapping? hw).2]
      exact beq_false_of_ne (index_twin_ne h.index_pos a).symm
    · intro b
      rw [Bool.eq_iff_iff, beq_iff_eq, beq_iff_eq]
      exact index_twin_inj h.index_pos b a

end IsStatementOf

end Occurrence

end ScriptNavigation
