/-
# Statements behind a tree

A script is continued by statements that are put behind those of the last block of its root.
In a well-typed script the root has two fields, the second of which lists the blocks, and a
block has two fields, the second of which lists its statements.  So the further statements
come behind everything else in document order, and no node changes its number.

Main facts:

* `Script.continued`: a script with further statements in its last block.
* `Node.Frame`: what there is of a root and of its last block.
* `Frame.continued_root`: continuing a script adds to the statements of the frame.
* `Node.exists_blocks`, `Node.exists_frame`: a well-typed script block with a block has a frame.
-/
import ScriptNavigation.Proofs.Reading.Field

namespace ScriptNavigation

/-! ## Further statements -/

/-- A list of nodes with further nodes behind it; other values stay what they are. -/
def Value.addNodes (extra : List Node) : Value Node → Value Node
  | .array vs => .array (vs ++ extra.map .node)
  | v => v

/-- A list of values whose last one, if it is a node, is changed. -/
def Value.changeLast (change : Node → Node) : List (Value Node) → List (Value Node)
  | [] => []
  | [.node n] => [.node (change n)]
  | v :: vs => v :: changeLast change vs

theorem Value.changeLast_append (change : Node → Node) (vs : List (Value Node)) (n : Node) :
    changeLast change (vs ++ [.node n]) = vs ++ [.node (change n)] := by
  induction vs with
  | nil => rfl
  | cons v vs ih =>
    have hne : vs ++ [Value.node n] ≠ [] :=
      List.append_ne_nil_of_right_ne_nil vs (List.cons_ne_nil _ _)
    rw [List.cons_append, List.cons_append, ← ih]
    cases hvs : vs ++ [Value.node n] with
    | nil => exact absurd hvs hne
    | cons w ws => cases v <;> rfl

namespace Node

/-- A node with the value of a field changed. -/
def changeField (f : Field) (change : Value Node → Value Node) : Node → Node
  | mk k e fs => mk k e (fs.map fun entry =>
      if entry.1 = f then (f, change entry.2) else entry)

/-- A block with further statements behind its own. -/
def addStatements (extra : List Node) : Node → Node :=
  changeField .statements (Value.addNodes extra)

/-- A script block with further statements in its last block. -/
def continued (extra : List Node) : Node → Node :=
  changeField .blocks fun v =>
    match v with
    | .array blocks => .array (Value.changeLast (addStatements extra) blocks)
    | v => v

end Node

/-- A script with further statements in its last block, and with another source text. -/
def Script.continued (s : Script) (extra : List Node) (source : String) : Script :=
  { s with root := s.root.continued extra, source := source }

/-! ## Frames -/

namespace Node

/-- What there is of a script block and of its last block. -/
structure Frame where
  extent : Extent String
  paramBlock : Value Node
  front : List (Value Node)
  blockExtent : Extent String
  blockKind : String
  statements : List (Value Node)

namespace Frame

variable (F : Frame) (extra : List Node)

/-- The last block. -/
def block : Node :=
  .mk .namedBlock F.blockExtent
    [(.blockKind, .str F.blockKind), (.statements, .array F.statements)]

/-- The script block. -/
def root : Node :=
  .mk .scriptBlock F.extent
    [(.paramBlock, F.paramBlock), (.blocks, .array (F.front ++ [.node F.block]))]

/-- The number of the last block. -/
def blockIndex : Nat := 1 + valueSize F.paramBlock + valuesSize F.front

/-- The frame with further statements. -/
def add : Frame := { F with statements := F.statements ++ extra.map .node }

@[simp] theorem blockIndex_add : (F.add extra).blockIndex = F.blockIndex := rfl

theorem addStatements_block : F.block.addStatements extra = (F.add extra).block := rfl

/-- Continuing a script adds to the statements of the frame. -/
theorem continued_root : F.root.continued extra = (F.add extra).root := by
  have hlast := Value.changeLast_append (addStatements extra) F.front F.block
  rw [addStatements_block] at hlast
  exact congrArg (fun blocks => Node.mk .scriptBlock F.extent
    [(.paramBlock, F.paramBlock), (.blocks, .array blocks)]) hlast

/-! ### Types -/

theorem isTyped_block :
    F.block.isTyped = F.statements.all (Value.isNodeIn Node.kind none) := by
  have hfields : F.block.isTyped = fieldsTyped Node.kind NodeKind.namedBlock.schema
      [(.blockKind, .str F.blockKind), (.statements, .array F.statements)] := rfl
  simp only [hfields, NodeKind.schema, fieldsTyped, FieldType.admits, beq_self_eq_true,
    Bool.true_and, Bool.and_true]

/-- The last block stays well typed. -/
theorem isTyped_block_add (h : F.block.isTyped = true) : (F.add extra).block.isTyped = true := by
  have hextra : (extra.map Value.node).all (Value.isNodeIn Node.kind none) = true := by
    rw [List.all_map, List.all_eq_true]
    exact fun n _ => rfl
  rw [isTyped_block] at h
  rw [isTyped_block, add, List.all_append, h, hextra, Bool.and_true]

end Frame

end Node

/-! ## Nodes that have a frame -/

/-- The first field of a schema has a value of its declared type. -/
theorem exists_cons_of_fieldsTyped {f : Field} {type : FieldType}
    {schema : List (Field × FieldType)} {values : List (Field × Value Node)}
    (h : fieldsTyped Node.kind ((f, type) :: schema) values = true) :
    ∃ v rest, values = (f, v) :: rest ∧ type.admits Node.kind v = true ∧
      fieldsTyped Node.kind schema rest = true := by
  cases values with
  | nil => exact absurd h Bool.false_ne_true
  | cons entry rest =>
    obtain ⟨g, v⟩ := entry
    rw [fieldsTyped, Bool.and_eq_true, Bool.and_eq_true, beq_iff_eq] at h
    obtain ⟨⟨rfl, hv⟩, hrest⟩ := h
    exact ⟨v, rest, rfl, hv, hrest⟩

theorem eq_nil_of_fieldsTyped {values : List (Field × Value Node)}
    (h : fieldsTyped Node.kind [] values = true) : values = [] := by
  cases values with
  | nil => rfl
  | cons entry rest => exact absurd h Bool.false_ne_true

namespace Node

/-- A well-typed block has a text and a list of statements. -/
theorem exists_statements {n : Node} (hk : n.kind = .namedBlock) (h : n.isTyped = true) :
    ∃ blockKind statements, n = .mk .namedBlock n.extent
      [(.blockKind, .str blockKind), (.statements, .array statements)] := by
  obtain ⟨k, e, fs⟩ := n
  obtain rfl : k = .namedBlock := hk
  obtain ⟨v, rest, rfl, hv, hrest⟩ := exists_cons_of_fieldsTyped h
  obtain ⟨w, rest, rfl, hw, hrest⟩ := exists_cons_of_fieldsTyped hrest
  obtain rfl := eq_nil_of_fieldsTyped hrest
  cases v with
  | str t =>
    cases w with
    | array vs => exact ⟨t, vs, rfl⟩
    | null | bool | int | float | str | object | node => exact absurd hw Bool.false_ne_true
  | null | bool | int | float | array | object | node => exact absurd hv Bool.false_ne_true

/-- A well-typed script block has a list of blocks. -/
theorem exists_blocks {n : Node} (hk : n.kind = .scriptBlock) (h : n.isTyped = true) :
    ∃ paramBlock blocks, n = .mk .scriptBlock n.extent
        [(.paramBlock, paramBlock), (.blocks, .array blocks)] ∧
      blocks.all (Value.isNodeIn Node.kind (some .namedBlock)) = true := by
  obtain ⟨k, e, fs⟩ := n
  obtain rfl : k = .scriptBlock := hk
  obtain ⟨v, rest, rfl, hv, hrest⟩ := exists_cons_of_fieldsTyped h
  obtain ⟨w, rest, rfl, hw, hrest⟩ := exists_cons_of_fieldsTyped hrest
  obtain rfl := eq_nil_of_fieldsTyped hrest
  cases w with
  | array vs => exact ⟨v, vs, rfl, hw⟩
  | null | bool | int | float | str | object | node => exact absurd hw Bool.false_ne_true

/-- A well-typed script block with a block has a frame, if its blocks are well typed. -/
theorem exists_frame {n : Node} {paramBlock : Value Node} {blocks : List (Value Node)}
    (hn : n = .mk .scriptBlock n.extent [(.paramBlock, paramBlock), (.blocks, .array blocks)])
    (hblocks : blocks.all (Value.isNodeIn Node.kind (some .namedBlock)) = true)
    (hne : blocks ≠ []) (htyped : ∀ c ∈ n.children, c.isTyped = true) :
    ∃ F : Frame, n = F.root := by
  obtain ⟨front, last, hlast⟩ := (List.eq_nil_or_concat blocks).resolve_left hne
  rw [List.concat_eq_append] at hlast
  rw [hlast] at hn hblocks
  rw [List.all_append, Bool.and_eq_true, List.all_cons, Bool.and_eq_true] at hblocks
  cases last with
  | node b =>
    have hk : b.kind = .namedBlock := by
      have hkind := hblocks.2.1
      rw [Value.isNodeIn, Option.all_some, beq_iff_eq] at hkind
      exact hkind.symm
    have hb : b ∈ n.children := by
      rw [hn, children, fields, List.mem_flatMap]
      refine ⟨_, List.mem_cons_of_mem _ (List.mem_singleton_self _), ?_⟩
      rw [Value.nodes, Value.nodesOfAll_eq_flatMap, List.mem_flatMap]
      exact ⟨.node b, List.mem_append_right _ (List.mem_singleton_self _),
        List.mem_singleton_self b⟩
    obtain ⟨blockKind, statements, hbody⟩ := exists_statements hk (htyped b hb)
    rw [hbody] at hn
    exact ⟨⟨n.extent, paramBlock, front, b.extent, blockKind, statements⟩, hn⟩
  | null | bool | int | float | str | array | object =>
    exact absurd hblocks.2.1 Bool.false_ne_true

end Node

end ScriptNavigation
