/-
# Nodes of a tree one of whose nodes is wrapped

Each node of a tree stands again in the tree in which one node is wrapped, at a place of its
own: its twin.  The twin of a node has the same fields, but that the wrapper is shown where
the wrapped node was.  The wrapper is the only other node of the tree.

Main facts:

* `readsLike_twin`: the fields of a twin read like those of the node.
* `preorder_shown`: the nodes of the tree are the twins in the same order, with the wrapper
  before the twin of the wrapped node.
* `find?_ancestors_twin`: what is looked for above a node and is not a wrapper is found above
  its twin as well.
* `index_twin_inj`: different nodes have different twins.
-/
import ScriptNavigation.Proofs.Mirror.Field
import ScriptNavigation.Proofs.Wrapping.Tree

namespace ScriptNavigation

namespace Occurrence

section

variable (extent : Extent String) (originalKind : String) (j : Nat)

/-! ## Twins and the wrapper -/

/-- The number that the node with a number has when the node with the number `j` is wrapped,
or that the wrapper has if it is that node. -/
def shift (i : Nat) : Nat := if i ≤ j then i else i + 1

/-- A node at its place in the tree in which the node with the number `j` is wrapped. -/
def twin : Occurrence → Occurrence
  | root n => root (Node.wrapBelow extent originalKind j 0 n)
  | inside p i n =>
    if i = j then inside (inside (twin p) i (Node.wrapper extent originalKind n)) (i + 1) n
    else inside (twin p) (shift j i) (Node.wrapBelow extent originalKind j i n)

/-- The wrapper around the twin of a node, if it is the wrapped one. -/
def wrapping? : Occurrence → Option Occurrence
  | root _ => none
  | inside p i n =>
    if i = j then
      some (inside (twin extent originalKind j p) i (Node.wrapper extent originalKind n))
    else none

/-- What is shown where a node was: its twin, or the wrapper around it. -/
def shown (o : Occurrence) : Occurrence :=
  (wrapping? extent originalKind j o).getD (twin extent originalKind j o)

/-- A twin and the wrapper in front of it. -/
def wrappedAndTwin (o : Occurrence) : List Occurrence :=
  (wrapping? extent originalKind j o).toList ++ [twin extent originalKind j o]

variable {extent originalKind j}

theorem wrapping?_of_index_ne {o : Occurrence} (h : o.index ≠ j) :
    wrapping? extent originalKind j o = none := by
  cases o with
  | root n => rfl
  | inside p i n => exact if_neg h

theorem shown_of_index_ne {o : Occurrence} (h : o.index ≠ j) :
    shown extent originalKind j o = twin extent originalKind j o := by
  rw [shown, wrapping?_of_index_ne h, Option.getD_none]

/-- The wrapper stands below the twin of the parent and nests the wrapped node. -/
theorem exists_of_wrapping? {o w : Occurrence}
    (h : wrapping? extent originalKind j o = some w) :
    ∃ p n, o = inside p j n ∧
      w = inside (twin extent originalKind j p) j (Node.wrapper extent originalKind n) := by
  cases o with
  | root n => cases h
  | inside p i n =>
    rw [wrapping?] at h
    split at h
    · rename_i hi
      cases h
      exact ⟨p, n, hi ▸ rfl, hi ▸ rfl⟩
    · cases h

/-- A wrapper has no kind that is known. -/
theorem kind_of_wrapping? {o w : Occurrence} (h : wrapping? extent originalKind j o = some w) :
    w.kind = .generic := by
  obtain ⟨p, n, -, rfl⟩ := exists_of_wrapping? h
  rfl

/-- The wrapper has the number that the wrapped node had. -/
theorem index_of_wrapping? {o w : Occurrence} (h : wrapping? extent originalKind j o = some w) :
    o.index = j ∧ w.index = j := by
  obtain ⟨p, n, rfl, rfl⟩ := exists_of_wrapping? h
  exact ⟨rfl, rfl⟩

/-- A wrapper is well typed. -/
theorem isTyped_of_wrapping? {o w : Occurrence}
    (h : wrapping? extent originalKind j o = some w) : w.node.isTyped = true := by
  obtain ⟨p, n, -, rfl⟩ := exists_of_wrapping? h
  exact Node.isTyped_wrapper extent originalKind n

/-- What is shown below a twin where a node was. -/
theorem shown_inside (p : Occurrence) (i : Nat) (n : Node) :
    shown extent originalKind j (inside p i n) =
      inside (twin extent originalKind j p) (shift j i)
        (if i = j then Node.wrapper extent originalKind n
          else Node.wrapBelow extent originalKind j i n) := by
  rw [shown, wrapping?]
  by_cases h : i = j
  · rw [if_pos h, if_pos h, Option.getD_some, shift, if_pos (Nat.le_of_eq h)]
  · rw [if_neg h, if_neg h, Option.getD_none, twin, if_neg h]

/-- The wrapped node is shown in its wrapper. -/
theorem node_shown_of_index_eq (hj : 0 < j) {o : Occurrence} (h : o.index = j) :
    (shown extent originalKind j o).node = Node.wrapper extent originalKind o.node := by
  cases o with
  | root n => exact absurd h (Nat.ne_of_lt hj)
  | inside p i n =>
    rw [index] at h
    rw [shown_inside, if_pos h]
    rfl

/-- The node of a twin is that of the node, with the node to wrap wrapped. -/
theorem node_twin (o : Occurrence) :
    (twin extent originalKind j o).node = Node.wrapBelow extent originalKind j o.index o.node := by
  cases o with
  | root n => rfl
  | inside p i n =>
    rw [twin]
    split
    · -- nothing below the wrapped node changes
      exact (Node.wrapBelow_of_le _ _ _ (by rw [index]; omega) n).symm
    · rfl

@[simp] theorem kind_twin (o : Occurrence) : (twin extent originalKind j o).kind = o.kind := by
  rw [kind, node_twin, Node.kind_wrapBelow]
  rfl

@[simp] theorem extent_twin (o : Occurrence) :
    (twin extent originalKind j o).extent = o.extent := by
  rw [Occurrence.extent, node_twin, Node.extent_wrapBelow]
  rfl

/-! ## Numbers of twins -/

/-- The numbers below a twin go on where they do below the node. -/
theorem index_twin_succ (hj : 0 < j) (o : Occurrence) :
    (twin extent originalKind j o).index + 1 = shift j (o.index + 1) := by
  cases o with
  | root n =>
    show 0 + 1 = shift j (0 + 1)
    rw [shift, if_pos (Nat.succ_le_of_lt hj)]
  | inside p i n =>
    rw [twin]
    split
    · show i + 1 + 1 = shift j (i + 1)
      rw [shift, if_neg (by omega)]
    · show shift j i + 1 = shift j (i + 1)
      unfold shift
      split <;> split <;> omega

/-- Different nodes have different twins. -/
theorem index_twin_inj (hj : 0 < j) (o a : Occurrence) :
    (twin extent originalKind j o).index = (twin extent originalKind j a).index ↔
      o.index = a.index := by
  have ho : (twin extent originalKind j o).index + 1 = _ := index_twin_succ hj o
  have ha : (twin extent originalKind j a).index + 1 = _ := index_twin_succ hj a
  unfold shift at ho ha
  split at ho <;> split at ha <;> omega

/-- The wrapper has a number that no twin has. -/
theorem index_twin_ne (hj : 0 < j) (o : Occurrence) :
    (twin extent originalKind j o).index ≠ j := by
  have ho : (twin extent originalKind j o).index + 1 = _ := index_twin_succ hj o
  unfold shift at ho
  split at ho <;> omega

theorem shift_add_valueSize (i : Nat) (v : Value Node) :
    shift j (i + Node.valueSize v) =
      shift j i + Node.valueSize (Node.wrapValue extent originalKind j i v) := by
  rw [Node.valueSize_wrapValue]
  unfold shift
  split <;> split <;> split <;> omega

/-! ## Fields and children of twins -/

mutual

/-- A value with the wrapped node, seen below a twin, reads like the value. -/
theorem trim_place_wrapValue (o : Occurrence) (i : Nat) :
    (v : Value Node) →
      (place (twin extent originalKind j o) (shift j i)
          (Node.wrapValue extent originalKind j i v)).trim =
        (place o i v).trim.map (shown extent originalKind j)
  | .null | .bool _ | .int _ | .float _ | .str _ | .object _ => by
    rw [Node.wrapValue]
    rfl
  | .node n => by
    rw [Node.wrapValue, place, place, Value.trim, Value.trim, Value.map, shown_inside]
  | .array vs => by
    rw [Node.wrapValue, place, place, Value.trim, Value.trim, Value.map,
      trimAll_placeAll_wrapValues o i vs]

theorem trimAll_placeAll_wrapValues (o : Occurrence) (i : Nat) :
    (vs : List (Value Node)) →
      Value.trimAll (placeAll (twin extent originalKind j o) (shift j i)
          (Node.wrapValues extent originalKind j i vs)) =
        Value.mapAll (shown extent originalKind j) (Value.trimAll (placeAll o i vs))
  | [] => rfl
  | v :: vs => by
    rw [Node.wrapValues, placeAll, placeAll, Value.trimAll, Value.trimAll, Value.mapAll,
      trim_place_wrapValue o i v, ← shift_add_valueSize,
      trimAll_placeAll_wrapValues o (i + Node.valueSize v) vs]

end

theorem trim_placeFields_wrapFields (o : Occurrence) (i : Nat) (fs : List (Field × Value Node)) :
    ((placeFields (twin extent originalKind j o) (shift j i)
        (Node.wrapFields extent originalKind j i fs)).map fun e => (e.1, e.2.trim)) =
      (placeFields o i fs).map fun e => (e.1, e.2.trim.map (shown extent originalKind j)) := by
  induction fs generalizing i with
  | nil => rfl
  | cons entry fs ih =>
    obtain ⟨f, v⟩ := entry
    rw [Node.wrapFields, placeFields, placeFields, List.map_cons, List.map_cons,
      trim_place_wrapValue, ← shift_add_valueSize, ih (i + Node.valueSize v)]

/-- The fields of a twin read like those of the node. -/
theorem readsLike_twin (hj : 0 < j) (o : Occurrence) :
    (twin extent originalKind j o).ReadsLike o (shown extent originalKind j) := by
  rw [ReadsLike, fields, index_twin_succ hj, node_twin, Node.fields_wrapBelow]
  exact trim_placeFields_wrapFields o (o.index + 1) o.node.fields

/-! ## The nodes of the tree -/

/-- The only child of the wrapper is the twin of the wrapped node. -/
theorem children_of_wrapping? {o w : Occurrence} (h : wrapping? extent originalKind j o = some w) :
    w.children = [twin extent originalKind j o] := by
  obtain ⟨p, n, rfl, rfl⟩ := exists_of_wrapping? h
  rw [twin, if_pos rfl]
  rfl

/-- A tree that is shown starts with the twin, or with the wrapper and the twin. -/
theorem preorder_shown_eq (o : Occurrence) :
    (shown extent originalKind j o).preorder =
      (wrapping? extent originalKind j o).toList ++ (twin extent originalKind j o).preorder := by
  rw [shown]
  cases hw : wrapping? extent originalKind j o with
  | none => rfl
  | some w =>
    rw [Option.getD_some, preorder_eq w, children_of_wrapping? hw, List.flatMap_singleton]
    rfl

/-- The nodes of a tree that is shown are the twins in the same order, with the wrapper before
the twin of the wrapped node. -/
theorem preorder_shown (hj : 0 < j) (o : Occurrence) :
    (shown extent originalKind j o).preorder =
      o.preorder.flatMap (wrappedAndTwin extent originalKind j) := by
  induction o using childInduction with
  | step o ih =>
    -- below the node each child is shown, and its tree is covered by the induction
    have hbelow : (o.children.map (shown extent originalKind j)).flatMap preorder =
        (o.children.flatMap preorder).flatMap (wrappedAndTwin extent originalKind j) := by
      rw [List.flatMap_map, List.flatMap_assoc]
      exact List.flatMap_congr ih
    rw [preorder_shown_eq, preorder_eq (twin extent originalKind j o),
      (readsLike_twin hj o).children, hbelow,
      preorder_eq o, List.flatMap_cons, wrappedAndTwin, List.append_assoc]
    rfl

/-! ## Above a twin -/

/-- The parent of a twin is the twin of the parent, or the wrapper. -/
theorem parent?_twin (o : Occurrence) :
    (twin extent originalKind j o).parent? =
      if (wrapping? extent originalKind j o).isSome then wrapping? extent originalKind j o
      else o.parent?.map (twin extent originalKind j) := by
  cases o with
  | root n => rfl
  | inside p i n =>
    rw [twin, wrapping?]
    by_cases h : i = j
    · rw [if_pos h, if_pos h]
      rfl
    · rw [if_neg h, if_neg h]
      rfl

/-- Above a twin there are the wrapper, if it is that of the wrapped node, the twin of the
parent and what is above that. -/
theorem ancestors_twin_inside (p : Occurrence) (i : Nat) (n : Node) :
    (twin extent originalKind j (inside p i n)).ancestors =
      (wrapping? extent originalKind j (inside p i n)).toList ++
        twin extent originalKind j p :: (twin extent originalKind j p).ancestors := by
  rw [twin, wrapping?]
  by_cases h : i = j
  · rw [if_pos h, if_pos h]
    rfl
  · rw [if_neg h, if_neg h]
    rfl

/-- What is looked for above a node and is not a wrapper is found above its twin as well. -/
theorem find?_ancestors_twin {test : Occurrence → Bool}
    (hwrapper : ∀ w, w.kind = .generic → test w = false)
    (htwin : ∀ a, test (twin extent originalKind j a) = test a) (o : Occurrence) :
    (twin extent originalKind j o).ancestors.find? test =
      (o.ancestors.find? test).map (twin extent originalKind j) := by
  induction o with
  | root n => rfl
  | inside p i n ih =>
    have hskip : (wrapping? extent originalKind j (inside p i n)).toList.find? test = none := by
      rw [List.find?_eq_none]
      intro w hw
      rw [hwrapper w (kind_of_wrapping? (Option.mem_toList.mp hw))]
      exact Bool.false_ne_true
    rw [ancestors_twin_inside, List.find?_append, hskip, Option.none_or, List.find?_cons, htwin,
      ancestors, List.find?_cons, ih]
    cases test p <;> rfl

/-- What holds for none of the wrappers holds for one of the nodes above a twin if it does for
one above the node. -/
theorem any_ancestors_twin {test' test : Occurrence → Bool}
    (hwrapper : ∀ o w, wrapping? extent originalKind j o = some w → test' w = false)
    (htwin : ∀ a, test' (twin extent originalKind j a) = test a) (o : Occurrence) :
    (twin extent originalKind j o).ancestors.any test' = o.ancestors.any test := by
  induction o with
  | root n => rfl
  | inside p i n ih =>
    have hskip : (wrapping? extent originalKind j (inside p i n)).toList.any test' = false := by
      rw [List.any_eq_false]
      intro w hw
      rw [hwrapper _ w (Option.mem_toList.mp hw)]
      exact Bool.false_ne_true
    -- the wrapper may come first; behind it there is what is above the twin of the parent
    rw [ancestors_twin_inside, List.any_append, hskip, Bool.false_or, List.any_cons, htwin, ih,
      ancestors, List.any_cons]

end

end Occurrence

end ScriptNavigation
