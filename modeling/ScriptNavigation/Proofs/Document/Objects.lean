/-
# The objects of a document and the nodes of its tree

A node is built from an object, and its children are built from other objects inside of that
one: those in the fields of a node of a known kind, and those found anywhere in a node of
another kind.  Which objects these are is said here without building a node.  A document that
can be loaded has the nodes of just these objects as its tree: the children of a node are the
nodes of the child objects, each once and in order, and a walk over the script lists one node
for each object that is reached from the top.

Main facts:

* `sizeOf_lt_of_mem_childObjects`: a child object is smaller than the object that it is in.
* `mapM_objectsIn`: the nodes in a value that is read are those of the objects in it.
* `children_ofObject`: the children of a node are the nodes of the child objects.
* `tree_follows_document`: the tree of a document in terms of its objects.
-/
import ScriptNavigation.Proofs.Document.Nesting
import ScriptNavigation.Proofs.Tree.Numbering

namespace ScriptNavigation

namespace Document

/-! ## Child objects -/

mutual

/-- The outermost objects with a kind in a value, in order: they are looked for in arrays, and if
`deep` is set, in objects without a kind as well. -/
def objectsIn (deep : Bool) : Json → List Members
  | .object ms =>
    if Members.hasKey ms "kind" then [ms]
    else if deep then objectsUnder ms
    else []
  | .array items => objectsInAll deep items
  | _ => []

/-- The outermost objects with a kind in some values, in order. -/
def objectsInAll (deep : Bool) : List Json → List Members
  | [] => []
  | v :: vs => objectsIn deep v ++ objectsInAll deep vs

/-- The outermost objects with a kind anywhere in the members of an object, in the order of its
keys; places of nodes are not searched. -/
def objectsUnder : Members → List Members
  | [] => []
  | (key, v) :: ms =>
    if Node.isPlaceKey key then objectsUnder ms else objectsIn true v ++ objectsUnder ms

end

/-- The objects with a kind that are reached through arrays from the value of a field; none, if
the object does not have the field. -/
def objectsInField (ms : Members) (f : Field) : List Members :=
  ((ms.lookup f.key).map (objectsIn false)).getD []

/-- The child objects of an object: those in the fields of its kind, or those anywhere in it if
its kind is not known. -/
def childObjects (ms : Members) : List Members :=
  match Node.knownKind? ms with
  | some kind => kind.schema.flatMap fun f => objectsInField ms f.1
  | none => objectsUnder ms

/-! ## Sizes -/

mutual

/-- An object in a value is smaller than the value. -/
theorem sizeOf_lt_of_mem_objectsIn {deep : Bool} {m : Members} :
    (v : Json) → m ∈ objectsIn deep v → sizeOf m < sizeOf v
  | .null, h | .bool _, h | .int _, h | .float _, h | .str _, h => by simp [objectsIn] at h
  | .array items, h => by
    rw [objectsIn] at h
    have hlt := sizeOf_lt_of_mem_objectsInAll items h
    rw [Value.array.sizeOf_spec]
    omega
  | .object ms, h => by
    rw [objectsIn] at h
    rw [Value.object.sizeOf_spec]
    split at h
    · rw [List.mem_singleton.mp h]
      omega
    · split at h
      · have hlt := sizeOf_lt_of_mem_objectsUnder ms h
        omega
      · cases h

theorem sizeOf_lt_of_mem_objectsInAll {deep : Bool} {m : Members} :
    (vs : List Json) → m ∈ objectsInAll deep vs → sizeOf m < sizeOf vs
  | [], h => by simp [objectsInAll] at h
  | v :: vs, h => by
    rw [objectsInAll, List.mem_append] at h
    rw [List.cons.sizeOf_spec]
    rcases h with h | h
    · have hlt := sizeOf_lt_of_mem_objectsIn v h
      omega
    · have hlt := sizeOf_lt_of_mem_objectsInAll vs h
      omega

theorem sizeOf_lt_of_mem_objectsUnder {m : Members} :
    (ms : Members) → m ∈ objectsUnder ms → sizeOf m < sizeOf ms
  | [], h => by simp [objectsUnder] at h
  | (key, v) :: ms, h => by
    rw [objectsUnder] at h
    rw [List.cons.sizeOf_spec, Prod.mk.sizeOf_spec]
    split at h
    · have hlt := sizeOf_lt_of_mem_objectsUnder ms h
      omega
    · rcases List.mem_append.mp h with h | h
      · have hlt := sizeOf_lt_of_mem_objectsIn v h
        omega
      · have hlt := sizeOf_lt_of_mem_objectsUnder ms h
        omega

end

/-- The value of a member is smaller than the object. -/
theorem sizeOf_lt_of_lookup {ms : Members} {key : String} {v : Json} (h : ms.lookup key = some v) :
    sizeOf v < sizeOf ms := by
  induction ms with
  | nil => cases h
  | cons m ms ih =>
    obtain ⟨k, w⟩ := m
    rw [List.lookup_cons] at h
    rw [List.cons.sizeOf_spec, Prod.mk.sizeOf_spec]
    cases hk : key == k with
    | true =>
      rw [hk] at h
      cases h
      omega
    | false =>
      rw [hk] at h
      have hlt := ih h
      omega

/-- A child object is smaller than the object that it is in. -/
theorem sizeOf_lt_of_mem_childObjects {ms m : Members} (h : m ∈ childObjects ms) :
    sizeOf m < sizeOf ms := by
  rw [childObjects] at h
  split at h
  · obtain ⟨f, -, hf⟩ := List.mem_flatMap.mp h
    rw [objectsInField] at hf
    cases hv : ms.lookup f.1.key with
    | none =>
      rw [hv] at hf
      cases hf
    | some v =>
      rw [hv] at hf
      exact Nat.lt_trans (sizeOf_lt_of_mem_objectsIn v hf) (sizeOf_lt_of_lookup hv)
  · exact sizeOf_lt_of_mem_objectsUnder ms h

/-- The objects that are reached from an object through child objects, each one before its child
objects and these in order. -/
def reachable (ms : Members) : List Members :=
  ms :: (childObjects ms).attach.flatMap fun m => reachable m.1
termination_by sizeOf ms
decreasing_by exact sizeOf_lt_of_mem_childObjects m.2

/-- An object comes first, and then all that is reached from its child objects in order. -/
theorem reachable_eq (ms : Members) : reachable ms = ms :: (childObjects ms).flatMap reachable := by
  rw [reachable]
  congr 1
  rw [List.flatMap_subtype (g := reachable)]
  · simp
  · intros
    rfl

/-! ## The nodes of objects -/

section Nodes

variable (c : ExtentSource) (room : Nat)

mutual

/-- The nodes in a value that is read are those of the objects in it, built with at least as much
room. -/
theorem mapM_objectsIn {deep : Bool} :
    (v : Json) → {rest : Nat} → {w : Value Node} → rest ≤ room → Node.read c deep rest v = .ok w →
      (objectsIn deep v).mapM (Node.ofObject c room) = .ok w.nodes
  | .null, _, _, _, h | .bool _, _, _, _, h | .int _, _, _, _, h | .float _, _, _, _, h
  | .str _, _, _, _, h => by
    cases h
    rfl
  | .array items, _, _, hroom, h => by
    rw [Node.read, Result.map_eq_ok] at h
    obtain ⟨ws, hws, rfl⟩ := h
    obtain ⟨inside, rfl, hws⟩ := Node.enter_eq_ok.mp hws
    rw [objectsIn, Value.nodes]
    exact mapM_objectsInAll items (Nat.le_of_succ_le hroom) hws
  | .object ms, _, _, hroom, h => by
    rw [Node.read] at h
    rw [objectsIn]
    split
    · rw [if_pos ‹_›, Result.map_eq_ok] at h
      obtain ⟨n, hn, rfl⟩ := h
      have hnode : Node.ofObject c room ms = .ok n := Node.ofObject_mono hn hroom
      rw [List.mapM_cons, hnode]
      rfl
    · rw [if_neg ‹_›] at h
      split
      · rw [if_pos ‹_›, Result.map_eq_ok] at h
        obtain ⟨ws, hws, rfl⟩ := h
        obtain ⟨inside, rfl, hws⟩ := Node.enter_eq_ok.mp hws
        rw [Value.nodes]
        exact mapM_objectsUnder ms (Nat.le_of_succ_le hroom) hws
      · rw [if_neg ‹_›] at h
        cases h
        rfl

theorem mapM_objectsInAll {deep : Bool} :
    (vs : List Json) → {rest : Nat} → {ws : List (Value Node)} → rest ≤ room →
      Node.readItems c deep rest vs = .ok ws →
      (objectsInAll deep vs).mapM (Node.ofObject c room) = .ok (Value.nodesOfAll ws)
  | [], _, _, _, h => by
    cases h
    rfl
  | v :: vs, _, _, hroom, h => by
    rw [Node.readItems, Result.bind_eq_ok] at h
    obtain ⟨first, hfirst, h⟩ := h
    obtain ⟨others, hothers, h⟩ := Result.bind_eq_ok.mp h
    cases h
    rw [objectsInAll, List.mapM_append, mapM_objectsIn v hroom hfirst,
      mapM_objectsInAll vs hroom hothers, Value.nodesOfAll]
    rfl

theorem mapM_objectsUnder :
    (ms : Members) → {rest : Nat} → {ws : List (Value Node)} → rest ≤ room →
      Node.searched (Node.readMembers c true rest ms) = .ok ws →
      (objectsUnder ms).mapM (Node.ofObject c room) = .ok (Value.nodesOfAll ws)
  | [], _, _, _, h => by
    cases h
    rfl
  | (key, v) :: ms, _, _, hroom, h => by
    rw [Node.readMembers, Node.searched] at h
    rw [objectsUnder]
    split
    · rw [if_pos ‹_›] at h
      exact mapM_objectsUnder ms hroom h
    · rw [if_neg ‹_›, Result.bind_eq_ok] at h
      obtain ⟨first, hfirst, h⟩ := h
      obtain ⟨others, hothers, h⟩ := Result.bind_eq_ok.mp h
      cases h
      rw [List.mapM_append, mapM_objectsIn v hroom hfirst, mapM_objectsUnder ms hroom hothers,
        Value.nodesOfAll]
      rfl

end

variable {c room}

/-- A field that a document leaves out holds no nodes. -/
theorem nodes_default (type : FieldType) : (type.default : Value Node).nodes = [] := by
  cases type <;> rfl

/-- The nodes in the fields of a node are those of the objects in these fields. -/
theorem mapM_objectsInFields {ms : Members} {schema : List (Field × FieldType)}
    {fs : List (Field × Value Node)} {rest : Nat} (hroom : rest ≤ room)
    (h : Node.fieldsFrom (Node.readMembers c false rest ms) schema = .ok fs) :
    (schema.flatMap fun f => objectsInField ms f.1).mapM (Node.ofObject c room) =
      .ok (fs.flatMap fun f => f.2.nodes) := by
  induction schema generalizing fs with
  | nil =>
    cases h
    rfl
  | cons f schema ih =>
    obtain ⟨f, type⟩ := f
    rw [Node.fieldsFrom, Result.bind_eq_ok] at h
    obtain ⟨v, hv, h⟩ := h
    obtain ⟨vs, hvs, h⟩ := Result.bind_eq_ok.mp h
    cases h
    have hfield : (objectsInField ms f).mapM (Node.ofObject c room) = .ok v.nodes := by
      rw [Node.lookup_readMembers] at hv
      rw [objectsInField]
      cases hvalue : ms.lookup f.key with
      | none =>
        rw [hvalue] at hv
        cases hv
        rw [nodes_default]
        rfl
      | some w =>
        rw [hvalue] at hv
        exact mapM_objectsIn c room w hroom hv
    rw [List.flatMap_cons, List.mapM_append, hfield, ih hvs, List.flatMap_cons]
    rfl

/-- The children of a node are the nodes of the child objects, each once and in order. -/
theorem children_ofObject {ms : Members} {n : Node} (h : Node.ofObject c room ms = .ok n) :
    (childObjects ms).mapM (Node.ofObject c room) = .ok n.children := by
  obtain ⟨rest, rfl, hn⟩ := Node.enter_eq_ok.mp h
  have hroom := Nat.le_succ rest
  rw [Node.ofMembers, Result.bind_eq_ok] at hn
  obtain ⟨extent, -, h⟩ := hn
  rw [childObjects]
  cases hk : Node.knownKind? ms with
  | some kind =>
    rw [hk] at h
    obtain ⟨fs, hfs, h⟩ := Result.bind_eq_ok.mp h
    cases h
    exact mapM_objectsInFields hroom hfs
  | none =>
    rw [hk] at h
    obtain ⟨found, hfound, h⟩ := Result.bind_eq_ok.mp h
    cases h
    have hchildren : (Node.mk .generic extent [(.originalKind, .str (Node.originalKind ms)),
        (.nested, .array ((Value.nodesOfAll found).map .node))]).children =
          Value.nodesOfAll found := by
      simp [Node.children, Node.fields, Value.nodes, Value.nodesOfAll_map_node]
    rw [hchildren]
    exact mapM_objectsUnder c _ ms hroom hfound

end Nodes

/-! ## The tree of a document -/

/-- An occurrence is the node of an object, built with some room for nesting. -/
def IsNodeOf (c : ExtentSource) (room : Nat) (ms : Members) (o : Occurrence) : Prop :=
  Node.ofObject c room ms = .ok o.node

section Tree

variable {c : ExtentSource} {room : Nat} {ms : Members} {o : Occurrence}

/-- The children at their places are the nodes of the child objects. -/
theorem IsNodeOf.children (h : IsNodeOf c room ms o) :
    List.Forall₂ (IsNodeOf c room) (childObjects ms) o.children := by
  have hchildren := Result.forall₂_of_mapM_eq_ok (children_ofObject h)
  rw [← o.map_node_children, List.forall₂_map_right_iff] at hchildren
  exact hchildren

/-- The nodes of a tree in document order are those of the objects that are reached. -/
theorem IsNodeOf.preorder (h : IsNodeOf c room ms o) :
    List.Forall₂ (IsNodeOf c room) (reachable ms) o.preorder := by
  induction o using Occurrence.childInduction generalizing ms with
  | step o ih =>
    have hchildren := h.children
    rw [reachable_eq, o.preorder_eq]
    refine .cons h ?_
    generalize childObjects ms = objects at hchildren
    generalize o.children = children at hchildren ih
    induction hchildren with
    | nil => exact .nil
    | @cons m p objects children hp _ ihrest =>
      rw [List.flatMap_cons, List.flatMap_cons]
      refine List.rel_append (ih p List.mem_cons_self hp) (ihrest ?_)
      exact fun q hq => ih q (List.mem_cons_of_mem p hq)

end Tree

/-- The tree of a document follows the objects of the document, however much room there is for its
nesting.  The children of the node of an object are the nodes of its child objects, each once and
in order; so the nodes of the script are, one by one and in order, those of the objects that are
reached from the top. -/
theorem tree_follows_document {d : Document} {readFrom : Option String} {room : Nat} {s : Script}
    (h : d.script readFrom room = .ok s) :
    (∀ ms n, Node.ofObject ⟨d.source, d.fileName readFrom⟩ room ms = .ok n →
        (childObjects ms).mapM (Node.ofObject ⟨d.source, d.fileName readFrom⟩ room) =
          .ok n.children) ∧
      (∀ ms, reachable ms = ms :: (childObjects ms).flatMap reachable) ∧
      List.Forall₂
        (fun ms o => IsNodeOf ⟨d.source, d.fileName readFrom⟩ room ms o ∧
          List.Forall₂ (IsNodeOf ⟨d.source, d.fileName readFrom⟩ room) (childObjects ms)
            o.children)
        (reachable d.root) s.nodes := by
  refine ⟨fun ms n hn => children_ofObject hn, reachable_eq, ?_⟩
  obtain ⟨root, hroot, h⟩ := Result.bind_eq_ok.mp h
  cases h
  have htop : IsNodeOf ⟨d.source, d.fileName readFrom⟩ room d.root (.root root) := hroot
  rw [Script.nodes_eq]
  exact htop.preorder.imp fun ms o hnode => ⟨hnode, hnode.children⟩

/-- A document with two commands in nested arrays and an object without a kind beside them; the
second command is not of a known kind and has a constant deep inside and another one in its
extent. -/
def nestedCommands : Document where
  root :=
    [("elements", .array [
        .array [.object [("kind", .str "Command")]],
        .object [("value", .object [("kind", .str "Constant")])],
        .object [
          ("extent", .object [("more", .object [("kind", .str "Constant")])]),
          ("kind", .str "RemoteCommand"),
          ("target", .object [("host", .array [.object [("kind", .str "Constant")]])])]]),
      ("kind", .str "Pipeline")]
  file := none
  source := none

theorem tree_follows_document_nestedCommands :
    ∃ s, nestedCommands.script none = .ok s ∧
      s.nodes.map Occurrence.kind = [.pipeline, .command, .generic, .constant] ∧
      List.Forall₂ (IsNodeOf ⟨none, none⟩ usualRoom) (reachable nestedCommands.root) s.nodes := by
  have hrun : (nestedCommands.script none).toOption.any (fun s =>
      s.nodes.map Occurrence.kind == [.pipeline, .command, .generic, .constant]) = true := by
    decide +kernel
  obtain ⟨s, hs, hkinds⟩ := Result.exists_of_toOption_any hrun
  obtain ⟨-, -, hnodes⟩ := tree_follows_document hs
  exact ⟨s, hs, eq_of_beq hkinds, hnodes.imp fun ms o h => h.1⟩

end Document

end ScriptNavigation
