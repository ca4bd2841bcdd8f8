/-
# Objects whose kind is not recognised

If the kind of an object is not known, its child objects are looked for under all of its keys and
also in objects without a kind, and not only in the fields of a kind.  They come in the order of
the keys then, and there may be more of them, but none is lost: the child objects that a known
kind leads to are, each as often, among those that are found without it.  An object is turned into
a node in the same way wherever it stands, so what holds of the objects holds of the nodes.

Main facts:

* `sublist_objectsIn`: a search that also looks into objects without a kind finds more.
* `subperm_fieldMembers`: the members that are read as fields are members, each read once.
* `childObjects_subperm`: the child objects of an object when its kind is taken for another one.
* `children_subperm_of_unknown`: the same for the children of the nodes that are loaded.
-/
import Mathlib.Data.List.Flatten
import Mathlib.Data.List.Perm.Subperm
import ScriptNavigation.Proofs.Document.Objects

namespace ScriptNavigation

/-! ## Fields of a kind -/

/-- No field stands under a key that says where a node is. -/
theorem Field.isPlaceKey_key (f : Field) : Node.isPlaceKey f.key = false := by
  cases f <;> rfl

/-- The fields of a kind have different keys. -/
theorem NodeKind.nodup_keys (kind : NodeKind) : (kind.schema.map fun f => f.1.key).Nodup := by
  cases kind <;> decide

namespace Document

/-! ## A deeper search -/

mutual

/-- A search that also looks into objects without a kind finds what the plain one does. -/
theorem sublist_objectsIn : (v : Json) → (objectsIn false v).Sublist (objectsIn true v)
  | .null | .bool _ | .int _ | .float _ | .str _ => .slnil
  | .array items => by
    rw [objectsIn, objectsIn]
    exact sublist_objectsInAll items
  | .object ms => by
    rw [objectsIn, objectsIn]
    split
    · exact .refl _
    · exact List.nil_sublist _

theorem sublist_objectsInAll :
    (vs : List Json) → (objectsInAll false vs).Sublist (objectsInAll true vs)
  | [] => .slnil
  | v :: vs => by
    rw [objectsInAll, objectsInAll]
    exact (sublist_objectsIn v).append (sublist_objectsInAll vs)

end

/-- The objects that are found under a member; none, if it says where a node is. -/
def objectsUnderMember (m : String × Json) : List Members :=
  if Node.isPlaceKey m.1 then [] else objectsIn true m.2

/-- An object is searched member by member. -/
theorem objectsUnder_eq_flatMap (ms : Members) :
    objectsUnder ms = ms.flatMap objectsUnderMember := by
  induction ms with
  | nil => rfl
  | cons m ms ih =>
    obtain ⟨key, v⟩ := m
    rw [objectsUnder, List.flatMap_cons, objectsUnderMember, ih]
    split <;> rfl

/-! ## Members that are read as fields -/

/-- The members of an object that are read as the fields of a schema, in the order of the
schema. -/
def fieldMembers (schema : List (Field × FieldType)) (ms : Members) : Members :=
  schema.filterMap fun f => (ms.lookup f.1.key).map fun v => (f.1.key, v)

variable {schema : List (Field × FieldType)} {ms : Members}

theorem mem_fieldMembers {m : String × Json} :
    m ∈ fieldMembers schema ms ↔
      ∃ f ∈ schema, f.1.key = m.1 ∧ ms.lookup f.1.key = some m.2 := by
  rw [fieldMembers, List.mem_filterMap]
  refine exists_congr fun f => and_congr_right fun _ => ?_
  rw [Option.map_eq_some_iff]
  constructor
  · rintro ⟨v, hv, rfl⟩
    exact ⟨rfl, hv⟩
  · rintro ⟨hkey, hv⟩
    exact ⟨m.2, hv, Prod.ext hkey rfl⟩

/-- The members that are read as fields are members of the object, each of them read once. -/
theorem subperm_fieldMembers (h : (schema.map fun f => f.1.key).Nodup) (ms : Members) :
    (fieldMembers schema ms).Subperm ms := by
  apply List.subperm_of_subset
  · rw [fieldMembers, List.Nodup, List.pairwise_filterMap]
    refine (List.pairwise_map.mp h).imp ?_
    intro f g hne m hm m' hm' heq
    obtain ⟨v, -, rfl⟩ := Option.map_eq_some_iff.mp hm
    obtain ⟨v', -, rfl⟩ := Option.map_eq_some_iff.mp hm'
    exact hne (congrArg Prod.fst heq)
  · intro m hm
    obtain ⟨f, -, hkey, hv⟩ := mem_fieldMembers.mp hm
    obtain ⟨before, after, rfl, -⟩ := List.lookup_eq_some_iff.mp hv
    rw [hkey]
    exact List.mem_append_right before List.mem_cons_self

/-- The objects in the fields of a schema are those of the members that are read as fields. -/
theorem flatMap_objectsInField :
    (schema.flatMap fun f => objectsInField ms f.1) =
      (fieldMembers schema ms).flatMap fun m => objectsIn false m.2 := by
  induction schema with
  | nil => rfl
  | cons f schema ih =>
    rw [List.flatMap_cons, ih, fieldMembers, fieldMembers, List.filterMap_cons, objectsInField]
    cases ms.lookup f.1.key <;> rfl

/-- The objects in the fields of a kind are, each as often, among those found anywhere. -/
theorem objectsInFields_subperm (kind : NodeKind) (ms : Members) :
    (kind.schema.flatMap fun f => objectsInField ms f.1).Subperm (objectsUnder ms) := by
  have hdeeper : ∀ m ∈ fieldMembers kind.schema ms,
      (objectsIn false m.2).Sublist (objectsUnderMember m) := by
    intro m hm
    obtain ⟨f, -, hkey, -⟩ := mem_fieldMembers.mp hm
    rw [objectsUnderMember, ← hkey, f.1.isPlaceKey_key]
    exact sublist_objectsIn m.2
  obtain ⟨read, hperm, hread⟩ := subperm_fieldMembers kind.nodup_keys ms
  rw [flatMap_objectsInField, objectsUnder_eq_flatMap]
  have hfields : ((fieldMembers kind.schema ms).flatMap objectsUnderMember).Subperm
      (ms.flatMap objectsUnderMember) :=
    ⟨read.flatMap objectsUnderMember, hperm.flatMap_right _, hread.flatMap _⟩
  exact (List.Sublist.flatMap_right _ hdeeper).subperm.trans hfields

/-! ## Another kind -/

variable {kind : NodeKind} {name : String}

/-- A known kind is the name of one. -/
theorem exists_name_of_knownKind? (h : Node.knownKind? ms = some kind) :
    ∃ old, ms.lookup "kind" = some (.str old) := by
  unfold Node.knownKind? at h
  split at h
  · exact ⟨_, ‹_›⟩
  · cases h

theorem lookup_insert_self (ms : Members) (key : String) (v : Json) :
    (Members.insert ms key v).lookup key = some v := by
  induction ms with
  | nil => simp [Members.insert]
  | cons m ms ih =>
    obtain ⟨k, w⟩ := m
    rw [Members.insert]
    split
    · simp [‹k = key›]
    · rw [List.lookup_cons, beq_eq_false_iff_ne.mpr (Ne.symm ‹_›)]
      exact ih

/-- A name of no kind makes the kind of an object unknown. -/
theorem knownKind?_insert (hname : NodeKind.ofName? name = none) (ms : Members) :
    Node.knownKind? (Members.insert ms "kind" (.str name)) = none := by
  rw [Node.knownKind?, lookup_insert_self]
  dsimp only
  rw [hname]
  rfl

/-- A name holds no objects, so a search through all members does not see it replaced. -/
theorem objectsUnder_insert {key old : String} (h : ms.lookup key = some (.str old)) :
    objectsUnder (Members.insert ms key (.str name)) = objectsUnder ms := by
  induction ms with
  | nil => cases h
  | cons m ms ih =>
    obtain ⟨k, v⟩ := m
    rw [List.lookup_cons] at h
    rw [Members.insert]
    by_cases hk : k = key
    · subst hk
      rw [beq_self_eq_true] at h
      obtain rfl : v = .str old := Option.some_inj.mp h
      rw [if_pos rfl, objectsUnder, objectsUnder]
      simp only [objectsIn]
    · rw [beq_eq_false_iff_ne.mpr (Ne.symm hk)] at h
      rw [if_neg hk, objectsUnder, objectsUnder, ih h]

/-- The child objects of an object of a known kind are, each as often, among those that it has
when its kind is replaced by an unknown one. -/
theorem childObjects_subperm (hkind : Node.knownKind? ms = some kind)
    (hname : NodeKind.ofName? name = none) :
    (childObjects ms).Subperm (childObjects (Members.insert ms "kind" (.str name))) := by
  obtain ⟨old, hold⟩ := exists_name_of_knownKind? hkind
  rw [childObjects, childObjects, hkind, knownKind?_insert hname]
  dsimp only
  rw [objectsUnder_insert hold]
  exact objectsInFields_subperm kind ms

/-! ## The nodes -/

/-- Not recognising a kind hides nothing: the children of a node of a known kind are, each as
often, among the children of the node that is loaded when the kind is replaced by the name of no
kind, however much room for nesting there was for each of the two. -/
theorem children_subperm_of_unknown {c : ExtentSource} {room room' : Nat} {n n' : Node}
    (hkind : Node.knownKind? ms = some kind) (hname : NodeKind.ofName? name = none)
    (hn : Node.ofObject c room ms = .ok n)
    (hn' : Node.ofObject c room' (Members.insert ms "kind" (.str name)) = .ok n') :
    n.children.Subperm n'.children :=
  Result.mapM_subperm (childObjects_subperm hkind hname)
    (children_ofObject (Node.ofObject_mono hn (Nat.le_max_left room room')))
    (children_ofObject (Node.ofObject_mono hn' (Nat.le_max_right room room')))

/-- The object of an assignment that has its right side in front of its left side, and a string
in an object without a kind that an assignment has no field for. -/
def annotatedAssignment : Members :=
  [("right", .object [("kind", .str "Constant")]),
    ("kind", .str "Assignment"),
    ("left", .object [("kind", .str "VariableExpression")]),
    ("note", .array [.object [("text", .object [("kind", .str "StringConstant")])]])]

/-- Taken for an unknown kind, the assignment has its two sides in another order, and the string
as well. -/
theorem children_subperm_of_unknown_annotated :
    ∃ n n', Node.ofObject ⟨none, none⟩ usualRoom annotatedAssignment = .ok n ∧
      Node.ofObject ⟨none, none⟩ usualRoom
          (Members.insert annotatedAssignment "kind" (.str "SharedAssignment")) = .ok n' ∧
      n.children.map Node.kind = [.variableExpression, .constant] ∧
      n'.children.map Node.kind = [.constant, .variableExpression, .stringConstant] ∧
      n.children.Subperm n'.children := by
  have hknown : (Node.ofObject ⟨none, none⟩ usualRoom annotatedAssignment).toOption.any (fun n =>
      n.children.map Node.kind == [.variableExpression, .constant]) = true := by decide +kernel
  have hunknown : (Node.ofObject ⟨none, none⟩ usualRoom
      (Members.insert annotatedAssignment "kind" (.str "SharedAssignment"))).toOption.any (fun n =>
        n.children.map Node.kind == [.constant, .variableExpression, .stringConstant]) = true := by
    decide +kernel
  obtain ⟨n, hn, hkinds⟩ := Result.exists_of_toOption_any hknown
  obtain ⟨n', hn', hkinds'⟩ := Result.exists_of_toOption_any hunknown
  have hassignment : Node.knownKind? annotatedAssignment = some .assignment := rfl
  exact ⟨n, n', hn, hn', eq_of_beq hkinds, eq_of_beq hkinds',
    children_subperm_of_unknown hassignment rfl hn hn'⟩

end Document

end ScriptNavigation
