/-
# Well-typed trees

A document may store any value in any field.  A tree is well typed when every node has the
fields of its kind and each of them holds a value of its declared type: a list of nodes
where a list of nodes is declared, a node or nothing where one node is declared, and so on.
Only the kinds of the nodes matter for this, so the same tests serve a stored node and a
node that is seen at its place.

Main facts:

* `admits_default`: the value of a field that a document leaves out has the declared type.
* `admits_place`: seeing a value at its place does not change which types it has.
* `field_of_isTyped`: a field of a well-typed node can be read and has its declared type.
-/
import ScriptNavigation.Tree.Datum
import ScriptNavigation.Tree.Script

namespace ScriptNavigation

/-! ## Values of a declared type -/

namespace Value

variable {ν : Type}

/-- Whether a value is a node of the kind given; without a kind any node will do. -/
def isNodeIn (kindOf : ν → NodeKind) (kind : Option NodeKind) : Value ν → Bool
  | node n => kind.all fun k => k == kindOf n
  | _ => false

/-- Whether a value is a pair of nodes, the second one of the kind given. -/
def isNodePair (kindOf : ν → NodeKind) (second : Option NodeKind) : Value ν → Bool
  | array [a, b] => a.isNodeIn kindOf none && b.isNodeIn kindOf second
  | _ => false

end Value

namespace FieldType

variable {ν : Type}

/-- Whether a value has a declared type. -/
def admits (kindOf : ν → NodeKind) : FieldType → Value ν → Bool
  | text _, .str _ => true
  | flag, .bool _ => true
  | anything, _ => true
  | child _, .null => true
  | child kind, .node n => Value.isNodeIn kindOf kind (.node n)
  | children kind, .array vs => vs.all (Value.isNodeIn kindOf kind)
  | pairs second, .array vs => vs.all (Value.isNodePair kindOf second)
  | _, _ => false

/-- The value of a field that a document leaves out has the declared type. -/
@[simp] theorem admits_default (kindOf : ν → NodeKind) (type : FieldType) :
    type.admits kindOf type.default = true := by
  cases type <;> rfl

end FieldType

/-! ## Fields of a schema -/

/-- Whether fields are those of a schema, each with a value of its declared type. -/
def fieldsTyped {ν : Type} (kindOf : ν → NodeKind) :
    List (Field × FieldType) → List (Field × Value ν) → Bool
  | [], [] => true
  | (f, type) :: schema, (g, v) :: values =>
    f == g && type.admits kindOf v && fieldsTyped kindOf schema values
  | _, _ => false

/-- A field of a schema has a value, and the value has the declared type. -/
theorem lookup_of_fieldsTyped {ν : Type} {kindOf : ν → NodeKind}
    {schema : List (Field × FieldType)} {values : List (Field × Value ν)} {f : Field}
    {type : FieldType} (h : fieldsTyped kindOf schema values = true)
    (hf : schema.lookup f = some type) :
    ∃ v, values.lookup f = some v ∧ type.admits kindOf v = true := by
  induction schema generalizing values with
  | nil =>
    rw [List.lookup_nil] at hf
    cases hf
  | cons entry schema ih =>
    obtain ⟨g, t⟩ := entry
    cases values with
    | nil => exact absurd h Bool.false_ne_true
    | cons value values =>
      obtain ⟨g', v⟩ := value
      rw [fieldsTyped, Bool.and_eq_true, Bool.and_eq_true, beq_iff_eq] at h
      obtain ⟨⟨rfl, hv⟩, hrest⟩ := h
      rw [List.lookup_cons] at hf
      rw [List.lookup_cons]
      cases hfg : f == g with
      | true =>
        rw [hfg] at hf
        cases hf
        exact ⟨v, rfl, hv⟩
      | false =>
        rw [hfg] at hf
        exact ih hrest hf

/-! ## Nodes and scripts -/

namespace Node

/-- Whether a node has the fields of its kind with values of their declared types. -/
def isTyped (n : Node) : Bool := fieldsTyped Node.kind n.kind.schema n.fields

end Node

namespace Script

/-- A script is well typed when each of its nodes is. -/
def WellTyped (s : Script) : Prop := ∀ o ∈ s.top.preorder, o.node.isTyped = true

instance (s : Script) : Decidable s.WellTyped :=
  inferInstanceAs (Decidable (∀ o ∈ s.top.preorder, o.node.isTyped = true))

end Script

/-! ## Values at their places -/

namespace Occurrence

/-- Seeing a value at its place does not change whether it is a node of a kind. -/
theorem isNodeIn_place (o : Occurrence) (i : Nat) (kind : Option NodeKind) (v : Value Node) :
    (place o i v).isNodeIn Occurrence.kind kind = v.isNodeIn Node.kind kind := by
  cases v <;> rfl

/-- Seeing a value at its place does not change whether it is a pair of nodes. -/
theorem isNodePair_place (o : Occurrence) (i : Nat) (second : Option NodeKind) (v : Value Node) :
    (place o i v).isNodePair Occurrence.kind second = v.isNodePair Node.kind second := by
  match v with
  | .array [a, b] =>
    rw [place, placeAll, placeAll, placeAll, Value.isNodePair, Value.isNodePair, isNodeIn_place,
      isNodeIn_place]
  | .array [] | .array [_] | .array (_ :: _ :: _ :: _) => rfl
  | .null | .bool _ | .int _ | .float _ | .str _ | .object _ | .node _ => rfl

/-- A test that does not see the place of a value does not see it in a list either. -/
theorem all_placeAll (o : Occurrence) {test : Datum → Bool} {test' : Value Node → Bool}
    (h : ∀ i v, test (place o i v) = test' v) (i : Nat) (vs : List (Value Node)) :
    (placeAll o i vs).all test = vs.all test' := by
  induction vs generalizing i with
  | nil => rfl
  | cons v vs ih => rw [placeAll, List.all_cons, List.all_cons, h, ih]

/-- Seeing a value at its place does not change which types it has. -/
theorem admits_place (o : Occurrence) (i : Nat) (type : FieldType) (v : Value Node) :
    type.admits Occurrence.kind (place o i v) = type.admits Node.kind v := by
  match type, v with
  | .children kind, .array vs =>
    exact all_placeAll o (fun i v => isNodeIn_place o i kind v) i vs
  | .pairs second, .array vs =>
    exact all_placeAll o (fun i v => isNodePair_place o i second v) i vs
  | .text _, v | .flag, v | .anything, v | .child _, v => cases v <;> rfl
  | .children _, .null | .children _, .bool _ | .children _, .int _ | .children _, .float _
  | .children _, .str _ | .children _, .object _ | .children _, .node _ => rfl
  | .pairs _, .null | .pairs _, .bool _ | .pairs _, .int _ | .pairs _, .float _
  | .pairs _, .str _ | .pairs _, .object _ | .pairs _, .node _ => rfl

/-- Seeing fields at their place does not change whether they are those of a schema. -/
theorem fieldsTyped_placeFields (o : Occurrence) (i : Nat) (schema : List (Field × FieldType))
    (values : List (Field × Value Node)) :
    fieldsTyped Occurrence.kind schema (placeFields o i values) =
      fieldsTyped Node.kind schema values := by
  induction schema generalizing i values with
  | nil => cases values <;> rfl
  | cons entry schema ih =>
    cases values with
    | nil => rfl
    | cons value values =>
      rw [placeFields, fieldsTyped, fieldsTyped, admits_place, ih]

/-- A field of a well-typed node can be read and has its declared type. -/
theorem field_of_isTyped {o : Occurrence} {f : Field} {type : FieldType}
    (h : o.node.isTyped = true) (hf : o.kind.schema.lookup f = some type) :
    ∃ d, o.field f = .ok d ∧ type.admits Occurrence.kind d = true := by
  have hplaced : fieldsTyped Occurrence.kind o.kind.schema o.fields = true := by
    rw [fields, fieldsTyped_placeFields]
    exact h
  obtain ⟨d, hd, htype⟩ := lookup_of_fieldsTyped hplaced hf
  refine ⟨d, ?_, htype⟩
  rw [field, field?, hd]

end Occurrence

end ScriptNavigation
