/-
# Fields of well-typed nodes

In a well-typed script a field holds what its declared type says, so it can be read as that:
as a text, as a flag, as a node that may be missing, as a list of nodes or as a list of
pairs.  Each reading is a total function on occurrences; the value of the field is then the
value made from its reading.

Main facts:

* `StandsIn.field_text` and its companions: a field of a declared type holds its reading.
* `StandsIn.childIn`, `StandsIn.of_mem_childrenIn`, `StandsIn.of_mem_pairsIn`: the nodes that
  are read from a field stand in the same script.
* `StandsIn.kind_of_childIn`, `StandsIn.kind_of_mem_childrenIn`: they have the kind declared.
* `StandsIn.children_eq`: the children field by field.
* `Greeter.wellTyped_script`: a small script is well typed.
-/
import ScriptNavigation.Proofs.Tree.Numbering
import ScriptNavigation.Proofs.Tree.Sample
import ScriptNavigation.Tree.Typed

namespace ScriptNavigation

/-! ## Fields of a schema -/

/-- A value among the fields of a schema has the type that the schema declares for it. -/
theorem exists_type_of_lookup {ν : Type} {kindOf : ν → NodeKind}
    {schema : List (Field × FieldType)} {values : List (Field × Value ν)} {f : Field}
    {v : Value ν} (h : fieldsTyped kindOf schema values = true)
    (hf : values.lookup f = some v) :
    ∃ type, schema.lookup f = some type ∧ type.admits kindOf v = true := by
  induction schema generalizing values with
  | nil =>
    cases values with
    | nil => cases hf
    | cons value values => exact absurd h Bool.false_ne_true
  | cons entry schema ih =>
    obtain ⟨g, type⟩ := entry
    cases values with
    | nil => exact absurd h Bool.false_ne_true
    | cons value values =>
      obtain ⟨g', w⟩ := value
      rw [fieldsTyped, Bool.and_eq_true, Bool.and_eq_true, beq_iff_eq] at h
      obtain ⟨⟨rfl, hw⟩, hrest⟩ := h
      rw [List.lookup_cons] at hf
      rw [List.lookup_cons]
      cases hfg : f == g with
      | true =>
        rw [hfg] at hf
        cases hf
        exact ⟨type, rfl, hw⟩
      | false =>
        rw [hfg] at hf
        exact ih hrest hf

/-- Fields that are those of a schema have its names, in order. -/
theorem map_fst_of_fieldsTyped {ν : Type} {kindOf : ν → NodeKind}
    {schema : List (Field × FieldType)} {values : List (Field × Value ν)}
    (h : fieldsTyped kindOf schema values = true) :
    values.map Prod.fst = schema.map Prod.fst := by
  induction schema generalizing values with
  | nil =>
    cases values with
    | nil => rfl
    | cons value values => cases h
  | cons entry schema ih =>
    cases values with
    | nil => cases h
    | cons value values =>
      rw [fieldsTyped, Bool.and_eq_true, Bool.and_eq_true, beq_iff_eq] at h
      rw [List.map_cons, List.map_cons, ih h.2, h.1.1]

/-! ## Occurrences of a well-typed script -/

namespace Occurrence

/-- An occurrence stands in a script that is well typed. -/
structure StandsIn (o : Occurrence) (s : Script) : Prop where
  wellTyped : s.WellTyped
  mem : o ∈ s.top.preorder

namespace StandsIn

variable {s : Script} {o c a : Occurrence}

theorem of_mem_nodes (hs : s.WellTyped) (ho : o ∈ s.nodes) : o.StandsIn s :=
  ⟨hs, s.nodes_eq ▸ ho⟩

theorem mem_nodes (ho : o.StandsIn s) : o ∈ s.nodes := s.nodes_eq ▸ ho.mem

theorem isTyped (ho : o.StandsIn s) : o.node.isTyped = true := ho.wellTyped o ho.mem

/-- The children of a node of a script stand in it. -/
theorem child (ho : o.StandsIn s) (hc : c ∈ o.children) : c.StandsIn s :=
  ⟨ho.wellTyped, mem_preorder_of_child ho.mem hc⟩

/-- What is above a node of a script stands in it. -/
theorem ancestor (ho : o.StandsIn s) (ha : a ∈ o.ancestors) : a.StandsIn s :=
  ⟨ho.wellTyped, mem_preorder_of_ancestor ho.mem ha⟩

end StandsIn

/-! ## Readings -/

/-- The text in a field, and the empty text where there is none. -/
def textIn (o : Occurrence) (f : Field) : String :=
  ((o.field? f).bind Value.str?).getD ""

/-- The flag in a field, not set where there is none. -/
def flagIn (o : Occurrence) (f : Field) : Bool :=
  match o.field? f with
  | some (.bool b) => b
  | _ => false

/-- The node in a field, if there is one. -/
def childIn? (o : Occurrence) (f : Field) : Option Occurrence :=
  (o.field? f).bind Value.node?

/-- The nodes in a field, in order. -/
def childrenIn (o : Occurrence) (f : Field) : List Occurrence :=
  ((o.field? f).map Value.nodes).getD []

end Occurrence

namespace Datum

/-- The two nodes that a value is the pair of. -/
def pair? : Datum → Option (Occurrence × Occurrence)
  | .array [.node a, .node b] => some (a, b)
  | _ => none

/-- The pairs of nodes that a value is the list of. -/
def pairs : Datum → List (Occurrence × Occurrence)
  | .array vs => vs.filterMap pair?
  | _ => []

/-- The value of a field for one node: the node, or `null` when it is missing. -/
def ofChild : Option Occurrence → Datum
  | none => .null
  | some o => .node o

/-- The value of a field for several nodes. -/
def ofChildren (os : List Occurrence) : Datum := .array (os.map .node)

/-- The value for a pair of nodes. -/
def ofPair (p : Occurrence × Occurrence) : Datum := .array [.node p.1, .node p.2]

/-- The value of a field for several pairs of nodes. -/
def ofPairs (ps : List (Occurrence × Occurrence)) : Datum := .array (ps.map ofPair)

@[simp] theorem ofChild_some (o : Occurrence) : ofChild (some o) = .node o := rfl

@[simp] theorem isNull_ofChild (c : Option Occurrence) : (ofChild c).isNull = c.isNone := by
  cases c <;> rfl

@[simp] theorem nodeOf?_ofChild (k : NodeKind) (c : Option Occurrence) :
    nodeOf? k (ofChild c) = c.filter fun o => o.kind == k := by
  cases c <;> rfl

@[simp] theorem isNodeOf_ofChild (k : NodeKind) (c : Option Occurrence) :
    isNodeOf k (ofChild c) = c.any fun o => o.kind == k := by
  cases c with
  | none => rfl
  | some o =>
    rw [isNodeOf, nodeOf?_ofChild, Option.any_some, Option.filter_some]
    cases o.kind == k <;> rfl

@[simp] theorem items_ofChildren (os : List Occurrence) :
    Value.items (ofChildren os) = .ok (os.map .node) := rfl

@[simp] theorem length_ofChildren (os : List Occurrence) :
    Value.length (ofChildren os) = .ok os.length :=
  congrArg Except.ok (List.length_map Value.node)

/-- The first of several nodes, if there is one. -/
@[simp] theorem first_ofChildren (os : List Occurrence) :
    Value.first (ofChildren os) = .ok (ofChild os.head?) := by
  cases os <;> rfl

/-- A value that is a node of a kind is that node. -/
theorem exists_node_of_isNodeIn {kind : Option NodeKind} {d : Datum}
    (h : d.isNodeIn Occurrence.kind kind = true) :
    ∃ o, d = .node o ∧ ∀ k, kind = some k → o.kind = k := by
  cases d with
  | node o =>
    refine ⟨o, rfl, ?_⟩
    rintro k rfl
    rw [Value.isNodeIn, Option.all_some, beq_iff_eq] at h
    exact h.symm
  | null | bool | int | float | str | array | object => exact absurd h Bool.false_ne_true

/-- A list whose items are nodes of a kind is the list of its nodes. -/
theorem exists_nodes_of_all {kind : Option NodeKind} {vs : List Datum}
    (h : vs.all (Value.isNodeIn Occurrence.kind kind) = true) :
    ∃ os : List Occurrence, vs = os.map .node ∧ ∀ o ∈ os, ∀ k, kind = some k → o.kind = k := by
  induction vs with
  | nil => exact ⟨[], rfl, by simp⟩
  | cons v vs ih =>
    rw [List.all_cons, Bool.and_eq_true] at h
    obtain ⟨o, rfl, ho⟩ := exists_node_of_isNodeIn h.1
    obtain ⟨os, rfl, hos⟩ := ih h.2
    refine ⟨o :: os, rfl, ?_⟩
    intro p hp
    rcases List.mem_cons.mp hp with rfl | hp
    · exact ho
    · exact hos p hp

/-- A value that is a pair of nodes is made from them. -/
theorem exists_pair_of_isNodePair {second : Option NodeKind} {d : Datum}
    (h : d.isNodePair Occurrence.kind second = true) : ∃ p, d = ofPair p := by
  match d with
  | .array [a, b] =>
    rw [Value.isNodePair, Bool.and_eq_true] at h
    obtain ⟨o, rfl, -⟩ := exists_node_of_isNodeIn h.1
    obtain ⟨p, rfl, -⟩ := exists_node_of_isNodeIn h.2
    exact ⟨(o, p), rfl⟩
  | .array [] | .array [_] | .array (_ :: _ :: _ :: _) => exact absurd h Bool.false_ne_true
  | .null | .bool _ | .int _ | .float _ | .str _ | .object _ | .node _ =>
    exact absurd h Bool.false_ne_true

/-- A list whose items are pairs of nodes is made from them. -/
theorem exists_pairs_of_all {second : Option NodeKind} {vs : List Datum}
    (h : vs.all (Value.isNodePair Occurrence.kind second) = true) :
    ∃ ps : List (Occurrence × Occurrence), vs = ps.map ofPair := by
  induction vs with
  | nil => exact ⟨[], rfl⟩
  | cons v vs ih =>
    rw [List.all_cons, Bool.and_eq_true] at h
    obtain ⟨p, rfl⟩ := exists_pair_of_isNodePair h.1
    obtain ⟨ps, rfl⟩ := ih h.2
    exact ⟨p :: ps, rfl⟩

theorem pairs_ofPairs (ps : List (Occurrence × Occurrence)) : pairs (ofPairs ps) = ps := by
  rw [ofPairs, pairs, List.filterMap_map]
  exact List.filterMap_some

/-- The nodes of the pairs that a value is the list of are nodes of the value. -/
theorem mem_nodes_of_mem_pairs {d : Datum} {p : Occurrence × Occurrence} (h : p ∈ pairs d) :
    p.1 ∈ d.nodes ∧ p.2 ∈ d.nodes := by
  cases d with
  | array vs =>
    obtain ⟨v, hv, hpair⟩ := List.mem_filterMap.mp h
    have hnodes : v.nodes = [p.1, p.2] := by
      unfold pair? at hpair
      split at hpair
      · cases hpair
        rfl
      · cases hpair
    rw [Value.nodes, Value.nodesOfAll_eq_flatMap, List.mem_flatMap, List.mem_flatMap]
    exact ⟨⟨v, hv, by simp [hnodes]⟩, ⟨v, hv, by simp [hnodes]⟩⟩
  | null | bool | int | float | str | object | node => exact absurd h List.not_mem_nil

end Datum

namespace Occurrence

/-- The pairs of nodes in a field, in order. -/
def pairsIn (o : Occurrence) (f : Field) : List (Occurrence × Occurrence) :=
  ((o.field? f).map Datum.pairs).getD []

/-! ## What a field holds -/

theorem field?_of_field {o : Occurrence} {f : Field} {d : Datum} (h : o.field f = .ok d) :
    o.field? f = some d := by
  unfold field at h
  split at h
  · rename_i e he
    cases h
    exact he
  · cases h

/-- The nodes in a field are children. -/
theorem mem_children_of_field? {o c : Occurrence} {f : Field} {d : Datum}
    (h : o.field? f = some d) (hc : c ∈ d.nodes) : c ∈ o.children := by
  rw [field?, List.lookup_eq_some_iff] at h
  obtain ⟨before, after, hfields, -⟩ := h
  rw [children, List.mem_flatMap]
  exact ⟨(f, d), by simp [hfields], hc⟩

theorem mem_children_of_childIn? {o c : Occurrence} {f : Field} (h : o.childIn? f = some c) :
    c ∈ o.children := by
  obtain ⟨d, hd, hdc⟩ := Option.bind_eq_some_iff.mp h
  cases d with
  | node p =>
    cases hdc
    exact mem_children_of_field? hd (by simp [Value.nodes])
  | null | bool | int | float | str | array | object => cases hdc

theorem mem_children_of_childrenIn {o c : Occurrence} {f : Field} (h : c ∈ o.childrenIn f) :
    c ∈ o.children := by
  unfold childrenIn at h
  cases hd : o.field? f with
  | none => simp [hd] at h
  | some d =>
    rw [hd] at h
    exact mem_children_of_field? hd h

/-- A node in a field is one of the nodes in it. -/
theorem mem_childrenIn_of_childIn? {o c : Occurrence} {f : Field} (h : o.childIn? f = some c) :
    c ∈ o.childrenIn f := by
  obtain ⟨d, hd, hdc⟩ := Option.bind_eq_some_iff.mp h
  rw [childrenIn, hd, Option.map_some, Option.getD_some]
  cases d with
  | node p =>
    cases hdc
    exact List.mem_singleton_self c
  | null | bool | int | float | str | array | object => cases hdc

/-- The nodes of the pairs in a field are nodes in it. -/
theorem mem_childrenIn_of_mem_pairsIn {o : Occurrence} {f : Field} {p : Occurrence × Occurrence}
    (h : p ∈ o.pairsIn f) : p.1 ∈ o.childrenIn f ∧ p.2 ∈ o.childrenIn f := by
  unfold pairsIn at h
  unfold childrenIn
  cases hd : o.field? f with
  | none => simp [hd] at h
  | some d =>
    rw [hd, Option.map_some, Option.getD_some] at h
    rw [Option.map_some, Option.getD_some]
    exact Datum.mem_nodes_of_mem_pairs h

/-- A field of a well-typed node is one of its kind and has its declared type. -/
theorem exists_type_of_field? {o : Occurrence} {f : Field} {d : Datum}
    (ho : o.node.isTyped = true) (h : o.field? f = some d) :
    ∃ type, o.kind.schema.lookup f = some type ∧ type.admits Occurrence.kind d = true := by
  apply exists_type_of_lookup _ h
  rw [fields, fieldsTyped_placeFields]
  exact ho

namespace StandsIn

variable {s : Script} {o c : Occurrence} {k : NodeKind} {f : Field}

/-- A field of a node of a kind holds a value of the type that the kind declares for it. -/
theorem field_admits (ho : o.StandsIn s) (hk : o.kind = k) {type : FieldType}
    (hf : k.schema.lookup f = some type) :
    ∃ d, o.field f = .ok d ∧ type.admits Occurrence.kind d = true :=
  field_of_isTyped ho.isTyped (hk ▸ hf)

/-- A field that is declared as a text holds the text read from it. -/
theorem field_text (ho : o.StandsIn s) (hk : o.kind = k) {t : String}
    (hf : k.schema.lookup f = some (.text t)) : o.field f = .ok (.str (o.textIn f)) := by
  obtain ⟨d, hd, htype⟩ := ho.field_admits hk hf
  cases d with
  | str t => rw [hd, textIn, field?_of_field hd, Option.bind_some, Value.str?, Option.getD_some]
  | null | bool | int | float | array | object | node => exact absurd htype Bool.false_ne_true

/-- A field that is declared as a flag holds the flag read from it. -/
theorem field_flag (ho : o.StandsIn s) (hk : o.kind = k)
    (hf : k.schema.lookup f = some .flag) : o.field f = .ok (.bool (o.flagIn f)) := by
  obtain ⟨d, hd, htype⟩ := ho.field_admits hk hf
  cases d with
  | bool b => rw [hd, flagIn, field?_of_field hd]
  | null | int | float | str | array | object | node => exact absurd htype Bool.false_ne_true

/-- A field that is declared as a node holds the node read from it. -/
theorem field_child (ho : o.StandsIn s) (hk : o.kind = k) {kind : Option NodeKind}
    (hf : k.schema.lookup f = some (.child kind)) :
    o.field f = .ok (Datum.ofChild (o.childIn? f)) := by
  obtain ⟨d, hd, htype⟩ := ho.field_admits hk hf
  cases d with
  | null | node => rw [hd, childIn?, field?_of_field hd]; rfl
  | bool | int | float | str | array | object => exact absurd htype Bool.false_ne_true

/-- The node in a field has the kind that is declared for it. -/
theorem kind_of_childIn (ho : o.StandsIn s) (hk : o.kind = k) {kind : NodeKind}
    (hf : k.schema.lookup f = some (.child (some kind))) (hc : o.childIn? f = some c) :
    c.kind = kind := by
  obtain ⟨d, hd, htype⟩ := ho.field_admits hk hf
  rw [childIn?, field?_of_field hd, Option.bind_some] at hc
  cases d with
  | node p =>
    cases hc
    rw [FieldType.admits, Value.isNodeIn, Option.all_some, beq_iff_eq] at htype
    exact htype.symm
  | null | bool | int | float | str | array | object => cases hc

/-- What a field that is declared as a list of nodes holds, and what is read from it. -/
theorem exists_children (ho : o.StandsIn s) (hk : o.kind = k) {kind : Option NodeKind}
    (hf : k.schema.lookup f = some (.children kind)) :
    o.field f = .ok (Datum.ofChildren (o.childrenIn f)) ∧
      ∀ c ∈ o.childrenIn f, ∀ k', kind = some k' → c.kind = k' := by
  obtain ⟨d, hd, htype⟩ := ho.field_admits hk hf
  cases d with
  | array vs =>
    obtain ⟨os, rfl, hos⟩ := Datum.exists_nodes_of_all htype
    have hread : o.childrenIn f = os := by
      rw [childrenIn, field?_of_field hd, Option.map_some, Option.getD_some, Value.nodes,
        Value.nodesOfAll_map_node]
    rw [hread, hd]
    exact ⟨rfl, hos⟩
  | null | bool | int | float | str | object | node => exact absurd htype Bool.false_ne_true

/-- A field that is declared as a list of nodes holds the nodes read from it. -/
theorem field_children (ho : o.StandsIn s) (hk : o.kind = k) {kind : Option NodeKind}
    (hf : k.schema.lookup f = some (.children kind)) :
    o.field f = .ok (Datum.ofChildren (o.childrenIn f)) :=
  (ho.exists_children hk hf).1

/-- The nodes in a list have the kind that is declared for them. -/
theorem kind_of_mem_childrenIn (ho : o.StandsIn s) (hk : o.kind = k) {kind : NodeKind}
    (hf : k.schema.lookup f = some (.children (some kind))) (hc : c ∈ o.childrenIn f) :
    c.kind = kind :=
  (ho.exists_children hk hf).2 c hc kind rfl

/-- A field that is declared as a list of pairs holds the pairs read from it. -/
theorem field_pairs (ho : o.StandsIn s) (hk : o.kind = k) {second : Option NodeKind}
    (hf : k.schema.lookup f = some (.pairs second)) :
    o.field f = .ok (Datum.ofPairs (o.pairsIn f)) := by
  obtain ⟨d, hd, htype⟩ := ho.field_admits hk hf
  cases d with
  | array vs =>
    obtain ⟨ps, rfl⟩ := Datum.exists_pairs_of_all htype
    have hread : o.pairsIn f = ps := by
      rw [pairsIn, field?_of_field hd, Option.map_some, Option.getD_some]
      exact Datum.pairs_ofPairs ps
    rw [hread, hd, Datum.ofPairs]
  | null | bool | int | float | str | object | node => exact absurd htype Bool.false_ne_true

/-! ## Nodes read from a field -/

/-- A node in a field stands in the same script. -/
theorem childIn (ho : o.StandsIn s) (hc : o.childIn? f = some c) : c.StandsIn s :=
  ho.child (mem_children_of_childIn? hc)

/-- The nodes in a list stand in the same script. -/
theorem of_mem_childrenIn (ho : o.StandsIn s) (hc : c ∈ o.childrenIn f) : c.StandsIn s :=
  ho.child (mem_children_of_childrenIn hc)

/-- The nodes in a list of pairs stand in the same script. -/
theorem of_mem_pairsIn (ho : o.StandsIn s) {p : Occurrence × Occurrence}
    (hp : p ∈ o.pairsIn f) : p.1.StandsIn s ∧ p.2.StandsIn s := by
  obtain ⟨h₁, h₂⟩ := mem_childrenIn_of_mem_pairsIn hp
  exact ⟨ho.of_mem_childrenIn h₁, ho.of_mem_childrenIn h₂⟩

end StandsIn

/-! ## Children in the order of the fields -/

/-- Where no key comes twice, going through entries is going through keys and looking them up. -/
theorem flatMap_eq_flatMap_lookup {β : Type} (g : Datum → List β) {fs : List (Field × Datum)}
    (h : (fs.map Prod.fst).Nodup) :
    (fs.flatMap fun f => g f.2) =
      (fs.map Prod.fst).flatMap fun f => ((fs.lookup f).map g).getD [] := by
  induction fs with
  | nil => rfl
  | cons f fs ih =>
    obtain ⟨key, v⟩ := f
    obtain ⟨hkey, hrest⟩ := List.nodup_cons.mp h
    rw [List.flatMap_cons, ih hrest, List.map_cons, List.flatMap_cons, List.lookup_cons_self]
    refine congrArg (g v ++ ·) (List.flatMap_congr fun f hf => ?_)
    have hne : (f == key) = false := by
      rw [beq_eq_false_iff_ne]
      rintro rfl
      exact hkey hf
    rw [List.lookup_cons, hne]

/-- The fields of a kind have different names. -/
theorem nodup_schema (k : NodeKind) : (k.schema.map Prod.fst).Nodup := by
  cases k <;> decide

namespace StandsIn

variable {s : Script} {o c : Occurrence} {k : NodeKind} {f : Field}

/-- The children of a well-typed node come in the order of the fields of its kind. -/
theorem children_eq (ho : o.StandsIn s) :
    o.children = (o.kind.schema.map Prod.fst).flatMap o.childrenIn := by
  have hplaced : fieldsTyped Occurrence.kind o.kind.schema o.fields = true := by
    rw [fields, fieldsTyped_placeFields]
    exact ho.isTyped
  have hkeys := map_fst_of_fieldsTyped hplaced
  rw [children, flatMap_eq_flatMap_lookup Value.nodes (hkeys ▸ nodup_schema o.kind), hkeys]
  rfl

/-- A field that is declared as a node holds at most that one. -/
theorem childrenIn_of_child (ho : o.StandsIn s) (hk : o.kind = k) {kind : Option NodeKind}
    (hf : k.schema.lookup f = some (.child kind)) : o.childrenIn f = (o.childIn? f).toList := by
  rw [childrenIn, field?_of_field (ho.field_child hk hf)]
  cases o.childIn? f <;> rfl

/-- There are no nodes in a field that is declared as a text. -/
theorem childrenIn_of_text (ho : o.StandsIn s) (hk : o.kind = k) {t : String}
    (hf : k.schema.lookup f = some (.text t)) : o.childrenIn f = [] := by
  rw [childrenIn, field?_of_field (ho.field_text hk hf)]
  rfl

/-- The children of a block of a script are its block of parameters and its named blocks. -/
theorem children_scriptBlock (ho : o.StandsIn s) (hk : o.kind = .scriptBlock) :
    o.children = (o.childIn? .paramBlock).toList ++ o.childrenIn .blocks := by
  have hfields : NodeKind.scriptBlock.schema.map Prod.fst = [.paramBlock, .blocks] := rfl
  rw [ho.children_eq, hk, hfields, List.flatMap_cons, List.flatMap_singleton,
    ho.childrenIn_of_child hk rfl]

/-- Below a block of a script there are its block of parameters and its named blocks. -/
theorem kind_of_mem_children_scriptBlock (ho : o.StandsIn s) (hk : o.kind = .scriptBlock)
    (hc : c ∈ o.children) :
    c.kind = .paramBlock ∨ c.kind = .namedBlock ∧ c ∈ o.childrenIn .blocks := by
  rw [ho.children_scriptBlock hk, List.mem_append, Option.mem_toList] at hc
  rcases hc with hparam | hblock
  · exact Or.inl (ho.kind_of_childIn hk rfl hparam)
  · exact Or.inr ⟨ho.kind_of_mem_childrenIn hk rfl hblock, hblock⟩

/-- The children of a named block are its statements. -/
theorem children_namedBlock (ho : o.StandsIn s) (hk : o.kind = .namedBlock) :
    o.children = o.childrenIn .statements := by
  have hfields : NodeKind.namedBlock.schema.map Prod.fst = [.blockKind, .statements] := rfl
  rw [ho.children_eq, hk, hfields, List.flatMap_cons, List.flatMap_singleton,
    ho.childrenIn_of_text hk rfl, List.nil_append]

/-- The children of a block of parameters are the parameters. -/
theorem children_paramBlock (ho : o.StandsIn s) (hk : o.kind = .paramBlock) :
    o.children = o.childrenIn .parameters := by
  have hfields : NodeKind.paramBlock.schema.map Prod.fst = [.parameters] := rfl
  rw [ho.children_eq, hk, hfields, List.flatMap_singleton]

end StandsIn

end Occurrence

/-! ## A small well-typed script -/

namespace Greeter

/-- The text of the script. -/
def source : String :=
  "class Greeter \x7b Greeter() \x7b \x7d \x7d; . lib.ps1; $g = [Greeter]::new(); @\x7b a = 1 \x7d"

/-- A class with a constructor. -/
def type : Node :=
  .classType (.inLine 0 "class Greeter \x7b Greeter() \x7b \x7d \x7d") "Greeter"
    [.method (.inLine 16 "Greeter() \x7b \x7d") "Greeter" true]

/-- A command that includes a file. -/
def inclusion : Node :=
  .pipeline (.inLine 33 ". lib.ps1") [.inLine .command 33 ". lib.ps1"
    [(.invocationOperator, .str "."),
      (.elements, .array [.node (.word (.inLine 35 "lib.ps1") "lib.ps1")])]]

/-- The assignment of a new object of the class to a variable. -/
def creation : Node :=
  .inLine .assignment 44 "$g = [Greeter]::new()"
    [(.left, .node (.variableUse (.inLine 44 "$g") "g")), (.operator, .str "="),
      (.right, .node (.inLine .invokeMemberExpression 49 "[Greeter]::new()"
        [(.expression, .node (.inLine .typeExpression 49 "[Greeter]"
            [(.typeName, .str "Greeter")])),
          (.member, .node (.word (.inLine 60 "new") "new")),
          (.isStaticAccess, .bool true), (.arguments, .array [])]))]

/-- A hashtable with one key. -/
def table : Node :=
  .inLine .hashtable 67 "@\x7b a = 1 \x7d"
    [(.pairs, .array [.array
      [.node (.word (.inLine 70 "a") "a"),
        .node (.inLine .constant 74 "1" [(.value, .int 1), (.staticType, .str "int")])]])]

/-- The block of the four statements. -/
def block : Node :=
  .inLine .namedBlock 0 source
    [(.blockKind, .str "end"),
      (.statements, .array [.node type, .node inclusion, .node creation, .node table])]

/-- The script of the block. -/
def script : Script :=
  .ofRoot (.inLine .scriptBlock 0 source [(.paramBlock, .null), (.blocks, .array [.node block])])
    none none

/-- The script is well typed. -/
theorem wellTyped_script : script.WellTyped := by decide +kernel

end Greeter

end ScriptNavigation
