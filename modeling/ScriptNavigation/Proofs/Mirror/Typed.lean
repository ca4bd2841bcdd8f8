/-
# Fields that read alike and declared types

What type a value has depends on the kinds of its nodes only, and for many types not even on
them.  So a node whose fields read like those of a well-typed one is well typed too, if the
nodes in its fields have the same kinds, or if the fields admit nodes of all kinds.

Main facts:

* `FieldType.admits_map`: what type a value has depends on the kinds of its nodes only.
* `ReadsLike.isTyped`: a node is well typed if its fields read like those of a well-typed node.
-/
import ScriptNavigation.Proofs.Mirror.Field

namespace ScriptNavigation

namespace FieldType

/-- Whether a type admits nodes of all kinds, if it admits nodes at all. -/
def admitsAllKinds : FieldType → Bool
  | text _ | flag | anything => true
  | child kind | children kind | pairs kind => kind.isNone

variable {g : Occurrence → Occurrence} {kind : Option NodeKind}

/-! ## Values without the members of their objects -/

theorem isNodeIn_trim (kind : Option NodeKind) (d : Datum) :
    d.trim.isNodeIn Occurrence.kind kind = d.isNodeIn Occurrence.kind kind := by
  cases d <;> rfl

theorem isNodePair_trim (kind : Option NodeKind) (d : Datum) :
    d.trim.isNodePair Occurrence.kind kind = d.isNodePair Occurrence.kind kind := by
  match d with
  | .array [a, b] =>
    rw [Value.trim, Value.trimAll, Value.trimAll, Value.trimAll, Value.isNodePair,
      Value.isNodePair, isNodeIn_trim, isNodeIn_trim]
  | .array [] | .array [_] | .array (_ :: _ :: _ :: _) => rfl
  | .null | .bool _ | .int _ | .float _ | .str _ | .object _ | .node _ => rfl

theorem all_trimAll {test : Datum → Bool} (h : ∀ d, test d.trim = test d) (ds : List Datum) :
    (Value.trimAll ds).all test = ds.all test := by
  induction ds with
  | nil => rfl
  | cons d ds ih => rw [Value.trimAll, List.all_cons, List.all_cons, h, ih]

/-- What objects hold does not matter for the type of a value. -/
theorem admits_trim (type : FieldType) (d : Datum) :
    type.admits Occurrence.kind d.trim = type.admits Occurrence.kind d := by
  match type, d with
  | .children kind, .array ds => exact all_trimAll (isNodeIn_trim kind) ds
  | .pairs kind, .array ds => exact all_trimAll (isNodePair_trim kind) ds
  | .text _, d | .flag, d | .anything, d | .child _, d => cases d <;> rfl
  | .children _, .null | .children _, .bool _ | .children _, .int _ | .children _, .float _
  | .children _, .str _ | .children _, .object _ | .children _, .node _ => rfl
  | .pairs _, .null | .pairs _, .bool _ | .pairs _, .int _ | .pairs _, .float _
  | .pairs _, .str _ | .pairs _, .object _ | .pairs _, .node _ => rfl

/-! ## Values with other nodes -/

theorem isNodeIn_map {d : Datum} (h : kind = none ∨ ∀ c ∈ d.nodes, (g c).kind = c.kind) :
    (d.map g).isNodeIn Occurrence.kind kind = d.isNodeIn Occurrence.kind kind := by
  cases d with
  | node o =>
    rcases h with rfl | h
    · rfl
    · have ho := h o (List.mem_singleton_self o)
      rw [Value.map, Value.isNodeIn, Value.isNodeIn, ho]
  | null | bool | int | float | str | array | object => rfl

theorem isNodePair_map {d : Datum} (h : kind = none ∨ ∀ c ∈ d.nodes, (g c).kind = c.kind) :
    (d.map g).isNodePair Occurrence.kind kind = d.isNodePair Occurrence.kind kind := by
  match d with
  | .array [a, b] =>
    have hb : kind = none ∨ ∀ c ∈ b.nodes, (g c).kind = c.kind := by
      refine h.imp_right fun h c hc => h c ?_
      rw [Value.nodes, Value.nodesOfAll, Value.nodesOfAll, Value.nodesOfAll, List.append_nil]
      exact List.mem_append_right _ hc
    rw [Value.map, Value.mapAll, Value.mapAll, Value.mapAll, Value.isNodePair, Value.isNodePair,
      isNodeIn_map (Or.inl rfl), isNodeIn_map hb]
  | .array [] | .array [_] | .array (_ :: _ :: _ :: _) => rfl
  | .null | .bool _ | .int _ | .float _ | .str _ | .object _ | .node _ => rfl

theorem all_mapAll {test : Datum → Bool} {ds : List Datum}
    (htest : ∀ {d : Datum}, (kind = none ∨ ∀ c ∈ d.nodes, (g c).kind = c.kind) →
      test (d.map g) = test d)
    (h : kind = none ∨ ∀ c ∈ Value.nodesOfAll ds, (g c).kind = c.kind) :
    (Value.mapAll g ds).all test = ds.all test := by
  induction ds with
  | nil => rfl
  | cons d ds ih =>
    have hd := h.imp_right fun h c hc => h c (List.mem_append_left _ hc)
    have hds := h.imp_right fun h c hc => h c (List.mem_append_right _ hc)
    rw [Value.mapAll, List.all_cons, List.all_cons, htest hd, ih hds]

/-- What type a value has depends on the kinds of its nodes only, if on them at all. -/
theorem admits_map (type : FieldType) (d : Datum)
    (h : type.admitsAllKinds = true ∨ ∀ c ∈ d.nodes, (g c).kind = c.kind) :
    type.admits Occurrence.kind (d.map g) = type.admits Occurrence.kind d := by
  match type, d with
  | .children kind, .array ds =>
    exact all_mapAll isNodeIn_map (h.imp_left Option.isNone_iff_eq_none.mp)
  | .pairs kind, .array ds =>
    exact all_mapAll isNodePair_map (h.imp_left Option.isNone_iff_eq_none.mp)
  | .child kind, .node o => exact isNodeIn_map (h.imp_left Option.isNone_iff_eq_none.mp)
  | .child _, .null | .child _, .bool _ | .child _, .int _ | .child _, .float _
  | .child _, .str _ | .child _, .object _ | .child _, .array _ => rfl
  | .text _, d | .flag, d | .anything, d => cases d <;> rfl
  | .children _, .null | .children _, .bool _ | .children _, .int _ | .children _, .float _
  | .children _, .str _ | .children _, .object _ | .children _, .node _ => rfl
  | .pairs _, .null | .pairs _, .bool _ | .pairs _, .int _ | .pairs _, .float _
  | .pairs _, .str _ | .pairs _, .object _ | .pairs _, .node _ => rfl

/-- Fields are those of a schema if fields that they read like are. -/
theorem fieldsTyped_congr {schema : List (Field × FieldType)}
    {values' values : List (Field × Datum)}
    (hread : (values'.map fun e => (e.1, e.2.trim)) = values.map fun e => (e.1, e.2.trim.map g))
    (h : (∀ e ∈ schema, e.2.admitsAllKinds = true) ∨
      ∀ e ∈ values, ∀ c ∈ e.2.nodes, (g c).kind = c.kind) :
    fieldsTyped Occurrence.kind schema values' = fieldsTyped Occurrence.kind schema values := by
  induction schema generalizing values' values with
  | nil =>
    cases values' <;> cases values
    case nil.nil | cons.cons => rfl
    all_goals cases hread
  | cons entry schema ih =>
    cases values' <;> cases values
    case nil.nil => rfl
    case cons.cons e' values' e values =>
      obtain ⟨f', d'⟩ := e'
      obtain ⟨f, d⟩ := e
      rw [List.map_cons, List.map_cons, List.cons.injEq, Prod.mk.injEq] at hread
      obtain ⟨⟨rfl, hd⟩, hrest⟩ := hread
      have hentry := h.imp (fun h => h entry List.mem_cons_self) fun h => h _ List.mem_cons_self
      have hothers := h.imp (fun h e he => h e (List.mem_cons_of_mem entry he)) fun h e he =>
        h e (List.mem_cons_of_mem _ he)
      have hadmits := admits_map (g := g) entry.2 d.trim
      rw [Value.nodes_trim, admits_trim, ← hd, admits_trim] at hadmits
      rw [fieldsTyped, fieldsTyped, hadmits hentry, ih hrest hothers]
    all_goals cases hread

end FieldType

namespace Occurrence

/-- A node is well typed if its fields read like those of a well-typed node of its kind, with
nodes of the same kinds in them or with all kinds of nodes admitted. -/
theorem ReadsLike.isTyped {o o' : Occurrence} {g : Occurrence → Occurrence}
    (h : o'.ReadsLike o g) (hk : o'.kind = o.kind) (ho : o.node.isTyped = true)
    (hg : (∀ e ∈ o.kind.schema, e.2.admitsAllKinds = true) ∨
      ∀ c ∈ o.children, (g c).kind = c.kind) :
    o'.node.isTyped = true := by
  have hfields : fieldsTyped Occurrence.kind o.kind.schema o.fields = true := by
    rw [fields, fieldsTyped_placeFields]
    exact ho
  have hentries := hg.imp_right fun hg e he c hc => hg c (List.mem_flatMap.mpr ⟨e, he, hc⟩)
  rw [← FieldType.fieldsTyped_congr h hentries, ← hk, fields, fieldsTyped_placeFields] at hfields
  exact hfields

end Occurrence

end ScriptNavigation
