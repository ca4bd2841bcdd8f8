/-
# Fields that read alike

The fields of two nodes read alike when they hold the same values, but for other nodes in
the places of nodes and for whatever objects hold: readings do not look into objects.  Then
the texts and flags of the two nodes are the same, and their children correspond.

Main facts:

* `Value.trim`: a value without the members of its objects.
* `Occurrence.HoldsLike`: a field of two nodes holds the same, but for other nodes.
* `HoldsLike.textIn`, `HoldsLike.childIn?` and their companions: then it reads the same.
* `Occurrence.ReadsLike`: all fields of two nodes read alike.
-/
import ScriptNavigation.Proofs.Navigation.Answers
import ScriptNavigation.Proofs.Reading.Field

namespace ScriptNavigation

namespace Value

variable {ν μ : Type}

/-! ## Values without the members of their objects -/

mutual

/-- A value without the members of its objects. -/
def trim : Value ν → Value ν
  | .array vs => .array (trimAll vs)
  | .object _ => .object []
  | .null => .null
  | .bool b => .bool b
  | .int i => .int i
  | .float x => .float x
  | .str s => .str s
  | .node n => .node n

/-- The values of a list without the members of their objects. -/
def trimAll : List (Value ν) → List (Value ν)
  | [] => []
  | v :: vs => trim v :: trimAll vs

end

theorem str?_trim (v : Value ν) : v.trim.str? = v.str? := by
  cases v <;> rfl

theorem str?_map (g : ν → μ) (v : Value ν) : (v.map g).str? = v.str? := by
  cases v <;> rfl

theorem node?_trim (v : Value ν) : v.trim.node? = v.node? := by
  cases v <;> rfl

theorem node?_map (g : ν → μ) (v : Value ν) : (v.map g).node? = v.node?.map g := by
  cases v <;> rfl

mutual

theorem nodes_trim : (v : Value ν) → v.trim.nodes = v.nodes
  | .null | .bool _ | .int _ | .float _ | .str _ | .object _ | .node _ => rfl
  | .array vs => by
    rw [trim, nodes, nodes]
    exact nodesOfAll_trimAll vs

theorem nodesOfAll_trimAll : (vs : List (Value ν)) → nodesOfAll (trimAll vs) = nodesOfAll vs
  | [] => rfl
  | v :: vs => by
    rw [trimAll, nodesOfAll, nodesOfAll, nodes_trim v, nodesOfAll_trimAll vs]

end

end Value

namespace Datum

variable {g : Occurrence → Occurrence}

/-- The flag that a value is. -/
def flag? : Datum → Option Bool
  | .bool b => some b
  | _ => none

theorem flag?_trim (d : Datum) : flag? d.trim = flag? d := by
  cases d <;> rfl

theorem flag?_map (d : Datum) : flag? (d.map g) = flag? d := by
  cases d <;> rfl

theorem flagIn_of_field? {o : Occurrence} {f : Field} {d : Datum} (h : o.field? f = some d) :
    o.flagIn f = (flag? d).getD false := by
  rw [Occurrence.flagIn, h]
  cases d <;> rfl

theorem pair?_trim (d : Datum) : pair? d.trim = pair? d := by
  match d with
  | .array [a, b] | .array (a :: b :: _ :: _) => cases a <;> cases b <;> rfl
  | .array [a] => cases a <;> rfl
  | .array [] => rfl
  | .null | .bool _ | .int _ | .float _ | .str _ | .object _ | .node _ => rfl

theorem pair?_map (d : Datum) : pair? (d.map g) = (pair? d).map (Prod.map g g) := by
  match d with
  | .array [a, b] | .array (a :: b :: _ :: _) => cases a <;> cases b <;> rfl
  | .array [a] => cases a <;> rfl
  | .array [] => rfl
  | .null | .bool _ | .int _ | .float _ | .str _ | .object _ | .node _ => rfl

theorem pairs_trim (d : Datum) : pairs d.trim = pairs d := by
  cases d with
  | array vs =>
    rw [Value.trim, pairs, pairs]
    induction vs with
    | nil => rfl
    | cons v vs ih =>
      rw [Value.trimAll, List.filterMap_cons, List.filterMap_cons, pair?_trim, ih]
  | null | bool | int | float | str | object | node => rfl

theorem pairs_map (d : Datum) : pairs (d.map g) = (pairs d).map (Prod.map g g) := by
  cases d with
  | array vs =>
    rw [Value.map, pairs, pairs]
    induction vs with
    | nil => rfl
    | cons v vs ih =>
      rw [Value.mapAll, List.filterMap_cons, List.filterMap_cons, pair?_map, ih]
      cases pair? v <;> rfl
  | null | bool | int | float | str | object | node => rfl

end Datum

namespace Occurrence

/-! ## Fields that read alike -/

/-- A field of a node holds what that of another one holds, with other nodes in the places of
nodes. -/
def HoldsLike (o' o : Occurrence) (g : Occurrence → Occurrence) (f : Field) : Prop :=
  (o'.field? f).map Value.trim = (o.field? f).map fun d => d.trim.map g

namespace HoldsLike

variable {o o' : Occurrence} {g : Occurrence → Occurrence} {f : Field} (h : o'.HoldsLike o g f)
include h

/-- The field is missing in both nodes, or it holds values that correspond. -/
theorem field?_cases :
    (o'.field? f = none ∧ o.field? f = none) ∨
      ∃ d' d, o'.field? f = some d' ∧ o.field? f = some d ∧ d'.trim = d.trim.map g := by
  unfold HoldsLike at h
  cases hd' : o'.field? f with
  | none =>
    cases hd : o.field? f with
    | none => exact Or.inl ⟨rfl, rfl⟩
    | some d =>
      rw [hd', hd] at h
      cases h
  | some d' =>
    cases hd : o.field? f with
    | none =>
      rw [hd', hd] at h
      cases h
    | some d =>
      rw [hd', hd] at h
      exact Or.inr ⟨d', d, rfl, rfl, Option.some_inj.mp h⟩

theorem textIn : o'.textIn f = o.textIn f := by
  rcases h.field?_cases with ⟨hd', hd⟩ | ⟨d', d, hd', hd, heq⟩
  · rw [Occurrence.textIn, Occurrence.textIn, hd', hd]
  · have hread : d'.str? = d.str? := by
      rw [← Value.str?_trim d', heq, Value.str?_map, Value.str?_trim]
    rw [Occurrence.textIn, Occurrence.textIn, hd', hd, Option.bind_some, Option.bind_some, hread]

theorem flagIn : o'.flagIn f = o.flagIn f := by
  rcases h.field?_cases with ⟨hd', hd⟩ | ⟨d', d, hd', hd, heq⟩
  · rw [Occurrence.flagIn, Occurrence.flagIn, hd', hd]
  · rw [Datum.flagIn_of_field? hd', Datum.flagIn_of_field? hd, ← Datum.flag?_trim d', heq,
      Datum.flag?_map, Datum.flag?_trim]

theorem childIn? : o'.childIn? f = (o.childIn? f).map g := by
  rcases h.field?_cases with ⟨hd', hd⟩ | ⟨d', d, hd', hd, heq⟩
  · rw [Occurrence.childIn?, Occurrence.childIn?, hd', hd]
    rfl
  · rw [Occurrence.childIn?, Occurrence.childIn?, hd', hd, Option.bind_some, Option.bind_some,
      ← Value.node?_trim d', heq, Value.node?_map, Value.node?_trim]

theorem childrenIn : o'.childrenIn f = (o.childrenIn f).map g := by
  rcases h.field?_cases with ⟨hd', hd⟩ | ⟨d', d, hd', hd, heq⟩
  · rw [Occurrence.childrenIn, Occurrence.childrenIn, hd', hd]
    rfl
  · rw [Occurrence.childrenIn, Occurrence.childrenIn, hd', hd, Option.map_some, Option.map_some,
      Option.getD_some, Option.getD_some, ← Value.nodes_trim d', heq, Value.nodes_map,
      Value.nodes_trim]

theorem pairsIn : o'.pairsIn f = (o.pairsIn f).map (Prod.map g g) := by
  rcases h.field?_cases with ⟨hd', hd⟩ | ⟨d', d, hd', hd, heq⟩
  · rw [Occurrence.pairsIn, Occurrence.pairsIn, hd', hd]
    rfl
  · rw [Occurrence.pairsIn, Occurrence.pairsIn, hd', hd, Option.map_some, Option.map_some,
      Option.getD_some, Option.getD_some, ← Datum.pairs_trim d', heq, Datum.pairs_map,
      Datum.pairs_trim]

end HoldsLike

/-- The fields of a node hold what those of another one hold, with other nodes in the places of
nodes. -/
def ReadsLike (o' o : Occurrence) (g : Occurrence → Occurrence) : Prop :=
  (o'.fields.map fun e => (e.1, e.2.trim)) = o.fields.map fun e => (e.1, e.2.trim.map g)

namespace ReadsLike

variable {o o' : Occurrence} {g : Occurrence → Occurrence} (h : o'.ReadsLike o g)
include h

/-- Each field of two nodes whose fields read alike holds what corresponds. -/
theorem holdsLike (f : Field) : o'.HoldsLike o g f := by
  rw [HoldsLike, field?, field?, ← lookup_map_snd, ← lookup_map_snd]
  exact congrArg (List.lookup f) h

/-- The children of two nodes whose fields read alike correspond. -/
theorem children : o'.children = o.children.map g := by
  have htrim : (o'.fields.map fun e => (e.1, e.2.trim)).flatMap (fun e => e.2.nodes) =
      (o.fields.map fun e => (e.1, e.2.trim.map g)).flatMap fun e => e.2.nodes :=
    congrArg (List.flatMap fun e => e.2.nodes) h
  simp only [List.flatMap_map, Value.nodes_trim, Value.nodes_map] at htrim
  rw [Occurrence.children, Occurrence.children, htrim, List.map_flatMap]

end ReadsLike

end Occurrence

end ScriptNavigation
