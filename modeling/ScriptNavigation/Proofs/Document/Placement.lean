/-
# Documents that cannot be loaded

A script is built from the objects of its document, and where there is room for their nesting, only
one thing can go wrong with an object: that the place of its node cannot be told.  So a document
fails like the first object reached from the top whose place fails, and it is loaded if there is
none.

Two things can be wrong with a place.  It may be refused with an explanation; or the span of the
object, which is not checked, may be misused.  The latter never happens if the span is a value
that can be gone through, and it holds two whole numbers if it holds two values.

Main facts:

* `failure?_ofObject`: an object fails like the first object reached from it whose place does.
* `Document.failure?_script`: a document fails like the first object reached from its top does.
* `Document.isExplained_of_script`: with such spans, all failures are explained without tags.
-/
import ScriptNavigation.Proofs.Document.Mismatch
import ScriptNavigation.Proofs.Document.Objects

namespace ScriptNavigation

open Markup Document

/-! ## The first failure -/

section FirstFailure

/-- The first answer in a list is that of its first item, or else that of the others. -/
theorem findSome?_cons_or {α β : Type} (f : α → Option β) (a : α) (as : List α) :
    (a :: as).findSome? f = (f a).or (as.findSome? f) := by
  rw [List.findSome?_cons]
  cases f a <;> rfl

variable (c : ExtentSource) {ms : Members} {room : Nat}

/-- How the place of an object fails, if it does. -/
def ExtentSource.placeFailure? (ms : Members) : Option Failure := Result.failure? (c.ofNode ms)

/-- How the first object reached from some objects fails whose place does. -/
def ExtentSource.firstFailure? (objects : List Members) : Option Failure :=
  (objects.flatMap reachable).findSome? c.placeFailure?

theorem ExtentSource.firstFailure?_append (objects others : List Members) :
    c.firstFailure? (objects ++ others) =
      (c.firstFailure? objects).or (c.firstFailure? others) := by
  rw [firstFailure?, List.flatMap_append, List.findSome?_append]
  rfl

theorem ExtentSource.firstFailure?_singleton (ms : Members) :
    c.firstFailure? [ms] = (reachable ms).findSome? c.placeFailure? := by
  rw [firstFailure?, List.flatMap_singleton]

/-- A search through an object fails like the first object in it that fails, if reading each
member does. -/
theorem failure?_searched
    (h : ∀ m ∈ ms, Result.failure? (Node.read c true room m.2) =
      c.firstFailure? (objectsIn true m.2)) :
    Result.failure? (Node.searched (Node.readMembers c true room ms)) =
      c.firstFailure? (objectsUnder ms) := by
  induction ms with
  | nil => rfl
  | cons m ms ih =>
    obtain ⟨key, v⟩ := m
    have hrest := ih fun m hm => h m (List.mem_cons_of_mem _ hm)
    rw [Node.readMembers, Node.searched, objectsUnder]
    split
    · exact hrest
    · rw [c.firstFailure?_append, ← h (key, v) List.mem_cons_self, ← hrest]
      exact Result.failure?_both _ _ _

/-- The fields of a node fail like the first object in them that fails, if reading each member
does. -/
theorem failure?_fieldsFrom
    (h : ∀ m ∈ ms, Result.failure? (Node.read c false room m.2) =
      c.firstFailure? (objectsIn false m.2))
    (schema : List (Field × FieldType)) :
    Result.failure? (Node.fieldsFrom (Node.readMembers c false room ms) schema) =
      c.firstFailure? (schema.flatMap fun f => objectsInField ms f.1) := by
  induction schema with
  | nil => rfl
  | cons f schema ih =>
    obtain ⟨f, type⟩ := f
    have hfield : Result.failure?
        (((Node.readMembers c false room ms).lookup f.key).getD (.ok type.default)) =
          c.firstFailure? (objectsInField ms f) := by
      rw [Node.lookup_readMembers, objectsInField]
      cases hv : ms.lookup f.key with
      | none => rfl
      | some v => exact h _ (Node.mem_of_lookup hv)
    rw [Node.fieldsFrom, List.flatMap_cons, c.firstFailure?_append, ← hfield, ← ih]
    exact Result.failure?_both _ _ _

/-- An object fails if its place does, or else like the first child object that fails, if reading
each member does. -/
theorem failure?_ofMembers
    (h : ∀ m ∈ ms, ∀ deep, Result.failure? (Node.read c deep room m.2) =
      c.firstFailure? (objectsIn deep m.2)) :
    Result.failure? (Node.ofMembers c ms fun deep => Node.readMembers c deep room ms) =
      c.firstFailure? [ms] := by
  rw [c.firstFailure?_singleton, reachable_eq, findSome?_cons_or, ExtentSource.placeFailure?,
    Node.ofMembers, childObjects]
  cases c.ofNode ms with
  | error e => rfl
  | ok extent =>
    rw [Result.ok_bind]
    cases Node.knownKind? ms with
    | some kind =>
      have hfields := failure?_fieldsFrom c (fun m hm => h m hm false) kind.schema
      dsimp only
      refine Eq.trans ?_ hfields
      cases Node.fieldsFrom (Node.readMembers c false room ms) kind.schema <;> rfl
    | none =>
      have hfound := failure?_searched c fun m hm => h m hm true
      dsimp only
      refine Eq.trans ?_ hfound
      cases Node.searched (Node.readMembers c true room ms) <;> rfl

mutual

/-- Where there is room for its nesting, reading a value fails like the first object in it that
fails. -/
theorem failure?_read (deep : Bool) : (v : Json) → {room : Nat} → v.nesting ≤ room →
    Result.failure? (Node.read c deep room v) = c.firstFailure? (objectsIn deep v)
  | .null, _, _ | .bool _, _, _ | .int _, _, _ | .float _, _, _ | .str _, _, _ => rfl
  | .array items, room, h => by
    -- the array itself takes the level that its nesting is above that of its items
    rw [Value.nesting] at h
    obtain ⟨rest, rfl⟩ := Nat.exists_eq_add_of_le' h
    rw [Node.read, Result.failure?_map, objectsIn]
    exact failure?_readItems deep items (Nat.le_add_left _ rest)
  | .object ms, room, h => by
    rw [Value.nesting] at h
    obtain ⟨rest, rfl⟩ := Nat.exists_eq_add_of_le' h
    have hmembers := failure?_readMember ms (Nat.le_add_left _ rest)
    rw [Node.read, objectsIn]
    split
    · rw [Result.failure?_map]
      exact failure?_ofMembers c hmembers
    · split
      · rw [Result.failure?_map]
        exact failure?_searched c fun m hm => hmembers m hm true
      · rfl

theorem failure?_readItems (deep : Bool) : (vs : List Json) → {room : Nat} →
    Value.nestingAll vs ≤ room →
    Result.failure? (Node.readItems c deep room vs) = c.firstFailure? (objectsInAll deep vs)
  | [], _, _ => rfl
  | v :: vs, _, h => by
    rw [Value.nestingAll] at h
    have hfirst := failure?_read deep v (Nat.le_trans (Nat.le_max_left _ _) h)
    have hrest := failure?_readItems deep vs (Nat.le_trans (Nat.le_max_right _ _) h)
    rw [Node.readItems, objectsInAll, c.firstFailure?_append, ← hfirst, ← hrest]
    exact Result.failure?_both _ _ _

theorem failure?_readMember : (ms : Members) → {room : Nat} → Value.nestingUnder ms ≤ room →
    ∀ m ∈ ms, ∀ deep, Result.failure? (Node.read c deep room m.2) =
      c.firstFailure? (objectsIn deep m.2)
  | [], _, _, m, hm, _ => absurd hm List.not_mem_nil
  | (key, v) :: ms, _, h, m, hm, deep => by
    rw [Value.nestingUnder] at h
    rcases List.mem_cons.mp hm with rfl | hm
    · exact failure?_read deep v (Nat.le_trans (Nat.le_max_left _ _) h)
    · exact failure?_readMember ms (Nat.le_trans (Nat.le_max_right _ _) h) m hm deep

end

/-- Where there is room for its nesting, an object fails like the first object reached from it whose
place fails. -/
theorem failure?_ofObject (h : (Value.object ms : Json).nesting ≤ room) :
    Result.failure? (Node.ofObject c room ms) = (reachable ms).findSome? c.placeFailure? := by
  rw [Value.nesting] at h
  obtain ⟨rest, rfl⟩ := Nat.exists_eq_add_of_le' h
  rw [← c.firstFailure?_singleton]
  exact failure?_ofMembers c (failure?_readMember c ms (Nat.le_add_left _ rest))

end FirstFailure

/-- Where there is room for its nesting, a document fails like the first object reached from its top
whose place fails. -/
theorem Document.failure?_script {d : Document} {room : Nat} (h : d.nesting ≤ room)
    (readFrom : Option String) :
    Result.failure? (d.script readFrom room) =
      (reachable d.root).findSome?
        (ExtentSource.placeFailure? ⟨d.source, d.fileName readFrom⟩) := by
  rw [← failure?_ofObject _ h, Document.script]
  cases Node.ofObject ⟨d.source, d.fileName readFrom⟩ room d.root <;> rfl

/-! ## Spans that can be used -/

/-- Whether a value is a whole number; truth values count as numbers. -/
def Value.isWhole {ν : Type} : Value ν → Bool
  | .bool _ | .int _ => true
  | _ => false

/-- Whether a span can be gone through, and holds whole numbers if it holds two values. -/
def Value.isUsableSpan {ν : Type} (span : Value ν) : Bool :=
  match span.items with
  | .ok [start, stop] => start.isWhole && stop.isWhole
  | .ok _ => true
  | .error _ => false

/-- Wherever the own span of an object counts, it can be used. -/
def Document.SpansUsable (d : Document) : Prop :=
  ∀ ms ∈ reachable d.root, (valueUnder ms "span").truthy = true →
    Value.isUsableSpan (valueUnder ms "span") = true

/-! ## Explained failures -/

/-- A failure of a document that is explained by a message without tags. -/
inductive Failure.IsExplained : Failure → Prop where
  | unreadable {why : ReadFailure} (hroom : why ≠ .tooDeep) (h : Untagged why.message) :
    IsExplained (.unreadable why)
  | rejected {why : Rejection} (h : Untagged why.message) : IsExplained (.rejected why)

namespace Rejection

/-- The message about a span outside of its source; no tag starts like a number. -/
theorem untagged_spanOutside {start stop : String} {length : Nat} (hstart : Untagged start)
    (hplain : StartsPlainly start) (hstop : Untagged stop) :
    Untagged (spanOutside start stop length).message := by
  have h₁ : OpensNoTag "Invalid span [" := by decide
  have h₂ : Untagged ", " := by decide
  have h₃ : Untagged "] for source of length " := by decide
  exact ((((h₁.append hstart hplain).append h₂).append hstop).append h₃).append
    (untagged_nat length)

/-- The message about an extent that ends before it starts. -/
theorem untagged_extentReversed (start stop : Position) :
    Untagged (extentReversed start stop).message := by
  have h₁ : Untagged "Extent start " := by decide
  have h₂ : Untagged ":" := by decide
  have h₃ : Untagged " is after end " := by decide
  exact ((((((h₁.append (untagged_int _)).append h₂).append (untagged_int _)).append h₃).append
    (untagged_int _)).append h₂).append (untagged_int _)

end Rejection

namespace ExtentSource

open Failure

variable {c : ExtentSource} {v : Json}

/-- A whole number is written without tags. -/
theorem display_whole (h : v.isWhole = true) :
    Untagged (Json.display v) ∧ StartsPlainly (Json.display v) := by
  cases v with
  | bool b => cases b <;> exact ⟨by decide, by decide⟩
  | int i => exact ⟨untagged_int i, startsPlainly_int i⟩
  | _ => cases h

/-- Whole numbers can be compared. -/
theorem scaled_whole (h : v.isWhole = true) : ∃ n, scaled v = .ok n := by
  cases v with
  | bool b => exact ⟨_, rfl⟩
  | int i => exact ⟨_, rfl⟩
  | _ => cases h

/-- Whole numbers can be used as offsets. -/
theorem whole_total (h : v.isWhole = true) : ∃ i, whole v = .ok i := by
  cases v with
  | bool b => exact ⟨_, rfl⟩
  | int i => exact ⟨_, rfl⟩
  | _ => cases h

/-- Whether two whole numbers are a span of a source can be told. -/
theorem isOutside_total {start stop : Json} (hstart : start.isWhole = true)
    (hstop : stop.isWhole = true) (length : Nat) : ∃ r, isOutside length start stop = .ok r := by
  obtain ⟨m, hm⟩ := scaled_whole hstart
  obtain ⟨n, hn⟩ := scaled_whole hstop
  have hint (i : Int) : scaled (.int i) = .ok (i, 0) := rfl
  unfold isOutside less
  rw [hm, hn, hint, hint]
  simp only [Result.ok_bind, Result.pure_eq]
  repeat' split
  all_goals exact ⟨_, rfl⟩

/-- A span that can be used has two bounds that are whole numbers, or the number of its values is
explained. -/
theorem bounds_of_isUsableSpan {span : Json} (h : span.isUsableSpan = true) :
    (∃ start stop, bounds span = .ok (start, stop) ∧ start.isWhole = true ∧
        stop.isWhole = true) ∨
      ∃ e, bounds span = .error e ∧ IsExplained e := by
  unfold bounds
  unfold Value.isUsableSpan at h
  cases hitems : span.items with
  | error e =>
    rw [hitems] at h
    cases h
  | ok items =>
    rw [hitems] at h
    rcases items with _ | ⟨start, _ | ⟨stop, _ | ⟨third, more⟩⟩⟩
    · exact Or.inr ⟨_, rfl, .rejected (by decide)⟩
    · exact Or.inr ⟨_, rfl, .rejected (by decide)⟩
    · obtain ⟨hstart, hstop⟩ := (Bool.and_eq_true _ _).mp h
      exact Or.inl ⟨start, stop, rfl, hstart, hstop⟩
    · exact Or.inr ⟨_, rfl, .rejected (by decide)⟩

/-- Two offsets into a source are refused with an explanation, if at all. -/
theorem isExplained_of_offsets {source : String} {start stop : Int} {file : Option String}
    {e : Failure} (he : Extent.ofSpan source start stop file = .error e) : IsExplained e := by
  unfold Extent.ofSpan at he
  dsimp only at he
  split at he
  · cases he
  · cases he
    exact .rejected (Rejection.untagged_spanOutside (untagged_int start)
      (startsPlainly_int start) (untagged_int stop))

/-- A span that can be used is refused with an explanation, if at all. -/
theorem isExplained_of_ofSpan {span : Json} {e : Failure} (h : span.isUsableSpan = true)
    (he : c.ofSpan span = .error e) : IsExplained e := by
  unfold ofSpan at he
  cases hsource : c.source with
  | none =>
    rw [hsource] at he
    cases he
    exact .rejected (by decide)
  | some source =>
    rw [hsource] at he
    dsimp only at he
    rcases bounds_of_isUsableSpan h with ⟨start, stop, hbounds, hstart, hstop⟩ | ⟨e', hbounds, he'⟩
    · obtain ⟨r, hr⟩ := isOutside_total hstart hstop source.toList.length
      obtain ⟨i, hi⟩ := whole_total hstart
      obtain ⟨j, hj⟩ := whole_total hstop
      rw [hbounds, Result.ok_bind, hr, Result.ok_bind] at he
      cases r with
      | true =>
        cases he
        obtain ⟨hplain, hstarts⟩ := display_whole hstart
        exact .rejected (Rejection.untagged_spanOutside hplain hstarts (display_whole hstop).1)
      | false =>
        rw [if_neg Bool.false_ne_true, hi, Result.ok_bind, hj, Result.ok_bind] at he
        exact isExplained_of_offsets he
    · rw [hbounds] at he
      cases he
      exact he'

/-- Lines and columns are refused with an explanation, if at all. -/
theorem isExplained_of_ofLines {ms : Members} {e : Failure} (he : c.ofLines ms = .error e) :
    IsExplained e := by
  unfold ofLines at he
  split at he
  · unfold Extent.between at he
    dsimp only at he
    split at he
    · cases he
    · cases he
      exact .rejected (Rejection.untagged_extentReversed _ _)
  · cases he

/-! ## Extent objects -/

/-- A value that has the form of a whole number is one. -/
theorem isWhole_of_check {path : JsonPath} (h : Form.int.check path v = .ok ()) :
    v.isWhole = true := by
  cases v with
  | int i => rfl
  | node n => exact n.elim
  | _ => cases h

/-- A span that has been checked can be used. -/
theorem isUsableSpan_of_check {path : JsonPath} (h : Form.intPairOrNull.check path v = .ok ()) :
    v.isNull = true ∨ v.isUsableSpan = true := by
  cases v with
  | null => exact Or.inl rfl
  | node n => exact n.elim
  | array items =>
    right
    rcases items with _ | ⟨start, _ | ⟨stop, _ | ⟨third, more⟩⟩⟩
    · rfl
    · rfl
    · rw [Form.check, Form.checkItems, Form.checkItems] at h
      obtain ⟨-, h⟩ := Form.both_eq_ok.mp h
      obtain ⟨hstart, h⟩ := Form.both_eq_ok.mp h
      obtain ⟨hstop, -⟩ := Form.both_eq_ok.mp h
      exact (Bool.and_eq_true _ _).mpr ⟨isWhole_of_check hstart, isWhole_of_check hstop⟩
    · rfl
  | _ => cases h

/-- The span in an extent object that has been checked can be used. -/
theorem isUsableSpan_inner {ms : Members} (h : form.check [] (.object ms) = .ok ()) :
    (valueUnder ms "span").isNull = true ∨ (valueUnder ms "span").isUsableSpan = true := by
  rw [Form.check] at h
  obtain ⟨-, h⟩ := Form.both_eq_ok.mp h
  obtain ⟨hmembers, -⟩ := Form.both_eq_ok.mp h
  unfold valueUnder
  cases hspan : ms.lookup "span" with
  | none => exact Or.inl rfl
  | some v =>
    obtain ⟨path, hv⟩ := Form.check_of_lookup hmembers hspan
    exact isUsableSpan_of_check hv

/-- The place of an object is told, or refused with an explanation, by its own span if that counts,
and else by what its extent object says. -/
theorem isExplained_of_span {own : Json} {inner : Members} {e : Failure}
    (hown : own.truthy = true → own.isUsableSpan = true)
    (hinner : (valueUnder inner "span").isNull = true ∨
      (valueUnder inner "span").isUsableSpan = true)
    (he : (if (own.orElse (valueUnder inner "span")).isNull then c.ofLines inner
      else c.ofSpan (own.orElse (valueUnder inner "span"))) = .error e) : IsExplained e := by
  split at he
  · exact isExplained_of_ofLines he
  · rename_i hsome
    refine isExplained_of_ofSpan ?_ he
    unfold Value.orElse at hsome ⊢
    split
    · exact hown ‹_›
    · rw [if_neg ‹_›] at hsome
      exact hinner.resolve_left hsome

/-- If the own span of an object can be used where it counts, the object is placed, or it is
refused with an explanation. -/
theorem isExplained_of_ofNode {ms : Members} {e : Failure}
    (hspan : (valueUnder ms "span").truthy = true → (valueUnder ms "span").isUsableSpan = true)
    (he : c.ofNode ms = .error e) : IsExplained e := by
  unfold ofNode at he
  dsimp only at he
  cases hcheck : form.check [] ((valueUnder ms "extent").orElse (.object [])) with
  | error m =>
    rw [hcheck] at he
    cases he
    exact .unreadable (by simp) (Form.untagged_of_check (Or.inr ⟨by decide, by decide⟩) _ hcheck)
  | ok u =>
    rw [hcheck] at he
    dsimp only at he
    split at he
    · rename_i inner hspec
      rw [hspec] at hcheck
      exact isExplained_of_span hspan (isUsableSpan_inner hcheck) he
    · exact isExplained_of_span hspan (Or.inl rfl) he

end ExtentSource

/-- If there is room for the nesting of a document and its spans can be used, the document is
loaded, or it is refused with an explanation. -/
theorem Document.isExplained_of_script {d : Document} {readFrom : Option String} {room : Nat}
    {e : Failure} (hnesting : d.nesting ≤ room) (hspans : d.SpansUsable)
    (he : d.script readFrom room = .error e) : e.IsExplained := by
  have hfirst := failure?_script hnesting readFrom
  rw [he] at hfirst
  obtain ⟨before, ms, after, hsplit, hms, -⟩ := List.findSome?_eq_some_iff.mp hfirst.symm
  have hmem : ms ∈ reachable d.root := by
    rw [hsplit]
    exact List.mem_append_right before List.mem_cons_self
  exact ExtentSource.isExplained_of_ofNode (hspans ms hmem) (Result.eq_error_of_failure? hms)

end ScriptNavigation
