/-
# The nesting of documents

Each array or object that is gone into takes one level of the room that there is for nesting.
Too little room shows in one way only: reading fails for want of it.  Otherwise it ends as it
does with more room, so a node that can be built at all is the same whatever the room is.

Main facts:

* `CutShort.bind`: steps that are cut short at most make a computation that is.
* `ofObject_cutShort`: with less room, the node of an object is the same, or there is none for
  want of room.
* `ofObject_mono`: a node that is built stays the same with more room.
* `ofObject_wrapped`: however much room there is, objects can be nested deeper.
-/
import ScriptNavigation.Document.Script
import ScriptNavigation.Proofs.Result

namespace ScriptNavigation

/-! ## Levels of nesting -/

namespace Value

variable {ν : Type}

mutual

/-- The levels of arrays and objects in a value. -/
def nesting : Value ν → Nat
  | array vs => nestingAll vs + 1
  | object ms => nestingUnder ms + 1
  | _ => 0

/-- The levels of nesting in some values. -/
def nestingAll : List (Value ν) → Nat
  | [] => 0
  | v :: vs => max v.nesting (nestingAll vs)

/-- The levels of nesting in the members of an object. -/
def nestingUnder : List (String × Value ν) → Nat
  | [] => 0
  | (_, v) :: ms => max v.nesting (nestingUnder ms)

end

end Value

/-- The levels of nesting in a document. -/
def Document.nesting (d : Document) : Nat :=
  Value.nesting (.object d.root)

/-! ## Want of room -/

namespace Result

variable {α β : Type}

/-- A computation is another one, or it is cut short for want of room. -/
def CutShort (x y : Result α) : Prop :=
  x = .error (.unreadable .tooDeep) ∨ x = y

namespace CutShort

theorem refl (x : Result α) : CutShort x x := Or.inr rfl

/-- A computation of two steps is cut short at most if both steps are. -/
theorem bind {x y : Result α} {f g : α → Result β} (h : CutShort x y)
    (hf : ∀ a, CutShort (f a) (g a)) : CutShort (x >>= f) (y >>= g) := by
  rcases h with rfl | rfl
  · exact Or.inl rfl
  · cases x with
    | ok a => exact hf a
    | error e => exact refl _

/-- A computation whose answer is changed is cut short at most if it is. -/
theorem map {x y : Result α} (f : α → β) (h : CutShort x y) :
    CutShort (x.map f) (y.map f) := by
  rcases h with rfl | rfl
  · exact Or.inl rfl
  · exact refl _

/-- A computation that succeeds has not been cut short. -/
theorem eq_ok {x y : Result α} {a : α} (h : CutShort x y) (hx : x = .ok a) : y = .ok a := by
  rcases h with rfl | rfl
  · cases hx
  · exact hx

end CutShort

end Result

namespace Node

open Result

/-! ## One level -/

/-- Going into a value succeeds if there is room and what is inside succeeds. -/
theorem enter_eq_ok {α : Type} {room : Nat} {inside : Nat → Result α} {a : α} :
    enter room inside = .ok a ↔ ∃ rest, room = rest + 1 ∧ inside rest = .ok a := by
  cases room with
  | zero => simp [enter]
  | succ rest => simp [enter]

/-- Going into a value with less room is cut short at most, if what is inside is. -/
theorem enter_cutShort {α : Type} {inside : Nat → Result α}
    (hinside : ∀ {rest rest' : Nat}, rest ≤ rest' → CutShort (inside rest) (inside rest'))
    {room room' : Nat} (h : room ≤ room') :
    CutShort (enter room inside) (enter room' inside) := by
  cases room with
  | zero => exact Or.inl rfl
  | succ rest =>
    obtain ⟨rest', rfl⟩ := Nat.exists_eq_add_of_lt h
    exact hinside (by omega)

/-! ## Less room -/

section LessRoom

variable (c : ExtentSource) {ms : Members} {room room' : Nat}

/-- A search through the members of an object is cut short at most, if reading each of them
is. -/
theorem searched_cutShort
    (h : ∀ m ∈ ms, CutShort (read c true room m.2) (read c true room' m.2)) :
    CutShort (searched (readMembers c true room ms))
      (searched (readMembers c true room' ms)) := by
  induction ms with
  | nil => exact .refl _
  | cons m ms ih =>
    obtain ⟨key, v⟩ := m
    have hrest := ih fun m hm => h m (List.mem_cons_of_mem _ hm)
    rw [readMembers, readMembers, searched, searched]
    split
    · exact hrest
    · refine (h (key, v) List.mem_cons_self).bind fun first => ?_
      exact hrest.bind fun others => .refl _

variable {c}

/-- Each member of an object is read by itself. -/
theorem lookup_readMembers (deep : Bool) (room : Nat) (ms : Members) (key : String) :
    (readMembers c deep room ms).lookup key = (ms.lookup key).map (read c deep room) := by
  induction ms with
  | nil => rfl
  | cons m ms ih =>
    obtain ⟨k, v⟩ := m
    rw [readMembers, List.lookup_cons, List.lookup_cons]
    cases key == k with
    | true => rfl
    | false => exact ih

theorem mem_of_lookup {key : String} {v : Json} (h : ms.lookup key = some v) :
    (key, v) ∈ ms := by
  obtain ⟨before, after, rfl, -⟩ := List.lookup_eq_some_iff.mp h
  exact List.mem_append_right before List.mem_cons_self

variable (c)

/-- The fields of a node are cut short at most, if reading each member is. -/
theorem fieldsFrom_cutShort
    (h : ∀ m ∈ ms, CutShort (read c false room m.2) (read c false room' m.2))
    (schema : List (Field × FieldType)) :
    CutShort (fieldsFrom (readMembers c false room ms) schema)
      (fieldsFrom (readMembers c false room' ms) schema) := by
  induction schema with
  | nil => exact .refl _
  | cons f schema ih =>
    obtain ⟨f, type⟩ := f
    have hfield : CutShort
        (((readMembers c false room ms).lookup f.key).getD (.ok type.default))
        (((readMembers c false room' ms).lookup f.key).getD (.ok type.default)) := by
      rw [lookup_readMembers, lookup_readMembers]
      cases hv : ms.lookup f.key with
      | none => exact .refl _
      | some v => exact h _ (mem_of_lookup hv)
    rw [fieldsFrom, fieldsFrom]
    exact hfield.bind fun v => ih.bind fun vs => .refl _

/-- The node of an object is cut short at most, if reading each member is. -/
theorem ofMembers_cutShort
    (h : ∀ m ∈ ms, ∀ deep, CutShort (read c deep room m.2) (read c deep room' m.2)) :
    CutShort (ofMembers c ms fun deep => readMembers c deep room ms)
      (ofMembers c ms fun deep => readMembers c deep room' ms) := by
  rw [ofMembers, ofMembers]
  refine CutShort.bind (.refl _) fun extent => ?_
  cases knownKind? ms with
  | some kind =>
    exact (fieldsFrom_cutShort c (fun m hm => h m hm false) kind.schema).bind fun fs => .refl _
  | none =>
    exact (searched_cutShort c fun m hm => h m hm true).bind fun found => .refl _

mutual

/-- A value that is read with less room is the same, or it is cut short for want of room. -/
theorem read_cutShort {deep : Bool} : (v : Json) → {room room' : Nat} → room ≤ room' →
    CutShort (read c deep room v) (read c deep room' v)
  | .null, _, _, _ | .bool _, _, _, _ | .int _, _, _, _ | .float _, _, _, _ | .str _, _, _, _ =>
    .refl _
  | .array items, _, _, h => by
    rw [read, read]
    exact (enter_cutShort (readItems_cutShort items) h).map _
  | .object ms, _, _, h => by
    have hmembers := readMember_cutShort ms
    rw [read, read]
    split
    · refine (enter_cutShort (fun hrest => ?_) h).map _
      exact ofMembers_cutShort c fun m hm deep => hmembers m hm deep hrest
    · split
      · refine (enter_cutShort (fun hrest => ?_) h).map _
        exact searched_cutShort c fun m hm => hmembers m hm true hrest
      · -- an object that is not searched is kept as it is and takes no room
        exact .refl _

theorem readItems_cutShort {deep : Bool} : (vs : List Json) → {room room' : Nat} →
    room ≤ room' → CutShort (readItems c deep room vs) (readItems c deep room' vs)
  | [], _, _, _ => .refl _
  | v :: vs, _, _, h => by
    rw [readItems, readItems]
    refine (read_cutShort v h).bind fun first => ?_
    exact (readItems_cutShort vs h).bind fun rest => .refl _

theorem readMember_cutShort : (ms : Members) → ∀ m ∈ ms, ∀ deep, {room room' : Nat} →
    room ≤ room' → CutShort (read c deep room m.2) (read c deep room' m.2)
  | [], m, hm, _, _, _, _ => absurd hm List.not_mem_nil
  | (key, v) :: ms, m, hm, deep, _, _, h => by
    rcases List.mem_cons.mp hm with rfl | hm
    · exact read_cutShort v h
    · exact readMember_cutShort ms m hm deep h

end

/-- With less room, the node of an object is the same, or there is none for want of room. -/
theorem ofObject_cutShort (ms : Members) (h : room ≤ room') :
    CutShort (ofObject c room ms) (ofObject c room' ms) := by
  refine enter_cutShort (fun hrest => ?_) h
  exact ofMembers_cutShort c fun m hm deep => readMember_cutShort c ms m hm deep hrest

variable {c}

/-- A node that is built stays the same with more room. -/
theorem ofObject_mono {n : Node} (hn : ofObject c room ms = .ok n) (h : room ≤ room') :
    ofObject c room' ms = .ok n :=
  (ofObject_cutShort c ms h).eq_ok hn

end LessRoom

/-! ## Objects that are nested too deep -/

/-- An object of an unknown kind with others inside of it, each in the one before it. -/
def wrapped : (others : Nat) → Members
  | 0 => [("kind", .str "Wrapper")]
  | others + 1 => [("kind", .str "Wrapper"), ("inner", .object (wrapped others))]

/-- However much room there is, objects can be nested deeper. -/
theorem ofObject_wrapped (c : ExtentSource) {room others : Nat} (h : room ≤ others) :
    ofObject c room (wrapped others) = .error (.unreadable .tooDeep) := by
  induction others generalizing room with
  | zero =>
    obtain rfl := Nat.le_zero.mp h
    rfl
  | succ others ih =>
    cases room with
    | zero => rfl
    | succ rest =>
      -- the object says nothing about its place, so the first failure is that of the inner object
      have hplace : c.ofNode (wrapped (others + 1)) = .ok Extent.nowhere := rfl
      have hkind : knownKind? (wrapped (others + 1)) = none := rfl
      have hinner : read c true rest (.object (wrapped others)) =
          .error (.unreadable .tooDeep) := by
        have hkey : Members.hasKey (wrapped others) "kind" = true := by
          cases others <;> rfl
        have hnode := congrArg (Except.map Value.node) (ih (Nat.le_of_succ_le_succ h))
        rw [read, if_pos hkey]
        exact hnode
      have hfound : searched (readMembers c true rest (wrapped (others + 1))) =
          .error (.unreadable .tooDeep) := by
        rw [wrapped, readMembers, readMembers, hinner]
        rfl
      rw [ofObject, enter, ofMembers, hplace, Result.ok_bind, hkind]
      dsimp only
      rw [hfound]
      rfl

end Node

end ScriptNavigation
