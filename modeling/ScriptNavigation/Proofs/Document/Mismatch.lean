/-
# What is said about a value that does not have its form

A message about a mismatch says where it is, by a path of field names and brackets.  A field is
named only if the form knows it, since what stands under other keys is passed over.  So a form
without tags in its names leads to messages without tags.

Main facts:

* `PlainAt.item`, `PlainAt.member`: what is known about a place carries over to the places in it.
* `untagged_of_check`: the message of a value that does not have its form.
* `check_of_lookup`: the members of a value that has its form have theirs.
-/
import ScriptNavigation.Value.Reader
import ScriptNavigation.Proofs.Report.Markup

namespace ScriptNavigation

open Markup

/-! ## Forms with plain names -/

namespace Form

mutual

/-- Whether all field names in a form are without tags. -/
def isPlain : Form → Bool
  | listOf f | mapOf f => f.isPlain
  | record fields required => arePlain fields && required.all fun name => decide (Untagged name)
  | _ => true

/-- Whether all names of some fields are without tags, also those in their forms. -/
def arePlain : List (String × Form) → Bool
  | [] => true
  | (name, f) :: fields => decide (Untagged name) && f.isPlain && arePlain fields

end

/-- Only one form lets values be passed over. -/
theorem eq_ignored {form : Form} (h : Json.isIgnored form = true) : form = ignored := by
  cases form <;> first | rfl | cases h

/-- A form at a place of a document about which nothing has to be escaped: values are passed
over, or the names in the form and on the way to the place are without tags. -/
def PlainAt (form : Form) (path : JsonPath) : Prop :=
  Json.isIgnored form = true ∨ form.isPlain = true ∧ Untagged path.text

variable {form : Form} {path : JsonPath}

/-- A field that is looked up has a plain name and a plain form. -/
theorem plain_of_lookup {fields : List (String × Form)} {key : String} {f : Form}
    (h : arePlain fields = true) (hf : fields.lookup key = some f) :
    Untagged key ∧ f.isPlain = true := by
  induction fields with
  | nil => cases hf
  | cons field fields ih =>
    obtain ⟨name, g⟩ := field
    rw [arePlain, Bool.and_eq_true, Bool.and_eq_true, decide_eq_true_eq] at h
    rw [List.lookup_cons] at hf
    cases hkey : key == name with
    | true =>
      rw [hkey] at hf
      cases hf
      rw [beq_iff_eq.mp hkey]
      exact h.1
    | false =>
      rw [hkey] at hf
      exact ih h.2 hf

/-- The text of a longer path. -/
theorem text_append (path : JsonPath) (step : PathStep) :
    JsonPath.text (path ++ [step]) = JsonPath.text path ++ step.text := by
  unfold JsonPath.text
  rw [List.map_append, String.join_append, String.append_assoc]
  simp [String.join]

/-- The step to an item is without tags: no tag starts with a digit. -/
theorem untagged_item (index : Nat) : Untagged (PathStep.item index).text := by
  have hopen : OpensNoTag "[" := by decide
  have hclose : Untagged "]" := by decide
  have h := hopen.append ((untagged_nat index).append hclose) ((startsPlainly_nat index).append "]")
  rwa [← String.append_assoc] at h

/-- The items of an array are at plain places if the array is. -/
theorem PlainAt.item (h : PlainAt form path) (index : Nat) :
    PlainAt form.item (path ++ [.item index]) := by
  rcases h with h | ⟨hplain, hpath⟩
  · left
    rw [eq_ignored h]
    rfl
  · right
    rw [text_append]
    refine ⟨?_, hpath.append (untagged_item index)⟩
    cases form <;> first | rfl | exact hplain

/-- The members of an object are at plain places if the object is. -/
theorem PlainAt.member (h : PlainAt form path) (key : String) :
    PlainAt (form.member key) (path ++ [form.stepTo key]) := by
  have hany : Untagged PathStep.anyKey.text := by decide
  rcases h with h | ⟨hplain, hpath⟩
  · left
    rw [eq_ignored h]
    rfl
  · rw [PlainAt, text_append]
    cases form with
    | record fields required =>
      rw [Form.member]
      cases hf : fields.lookup key with
      | none => exact Or.inl rfl
      | some f =>
        rw [isPlain, Bool.and_eq_true] at hplain
        obtain ⟨hkey, hf⟩ := plain_of_lookup hplain.1 hf
        have hdot : Untagged "." := by decide
        exact Or.inr ⟨hf, hpath.append (hdot.append hkey)⟩
    | ignored => exact Or.inl rfl
    | mapOf f => exact Or.inr ⟨hplain, hpath.append hany⟩
    | _ => exact Or.inr ⟨rfl, hpath.append hany⟩

end Form

/-! ## Messages -/

namespace Mismatch

/-- The end of a message that says where the mismatch is. -/
theorem untagged_place {path : JsonPath} (h : Untagged path.text) : Untagged (place path) := by
  unfold place
  split
  · decide
  · have hopen : Untagged " - at `" := by decide
    have hclose : Untagged "`" := by decide
    exact (hopen.append h).append hclose

/-- The message about a type that does not fit. -/
theorem untagged_wrongType {expected found : String} {path : JsonPath}
    (hexpected : Untagged expected) (hfound : Untagged found) (h : Untagged path.text) :
    Untagged (wrongType expected found path).message := by
  have h₁ : Untagged "Expected `" := by decide
  have h₂ : Untagged "`, got `" := by decide
  have h₃ : Untagged "`" := by decide
  exact ((((h₁.append hexpected).append h₂).append hfound).append h₃).append (untagged_place h)

end Mismatch

namespace Form

variable {form : Form} {path : JsonPath}

/-- What a form expects is said without tags. -/
theorem untagged_expectation (form : Form) : Untagged form.expectation := by
  cases form <;> rw [expectation] <;> decide

/-- The name of a JSON type is without tags. -/
theorem untagged_typeName (v : Json) : Untagged v.typeName := by
  cases v <;> rw [Value.typeName] <;> decide

/-- The message about a value whose type does not fit, or about an array of the wrong length. -/
theorem untagged_of_checkType {v : Json} {m : Mismatch} (h : PlainAt form path)
    (hm : form.checkType path v = .error m) : Untagged m.message := by
  rcases h with hignored | ⟨-, hpath⟩
  · rw [eq_ignored hignored] at hm
    cases hm
  · unfold checkType at hm
    split at hm
    · cases hm
      exact Mismatch.untagged_wrongType (untagged_expectation form) (untagged_typeName v) hpath
    · split at hm
      · split at hm
        · cases hm
        · cases hm
          have h₁ : Untagged "Expected `array` of length " := by decide
          have h₂ : Untagged ", got " := by decide
          exact (((h₁.append (untagged_nat _)).append h₂).append (untagged_nat _)).append
            (Mismatch.untagged_place hpath)
      · cases hm

/-- The message about an object that lacks a field. -/
theorem untagged_of_checkRequired {ms : Members} {m : Mismatch} (h : PlainAt form path)
    (hm : form.checkRequired path ms = .error m) : Untagged m.message := by
  unfold checkRequired at hm
  split at hm
  · rename_i name hname
    cases hm
    have hmem := List.mem_of_find?_eq_some hname
    rcases h with hignored | ⟨hplain, hpath⟩
    · rw [eq_ignored hignored] at hmem
      cases hmem
    · have hrequired : Untagged name := by
        cases form with
        | record fields required =>
          rw [isPlain, Bool.and_eq_true, List.all_eq_true] at hplain
          exact of_decide_eq_true (hplain.2 name hmem)
        | _ => cases hmem
      have h₁ : Untagged "Object missing required field `" := by decide
      have h₂ : Untagged "`" := by decide
      exact ((h₁.append hrequired).append h₂).append (Mismatch.untagged_place hpath)
  · cases hm

/-- Two checks, one after the other, succeed if both do. -/
theorem both_eq_ok {x y : Except Mismatch Unit} :
    (x >>= fun _ => y) = .ok () ↔ x = .ok () ∧ y = .ok () := by
  cases x with
  | error m => exact ⟨nofun, nofun⟩
  | ok u => exact ⟨fun h => ⟨rfl, h⟩, fun h => h.2⟩

/-- Two checks, one after the other, report what the first or else the second one does. -/
theorem both_eq_error {x y : Except Mismatch Unit} {m : Mismatch} :
    (x >>= fun _ => y) = .error m ↔ x = .error m ∨ x = .ok () ∧ y = .error m := by
  cases x with
  | error m' => exact ⟨Or.inl, fun h => h.elim id nofun⟩
  | ok u => exact ⟨fun h => Or.inr ⟨rfl, h⟩, fun h => h.elim nofun fun h => h.2⟩

mutual

/-- The message of a value that does not have its form. -/
theorem untagged_of_check {form : Form} {path : JsonPath} {m : Mismatch}
    (h : PlainAt form path) : (v : Json) → form.check path v = .error m → Untagged m.message
  | .null, hm | .bool _, hm | .int _, hm | .float _, hm | .str _, hm =>
    untagged_of_checkType h hm
  | .array items, hm => by
    rw [check] at hm
    rcases both_eq_error.mp hm with htype | ⟨-, hitems⟩
    · exact untagged_of_checkType h htype
    · exact untagged_of_checkItems h 0 items hitems
  | .object ms, hm => by
    rw [check] at hm
    rcases both_eq_error.mp hm with htype | ⟨-, hm⟩
    · exact untagged_of_checkType h htype
    · rcases both_eq_error.mp hm with hmembers | ⟨-, hrequired⟩
      · exact untagged_of_checkMembers h ms hmembers
      · exact untagged_of_checkRequired h hrequired

theorem untagged_of_checkItems {form : Form} {path : JsonPath} {m : Mismatch}
    (h : PlainAt form path) (index : Nat) :
    (vs : List Json) → checkItems form.item path index vs = .error m → Untagged m.message
  | [], hm => by cases hm
  | v :: vs, hm => by
    rw [checkItems] at hm
    rcases both_eq_error.mp hm with hv | ⟨-, hvs⟩
    · exact untagged_of_check (h.item index) v hv
    · exact untagged_of_checkItems h (index + 1) vs hvs

theorem untagged_of_checkMembers {form : Form} {path : JsonPath} {m : Mismatch}
    (h : PlainAt form path) :
    (ms : Members) → form.checkMembers path ms = .error m → Untagged m.message
  | [], hm => by cases hm
  | (key, v) :: ms, hm => by
    rw [checkMembers] at hm
    rcases both_eq_error.mp hm with hv | ⟨-, hms⟩
    · exact untagged_of_check (h.member key) v hv
    · exact untagged_of_checkMembers h ms hms

end

/-- A member of an object that has been checked has the form for its key. -/
theorem check_of_lookup {ms : Members} {key : String} {v : Json}
    (h : form.checkMembers path ms = .ok ()) (hv : ms.lookup key = some v) :
    ∃ path', (form.member key).check path' v = .ok () := by
  induction ms with
  | nil => cases hv
  | cons m ms ih =>
    obtain ⟨name, w⟩ := m
    rw [checkMembers] at h
    obtain ⟨hw, hms⟩ := both_eq_ok.mp h
    rw [List.lookup_cons] at hv
    cases hkey : key == name with
    | true =>
      rw [hkey] at hv
      cases hv
      rw [beq_iff_eq.mp hkey]
      exact ⟨_, hw⟩
    | false =>
      rw [hkey] at hv
      exact ih hms hv

end Form

end ScriptNavigation
