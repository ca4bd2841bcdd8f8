/-
# Matching symbols whose names are texts

Two symbols can be compared without a failure when their names are texts and the owners of
their members are texts or missing.  The symbols of a well-typed script are regular: they
have a text as their name, and data of a member exactly when they are members.  Symbols that
match are of one family, and of a known kind.

Main facts:

* `denotesSame_total`: symbols with texts as names can be compared.
* `denotesSame_of_family_ne`: symbols of different families do not match.
-/
import ScriptNavigation.Proofs.Result
import ScriptNavigation.Symbol.Identity

namespace ScriptNavigation

/-! ## Names -/

theorem sameName_text (a b : String) :
    sameName (.str a) (.str b) = .ok (Text.sameFolded a b) := rfl

theorem sameFolded_self (a : String) : Text.sameFolded a a = true :=
  Text.sameFolded_iff.mpr rfl

/-- A value is a text, or missing. -/
def IsTextOrNull (d : Datum) : Prop := d = .null ∨ ∃ t, d = .str t

theorem sameName_total {a b : Datum} (ha : IsTextOrNull a) (hb : IsTextOrNull b) :
    ∃ r, sameName a b = .ok r := by
  rcases ha with rfl | ⟨t, rfl⟩
  · exact ⟨false, rfl⟩
  · rcases hb with rfl | ⟨u, rfl⟩
    · exact ⟨false, rfl⟩
    · exact ⟨_, sameName_text t u⟩

theorem isWildcard_total {d : Datum} (h : IsTextOrNull d) : ∃ r, isWildcard d = .ok r := by
  rcases h with rfl | ⟨t, rfl⟩
  · exact ⟨true, rfl⟩
  · exact ⟨_, rfl⟩

theorem compatibleOwners_total {a b : Datum} (ha : IsTextOrNull a) (hb : IsTextOrNull b) :
    ∃ r, compatibleOwners a b = .ok r := by
  obtain ⟨x, hx⟩ := isWildcard_total ha
  obtain ⟨y, hy⟩ := isWildcard_total hb
  rw [compatibleOwners, hx, Result.ok_bind]
  cases x with
  | true => exact ⟨true, rfl⟩
  | false =>
    rw [if_neg Bool.false_ne_true, hy, Result.ok_bind]
    cases y with
    | true => exact ⟨true, rfl⟩
    | false => exact sameName_total ha hb

/-- An owner is compatible with itself. -/
theorem compatibleOwners_self (owner : String) :
    compatibleOwners (.str owner) (.str owner) = .ok true := by
  simp only [compatibleOwners, isWildcard, Result.ok_bind, sameName_text, sameFolded_self,
    Result.pure_eq]
  cases isWildcardName owner <;> rfl

namespace Symbol

/-! ## Symbols that can be compared -/

/-- The name of a symbol is a text, and the owner of its member is a text or missing. -/
structure HasTexts (S : Symbol) : Prop where
  name : ∃ name, S.name = .str name
  owner : ∀ m, S.member = some m → IsTextOrNull m.owner

/-- A symbol whose name is a text, with data of a member exactly when its kind is that of a
member. -/
structure Regular (S : Symbol) : Prop where
  known : S.kind ≠ .unknown
  name : ∃ name, S.name = .str name
  plain : S.kind.isMember = false → S.member = none
  member : S.kind.isMember = true → ∃ m owner isStatic, S.member = some m ∧
    m.owner = .str owner ∧ m.isStatic = .bool isStatic ∧
    m.isConstructor = .bool (S.kind == .constructor)

/-- The data of a member that a regular symbol has: its owner is a text, and it is a constructor
when the symbol is one. -/
theorem Regular.of_member {S : Symbol} (h : S.Regular) {m : Member} (hm : S.member = some m) :
    ∃ owner isStatic, m.owner = .str owner ∧ m.isStatic = .bool isStatic ∧
      m.isConstructor = .bool (S.kind == .constructor) := by
  cases hk : S.kind.isMember with
  | false =>
    rw [h.plain hk] at hm
    cases hm
  | true =>
    obtain ⟨m', owner, isStatic, hm', hdata⟩ := h.member hk
    obtain rfl : m' = m := Option.some_inj.mp (hm'.symm.trans hm)
    exact ⟨owner, isStatic, hdata⟩

theorem Regular.hasTexts {S : Symbol} (h : S.Regular) : S.HasTexts := by
  refine ⟨h.name, ?_⟩
  intro m hm
  obtain ⟨owner, -, howner, -⟩ := h.of_member hm
  exact Or.inr ⟨owner, howner⟩

/-- Two symbols have the same kind, name and data of a member; they may stand at different
places. -/
def Agrees (R S : Symbol) : Prop := R.kind = S.kind ∧ R.name = S.name ∧ R.member = S.member

theorem Agrees.refl (S : Symbol) : S.Agrees S := ⟨rfl, rfl, rfl⟩

/-- A constructor whose name differs, case ignored, from the name of its owner. -/
def Misnamed (S : Symbol) : Prop :=
  S.kind = .constructor ∧ ∃ m, S.member = some m ∧ sameName S.name m.owner = .ok false

end Symbol

/-! ## Comparing -/

/-- Symbols of different families do not match. -/
theorem denotesSame_of_family_ne {table : Option AliasTable} {S C : Symbol}
    (h : S.kind.family ≠ C.kind.family) : denotesSame table S C = .ok false := by
  rw [denotesSame, if_pos h]
  rfl

/-- Symbols that match are of one family. -/
theorem family_eq_of_denotesSame {table : Option AliasTable} {S R : Symbol}
    (h : denotesSame table S R = .ok true) : R.kind.family = S.kind.family := by
  by_cases hf : S.kind.family = R.kind.family
  · exact hf.symm
  · rw [denotesSame_of_family_ne hf] at h
    cases h

/-- A symbol that matches some symbol is not unknown. -/
theorem known_of_denotesSame {table : Option AliasTable} {S R : Symbol}
    (h : denotesSame table S R = .ok true) : S.kind ≠ .unknown := by
  intro hk
  rw [denotesSame, if_neg (not_not_intro (family_eq_of_denotesSame h).symm), hk] at h
  cases h

theorem sameFunction_total (table : Option AliasTable) {a b : Datum}
    (ha : ∃ name, a = .str name) (hb : ∃ name, b = .str name) :
    ∃ r, sameFunction table a b = .ok r := by
  obtain ⟨x, rfl⟩ := ha
  obtain ⟨y, rfl⟩ := hb
  simp only [sameFunction, sameName_text, Result.ok_bind]
  cases Text.sameFolded x y with
  | true => exact ⟨true, rfl⟩
  | false => cases table <;> exact ⟨_, rfl⟩

theorem sameMethod_total {S C : Symbol} (hS : S.HasTexts) (hC : C.HasTexts) :
    ∃ r, sameMethod S C = .ok r := by
  obtain ⟨x, hx⟩ := hS.name
  obtain ⟨y, hy⟩ := hC.name
  rw [sameMethod]
  cases hSm : S.member with
  | none => exact ⟨false, rfl⟩
  | some a =>
    cases hCm : C.member with
    | none => exact ⟨false, rfl⟩
    | some b =>
      simp only [hx, hy, sameName_text, Result.ok_bind]
      split
      · split
        · exact sameName_total (Or.inr ⟨x, rfl⟩) (hC.owner b hCm)
        · exact ⟨false, rfl⟩
      · split
        · exact ⟨false, rfl⟩
        · split
          · exact ⟨false, rfl⟩
          · split
            · exact ⟨false, rfl⟩
            · exact compatibleOwners_total (hS.owner a hSm) (hC.owner b hCm)

theorem sameProperty_total {S C : Symbol} (hS : S.HasTexts) (hC : C.HasTexts) :
    ∃ r, sameProperty S C = .ok r := by
  obtain ⟨x, hx⟩ := hS.name
  obtain ⟨y, hy⟩ := hC.name
  rw [sameProperty]
  cases hSm : S.member with
  | none => exact ⟨false, rfl⟩
  | some a =>
    cases hCm : C.member with
    | none => exact ⟨false, rfl⟩
    | some b =>
      simp only [hx, hy, sameName_text, Result.ok_bind]
      split
      · exact ⟨false, rfl⟩
      · split
        · exact ⟨false, rfl⟩
        · exact compatibleOwners_total (hS.owner a hSm) (hC.owner b hCm)

/-- Symbols with texts as names can be compared. -/
theorem denotesSame_total (table : Option AliasTable) {S C : Symbol} (hS : S.HasTexts)
    (hC : C.HasTexts) : ∃ r, denotesSame table S C = .ok r := by
  by_cases hf : S.kind.family ≠ C.kind.family
  · exact ⟨false, denotesSame_of_family_ne hf⟩
  obtain ⟨x, hx⟩ := hS.name
  obtain ⟨y, hy⟩ := hC.name
  rw [denotesSame, if_neg hf]
  cases S.kind.family with
  | function => exact sameFunction_total table hS.name hC.name
  | variableName =>
    rw [hx, hy]
    exact ⟨_, rfl⟩
  | method => exact sameMethod_total hS hC
  | property => exact sameProperty_total hS hC
  | unknown => exact ⟨false, rfl⟩
  | parameter | classType | constructor | hashtableKey | workflow | configuration =>
    rw [hx, hy]
    exact ⟨_, rfl⟩

end ScriptNavigation
