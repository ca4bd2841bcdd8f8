/-
# Matching through a member whose owner is known

An owner that stands for any type is compatible with every owner.  So members of two
different types may both match a third one whose owner is not known, and matching is not
transitive.  This is the only obstacle: where the owner of the member in the middle is known,
and a constructor in the middle is named like its owner, what it matches is matched by
everything that matches it.

Main facts:

* `compatibleOwners_trans`: owners that are compatible with a known owner, on both sides.
* `sameMethod_iff`, `sameProperty_iff`: what members that match have in common.
* `denotesSame_trans`: matching is transitive through a symbol whose owner is known.
-/
import ScriptNavigation.Proofs.Symbol.Sameness

namespace ScriptNavigation

/-! ## Owners -/

/-- What is compatible with a known owner, on both sides, is compatible. -/
theorem compatibleOwners_trans {a b c : Datum} (hb : isWildcard b = .ok false)
    (hab : compatibleOwners a b = .ok true) (hbc : compatibleOwners b c = .ok true) :
    compatibleOwners a c = .ok true := by
  obtain ⟨anyA, hanyA, hab⟩ := Result.bind_eq_ok.mp hab
  simp only [compatibleOwners, hb, Result.ok_bind, Bool.false_eq_true, if_false] at hab hbc
  obtain ⟨anyC, hanyC, hbc⟩ := Result.bind_eq_ok.mp hbc
  simp only [compatibleOwners, hanyA, hanyC, Result.ok_bind]
  cases anyA with
  | true => rfl
  | false =>
    cases anyC with
    | true => rfl
    | false =>
      -- no type stands for any other here, so that all three have the same name
      have hname : sameName b c = sameName a c := congrFun (sameName_eq_of_same hab) c
      exact hname.symm.trans hbc

/-! ## Members -/

theorem same_bool_iff {a b : Bool} : Datum.same (.bool a) (.bool b) = true ↔ a = b := by
  cases a <;> cases b <;> decide

namespace Symbol

/-- Two members have the same name, are static alike and may have the same owner. -/
structure Resembles (S C : Symbol) (a b : Member) : Prop where
  isStatic : sameStatic a b = true
  name : sameName S.name C.name = .ok true
  owner : compatibleOwners a.owner b.owner = .ok true

/-- Resemblance is passed on by a member whose owner is known. -/
theorem Resembles.trans {S D C : Symbol} {a b c : Member} {x y : Bool} (h : S.Resembles D a b)
    (h' : D.Resembles C b c) (hb : isWildcard b.owner = .ok false) (hx : b.isStatic = .bool x)
    (hy : c.isStatic = .bool y) : S.Resembles C a c := by
  refine ⟨?_, ?_, compatibleOwners_trans hb h.owner h'.owner⟩
  · have hxy : x = y := same_bool_iff.mp (by rw [← hx, ← hy]; exact h'.isStatic)
    have hsame : sameStatic a b = true := h.isStatic
    rw [sameStatic, hx, hxy, ← hy] at hsame
    exact hsame
  · exact (congrFun (sameName_eq_of_same h.name) C.name).symm.trans h'.name

end Symbol

variable {S D C : Symbol}

/-- A method of which no data is known matches none. -/
theorem sameMethod_of_none (h : S.member = none) : sameMethod S C = .ok false := by
  rw [sameMethod, h]
  rfl

/-- Methods that are no constructors match when they resemble each other and have as many
parameters. -/
theorem sameMethod_iff {a : Member} (ha : S.member = some a)
    (hplain : a.isConstructor.truthy = false) :
    sameMethod S C = .ok true ↔
      ∃ b, C.member = some b ∧ b.isConstructor.truthy = false ∧ a.arity = b.arity ∧
        S.Resembles C a b := by
  unfold sameMethod
  rw [ha]
  cases hC : C.member with
  | none =>
    constructor
    · intro h
      cases h
    · rintro ⟨b, hb, -⟩
      cases hb
  | some b =>
    cases hctor : b.isConstructor.truthy with
    | true =>
      simp only [hplain, hctor, Bool.or_true, Bool.false_and, Bool.false_eq_true, if_true, if_false]
      constructor
      · intro h
        cases h
      · rintro ⟨b', hb', hplain', -⟩
        cases hb'
        exact absurd (hctor.symm.trans hplain') Bool.noConfusion
    | false =>
      simp only [hplain, hctor, Bool.or_self, Bool.false_eq_true, if_false]
      constructor
      · intro h
        split at h
        · cases h
        · rename_i hstatic
          obtain ⟨named, hnamed, h⟩ := Result.bind_eq_ok.mp h
          split at h
          · cases h
          · rename_i hname
            split at h
            · cases h
            · rename_i harity
              refine ⟨b, rfl, hctor, by simpa using harity, by simpa using hstatic, ?_, h⟩
              rw [hnamed]
              simpa using hname
      · rintro ⟨b', hb', -, harity, hresembles⟩
        cases hb'
        simp only [hresembles.isStatic, hresembles.name, harity, Result.ok_bind, Bool.not_true,
          Bool.false_eq_true, if_false, bne_self_eq_false]
        exact hresembles.owner

/-- Properties match when they resemble each other. -/
theorem sameProperty_iff :
    sameProperty S C = .ok true ↔
      ∃ a b, S.member = some a ∧ C.member = some b ∧ S.Resembles C a b := by
  unfold sameProperty
  cases hS : S.member with
  | none =>
    constructor
    · intro h
      cases h
    · rintro ⟨a, b, ha, -⟩
      cases ha
  | some a =>
    cases hC : C.member with
    | none =>
      constructor
      · intro h
        cases h
      · rintro ⟨a, b, -, hb, -⟩
        cases hb
    | some b =>
      constructor
      · intro h
        dsimp only at h
        split at h
        · cases h
        · rename_i hstatic
          obtain ⟨named, hnamed, h⟩ := Result.bind_eq_ok.mp h
          split at h
          · cases h
          · rename_i hname
            refine ⟨a, b, rfl, rfl, by simpa using hstatic, ?_, h⟩
            rw [hnamed]
            simpa using hname
      · rintro ⟨a', b', ha, hb, hresembles⟩
        cases ha
        cases hb
        simp only [hresembles.isStatic, hresembles.name, Result.ok_bind, Bool.not_true,
          Bool.false_eq_true, if_false]
        exact hresembles.owner

/-! ## Symbols -/

theorem denotesSame_eq_sameMethod {table : Option AliasTable} (hS : S.kind.family = .method)
    (hC : C.kind.family = .method) : denotesSame table S C = sameMethod S C := by
  rw [denotesSame, hS, hC, if_neg (not_not_intro rfl)]

theorem denotesSame_eq_sameProperty {table : Option AliasTable} (hS : S.kind.family = .property)
    (hC : C.kind.family = .property) : denotesSame table S C = sameProperty S C := by
  rw [denotesSame, hS, hC, if_neg (not_not_intro rfl)]

namespace Symbol

/-- The owner of a symbol is known: if it is a member, no wildcard type owns it. -/
def OwnerKnown (S : Symbol) : Prop := ∀ m, S.member = some m → isWildcard m.owner = .ok false

/-- A regular constructor that is not misnamed is named like its owner. -/
theorem Regular.namedLikeOwner (h : S.Regular) (hctor : S.IsConstructor) (hmis : ¬ S.Misnamed) :
    S.NamedLikeOwner := by
  obtain ⟨m, hm, htruthy⟩ := hctor.exists_member
  obtain ⟨owner, -, howner, -, hflag⟩ := h.of_member hm
  have hkind : S.kind = .constructor := by
    rw [hflag] at htruthy
    exact eq_of_beq htruthy
  obtain ⟨named, hnamed⟩ := sameName_total (Or.inr h.name) (Or.inr ⟨owner, howner⟩)
  refine ⟨m, hm, ?_⟩
  cases named with
  | true => exact hnamed
  | false => exact absurd ⟨hkind, m, hm, hnamed⟩ hmis

end Symbol

/-- A method that is no constructor matches what each method with a known owner matches that it
matches itself. -/
theorem sameMethod_trans {a : Member} (hD : D.Regular) (hC : C.Regular) (hknown : D.OwnerKnown)
    (ha : S.member = some a) (hplain : a.isConstructor.truthy = false)
    (h : sameMethod S D = .ok true) (h' : sameMethod D C = .ok true) :
    sameMethod S C = .ok true := by
  obtain ⟨b, hb, hplain', harity, hSD⟩ := (sameMethod_iff ha hplain).mp h
  obtain ⟨c, hc, hplain'', harity', hDC⟩ := (sameMethod_iff hb hplain').mp h'
  obtain ⟨-, x, -, hx, -⟩ := hD.of_member hb
  obtain ⟨-, y, -, hy, -⟩ := hC.of_member hc
  exact (sameMethod_iff ha hplain).mpr
    ⟨c, hc, hplain'', harity.trans harity', hSD.trans hDC (hknown b hb) hx hy⟩

/-- A property matches what each property with a known owner matches that it matches itself. -/
theorem sameProperty_trans (hD : D.Regular) (hC : C.Regular) (hknown : D.OwnerKnown)
    (h : sameProperty S D = .ok true) (h' : sameProperty D C = .ok true) :
    sameProperty S C = .ok true := by
  obtain ⟨a, b, ha, hb, hSD⟩ := sameProperty_iff.mp h
  obtain ⟨b', c, hb', hc, hDC⟩ := sameProperty_iff.mp h'
  obtain rfl : b = b' := Option.some_inj.mp (hb.symm.trans hb')
  obtain ⟨-, x, -, hx, -⟩ := hD.of_member hb
  obtain ⟨-, y, -, hy, -⟩ := hC.of_member hc
  exact sameProperty_iff.mpr ⟨a, c, ha, hc, hSD.trans hDC (hknown b hb) hx hy⟩

/-- Matching without an alias table is transitive through a symbol whose owner is known and that
is no misnamed constructor. -/
theorem denotesSame_trans (hD : D.Regular) (hC : C.Regular) (hknown : D.OwnerKnown)
    (hmis : ¬ D.Misnamed) (h : denotesSame none S D = .ok true)
    (h' : denotesSame none D C = .ok true) : denotesSame none S C = .ok true := by
  have hfam := family_eq_of_denotesSame h
  have hfam' := family_eq_of_denotesSame h'
  cases hplain : S.kind.isMember with
  | false => rwa [← denotesSame_eq_of_plain hplain h]
  | true =>
    rcases SymbolKind.isMember_iff.mp hplain with hmethod | hproperty
    · by_cases hctor : S.IsConstructor
      · -- constructors ask for the owner of the other one, which is named like the one between
        have hDctor := isConstructor_of_denotesSame hctor h
        rwa [← denotesSame_eq_of_constructor hctor (hD.namedLikeOwner hDctor hmis) h]
      · -- only here, and for properties, the owner has to be known
        have hDfam := hfam.trans hmethod
        have hCfam := hfam'.trans hDfam
        rw [denotesSame_eq_sameMethod hmethod hDfam] at h
        rw [denotesSame_eq_sameMethod hDfam hCfam] at h'
        rw [denotesSame_eq_sameMethod hmethod hCfam]
        cases ha : S.member with
        | none =>
          rw [sameMethod_of_none ha] at h
          cases h
        | some a =>
          refine sameMethod_trans hD hC hknown ha (Bool.eq_false_iff.mpr fun htruthy => ?_) h h'
          exact hctor (.of_member hmethod ha htruthy)
    · have hDfam := hfam.trans hproperty
      have hCfam := hfam'.trans hDfam
      rw [denotesSame_eq_sameProperty hproperty hDfam] at h
      rw [denotesSame_eq_sameProperty hDfam hCfam] at h'
      rw [denotesSame_eq_sameProperty hproperty hCfam]
      exact sameProperty_trans hD hC hknown h h'

end ScriptNavigation
