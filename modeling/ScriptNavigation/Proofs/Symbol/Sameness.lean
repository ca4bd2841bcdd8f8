/-
# Symbols that match the same symbols

Names match when they are texts with the same folding, so names that match are equal for
every later comparison.  A symbol that is no member is compared by its family and its name
alone: a symbol that it matches, without an alias table, matches exactly what it matches
itself.  A constructor is compared by its name and the owner of the other one, so the same
holds of it as soon as the other one is named like its owner.  An alias table only adds
matches.

Main facts:

* `sameName_eq_of_same`: names that match are matched by the same names.
* `denotesSame_eq_of_plain`: no members that match, match the same symbols.
* `denotesSame_eq_of_constructor`: constructors that match, match the same symbols.
* `denotesSame_of_none`: a match without an alias table is a match with one.
-/
import ScriptNavigation.Proofs.Symbol.Matching

namespace ScriptNavigation

/-! ## Names -/

/-- Names that match are texts with the same folding. -/
theorem sameName_eq_true {a b : Datum} (h : sameName a b = .ok true) :
    ∃ x y, a = .str x ∧ b = .str y ∧ Text.foldCase x = Text.foldCase y := by
  unfold sameName at h
  split at h
  · cases h
  · obtain ⟨u, hu, h⟩ := Result.bind_eq_ok.mp h
    obtain ⟨v, hv, h⟩ := Result.bind_eq_ok.mp h
    obtain ⟨x, hx, rfl⟩ := Result.map_eq_ok.mp hu
    obtain ⟨y, hy, rfl⟩ := Result.map_eq_ok.mp hv
    have ha : a = .str x := by
      cases a <;> cases hx
      rfl
    have hb : b = .str y := by
      cases b <;> cases hy
      rfl
    exact ⟨x, y, ha, hb, eq_of_beq (Except.ok.inj h)⟩

/-- Names that match are matched by the same names. -/
theorem sameName_eq_of_same {a b : Datum} (h : sameName a b = .ok true) :
    sameName b = sameName a := by
  obtain ⟨x, y, rfl, rfl, hfold⟩ := sameName_eq_true h
  have hfolded : (Value.str y : Datum).folded = (Value.str x : Datum).folded :=
    congrArg Except.ok hfold.symm
  funext c
  rw [sameName, sameName, hfolded]
  rfl

/-- Two names that match the same one match each other's matches. -/
theorem sameName_eq_of_common {a b c : Datum} (ha : sameName a c = .ok true)
    (hb : sameName b c = .ok true) : sameName b = sameName a :=
  (sameName_eq_of_same hb).symm.trans (sameName_eq_of_same ha)

/-! ## Symbols -/

variable {S R : Symbol}

/-- Functions are compared by their names where there is no alias table. -/
theorem sameFunction_none (a b : Datum) : sameFunction none a b = sameName a b := by
  rw [sameFunction]
  cases sameName a b with
  | error e => rfl
  | ok same => cases same <;> rfl

/-- What a symbol that is no member is compared by. -/
def Symbol.base (S : Symbol) : Result Datum :=
  if S.kind.family = .variableName then variableBase S.name else .ok S.name

/-- Symbols that are no members are compared by family and name. -/
theorem denotesSame_plain (hS : S.kind.isMember = false) (hknown : S.kind ≠ .unknown)
    (C : Symbol) :
    denotesSame none S C =
      if S.kind.family ≠ C.kind.family then .ok false
      else S.base >>= fun a => C.base >>= fun b => sameName a b := by
  rw [denotesSame]
  by_cases hf : S.kind.family = C.kind.family
  · rw [if_neg (not_not_intro hf), if_neg (not_not_intro hf), Symbol.base, Symbol.base, ← hf]
    cases hk : S.kind
    case unknown => exact absurd hk hknown
    case constructor | method | property =>
      rw [hk] at hS
      cases hS
    case function | workflow => exact sameFunction_none S.name C.name
    all_goals rfl
  · rw [if_pos hf, if_pos hf]
    rfl

/-- A symbol that is no member matches the same symbols as each symbol that it matches. -/
theorem denotesSame_eq_of_plain (hS : S.kind.isMember = false)
    (h : denotesSame none S R = .ok true) : denotesSame none R = denotesSame none S := by
  have hfam := family_eq_of_denotesSame h
  have hknown := known_of_denotesSame h
  have hR : R.kind.isMember = false ∧ R.kind ≠ .unknown := by
    -- the kinds that are members, and the unknown one, make up families of their own
    revert hfam hS hknown
    cases S.kind <;> cases R.kind <;> decide
  rw [denotesSame_plain hS hknown, if_neg (not_not_intro hfam.symm), Result.bind_eq_ok] at h
  obtain ⟨a, ha, h⟩ := h
  obtain ⟨b, hb, h⟩ := Result.bind_eq_ok.mp h
  funext C
  rw [denotesSame_plain hS hknown, denotesSame_plain hR.1 hR.2, hfam, ha, hb, Result.ok_bind,
    Result.ok_bind, sameName_eq_of_same h]

/-! ## Constructors -/

namespace Symbol

/-- A symbol of the family of methods that is known to be a constructor. -/
def IsConstructor (S : Symbol) : Prop :=
  S.kind.family = .method ∧ S.isConstructor.truthy = true

/-- A symbol is named like the owner of its member, up to case. -/
def NamedLikeOwner (S : Symbol) : Prop :=
  ∃ m, S.member = some m ∧ sameName S.name m.owner = .ok true

/-- A constructor has the data of a member that is known to be one. -/
theorem IsConstructor.exists_member (hS : S.IsConstructor) :
    ∃ m, S.member = some m ∧ m.isConstructor.truthy = true := by
  obtain ⟨-, hctor⟩ := hS
  unfold isConstructor at hctor
  split at hctor
  · exact ⟨_, ‹_›, hctor⟩
  · cases hctor

theorem IsConstructor.of_member {m : Member} (hfam : S.kind.family = .method)
    (hm : S.member = some m) (hctor : m.isConstructor.truthy = true) : S.IsConstructor :=
  ⟨hfam, by rw [isConstructor, hm]; exact hctor⟩

end Symbol

/-- A constructor is compared by its name with the owners of constructors with as many
parameters. -/
theorem denotesSame_constructor {m : Member} (hfam : S.kind.family = .method)
    (hm : S.member = some m) (hctor : m.isConstructor.truthy = true) (table : Option AliasTable)
    (C : Symbol) :
    denotesSame table S C =
      if SymbolKind.method ≠ C.kind.family then .ok false
      else match C.member with
        | some b =>
          if b.isConstructor.truthy && m.arity == b.arity then sameName S.name b.owner
          else .ok false
        | none => .ok false := by
  rw [denotesSame, hfam]
  by_cases hC : SymbolKind.method = C.kind.family
  · rw [if_neg (not_not_intro hC), if_neg (not_not_intro hC)]
    dsimp only
    rw [sameMethod, hm]
    cases C.member with
    | none => rfl
    | some b =>
      simp only [hctor, Bool.true_or, if_true, Bool.true_and]
      rfl
  · rw [if_pos hC, if_pos hC]
    rfl

/-- A constructor matches only constructors, with as many parameters and its name as owner. -/
theorem exists_owner_of_denotesSame {m : Member} {table : Option AliasTable}
    (hfam : S.kind.family = .method) (hm : S.member = some m)
    (hctor : m.isConstructor.truthy = true) (h : denotesSame table S R = .ok true) :
    ∃ b, R.member = some b ∧ b.isConstructor.truthy = true ∧ m.arity = b.arity ∧
      sameName S.name b.owner = .ok true := by
  rw [denotesSame_constructor hfam hm hctor] at h
  split at h
  · cases h
  · split at h
    · rename_i b hb
      split at h
      · rename_i hsame
        rw [Bool.and_eq_true, beq_iff_eq] at hsame
        exact ⟨b, hb, hsame.1, hsame.2, h⟩
      · cases h
    · cases h

/-- What a constructor matches is a constructor. -/
theorem isConstructor_of_denotesSame {table : Option AliasTable} (hS : S.IsConstructor)
    (h : denotesSame table S R = .ok true) : R.IsConstructor := by
  obtain ⟨m, hm, hctor⟩ := hS.exists_member
  obtain ⟨b, hb, hctor', -⟩ := exists_owner_of_denotesSame hS.1 hm hctor h
  exact .of_member ((family_eq_of_denotesSame h).trans hS.1) hb hctor'

/-- A constructor matches the same symbols as each constructor that it matches and that is
named like its owner. -/
theorem denotesSame_eq_of_constructor {table : Option AliasTable} (hS : S.IsConstructor)
    (hR : R.NamedLikeOwner) (h : denotesSame table S R = .ok true) :
    denotesSame table R = denotesSame table S := by
  obtain ⟨m, hm, hctor⟩ := hS.exists_member
  obtain ⟨b, hb, hctor', harity, howner⟩ := exists_owner_of_denotesSame hS.1 hm hctor h
  obtain ⟨b', hb', hname⟩ := hR
  obtain rfl : b = b' := Option.some_inj.mp (hb.symm.trans hb')
  funext C
  rw [denotesSame_constructor hS.1 hm hctor,
    denotesSame_constructor ((family_eq_of_denotesSame h).trans hS.1) hb hctor', harity,
    sameName_eq_of_common howner hname]

/-! ## Alias tables -/

/-- A match without an alias table is a match with one. -/
theorem denotesSame_of_none (table : Option AliasTable) (h : denotesSame none S R = .ok true) :
    denotesSame table S R = .ok true := by
  rw [denotesSame] at h ⊢
  by_cases hf : S.kind.family = R.kind.family
  · rw [if_neg (not_not_intro hf)] at h ⊢
    cases hk : S.kind.family
    all_goals simp only [hk] at h ⊢
    case function =>
      rw [sameFunction_none] at h
      simp only [sameFunction, h, Result.ok_bind, if_true]
      rfl
    all_goals exact h
  · rw [if_pos hf] at h
    cases h

end ScriptNavigation
