/-
# Matching in either direction

Without an alias table a symbol that can be compared matches itself, with three exceptions: the
unknown symbol, a member of which no data is known, and a constructor that is not named like its
owner.  Matching is symmetric where constructors are named like their owners.  For methods and
properties it is so because resemblance is, though an owner that stands for any type may be on one
side only.  All other symbols that match, match the same symbols, and so the first of the two.

Main facts:

* `compatibleOwners_symm`, `Symbol.Resembles.symm`: owners and members in either direction.
* `denotesSame_self_iff`: which symbols match themselves.
* `Symbol.Regular.denotesSame_of_agrees`: a regular symbol matches itself wherever it stands.
* `Symbol.Misnamed.not_denotesSame`: a misnamed constructor does not.
* `denotesSame_symm`: a match is one in the other direction.
* `denotesSame_comm_and_self`: comparing two symbols in either direction, and one with itself.
-/
import ScriptNavigation.Proofs.Symbol.KnownOwner

namespace ScriptNavigation

/-! ## Names and owners -/

/-- Names match in either direction. -/
theorem sameName_symm {a b : Datum} (h : sameName a b = .ok true) : sameName b a = .ok true := by
  obtain ⟨x, -, rfl, -, -⟩ := sameName_eq_true h
  rw [sameName_eq_of_same h, sameName_text, sameFolded_self]

/-- Owners are compatible in either direction. -/
theorem compatibleOwners_symm {a b : Datum} (ha : IsTextOrNull a) (hb : IsTextOrNull b)
    (h : compatibleOwners a b = .ok true) : compatibleOwners b a = .ok true := by
  obtain ⟨anyA, hanyA⟩ := isWildcard_total ha
  obtain ⟨anyB, hanyB⟩ := isWildcard_total hb
  simp only [compatibleOwners, hanyA, hanyB, Result.ok_bind] at h ⊢
  cases anyA with
  | true => cases anyB <;> rfl
  | false =>
    cases anyB with
    | true => rfl
    | false => exact sameName_symm h

theorem compatibleOwners_refl {a : Datum} (ha : IsTextOrNull a) :
    compatibleOwners a a = .ok true := by
  rcases ha with rfl | ⟨owner, rfl⟩
  · rfl
  · exact compatibleOwners_self owner

namespace Symbol

variable {S C : Symbol} {a b : Member}

/-- A symbol of the declared types, as far as symbols are compared: its name is a text, the owner
of its member is a text or missing, and whether the member is static is a truth value. -/
structure Comparable (S : Symbol) : Prop extends S.HasTexts where
  isStatic : ∀ m, S.member = some m → ∃ isStatic, m.isStatic = .bool isStatic

/-- Members resemble each other in either direction. -/
theorem Resembles.symm (hS : S.Comparable) (hC : C.Comparable) (ha : S.member = some a)
    (hb : C.member = some b) (h : S.Resembles C a b) : C.Resembles S b a := by
  obtain ⟨x, hx⟩ := hS.isStatic a ha
  obtain ⟨y, hy⟩ := hC.isStatic b hb
  refine ⟨?_, sameName_symm h.name,
    compatibleOwners_symm (hS.owner a ha) (hC.owner b hb) h.owner⟩
  have hsame : sameStatic a b = true := h.isStatic
  rw [sameStatic, hx, hy, same_bool_iff] at hsame
  rw [sameStatic, hx, hy, same_bool_iff, hsame]

/-- A member resembles itself. -/
theorem Comparable.resembles_self (hS : S.Comparable) (ha : S.member = some a) :
    S.Resembles S a a := by
  obtain ⟨name, hname⟩ := hS.name
  obtain ⟨x, hx⟩ := hS.isStatic a ha
  refine ⟨?_, ?_, compatibleOwners_refl (hS.owner a ha)⟩
  · rw [sameStatic, hx, same_bool_iff]
  · rw [hname, sameName_text, sameFolded_self]

end Symbol

/-! ## A symbol and itself -/

variable {S C : Symbol}

/-- A symbol that is no member and not unknown matches itself. -/
theorem denotesSame_self_plain (hS : ∃ name, S.name = .str name) (hplain : S.kind.isMember = false)
    (hknown : S.kind ≠ .unknown) : denotesSame none S S = .ok true := by
  obtain ⟨name, hname⟩ := hS
  have hbase : ∃ base, S.base = .ok (.str base) := by
    rw [Symbol.base, hname]
    split
    · exact ⟨_, rfl⟩
    · exact ⟨name, rfl⟩
  obtain ⟨base, hbase⟩ := hbase
  rw [denotesSame_plain hplain hknown, if_neg (not_not_intro rfl), hbase, Result.ok_bind,
    Result.ok_bind, sameName_text, sameFolded_self]

/-- A constructor matches itself exactly if it is named like its owner. -/
theorem denotesSame_self_constructor {table : Option AliasTable} (hS : S.IsConstructor) :
    denotesSame table S S = .ok true ↔ S.NamedLikeOwner := by
  obtain ⟨m, hm, hctor⟩ := hS.exists_member
  rw [denotesSame_constructor hS.1 hm hctor, hS.1, if_neg (not_not_intro rfl), hm]
  simp only [hctor, beq_self_eq_true, Bool.and_self, if_true]
  constructor
  · intro h
    exact ⟨m, hm, h⟩
  · rintro ⟨m', hm', h⟩
    obtain rfl : m = m' := Option.some_inj.mp (hm.symm.trans hm')
    exact h

/-- A method that is no constructor matches itself exactly if it has the data of a member. -/
theorem denotesSame_self_method (hS : S.Comparable) (hfam : S.kind.family = .method)
    (hplain : ¬ S.IsConstructor) :
    denotesSame none S S = .ok true ↔ ∃ m, S.member = some m := by
  rw [denotesSame_eq_sameMethod hfam hfam]
  constructor
  · intro h
    cases hm : S.member with
    | none =>
      rw [sameMethod_of_none hm] at h
      cases h
    | some m => exact ⟨m, rfl⟩
  · rintro ⟨m, hm⟩
    have hflag : m.isConstructor.truthy = false :=
      Bool.eq_false_iff.mpr fun htruthy => hplain (.of_member hfam hm htruthy)
    exact (sameMethod_iff hm hflag).mpr ⟨m, hm, hflag, rfl, hS.resembles_self hm⟩

/-- A property matches itself exactly if it has the data of a member. -/
theorem denotesSame_self_property (hS : S.Comparable) (hfam : S.kind.family = .property) :
    denotesSame none S S = .ok true ↔ ∃ m, S.member = some m := by
  rw [denotesSame_eq_sameProperty hfam hfam, sameProperty_iff]
  constructor
  · rintro ⟨m, -, hm, -⟩
    exact ⟨m, hm⟩
  · rintro ⟨m, hm⟩
    exact ⟨m, m, hm, hm, hS.resembles_self hm⟩

/-- A symbol matches itself but for the unknown symbol, a member without data, and a constructor
that is not named like its owner. -/
theorem denotesSame_self_iff (hS : S.Comparable) :
    denotesSame none S S = .ok true ↔
      S.kind ≠ .unknown ∧ (S.kind.isMember = true → ∃ m, S.member = some m) ∧
        (S.IsConstructor → S.NamedLikeOwner) := by
  have hknown : S.kind.isMember = true → S.kind ≠ .unknown := by
    cases S.kind <;> decide
  cases hmember : S.kind.isMember with
  | false =>
    have hctor : ¬ S.IsConstructor := fun hctor => Bool.false_ne_true
      (hmember.symm.trans (SymbolKind.isMember_iff.mpr (.inl hctor.1)))
    constructor
    · intro h
      exact ⟨known_of_denotesSame h, fun hmember' => absurd hmember' Bool.false_ne_true,
        fun hctor' => absurd hctor' hctor⟩
    · rintro ⟨hknown, -⟩
      exact denotesSame_self_plain hS.name hmember hknown
  | true =>
    have hknown := hknown hmember
    rcases SymbolKind.isMember_iff.mp hmember with hmethod | hproperty
    · by_cases hctor : S.IsConstructor
      · rw [denotesSame_self_constructor hctor]
        obtain ⟨m, hm, -⟩ := hctor.exists_member
        exact ⟨fun h => ⟨hknown, fun _ => ⟨m, hm⟩, fun _ => h⟩, fun h => h.2.2 hctor⟩
      · rw [denotesSame_self_method hS hmethod hctor]
        exact ⟨fun h => ⟨hknown, fun _ => h, fun h => absurd h hctor⟩, fun h => h.2.1 rfl⟩
    · have hctor : ¬ S.IsConstructor := fun hctor => nomatch hproperty.symm.trans hctor.1
      rw [denotesSame_self_property hS hproperty]
      exact ⟨fun h => ⟨hknown, fun _ => h, fun h => absurd h hctor⟩, fun h => h.2.1 rfl⟩

/-! ## Regular symbols and themselves -/

/-- A symbol is compared by its kind, name and data of a member alone. -/
theorem denotesSame_congr {table : Option AliasTable} {R : Symbol} (hR : R.Agrees S) :
    denotesSame table S R = denotesSame table S S := by
  obtain ⟨hkind, hname, hmember⟩ := hR
  simp only [denotesSame, sameMethod, sameProperty, hkind, hname, hmember]

theorem Symbol.Regular.comparable (h : S.Regular) : S.Comparable := by
  refine ⟨h.hasTexts, ?_⟩
  intro m hm
  obtain ⟨-, isStatic, -, hstatic, -⟩ := h.of_member hm
  exact ⟨isStatic, hstatic⟩

/-- A regular symbol matches itself, and any symbol with its kind, name and data of a member,
unless it is a misnamed constructor. -/
theorem Symbol.Regular.denotesSame_of_agrees {table : Option AliasTable} {R : Symbol}
    (h : S.Regular) (hR : R.Agrees S) (hmis : ¬ S.Misnamed) :
    denotesSame table S R = .ok true := by
  rw [denotesSame_congr hR]
  apply denotesSame_of_none
  rw [denotesSame_self_iff h.comparable]
  refine ⟨h.known, ?_, fun hctor => h.namedLikeOwner hctor hmis⟩
  intro hmember
  obtain ⟨m, -, -, hm, -⟩ := h.member hmember
  exact ⟨m, hm⟩

/-- A misnamed constructor matches no symbol with its kind, name and data of a member. -/
theorem Symbol.Misnamed.not_denotesSame {table : Option AliasTable} {R : Symbol}
    (hmis : S.Misnamed) (h : S.Regular) (hR : R.Agrees S) : denotesSame table S R ≠ .ok true := by
  obtain ⟨hkind, m, hm, hname⟩ := hmis
  obtain ⟨-, -, -, -, hflag⟩ := h.of_member hm
  rw [hkind] at hflag
  have hctor : S.IsConstructor := .of_member (by rw [hkind]; rfl) hm (by rw [hflag]; rfl)
  rw [denotesSame_congr hR, ne_eq, denotesSame_self_constructor hctor]
  rintro ⟨m', hm', hnamed⟩
  obtain rfl : m = m' := Option.some_inj.mp (hm.symm.trans hm')
  exact Bool.false_ne_true (Except.ok.inj (hname.symm.trans hnamed))

/-! ## Two symbols -/

/-- Methods that are no constructors match in either direction. -/
theorem sameMethod_symm {a : Member} (hS : S.Comparable) (hC : C.Comparable)
    (ha : S.member = some a) (hplain : a.isConstructor.truthy = false)
    (h : sameMethod S C = .ok true) : sameMethod C S = .ok true := by
  obtain ⟨b, hb, hplain', harity, hresembles⟩ := (sameMethod_iff ha hplain).mp h
  exact (sameMethod_iff hb hplain').mpr
    ⟨a, ha, hplain, harity.symm, hresembles.symm hS hC ha hb⟩

/-- Properties match in either direction. -/
theorem sameProperty_symm (hS : S.Comparable) (hC : C.Comparable)
    (h : sameProperty S C = .ok true) : sameProperty C S = .ok true := by
  obtain ⟨a, b, ha, hb, hresembles⟩ := sameProperty_iff.mp h
  exact sameProperty_iff.mpr ⟨b, a, hb, ha, hresembles.symm hS hC ha hb⟩

/-- A match is one in the other direction too, if constructors are named like their owners. -/
theorem denotesSame_symm (hS : S.Comparable) (hC : C.Comparable)
    (hSname : S.IsConstructor → S.NamedLikeOwner) (hCname : C.IsConstructor → C.NamedLikeOwner)
    (h : denotesSame none S C = .ok true) : denotesSame none C S = .ok true := by
  have hfam := family_eq_of_denotesSame h
  cases hmember : S.kind.isMember with
  | false =>
    -- the second symbol matches what the first one matches, and that is itself
    rw [denotesSame_eq_of_plain hmember h]
    exact denotesSame_self_plain hS.name hmember (known_of_denotesSame h)
  | true =>
    rcases SymbolKind.isMember_iff.mp hmember with hmethod | hproperty
    · by_cases hctor : S.IsConstructor
      · rw [denotesSame_eq_of_constructor hctor (hCname (isConstructor_of_denotesSame hctor h)) h,
          denotesSame_self_constructor hctor]
        exact hSname hctor
      · have hmethod' := hfam.trans hmethod
        rw [denotesSame_eq_sameMethod hmethod hmethod'] at h
        rw [denotesSame_eq_sameMethod hmethod' hmethod]
        cases ha : S.member with
        | none =>
          rw [sameMethod_of_none ha] at h
          cases h
        | some a =>
          exact sameMethod_symm hS hC ha
            (Bool.eq_false_iff.mpr fun htruthy => hctor (.of_member hmethod ha htruthy)) h
    · have hproperty' := hfam.trans hproperty
      rw [denotesSame_eq_sameProperty hproperty hproperty'] at h
      rw [denotesSame_eq_sameProperty hproperty' hproperty]
      exact sameProperty_symm hS hC h

/-- Without an alias table two symbols compare alike in either direction, if those that are known
to be constructors are named like their owners.  A symbol matches itself exactly if it is not
unknown, has the data of a member if it is one, and is named like its owner if it is a
constructor. -/
theorem denotesSame_comm_and_self :
    (∀ S C : Symbol, S.Comparable → C.Comparable →
      (S.isConstructor.truthy = true → S.NamedLikeOwner) →
      (C.isConstructor.truthy = true → C.NamedLikeOwner) →
        ∃ same, denotesSame none S C = .ok same ∧ denotesSame none C S = .ok same) ∧
      ∀ S : Symbol, S.Comparable → ∃ same, denotesSame none S S = .ok same ∧
        (same = true ↔ S.kind ≠ .unknown ∧
          (S.kind.isMember = true → ∃ m, S.member = some m) ∧
          (S.IsConstructor → S.NamedLikeOwner)) := by
  constructor
  · intro S C hS hC hSname hCname
    obtain ⟨same, hsame⟩ := denotesSame_total none hS.toHasTexts hC.toHasTexts
    obtain ⟨same', hsame'⟩ := denotesSame_total none hC.toHasTexts hS.toHasTexts
    have hSname : S.IsConstructor → S.NamedLikeOwner := fun hctor => hSname hctor.2
    have hCname : C.IsConstructor → C.NamedLikeOwner := fun hctor => hCname hctor.2
    have hiff : same = true ↔ same' = true := by
      constructor
      · rintro rfl
        exact Except.ok.inj (hsame'.symm.trans (denotesSame_symm hS hC hSname hCname hsame))
      · rintro rfl
        exact Except.ok.inj (hsame.symm.trans (denotesSame_symm hC hS hCname hSname hsame'))
    rw [← Bool.eq_iff_iff] at hiff
    exact ⟨same, hsame, by rw [hsame', hiff]⟩
  · intro S hS
    obtain ⟨same, hsame⟩ := denotesSame_total none hS.toHasTexts hS.toHasTexts
    refine ⟨same, hsame, ?_⟩
    rw [← denotesSame_self_iff hS, hsame]
    exact ⟨congrArg Except.ok, Except.ok.inj⟩

namespace Engine

/-- The start of an engine. -/
def start : Symbol :=
  ⟨.method, .str "Start", Extent.nowhere.withText .null, some { owner := .str "Engine" }⟩

/-- A method called to start something of a type that is not known. -/
def started : Symbol :=
  ⟨.method, .str "START", Extent.nowhere.withText .null, some { owner := .str "object" }⟩

/-- A constructor of engines under another name. -/
def renamed : Symbol :=
  ⟨.constructor, .str "Motor", Extent.nowhere.withText .null,
    some { owner := .str "Engine", isConstructor := .bool true }⟩

end Engine

theorem denotesSame_comm_and_self_engine :
    denotesSame none Engine.start Engine.started = .ok true ∧
      denotesSame none Engine.started Engine.start = .ok true ∧
      denotesSame none Engine.renamed Engine.renamed = .ok false := by
  have hforth : (denotesSame none Engine.start Engine.started).toOption = some true := by
    decide +kernel
  have hnames : (sameName (.str "Motor") (.str "Engine")).toOption = some false := by
    decide +kernel
  have hcomparable (kind : SymbolKind) (name owner : String) (flag : Bool) : Symbol.Comparable
      ⟨kind, .str name, Extent.nowhere.withText .null,
        some { owner := .str owner, isConstructor := .bool flag }⟩ :=
    ⟨⟨⟨name, rfl⟩, fun m hm => by cases hm; exact .inr ⟨owner, rfl⟩⟩,
      fun m hm => by cases hm; exact ⟨false, rfl⟩⟩
  obtain ⟨hcomm, hself⟩ := denotesSame_comm_and_self
  obtain ⟨same, hsame, hback⟩ := hcomm Engine.start Engine.started (hcomparable ..)
    (hcomparable ..) (fun h => nomatch h) (fun h => nomatch h)
  obtain ⟨alike, halike, hiff⟩ := hself Engine.renamed (hcomparable ..)
  have hforth := Result.eq_ok_of_toOption hforth
  obtain rfl : same = true := Except.ok.inj (hsame.symm.trans hforth)
  have hmisnamed : ¬ Engine.renamed.NamedLikeOwner := by
    rintro ⟨m, hm, hnamed⟩
    cases hm
    exact nomatch (Result.eq_ok_of_toOption hnames).symm.trans hnamed
  have hunlike : alike = false :=
    Bool.eq_false_iff.mpr fun hmatch => hmisnamed ((hiff.mp hmatch).2.2 ⟨rfl, rfl⟩)
  rw [hunlike] at halike
  exact ⟨hforth, hback, halike⟩

end ScriptNavigation
