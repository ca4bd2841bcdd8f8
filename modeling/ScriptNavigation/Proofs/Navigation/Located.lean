/-
# Locating the references to a symbol

A symbol that stands at its name contains the position at which it starts, so the node that
it stands at answers a search at that position, and the search finds that symbol or an
earlier one.  An access to a member is the exception: a search asks whether the access as a
whole contains the position, and an extent reaches over its first line only.  Where the name
of the member stands on a later line than the access starts on, the references report the
name, but no search finds it there.

Main facts:

* `InRange.ofOffset`: the positions of offsets have a line and a column from one on.
* `exists_hit_of_standing`: a node answers a search at the start of what stands there.
* `symbolUnder_of_mem_references`: the references to a symbol can be located.
* `BrokenAccess.not_located`: an access spread over two lines cannot.
-/
import ScriptNavigation.Proofs.Navigation.Totality

namespace ScriptNavigation

/-! ## Positions that can be asked for -/

namespace Position

/-- A position has a line and a column from one on. -/
def InRange (p : Position) : Prop := 1 ≤ p.line ∧ 1 ≤ p.column

theorem InRange.step {p : Position} (h : p.InRange) (c : Char) : (p.step c).InRange := by
  obtain ⟨hline, hcolumn⟩ := h
  unfold Position.step
  split
  · exact ⟨by dsimp only; omega, Int.le_refl 1⟩
  · exact ⟨hline, by dsimp only; omega⟩

theorem InRange.after {p : Position} (h : p.InRange) (cs : List Char) : (p.after cs).InRange := by
  induction cs generalizing p with
  | nil => exact h
  | cons c cs ih => exact ih (h.step c)

/-- The positions of offsets have a line and a column from one on. -/
theorem InRange.ofOffset (cs : List Char) (offset : Nat) : (ofOffset cs offset).InRange :=
  InRange.after ⟨Int.le_refl 1, Int.le_refl 1⟩ _

end Position

namespace Extent

/-- An extent that was built from a span starts in range. -/
theorem inRange_ofSpan {source : String} {start stop : Int} {file : Option String}
    {e : Extent String} (h : ofSpan source start stop file = .ok e) : e.start.InRange := by
  unfold ofSpan at h
  dsimp only at h
  split at h
  · cases h
    exact .ofOffset _ _
  · cases h

variable {σ τ : Type}

/-- A piece of an extent starts in range if the extent does. -/
theorem inRange_piece {e : Extent σ} (h : e.start.InRange) (offset length : Nat) (text : τ) :
    (e.piece offset length text).start.InRange := by
  obtain ⟨hline, hcolumn⟩ := h
  refine ⟨hline, ?_⟩
  rw [piece]
  dsimp only
  omega

/-- The extent of a name starts in range if the extent around it does. -/
theorem inRange_ofName {e : Extent String} (h : e.start.InRange) (whole : Bool) (name : String) :
    (e.ofName whole name).start.InRange := by
  have hname : ((e.named? name).getD e).start.InRange := by
    cases hn : e.named? name with
    | none => exact h
    | some piece =>
      unfold named? at hn
      split at hn
      · cases hn
      · obtain ⟨i, -, rfl⟩ := Option.map_eq_some_iff.mp hn
        exact inRange_piece h i _ name
  cases whole with
  | true => exact h
  | false => exact hname

end Extent

/-- Every extent of a script was built from a span of offsets into its source. -/
def Script.PlacedBySpans (s : Script) : Prop :=
  ∀ o ∈ s.nodes, ∃ start stop, Extent.ofSpan s.source start stop s.file = .ok o.extent

namespace Occurrence

/-- The extent of the name of a property starts in range if the declaration does. -/
theorem inRange_propertyExtent {o : Occurrence} (h : o.extent.start.InRange) :
    o.propertyExtent.start.InRange := by
  rw [propertyExtent]
  cases hf : o.extent.findAfterSigil? (o.textIn .name) with
  | none => exact Extent.inRange_ofName h false _
  | some e =>
    obtain ⟨i, -, rfl⟩ := Option.map_eq_some_iff.mp hf
    exact Extent.inRange_piece h (i + 1) (o.textIn .name).toList.length ()

/-- An access names a member that starts within the access, as far as an extent reaches. -/
def ReachesMember (o : Occurrence) : Prop :=
  ∃ member, o.childIn? .member = some member ∧ o.extent.contains member.extent.start = true

namespace StandsIn

variable {s : Script} {o : Occurrence}

theorem inRange (ho : o.StandsIn s) (hplaced : s.PlacedBySpans) : o.extent.start.InRange := by
  obtain ⟨start, stop, hspan⟩ := hplaced o ho.mem_nodes
  exact Extent.inRange_ofSpan hspan

theorem inRange_memberExtent (ho : o.StandsIn s) (hplaced : s.PlacedBySpans) :
    o.memberExtent.start.InRange := by
  rw [memberExtent]
  cases hm : o.childIn? .member with
  | none => exact Extent.inRange_ofName (ho.inRange hplaced) false _
  | some member => exact (ho.childIn hm).inRange hplaced

end StandsIn

/-- A symbol of a call or an access has the extent of the member. -/
theorem start_memberExtent {o member : Occurrence} (h : o.childIn? .member = some member) :
    o.memberExtent.start = member.extent.start := by
  rw [memberExtent, h]
  rfl

end Occurrence

namespace Query

open Occurrence

variable {s : Script} {infer : Inferer} {guess : Occurrence → String} {o : Occurrence}
variable {S R : Symbol} {standing : List Symbol}

/-! ## What stands at a node -/

theorem extent_of_ofMethodCall (ho : o.StandsIn s) (hk : o.kind = .invokeMemberExpression)
    (h : Symbol.ofMethodCall infer o = .ok R) : R.extent = o.memberExtent := by
  rw [ho.ofMethodCall_eq hk, Result.bind_eq_ok] at h
  obtain ⟨owner, -, h⟩ := h
  obtain ⟨types, -, h⟩ := Result.bind_eq_ok.mp h
  cases h
  rfl

theorem extent_of_ofPropertyAccess (ho : o.StandsIn s) (hk : o.kind = .memberExpression)
    (h : Symbol.ofPropertyAccess infer o = .ok R) : R.extent = o.memberExtent := by
  rw [ho.ofPropertyAccess_eq hk, Result.bind_eq_ok] at h
  obtain ⟨owner, -, h⟩ := h
  cases h
  rfl

/-- The command that stands at a node is built from its first element. -/
theorem commandSymbol_of_standing (ho : o.StandsIn s) (hk : o.kind = .command)
    (h : Symbol.standingAt infer o = .ok standing) (hR : R ∈ standing) :
    o.commandSymbol? = some R := by
  simp only [Symbol.standingAt, hk, ho.ofCommand_eq hk, Result.map_ok] at h
  cases h
  rwa [Option.mem_toList] at hR

/-- What stands at its name at a node other than a hashtable starts in range. -/
theorem inRange_of_standing (ho : o.StandsIn s) (hplaced : s.PlacedBySpans)
    (h : Symbol.standingAt infer o = .ok standing) (hR : R ∈ standing)
    (hhash : o.kind ≠ .hashtable) : R.extent.start.InRange := by
  have hstart := ho.inRange hplaced
  cases hk : o.kind
  case command =>
    obtain ⟨name, hname, rfl⟩ :=
      Option.map_eq_some_iff.mp (commandSymbol_of_standing ho hk h hR)
    exact (ho.of_mem_childrenIn (List.mem_of_head? hname)).inRange hplaced
  all_goals simp only [Symbol.standingAt, hk] at h
  case hashtable => exact absurd hk hhash
  case functionDefinition =>
    cases (ho.ofFunction_eq hk false).symm.trans (build_of_mem_singleton h hR)
    exact Extent.inRange_ofName hstart false _
  case configurationDefinition =>
    cases (ho.ofConfiguration_eq hk false).symm.trans (build_of_mem_singleton h hR)
    exact Extent.inRange_ofName hstart false _
  case commandParameter | variableExpression =>
    cases h
    rw [List.mem_singleton.mp hR]
    exact hstart
  case typeDefinition =>
    cases (ho.ofType_eq hk false).symm.trans (build_of_mem_singleton h hR)
    exact Extent.inRange_ofName hstart false _
  case typeExpression =>
    cases (ho.ofTypeName_eq (Or.inl hk)).symm.trans (build_of_mem_singleton h hR)
    exact Extent.inRange_ofName hstart false _
  case typeConstraint =>
    cases (ho.ofTypeName_eq (Or.inr hk)).symm.trans (build_of_mem_singleton h hR)
    exact Extent.inRange_ofName hstart false _
  case functionMember =>
    cases (ho.ofMethod_eq hk false).symm.trans (build_of_mem_singleton h hR)
    exact Extent.inRange_ofName hstart false _
  case propertyMember =>
    cases (ho.ofProperty_eq hk false).symm.trans (build_of_mem_singleton h hR)
    exact inRange_propertyExtent hstart
  case invokeMemberExpression =>
    rw [extent_of_ofMethodCall ho hk (build_of_mem_singleton h hR)]
    exact ho.inRange_memberExtent hplaced
  case memberExpression =>
    rw [extent_of_ofPropertyAccess ho hk (build_of_mem_singleton h hR)]
    exact ho.inRange_memberExtent hplaced
  all_goals
    cases h
    cases hR

/-! ## Searching at the start of a symbol -/

/-- A symbol contains the position at which it starts. -/
theorem hit_start (R : Symbol) : hit R.extent.start R = some R :=
  if_pos R.extent.contains_start

theorem hitOf_start {build : Occurrence → Result Symbol} (h : build o = .ok R) :
    hitOf R.extent.start build o = .ok (some R) := by
  rw [hitOf, h, Result.map_ok, hit_start]

/-- A node answers a search at the start of what stands there; an access has to reach its
member. -/
theorem exists_hit_of_standing (ho : o.StandsIn s)
    (h : Symbol.standingAt infer o = .ok standing) (hR : R ∈ standing)
    (hhash : o.kind ≠ .hashtable) (hreach : o.kind.isMemberAccess = true → o.ReachesMember) :
    askAt ((Query.mk s infer false).locateProbes R.extent.start false) o = .ok (some R) := by
  rw [askAt]
  cases hk : o.kind
  case command =>
    have hsymbol := commandSymbol_of_standing ho hk h hR
    exact (ho.hitCommand_eq hk).trans (by rw [hsymbol, Option.bind_some, hit_start])
  all_goals simp only [Symbol.standingAt, hk] at h
  case hashtable => exact absurd hk hhash
  case functionDefinition | configurationDefinition | typeDefinition | typeExpression |
      typeConstraint | propertyMember =>
    exact hitOf_start (build_of_mem_singleton h hR)
  case commandParameter | variableExpression =>
    cases h
    exact hitOf_start (congrArg Except.ok (List.mem_singleton.mp hR).symm)
  case functionMember =>
    have hmethod := Except.ok.inj
      ((ho.ofMethod_eq hk false).symm.trans (build_of_mem_singleton h hR))
    refine (ho.hitMethod_eq hk R.extent.start false).trans ?_
    rw [methodHit?, hmethod, hit_start]
    rfl
  case memberExpression =>
    have hbuild := build_of_mem_singleton h hR
    obtain ⟨member, hmember, hcontains⟩ := hreach (by rw [hk]; rfl)
    rw [← start_memberExtent hmember, ← extent_of_ofPropertyAccess ho hk hbuild] at hcontains
    refine (ho.hitPropertyAccess_eq hk).trans ?_
    rw [hmember, hcontains, hbuild, Result.map_ok, hit_start]
    rfl
  case invokeMemberExpression =>
    have hbuild := build_of_mem_singleton h hR
    obtain ⟨member, hmember, hcontains⟩ := hreach (by rw [hk]; rfl)
    have hstart : R.extent.start = member.extent.start := by
      rw [extent_of_ofMethodCall ho hk hbuild, start_memberExtent hmember]
    refine (ho.hitMethodCall_eq hk).trans ?_
    rw [hstart, hcontains, hmember, Option.any_some, member.extent.contains_start, hbuild]
    rfl
  all_goals
    cases h
    cases hR

/-! ## Locating references -/

/-- A symbol that is no key stands at no hashtable. -/
theorem kind_ne_of_standing (hkey : S.kind ≠ .hashtableKey)
    (hfam : R.kind.family = S.kind.family) (h : Symbol.standingAt infer o = .ok standing)
    (hR : R ∈ standing) : o.kind ≠ .hashtable := by
  intro hk
  have hfamily := family_of_mem_standingAt h hR
  rw [hk, hfam] at hfamily
  cases hS : S.kind
  case hashtableKey => exact hkey hS
  all_goals
    rw [hS] at hfamily
    cases hfamily

/-- Where a reference to a symbol other than a key starts, a symbol can be located, if every
access to a member at which the reference stands reaches its member. -/
theorem symbolUnder_of_mem_references (hs : s.WellTyped) (hplaced : s.PlacedBySpans)
    (hinfer : infer.NamesTypes s) (hkey : S.kind ≠ .hashtableKey) {table : Option AliasTable}
    {refs : List Symbol} (h : (Query.mk s infer false).references (some S) table = .ok refs)
    (hR : R ∈ refs)
    (hreach : ∀ o ∈ s.nodes, o.kind.isMemberAccess = true →
      (∃ standing, Symbol.standingAt infer o = .ok standing ∧ R ∈ standing) → o.ReachesMember) :
    ∃ L, (Query.mk s infer false).symbolUnder R.extent.start false = .ok (some L) := by
  obtain ⟨guess, hguess⟩ := hinfer.exists_guess
  obtain ⟨o, ho, standing, hstanding, hmem, hsame⟩ := exists_standing_of_mem_references h hR
  have hin : o.StandsIn s := .of_mem_nodes hs ho
  have hhash := kind_ne_of_standing hkey (family_eq_of_denotesSame hsame) hstanding hmem
  obtain ⟨hline, hcolumn⟩ := inRange_of_standing hin hplaced hstanding hmem hhash
  obtain ⟨found, hfound⟩ := symbolUnder_total hs hguess false hline hcolumn
  -- the node itself answers, so the search does not end without an answer
  have hask := exists_hit_of_standing hin hstanding hmem hhash fun haccess =>
    hreach o ho haccess ⟨standing, hstanding, hmem⟩
  have hfirst := hfound
  rw [symbolUnder, requirePosition_eq hline hcolumn, Result.ok_bind, first_eq] at hfirst
  obtain ⟨L, rfl⟩ := firstAnswer_of_mem hfirst ho hask
  exact ⟨L, hfound⟩

theorem symbolUnder_of_mem_references_greeter :
    ∃ refs, (Query.on Greeter.script).references (some Greeter.creator) none = .ok refs ∧
      refs.length = 2 ∧
      ∀ R ∈ refs, ∃ L, (Query.on Greeter.script).symbolUnder R.extent.start false =
        .ok (some L) := by
  have hplaced : Greeter.script.PlacedBySpans := by
    have hspan : ∀ o ∈ Greeter.script.nodes, (Extent.ofSpan Greeter.source
        (o.extent.start.column - 1) (o.extent.stop.column - 1) none).toOption =
          some o.extent := by decide +kernel
    exact fun o ho => ⟨_, _, Result.eq_ok_of_toOption (hspan o ho)⟩
  have hreach : ∀ o ∈ Greeter.script.nodes, o.kind.isMemberAccess = true → o.ReachesMember := by
    have hall : ∀ o ∈ Greeter.script.nodes, o.kind.isMemberAccess = true →
        ((o.childIn? .member).any fun member => o.extent.contains member.extent.start) = true := by
      decide +kernel
    exact fun o ho haccess => (Option.any_eq_true _ _).mp (hall o ho haccess)
  have hrun : ((Query.on Greeter.script).references (some Greeter.creator) none).toOption.any
      (fun refs => refs.length == 2) = true := by decide +kernel
  obtain ⟨refs, hrefs, hlength⟩ := Result.exists_of_toOption_any hrun
  refine ⟨refs, hrefs, eq_of_beq hlength, ?_⟩
  intro R hR
  exact symbolUnder_of_mem_references Greeter.wellTyped_script hplaced
    (StandardInferer.syntactic.namesTypes Greeter.wellTyped_script) (by decide) hrefs hR
    fun o ho haccess _ => hreach o ho haccess

end Query

/-! ## An access spread over two lines -/

namespace BrokenAccess

/-- The text of a script that breaks an access before the name of the member. -/
def source : String := "$a.\nB"

/-- The access to the property. -/
def access : Node :=
  .inSource source .memberExpression 0 5
    [(.expression, .node (.variableUse (.inSource source 0 2) "a")),
      (.member, .node (.word (.inSource source 4 5) "B")), (.isStaticAccess, .bool false)]

/-- The script of the access. -/
def script : Script := .inSource source [access]

/-- The property, as it may be asked for from outside of the script. -/
def property : Symbol :=
  ⟨.property, .str "B", Extent.nowhere.withText .null, some { owner := .null }⟩

/-- The property is referred to at the start of the second line, and its access has a member
there, but nothing is located at that position. -/
theorem not_located :
    script.WellTyped ∧ script.PlacedBySpans ∧
      (∀ o ∈ script.nodes, o.kind.isMemberAccess = true →
        ∃ member, o.childIn? .member = some member) ∧
      ∃ R, (Query.on script).references (some property) none = .ok [R] ∧
        R.extent.start = ⟨2, 1⟩ ∧
        (Query.on script).symbolUnder R.extent.start false = .ok none := by
  have hplaced : script.PlacedBySpans := by
    have hspan : ∀ o ∈ script.nodes, ∃ p ∈ [((0 : Int), (5 : Int)), (0, 2), (4, 5)],
        (Extent.ofSpan source p.1 p.2 none).toOption = some o.extent := by decide +kernel
    intro o ho
    obtain ⟨p, -, hp⟩ := hspan o ho
    exact ⟨p.1, p.2, Result.eq_ok_of_toOption hp⟩
  have hmember : ∀ o ∈ script.nodes, o.kind.isMemberAccess = true →
      (o.childIn? .member).isSome = true := by decide +kernel
  have hrun : ((Query.on script).references (some property) none).toOption.any (fun refs =>
      refs.length == 1 && refs.all fun R => R.extent.start == ⟨2, 1⟩) = true := by decide +kernel
  have hnone : ((Query.on script).symbolUnder ⟨2, 1⟩ false).toOption.any Option.isNone = true := by
    decide +kernel
  obtain ⟨refs, hrefs, hone⟩ := Result.exists_of_toOption_any hrun
  obtain ⟨hlength, hstart⟩ := Bool.and_eq_true_iff.mp hone
  obtain ⟨R, rfl⟩ := List.length_eq_one_iff.mp (eq_of_beq hlength)
  have hR : R.extent.start = ⟨2, 1⟩ :=
    eq_of_beq (List.all_eq_true.mp hstart R (List.mem_singleton_self R))
  obtain ⟨found, hfound, hisNone⟩ := Result.exists_of_toOption_any hnone
  obtain rfl := Option.isNone_iff_eq_none.mp hisNone
  exact ⟨by decide +kernel, hplaced,
    fun o ho haccess => Option.isSome_iff_exists.mp (hmember o ho haccess),
    R, hrefs, hR, hR ▸ hfound⟩

end BrokenAccess

end ScriptNavigation
