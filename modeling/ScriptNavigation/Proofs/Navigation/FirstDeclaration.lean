/-
# The first declaration that matches

A search for a declaration asks the nodes of one family only, but nodes of other families declare
no match anyway.  So the declaration of a symbol is what the first node declares that declares a
match, whatever its family.

Main facts:

* `askAt_declarationProbes`: what a search for a declaration asks a node.
* `declaration_eq_some_iff`: the declaration of a symbol is the first match.
* `exists_declaration_of_match`: where a node declares a match, there is a declaration, at that
  node or before it.
* `matches_of_declaration?`: what a node declares matches itself, if constructors are named like
  their types.
-/
import ScriptNavigation.Proofs.Navigation.SelfReference
import ScriptNavigation.Proofs.Navigation.Totality
import ScriptNavigation.Proofs.Tree.Ancestors

namespace ScriptNavigation

namespace Query

open Occurrence

variable {s : Script} {q : Query} {o : Occurrence} {S C D : Symbol}

/-! ## What is asked -/

/-- The probes of the search for the declaration of a symbol. -/
def declarationProbes (S : Symbol) : Probes (Option Symbol) :=
  (declarations S.kind.family).map fun p => (p.1, matching none S p.2)

/-- A search for a declaration asks a node whether what it declares is a match. -/
theorem askAt_declarationProbes (ho : o.StandsIn s) :
    askAt (declarationProbes S) o =
      match o.declaration? with
      | none => .ok none
      | some C => (denotesSame none S C).map fun same => if same then some C else none := by
  rw [askAt, declarationProbes, lookup_map_snd]
  cases hbuild : (declarations S.kind.family).lookup o.kind with
  | some build =>
    dsimp only [Option.map_some]
    rw [matching, build_of_lookup_declarations ho hbuild, Result.ok_bind]
    cases o.declaration? with
    | none => rfl
    | some C => cases denotesSame none S C <;> rfl
  | none =>
    cases hC : o.declaration? with
    | none => rfl
    | some C =>
      -- a node of another family, which declares no match
      have hne : S.kind.family ≠ C.kind.family := by
        intro hfam
        have hsome := lookup_declarations_isSome (hfam ▸ family_of_declaration? hC)
        rw [hbuild] at hsome
        cases hsome
      dsimp only [Option.map_none]
      rw [denotesSame_of_family_ne hne]
      rfl

/-- A node answers a search with what it declares, if that is a match. -/
theorem askAt_declarationProbes_eq_some (ho : o.StandsIn s) :
    askAt (declarationProbes S) o = .ok (some D) ↔
      o.declaration? = some D ∧ denotesSame none S D = .ok true := by
  rw [askAt_declarationProbes ho]
  cases o.declaration? with
  | none =>
    constructor
    · intro h
      cases h
    · rintro ⟨h, -⟩
      cases h
  | some C =>
    constructor
    · intro h
      obtain ⟨same, hsame, h⟩ := Result.map_eq_ok.mp h
      cases same with
      | false => cases h
      | true =>
        cases h
        exact ⟨rfl, hsame⟩
    · rintro ⟨h, hsame⟩
      cases h
      exact Result.map_eq_ok.mpr ⟨true, hsame, rfl⟩

/-- A node does not answer a search if it declares no match. -/
theorem askAt_declarationProbes_eq_none (ho : o.StandsIn s) :
    askAt (declarationProbes S) o = .ok none ↔
      ∀ C, o.declaration? = some C → denotesSame none S C = .ok false := by
  rw [askAt_declarationProbes ho]
  cases o.declaration? with
  | none => simp
  | some C =>
    constructor
    · rintro h C' ⟨⟩
      obtain ⟨same, hsame, h⟩ := Result.map_eq_ok.mp h
      cases same with
      | false => exact hsame
      | true => cases h
    · intro h
      exact Result.map_eq_ok.mpr ⟨false, h C rfl, rfl⟩

/-! ## The first match -/

/-- A symbol has a declaration only where nodes that declare symbols of its family are asked. -/
theorem declaration_eq_first (h : (declarations S.kind.family).isEmpty = false) :
    q.declaration (some S) = q.first (declarationProbes S) :=
  if_neg (Bool.eq_false_iff.mp h)

/-- Where a node declares a match, nodes are asked. -/
theorem isEmpty_declarations_of_match (hC : o.declaration? = some C)
    (hsame : denotesSame none S C = .ok true) :
    (declarations S.kind.family).isEmpty = false := by
  have hsome := lookup_declarations_isSome
    (family_eq_of_denotesSame hsame ▸ family_of_declaration? hC)
  by_contra hempty
  rw [Bool.not_eq_false, List.isEmpty_iff] at hempty
  rw [hempty] at hsome
  cases hsome

/-- The declaration of a symbol is what the first node declares that declares a match. -/
theorem declaration_eq_some_iff (hs : q.script.WellTyped) :
    q.declaration (some S) = .ok (some D) ↔
      q.cancelled = false ∧ ∃ before o after, q.script.nodes = before ++ o :: after ∧
        (o.declaration? = some D ∧ denotesSame none S D = .ok true) ∧
        ∀ c ∈ before, ∀ C, c.declaration? = some C → denotesSame none S C = .ok false := by
  obtain ⟨s, infer, cancelled⟩ := q
  have hin {before after : List Occurrence} {o : Occurrence} (h : s.nodes = before ++ o :: after) :
      o.StandsIn s ∧ ∀ c ∈ before, c.StandsIn s :=
    ⟨.of_mem_nodes hs (h ▸ List.mem_append_right _ List.mem_cons_self),
      fun c hc => .of_mem_nodes hs (h ▸ List.mem_append_left _ hc)⟩
  constructor
  · intro h
    have hasks : (declarations S.kind.family).isEmpty = false := by
      by_contra hempty
      rw [declaration, if_pos (Bool.not_eq_false _ ▸ hempty)] at h
      cases h
    rw [declaration_eq_first hasks, first_eq_ok_iff, firstAnswer_eq_some_iff] at h
    obtain ⟨hlive, before, o, after, hsplit, ho, hbefore⟩ := h
    refine ⟨hlive, before, o, after, hsplit, ?_, ?_⟩
    · exact (askAt_declarationProbes_eq_some (hin hsplit).1).mp ho
    · intro c hc
      exact (askAt_declarationProbes_eq_none ((hin hsplit).2 c hc)).mp (hbefore c hc)
  · rintro ⟨rfl, before, o, after, hsplit, ho, hbefore⟩
    rw [declaration_eq_first (isEmpty_declarations_of_match ho.1 ho.2), first_eq,
      firstAnswer_eq_some_iff]
    refine ⟨before, o, after, hsplit, ?_, ?_⟩
    · exact (askAt_declarationProbes_eq_some (hin hsplit).1).mpr ho
    · intro c hc
      exact (askAt_declarationProbes_eq_none ((hin hsplit).2 c hc)).mpr (hbefore c hc)

/-- Where a node declares a match, there is a declaration: that node declares it or one before
it. -/
theorem exists_declaration_of_match (infer : Inferer) (hs : s.WellTyped) (hS : S.HasTexts)
    (ho : o ∈ s.nodes) (hC : o.declaration? = some C) (hsame : denotesSame none S C = .ok true) :
    ∃ D, (Query.mk s infer false).declaration (some S) = .ok (some D) ∧
      ∃ d ∈ s.nodes, d.index ≤ o.index ∧ d.declaration? = some D := by
  have hfirst := declaration_eq_first (q := Query.mk s infer false)
    (isEmpty_declarations_of_match hC hsame)
  rw [first_eq] at hfirst
  have htotal : ∃ found, (Query.mk s infer false).declaration (some S) = .ok found :=
    declaration_total hs hS
  obtain ⟨found, hfound⟩ := htotal
  obtain ⟨D, rfl⟩ := firstAnswer_of_mem (hfirst.symm.trans hfound) ho
    ((askAt_declarationProbes_eq_some (.of_mem_nodes hs ho)).mpr ⟨hC, hsame⟩)
  obtain ⟨-, before, d, after, hsplit, hd, hbefore⟩ := (declaration_eq_some_iff hs).mp hfound
  refine ⟨D, hfound, d, hsplit ▸ List.mem_append_right _ List.mem_cons_self, ?_, hd.1⟩
  -- a match that is declared before would be the declaration
  by_contra hlt
  have hmem := Script.mem_of_index_lt hsplit ho (by omega)
  rw [hbefore o hmem C hC] at hsame
  cases hsame

end Query

/-! ## Constructors that are named like their types -/

/-- Every constructor is named, up to case, like the type it belongs to: the innermost one around
it, or the wildcard type where that one has no name or there is none. -/
def Script.NamesConstructors (s : Script) : Prop :=
  ∀ m ∈ s.nodes, m.kind = .functionMember → m.flagIn .isConstructor = true →
    Text.foldCase (m.textIn .name) = Text.foldCase (nameOr m.typeNameAround "object")

namespace Occurrence

variable {s : Script} {o : Occurrence} {S C : Symbol}

/-- The member that a node declares belongs to the innermost type around the node. -/
theorem owner_of_declaration? {m : Member} (h : o.declaration? = some C) (hm : C.member = some m) :
    o.kind.declaresMember = true ∧ m.owner = .str (nameOr o.typeNameAround "object") := by
  unfold declaration? at h
  cases hk : o.kind
  all_goals simp only [hk] at h
  case assignment =>
    obtain ⟨target, -, rfl⟩ := Option.map_eq_some_iff.mp h
    cases hm
  case functionMember | propertyMember =>
    cases h
    cases hm
    exact ⟨rfl, rfl⟩
  case functionDefinition | configurationDefinition | typeDefinition =>
    cases h
    cases hm
  all_goals cases h

/-- No node declares a misnamed constructor, if constructors are named like their types. -/
theorem not_misnamed_of_declaration? (hs : s.NamesConstructors) (ho : o ∈ s.nodes)
    (h : o.declaration? = some C) : ¬ C.Misnamed := by
  rintro ⟨hkind, m, hm, hname⟩
  have hk : o.kind = .functionMember := by
    have hfam := family_of_declaration? h
    rw [hkind] at hfam
    revert hfam
    cases o.kind <;> decide
  simp only [declaration?, hk] at h
  cases h
  have hctor : o.flagIn .isConstructor = true := by
    by_contra hplain
    rw [methodSymbol, if_neg hplain] at hkind
    cases hkind
  cases hm
  rw [methodSymbol, sameName_text, Text.sameFolded_iff.mpr (hs o ho hk hctor)] at hname
  cases hname

/-- What a node declares is matched by everything that agrees with it, if constructors are named
like their types. -/
theorem matches_of_declaration? (hs : s.NamesConstructors) (ho : o ∈ s.nodes)
    (h : o.declaration? = some C) (hS : C.Agrees S) : denotesSame none S C = .ok true := by
  have hregular := regular_of_declaration? h
  have hmis : ¬ S.Misnamed := by
    obtain ⟨hkind, hname, hmember⟩ := hS
    rw [Symbol.Misnamed, ← hkind, ← hname, ← hmember]
    exact not_misnamed_of_declaration? hs ho h
  exact (hregular.of_agrees hS).denotesSame_of_agrees hS hmis

end Occurrence

end ScriptNavigation
