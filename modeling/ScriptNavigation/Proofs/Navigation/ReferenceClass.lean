/-
# References from any of the occurrences

The references to a symbol depend only on its family and on what it matches.  A symbol that
is no member matches the same symbols as each of its references; so does a constructor, if
the constructors of the script are named like their owners.  Hence the references to such a
symbol can be asked from any of them, and the references to two such symbols are the same
list or have nothing in common.

Main facts:

* `references_eq_of_same`: references depend on the family and on what is matched.
* `eq_of_mem_standing`: one symbol at most stands at a node that is no hashtable.
* `references_of_reference`: the references can be asked from any of them.
-/
import ScriptNavigation.Proofs.Navigation.Catalogue
import ScriptNavigation.Proofs.Symbol.Sameness

namespace ScriptNavigation

namespace Query

variable {q : Query} {o : Occurrence} {S T R C : Symbol}

/-! ## What references depend on -/

/-- Pairs are tested by what their symbols match. -/
theorem matchingPairs_eq_of_same (h : denotesSame none R = denotesSame none S)
    (pairs : List Datum) : matchingPairs R pairs = matchingPairs S pairs := by
  induction pairs with
  | nil => rfl
  | cons pair rest ih => rw [matchingPairs, matchingPairs, ih, h]

/-- Nodes are tested by what their symbols match. -/
theorem matchingList_eq_of_same {table table' : Option AliasTable}
    (h : denotesSame table R = denotesSame table' S) (build : Probe (Option Symbol)) :
    matchingList table R build = matchingList table' S build := by
  funext o
  rw [matchingList, matchingList, matching, matching, h]

/-- Without an alias table the references depend only on the family of a symbol and on what
it matches. -/
theorem references_eq_of_same (hfam : R.kind.family = S.kind.family)
    (h : denotesSame none R = denotesSame none S) :
    q.references (some R) none = q.references (some S) none := by
  have hprobes : q.referenceProbes R none = q.referenceProbes S none := by
    simp only [referenceProbes, hfam, matchingPairs_eq_of_same h, matchingList_eq_of_same h]
  simp only [references, hprobes]

/-! ## Symbols whose occurrences stand for them -/

/-- Every constructor of a script is named like its owner. -/
def ConstructorsNamed (q : Query) : Prop :=
  ∀ o ∈ q.script.nodes, ∀ standing, Symbol.standingAt q.infer o = .ok standing →
    ∀ C ∈ standing, C.IsConstructor → C.NamedLikeOwner

/-- A symbol that is no member, or a constructor in a script whose constructors are named
like their owners. -/
def Interchangeable (q : Query) (S : Symbol) : Prop :=
  S.kind.isMember = false ∨ S.IsConstructor ∧ q.ConstructorsNamed

/-- Each reference to such a symbol matches what the symbol matches. -/
theorem Interchangeable.denotesSame_eq {refs : List Symbol} (hS : q.Interchangeable S)
    (h : q.references (some S) none = .ok refs) (hR : R ∈ refs) :
    denotesSame none R = denotesSame none S := by
  have hsame := denotesSame_of_mem_references h hR
  rcases hS with hplain | ⟨hctor, hnamed⟩
  · exact denotesSame_eq_of_plain hplain hsame
  · obtain ⟨o, ho, standing, hstanding, hmem, -⟩ := exists_standing_of_mem_references h hR
    exact denotesSame_eq_of_constructor hctor
      (hnamed o ho standing hstanding R hmem (isConstructor_of_denotesSame hctor hsame)) hsame

/-- The references to such a symbol can be asked from any of them. -/
theorem Interchangeable.references_eq {refs : List Symbol} (hS : q.Interchangeable S)
    (h : q.references (some S) none = .ok refs) (hR : R ∈ refs) :
    q.references (some R) none = .ok refs :=
  (references_eq_of_same (family_eq_of_denotesSame (denotesSame_of_mem_references h hR))
    (hS.denotesSame_eq h hR)).trans h

/-! ## References in common -/

/-- Two such symbols with a reference in common have the same references. -/
theorem Interchangeable.eq_of_common {refs refs' : List Symbol} (hS : q.Interchangeable S)
    (hT : q.Interchangeable T) (h : q.references (some S) none = .ok refs)
    (h' : q.references (some T) none = .ok refs') (hC : C ∈ refs) (hC' : C ∈ refs') :
    refs = refs' :=
  Except.ok.inj ((hS.references_eq h hC).symm.trans (hT.references_eq h' hC'))

/-- One symbol at most stands at a node that is no hashtable. -/
theorem eq_of_mem_standing {standing : List Symbol} {infer : Inferer}
    (h : Symbol.standingAt infer o = .ok standing) (hk : o.kind ≠ .hashtable)
    (hC : C ∈ standing) (hR : R ∈ standing) : C = R := by
  cases hkind : o.kind
  all_goals simp only [Symbol.standingAt, hkind] at h
  case hashtable => exact absurd hkind hk
  case command =>
    obtain ⟨found, -, rfl⟩ := Result.map_eq_ok.mp h
    rw [Option.mem_toList] at hC hR
    exact Option.some_inj.mp (hC.symm.trans hR)
  case functionDefinition | configurationDefinition | typeDefinition | typeExpression |
      typeConstraint | functionMember | invokeMemberExpression | propertyMember |
      memberExpression =>
    exact Except.ok.inj
      ((build_of_mem_singleton h hC).symm.trans (build_of_mem_singleton h hR))
  case commandParameter | variableExpression =>
    cases h
    exact (List.mem_singleton.mp hC).trans (List.mem_singleton.mp hR).symm
  all_goals
    cases h
    cases hC

/-- A node at which something is listed as a reference to a symbol, without an alias table. -/
def RefersAt (q : Query) (S : Symbol) (o : Occurrence) : Prop :=
  ∃ C found, listAt (q.referenceProbes S none) o = .ok found ∧ C ∈ found

/-- What is listed at a node for a symbol stands there and is a reference to it. -/
theorem RefersAt.exists_mem {refs : List Symbol} (h : q.references (some S) none = .ok refs)
    (ho : o ∈ q.script.nodes) (hat : q.RefersAt S o) :
    ∃ standing, Symbol.standingAt q.infer o = .ok standing ∧ ∃ C ∈ standing, C ∈ refs := by
  obtain ⟨C, found, hfound, hC⟩ := hat
  obtain ⟨standing, hstanding, hmem, hsame⟩ := exists_standing_of_mem_listAt hfound hC
  exact ⟨standing, hstanding, C, hmem, mem_references_of_standing h ho hstanding hmem hsame⟩

/-- Two such symbols that a node other than a hashtable refers to have the same references. -/
theorem Interchangeable.eq_of_refersAt {refs refs' : List Symbol} (hS : q.Interchangeable S)
    (hT : q.Interchangeable T) (h : q.references (some S) none = .ok refs)
    (h' : q.references (some T) none = .ok refs') (ho : o ∈ q.script.nodes)
    (hk : o.kind ≠ .hashtable) (hat : q.RefersAt S o) (hat' : q.RefersAt T o) :
    refs = refs' := by
  obtain ⟨standing, hstanding, C, hC, hCrefs⟩ := hat.exists_mem h ho
  obtain ⟨standing', hstanding', D, hD, hDrefs⟩ := hat'.exists_mem h' ho
  obtain rfl : standing = standing' := Except.ok.inj (hstanding.symm.trans hstanding')
  -- only one symbol stands here, so both symbols have it as a reference
  obtain rfl : C = D := eq_of_mem_standing hstanding hk hC hD
  exact hS.eq_of_common hT h h' hCrefs hDrefs

/-- The references to a symbol that is no member, and those to a constructor where all
constructors are named like their owners, are the same asked from any of them.  Two such
symbols have the same references, or they have neither a reference nor a node in common; a
hashtable is no node of its own, since it stands for each of its keys. -/
theorem references_of_reference {refs : List Symbol} (hS : q.Interchangeable S)
    (h : q.references (some S) none = .ok refs) :
    (∀ R ∈ refs, q.references (some R) none = .ok refs) ∧
      ∀ T refs', q.Interchangeable T → q.references (some T) none = .ok refs' →
        refs = refs' ∨ ((∀ C ∈ refs, C ∉ refs') ∧
          ∀ o ∈ q.script.nodes, o.kind ≠ .hashtable → ¬ (q.RefersAt S o ∧ q.RefersAt T o)) := by
  constructor
  · intro R hR
    exact hS.references_eq h hR
  · intro T refs' hT h'
    by_cases heq : refs = refs'
    · exact Or.inl heq
    · refine Or.inr ⟨?_, ?_⟩
      · intro C hC hC'
        exact heq (hS.eq_of_common hT h h' hC hC')
      · rintro o ho hk ⟨hat, hat'⟩
        exact heq (hS.eq_of_refersAt hT h h' ho hk hat hat')

theorem references_of_reference_greeter :
    ∃ refs, (Query.on Greeter.script).references (some Greeter.creator) none = .ok refs ∧
      refs.length = 2 ∧
      ∀ R ∈ refs, (Query.on Greeter.script).references (some R) none = .ok refs := by
  have hnamed : (Query.on Greeter.script).ConstructorsNamed := by
    have hall : ∀ o ∈ Greeter.script.nodes,
        (Symbol.standingAt (Query.on Greeter.script).infer o).toOption.all (fun standing =>
          standing.all fun C => C.member.all fun m =>
            !m.isConstructor.truthy || (sameName C.name m.owner).toOption == some true) = true := by
      decide +kernel
    intro o ho standing h C hC hctor
    obtain ⟨m, hm, hmctor⟩ := hctor.exists_member
    have hone := hall o ho
    rw [h] at hone
    have hmem := List.all_eq_true.mp hone C hC
    rw [hm, Option.all_some, hmctor, Bool.not_true, Bool.false_or, beq_iff_eq] at hmem
    exact ⟨m, hm, Result.eq_ok_of_toOption hmem⟩
  have hrun : ((Query.on Greeter.script).references (some Greeter.creator) none).toOption.any
      (fun refs => refs.length == 2) = true := by decide +kernel
  obtain ⟨refs, hrefs, hlength⟩ := Result.exists_of_toOption_any hrun
  have hctor : Greeter.creator.IsConstructor := ⟨rfl, rfl⟩
  exact ⟨refs, hrefs, eq_of_beq hlength,
    (references_of_reference (Or.inr ⟨hctor, hnamed⟩) hrefs).1⟩

end Query

end ScriptNavigation
