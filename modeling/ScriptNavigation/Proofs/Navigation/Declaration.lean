/-
# The declaration of a symbol is one of its references

Declarations and references are looked for at different nodes: a variable is declared by an
assignment but stands at the variable that is assigned to, possibly under a conversion.
Still each node that declares a symbol leads to a node at which the very same symbol stands,
and a declaration matches without an alias table, so it matches with any.  Therefore the
declaration of a symbol, where there is one, is among the references to it.

Main facts:

* `Occurrence.declaration?`: what a node declares; each node declares at most one symbol, which
  depends on the node alone.
* `exists_of_declaration`: a declaration is built at some node and matches.
* `exists_standing_of_declared`: what a node declares stands at a node.
* `declaration_mem_references`: the declaration of a symbol is among the references to it.
-/
import ScriptNavigation.Proofs.Navigation.Catalogue
import ScriptNavigation.Proofs.Reading.Probe
import ScriptNavigation.Proofs.Symbol.Sameness

namespace ScriptNavigation

/-! ## What a node declares -/

/-- The family of the symbols that nodes of a kind declare, if they declare any. -/
def NodeKind.declaredFamily? : NodeKind → Option SymbolKind
  | .functionDefinition => some .function
  | .configurationDefinition => some .configuration
  | .assignment => some .variableName
  | .typeDefinition => some .classType
  | .functionMember => some .method
  | .propertyMember => some .property
  | _ => none

namespace Occurrence

/-- The symbol that a node declares, if it declares one. -/
def declaration? (o : Occurrence) : Option Symbol :=
  match o.kind with
  | .functionDefinition => some (o.declaredSymbol o.functionKind false)
  | .configurationDefinition => some (o.declaredSymbol .configuration false)
  | .assignment => o.target?.map Symbol.ofVariable
  | .typeDefinition => some (o.declaredSymbol .classType false)
  | .functionMember => some (o.methodSymbol false)
  | .propertyMember => some (o.propertySymbol false)
  | _ => none

variable {o : Occurrence} {C : Symbol}

/-- What a node declares is regular. -/
theorem regular_of_declaration? (h : o.declaration? = some C) : C.Regular := by
  unfold declaration? at h
  cases hk : o.kind
  all_goals simp only [hk] at h
  case functionDefinition =>
    cases h
    exact regular_functionSymbol o false
  case assignment =>
    obtain ⟨target, -, rfl⟩ := Option.map_eq_some_iff.mp h
    exact regular_ofWholeNode target (by decide) rfl
  case functionMember =>
    cases h
    exact regular_methodSymbol o false
  case propertyMember =>
    cases h
    exact regular_propertySymbol o false
  case configurationDefinition | typeDefinition =>
    cases h
    exact regular_of_plain (by decide) rfl
  all_goals cases h

/-- What a node declares is of the family that its kind says. -/
theorem family_of_declaration? (h : o.declaration? = some C) :
    o.kind.declaredFamily? = some C.kind.family := by
  unfold declaration? at h
  cases hk : o.kind
  all_goals simp only [hk] at h
  case functionDefinition =>
    cases h
    rw [declaredSymbol, functionKind]
    split <;> rfl
  case assignment =>
    obtain ⟨target, -, rfl⟩ := Option.map_eq_some_iff.mp h
    rfl
  case functionMember =>
    cases h
    rw [methodSymbol]
    dsimp only
    split <;> rfl
  case configurationDefinition | typeDefinition | propertyMember =>
    cases h
    rfl
  all_goals cases h

end Occurrence

namespace Query

open Occurrence

variable {q : Query} {s : Script} {o : Occurrence} {S C D : Symbol} {family : SymbolKind}

/-! ## The nodes that declare symbols of a family -/

/-- A node is asked for what it declares. -/
theorem build_of_lookup_declarations {build : Probe (Option Symbol)} (ho : o.StandsIn s)
    (h : (declarations family).lookup o.kind = some build) : build o = .ok o.declaration? := by
  rw [declaration?]
  -- each family has one kind of node that it is declared by
  cases hk : o.kind
  all_goals
    rw [hk] at h
    cases family
    all_goals cases h
  case functionDefinition.function => exact congrArg (Except.map some) (ho.ofFunction_eq hk false)
  case assignment.variableName => exact ho.assignedVariable_eq hk
  case typeDefinition.classType => exact congrArg (Except.map some) (ho.ofType_eq hk false)
  case functionMember.method => exact congrArg (Except.map some) (ho.ofMethod_eq hk false)
  case propertyMember.property => exact congrArg (Except.map some) (ho.ofProperty_eq hk false)
  case configurationDefinition.configuration =>
    exact congrArg (Except.map some) (ho.ofConfiguration_eq hk false)

/-- Every node that declares symbols of a family is asked. -/
theorem lookup_declarations_isSome (h : o.kind.declaredFamily? = some family) :
    ((declarations family).lookup o.kind).isSome = true := by
  cases hk : o.kind
  all_goals
    rw [hk] at h
    cases h
  all_goals rfl

/-- What a node declares is built by the probe for its family. -/
theorem exists_build_of_declaration? (ho : o.StandsIn s) (h : o.declaration? = some C)
    (hfam : C.kind.family = family) :
    ∃ build, (declarations family).lookup o.kind = some build ∧ build o = .ok (some C) := by
  have hsome := lookup_declarations_isSome (hfam ▸ family_of_declaration? h)
  obtain ⟨build, hbuild⟩ := Option.isSome_iff_exists.mp hsome
  exact ⟨build, hbuild, (build_of_lookup_declarations ho hbuild).trans (congrArg _ h)⟩

/-! ## Where a declaration comes from -/

/-- What matches is what was built. -/
theorem build_of_matching {table : Option AliasTable} {build : Probe (Option Symbol)}
    (h : matching table S build o = .ok (some D)) :
    build o = .ok (some D) ∧ denotesSame table S D = .ok true := by
  obtain ⟨found, hfound, h⟩ := Result.bind_eq_ok.mp h
  cases found with
  | none => cases h
  | some C =>
    obtain ⟨same, hsame, h⟩ := Result.bind_eq_ok.mp h
    cases same with
    | false => cases h
    | true =>
      cases h
      exact ⟨hfound, hsame⟩

/-- The declaration of a symbol is built at a node that declares symbols of its family, and
matches it. -/
theorem exists_of_declaration (h : q.declaration (some S) = .ok (some D)) :
    ∃ o ∈ q.script.nodes, ∃ build, (declarations S.kind.family).lookup o.kind = some build ∧
      build o = .ok (some D) ∧ denotesSame none S D = .ok true := by
  rw [declaration] at h
  by_cases hempty : (declarations S.kind.family).isEmpty = true
  · rw [if_pos hempty] at h
    cases h
  · rw [if_neg hempty] at h
    obtain ⟨o, ho, probe, hprobe, hD⟩ := exists_of_first h
    rw [lookup_map_snd, Option.map_eq_some_iff] at hprobe
    obtain ⟨build, hbuild, rfl⟩ := hprobe
    exact ⟨o, ho, build, hbuild, build_of_matching hD⟩

/-! ## Where it stands -/

/-- A declaration that is no assignment stands at the node that declares it. -/
theorem exists_standing_of_always {build : Occurrence → Result Symbol}
    (hstanding : Symbol.standingAt q.infer o = (build o).map List.singleton)
    (h : always build o = .ok (some D)) :
    ∃ standing, Symbol.standingAt q.infer o = .ok standing ∧ D ∈ standing := by
  obtain ⟨C, hC, hsome⟩ := Result.map_eq_ok.mp h
  cases hsome
  rw [hC] at hstanding
  exact ⟨_, hstanding, List.mem_singleton_self D⟩

/-- An assignment assigns to a variable of the script, and declares the symbol of it. -/
theorem exists_target_of_assignedVariable (ho : o.StandsIn q.script) (hk : o.kind = .assignment)
    (h : assignedVariable o = .ok (some D)) :
    ∃ t ∈ q.script.nodes, o.target? = some t ∧ t.kind = .variableExpression ∧
      D = Symbol.ofVariable t := by
  rw [ho.assignedVariable_eq hk] at h
  obtain ⟨t, ht, rfl⟩ := Option.map_eq_some_iff.mp (Except.ok.inj h)
  obtain ⟨htin, htk⟩ := ho.target ht
  exact ⟨t, htin.mem_nodes, ht, htk, rfl⟩

/-- What a node declares stands at a node: the same one, or the variable that is assigned to. -/
theorem exists_standing_of_declared {build : Probe (Option Symbol)}
    (ho : o.StandsIn q.script) (h : (declarations family).lookup o.kind = some build)
    (hD : build o = .ok (some D)) :
    ∃ p ∈ q.script.nodes, ∃ standing, Symbol.standingAt q.infer p = .ok standing ∧
      D ∈ standing := by
  cases hk : o.kind
  all_goals
    rw [hk] at h
    cases family
    all_goals cases h
  case assignment.variableName =>
    obtain ⟨t, ht, -, htk, rfl⟩ := exists_target_of_assignedVariable ho hk hD
    exact ⟨t, ht, _, by rw [Symbol.standingAt, htk], List.mem_singleton_self _⟩
  all_goals exact ⟨o, ho.mem_nodes, exists_standing_of_always (by rw [Symbol.standingAt, hk]) hD⟩

/-! ## Declarations and references -/

/-- The declaration of a symbol, if there is one, is among the references to it; that of a
variable is the variable that an assignment assigns to, which is visited as a node. -/
theorem declaration_mem_references (hs : q.script.WellTyped) (table : Option AliasTable)
    {refs : List Symbol} (hD : q.declaration (some S) = .ok (some D))
    (hrefs : q.references (some S) table = .ok refs) :
    D ∈ refs ∧ (S.kind = .variableName →
      ∃ a ∈ q.script.nodes, a.kind = .assignment ∧ ∃ t ∈ q.script.nodes, a.target? = some t ∧
        t.kind = .variableExpression ∧ D = Symbol.ofVariable t) := by
  obtain ⟨o, ho, build, hbuild, hbuilt, hsame⟩ := exists_of_declaration hD
  have hin := StandsIn.of_mem_nodes hs ho
  constructor
  · obtain ⟨p, hp, standing, hstanding, hmem⟩ := exists_standing_of_declared hin hbuild hbuilt
    exact mem_references_of_standing hrefs hp hstanding hmem (denotesSame_of_none table hsame)
  · intro hvariable
    rw [hvariable] at hbuild
    cases hk : o.kind
    all_goals
      rw [hk] at hbuild
      cases hbuild
    exact ⟨o, ho, hk, exists_target_of_assignedVariable hin hk hbuilt⟩

theorem declaration_mem_references_greeter :
    ∃ D refs, (Query.on Greeter.script).declaration (some Greeter.holder) = .ok (some D) ∧
      (Query.on Greeter.script).references (some Greeter.holder) (some AliasTable.empty) =
        .ok refs ∧ D ∈ refs := by
  have hfound : ((Query.on Greeter.script).declaration (some Greeter.holder)).toOption.any
      Option.isSome = true := by decide +kernel
  have hlisted : ((Query.on Greeter.script).references (some Greeter.holder)
      (some AliasTable.empty)).toOption.any (fun _ => true) = true := by decide +kernel
  obtain ⟨found, hD, hsome⟩ := Result.exists_of_toOption_any hfound
  obtain ⟨D, rfl⟩ := Option.isSome_iff_exists.mp hsome
  obtain ⟨refs, hrefs, -⟩ := Result.exists_of_toOption_any hlisted
  exact ⟨D, refs, hD, hrefs, (declaration_mem_references Greeter.wellTyped_script _ hD hrefs).1⟩

end Query

end ScriptNavigation
