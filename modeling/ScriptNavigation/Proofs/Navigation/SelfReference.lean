/-
# Every symbol is found among its own references

Symbols are handed out by the search at a position, the search for a command, the outline
and the list of keys.  Each of them was built at some node, and the references to it pass
that node again.  There the symbol is built once more, at its name, and as it is regular it
matches: so the references hold a symbol with the same kind, name and data of a member, and
the symbol itself if it was handed out at its name.  The one exception are constructors that
are not named like their owner: they do not even match themselves.

Main facts:

* `StandsAt`: a symbol is built at its name at some node, up to its extent.
* `HandsOut.standsAt`: a symbol that is handed out is built at some node.
* `references_self`: a symbol that is handed out is found among its own references.
-/
import ScriptNavigation.Proofs.Navigation.Catalogue
import ScriptNavigation.Proofs.Navigation.CommandUnder
import ScriptNavigation.Proofs.Symbol.Symmetry

namespace ScriptNavigation

namespace SymbolKind

/-- Whether the symbols of a kind stand over their whole extent in an outline. -/
def isOutlinedWhole : SymbolKind → Bool
  | function | workflow | configuration => true
  | _ => false

end SymbolKind

/-- What agrees with a regular symbol is regular. -/
theorem Symbol.Regular.of_agrees {R S : Symbol} (h : R.Regular) (hR : R.Agrees S) : S.Regular := by
  obtain ⟨hkind, hname, hmember⟩ := hR
  refine ⟨hkind ▸ h.known, hname ▸ h.name, ?_, ?_⟩
  · rw [← hkind, ← hmember]
    exact h.plain
  · rw [← hkind, ← hmember]
    exact h.member

namespace Query

open Occurrence

/-! ## Where a symbol comes from -/

/-- How a query hands out a symbol, and whether the symbol then stands at its name. -/
inductive HandsOut (q : Query) : Bool → Symbol → Prop
  | located {p : Position} {whole : Bool} {S : Symbol}
      (h : q.symbolUnder p whole = .ok (some S)) : HandsOut q (!whole) S
  | command {p : Position} {S : Symbol} (h : q.commandUnder p = .ok (some S)) : HandsOut q true S
  | outlined {symbols : List Symbol} {S : Symbol} (h : q.outline = .ok symbols)
      (hS : S ∈ symbols) : HandsOut q (!S.kind.isOutlinedWhole) S
  | key {keys : List Symbol} {S : Symbol} (h : q.keys = .ok keys) (hS : S ∈ keys) :
      HandsOut q true S

/-- A symbol that agrees with a given one is built at its name at some node; where the given
one is at its name, it is the same. -/
def StandsAt (q : Query) (atName : Bool) (S : Symbol) : Prop :=
  ∃ o ∈ q.script.nodes, ∃ standing, Symbol.standingAt q.infer o = .ok standing ∧
    ∃ C ∈ standing, C.Agrees S ∧ (atName = true → C = S)

variable {q : Query} {o : Occurrence} {S : Symbol} {whole atName : Bool}

/-- What is built at its name stands at the node. -/
theorem standsAt_of_mem {standing : List Symbol} (ho : o ∈ q.script.nodes)
    (h : Symbol.standingAt q.infer o = .ok standing) (hS : S ∈ standing) : q.StandsAt atName S :=
  ⟨o, ho, standing, h, S, hS, .refl S, fun _ => rfl⟩

/-- A declaration that is built over its whole extent stands at the node up to its extent. -/
theorem standsAt_of_declaration {build : Bool → Result Symbol} {symbol : Bool → Symbol}
    (ho : o ∈ q.script.nodes) (hbuild : ∀ whole, build whole = .ok (symbol whole))
    (hstanding : Symbol.standingAt q.infer o = (build false).map List.singleton)
    (hagrees : (symbol false).Agrees (symbol whole)) (h : build whole = .ok S) :
    q.StandsAt (!whole) S := by
  rw [hbuild] at h
  cases h
  rw [hbuild] at hstanding
  refine ⟨o, ho, _, hstanding, symbol false, List.mem_singleton_self _, hagrees, ?_⟩
  intro hname
  cases whole with
  | true => cases hname
  | false => rfl

/-! ## Declarations -/

section Declarations

variable (hs : q.script.WellTyped) (ho : o ∈ q.script.nodes)
include hs ho

theorem standsAt_of_ofFunction (hk : o.kind = .functionDefinition)
    (h : Symbol.ofFunction o whole = .ok S) : q.StandsAt (!whole) S :=
  standsAt_of_declaration ho ((StandsIn.of_mem_nodes hs ho).ofFunction_eq hk)
    (by rw [Symbol.standingAt, hk]) ⟨rfl, rfl, rfl⟩ h

theorem standsAt_of_ofConfiguration (hk : o.kind = .configurationDefinition)
    (h : Symbol.ofConfiguration o whole = .ok S) : q.StandsAt (!whole) S :=
  standsAt_of_declaration ho ((StandsIn.of_mem_nodes hs ho).ofConfiguration_eq hk)
    (by rw [Symbol.standingAt, hk]) ⟨rfl, rfl, rfl⟩ h

theorem standsAt_of_ofType (hk : o.kind = .typeDefinition) (h : Symbol.ofType o whole = .ok S) :
    q.StandsAt (!whole) S :=
  standsAt_of_declaration ho ((StandsIn.of_mem_nodes hs ho).ofType_eq hk)
    (by rw [Symbol.standingAt, hk]) ⟨rfl, rfl, rfl⟩ h

theorem standsAt_of_ofMethod (hk : o.kind = .functionMember)
    (h : Symbol.ofMethod o whole = .ok S) : q.StandsAt (!whole) S :=
  standsAt_of_declaration ho ((StandsIn.of_mem_nodes hs ho).ofMethod_eq hk)
    (by rw [Symbol.standingAt, hk]) ⟨rfl, rfl, rfl⟩ h

theorem standsAt_of_ofProperty (hk : o.kind = .propertyMember)
    (h : Symbol.ofProperty o whole = .ok S) : q.StandsAt (!whole) S :=
  standsAt_of_declaration ho ((StandsIn.of_mem_nodes hs ho).ofProperty_eq hk)
    (by rw [Symbol.standingAt, hk]) ⟨rfl, rfl, rfl⟩ h

end Declarations

/-! ## Uses -/

/-- The only symbol that is built at a node stands there. -/
theorem standsAt_of_use {build : Result Symbol} (ho : o ∈ q.script.nodes)
    (hstanding : Symbol.standingAt q.infer o = build.map List.singleton) (h : build = .ok S) :
    q.StandsAt atName S := by
  rw [h] at hstanding
  exact standsAt_of_mem ho hstanding (List.mem_singleton_self S)

theorem standsAt_of_ofCommand (ho : o ∈ q.script.nodes) (hk : o.kind = .command)
    (h : Symbol.ofCommand o = .ok (some S)) : q.StandsAt atName S := by
  have hstanding : Symbol.standingAt q.infer o = .ok [S] := by
    simp only [Symbol.standingAt, hk, h, Result.map_ok, Option.toList_some]
  exact standsAt_of_mem ho hstanding (List.mem_singleton_self S)

theorem standsAt_ofVariable (ho : o ∈ q.script.nodes) (hk : o.kind = .variableExpression) :
    q.StandsAt atName (Symbol.ofVariable o) :=
  standsAt_of_mem ho (by rw [Symbol.standingAt, hk]) (List.mem_singleton_self _)

/-! ## Symbols at a position -/

/-- What is built and contains a position was built. -/
theorem build_of_hitOf {p : Position} {build : Occurrence → Result Symbol}
    (h : hitOf p build o = .ok (some S)) : build o = .ok S := by
  obtain ⟨C, hC, hhit⟩ := Result.map_eq_ok.mp h
  rw [hC, (hit_eq_some_iff.mp hhit).1]

theorem ofCommand_of_hitCommand {p : Position} (h : hitCommand p o = .ok (some S)) :
    Symbol.ofCommand o = .ok (some S) := by
  obtain ⟨found, hfound, h⟩ := Result.bind_eq_ok.mp h
  obtain ⟨C, rfl, hhit⟩ := Option.bind_eq_some_iff.mp (Except.ok.inj h)
  rw [hfound, (hit_eq_some_iff.mp hhit).1]

/-- A symbol found at a position stands at a node. -/
theorem standsAt_of_symbolUnder (hs : q.script.WellTyped) {p : Position}
    (h : q.symbolUnder p whole = .ok (some S)) : q.StandsAt (!whole) S := by
  obtain ⟨-, -, h⟩ := Result.bind_eq_ok.mp h
  obtain ⟨o, ho, probe, hprobe, hS⟩ := exists_of_first h
  have hin := StandsIn.of_mem_nodes hs ho
  cases hk : o.kind
  all_goals
    rw [hk] at hprobe
    cases hprobe
  case command => exact standsAt_of_ofCommand ho hk (ofCommand_of_hitCommand hS)
  case functionDefinition => exact standsAt_of_ofFunction hs ho hk (build_of_hitOf hS)
  case configurationDefinition => exact standsAt_of_ofConfiguration hs ho hk (build_of_hitOf hS)
  case commandParameter =>
    exact standsAt_of_use ho (by rw [Symbol.standingAt, hk]; rfl) (build_of_hitOf hS)
  case variableExpression =>
    cases build_of_hitOf hS
    exact standsAt_ofVariable ho hk
  case typeDefinition => exact standsAt_of_ofType hs ho hk (build_of_hitOf hS)
  case typeExpression | typeConstraint =>
    exact standsAt_of_use ho (by rw [Symbol.standingAt, hk]) (build_of_hitOf hS)
  case propertyMember => exact standsAt_of_ofProperty hs ho hk (build_of_hitOf hS)
  case functionMember =>
    rw [hin.hitMethod_eq hk, Except.ok.injEq, methodHit?] at hS
    split at hS
    · cases hS
    · exact standsAt_of_ofMethod hs ho hk ((hin.ofMethod_eq hk whole).trans
        (congrArg _ (hit_eq_some_iff.mp hS).1))
  case memberExpression =>
    rw [hin.hitPropertyAccess_eq hk] at hS
    split at hS
    · cases hS
    · have hhit : hitOf p (Symbol.ofPropertyAccess q.infer) o = .ok (some S) := hS
      exact standsAt_of_use ho (by rw [Symbol.standingAt, hk]) (build_of_hitOf hhit)
  case invokeMemberExpression =>
    rw [hin.hitMethodCall_eq hk] at hS
    split at hS
    · cases hS
    · split at hS
      · obtain ⟨C, hC, hsome⟩ := Result.map_eq_ok.mp hS
        cases hsome
        exact standsAt_of_use ho (by rw [Symbol.standingAt, hk]) hC
      · -- the type that the method is called on is handed out; it is a node of its own
        obtain ⟨type, htype, hhit⟩ := Option.bind_eq_some_iff.mp (Except.ok.inj hS)
        have htk := (childOf?_eq_some.mp htype).2
        have htin := hin.childOf htype
        exact standsAt_of_use htin.mem_nodes (by rw [Symbol.standingAt, htk])
          ((htin.ofTypeName_eq (Or.inl htk)).trans (congrArg _ (hit_eq_some_iff.mp hhit).1))

/-! ## Commands, outlines and keys -/

/-- A command found at a position stands at a node. -/
theorem standsAt_of_commandUnder (hs : q.script.WellTyped) {p : Position}
    (h : q.commandUnder p = .ok (some S)) : q.StandsAt atName S := by
  obtain ⟨c, -, hin, hk, hS⟩ := exists_of_commandUnder hs h
  exact standsAt_of_ofCommand hin.mem_nodes hk hS

/-- What is listed for a node is what was built. -/
theorem build_of_mem_listed (build : Occurrence → Result Symbol) {found : List Symbol}
    (h : listed build o = .ok found) (hS : S ∈ found) : build o = .ok S := by
  obtain ⟨C, hC, h⟩ := Result.bind_eq_ok.mp h
  cases h
  rw [hC, List.mem_singleton.mp hS]

/-- A symbol stands at its name, where it is asked for, if it stands there anyway. -/
theorem StandsAt.of_le {atName' : Bool} (h : q.StandsAt atName S)
    (hle : atName' = true → atName = true) : q.StandsAt atName' S := by
  obtain ⟨o, ho, standing, hstanding, C, hC, hagrees, hname⟩ := h
  exact ⟨o, ho, standing, hstanding, C, hC, hagrees, fun h => hname (hle h)⟩

/-- A symbol of the outline stands at a node; functions and configurations up to the extent. -/
theorem standsAt_of_mem_outline (hs : q.script.WellTyped) {symbols : List Symbol}
    (h : q.outline = .ok symbols) (hS : S ∈ symbols) :
    q.StandsAt (!S.kind.isOutlinedWhole) S := by
  obtain ⟨o, ho, found, hfound, hS⟩ := (mem_of_gather h).mp hS
  have hin := StandsIn.of_mem_nodes hs ho
  rw [listAt] at hfound
  cases hk : o.kind
  all_goals
    simp only [hk] at hfound
  case functionDefinition =>
    -- the body of a method lists nothing, so the function is not one
    have hbuild : Symbol.ofFunction o true = .ok S := by
      obtain hfound := (hin.outlineFunction_eq hk).symm.trans hfound
      split at hfound
      · cases hfound
        cases hS
      · cases hfound
        rw [List.mem_singleton.mp hS, hin.ofFunction_eq hk]
    have hkind : S.kind.isOutlinedWhole = true := by
      rw [hin.ofFunction_eq hk] at hbuild
      cases hbuild
      rw [declaredSymbol, functionKind]
      cases o.flagIn .isWorkflow <;> rfl
    rw [hkind]
    exact standsAt_of_ofFunction hs ho hk hbuild
  case configurationDefinition =>
    have hbuild := build_of_mem_listed (fun o => Symbol.ofConfiguration o true) hfound hS
    have hkind : S.kind.isOutlinedWhole = true := by
      rw [hin.ofConfiguration_eq hk] at hbuild
      cases hbuild
      rfl
    rw [hkind]
    exact standsAt_of_ofConfiguration hs ho hk hbuild
  case assignment =>
    obtain hfound := (hin.outlineVariable_eq hk).symm.trans hfound
    split at hfound
    · cases hfound
      rw [Option.mem_toList, Option.map_eq_some_iff] at hS
      obtain ⟨target, htarget, rfl⟩ := hS
      obtain ⟨htin, htk⟩ := hin.target htarget
      exact standsAt_ofVariable htin.mem_nodes htk
    · cases hfound
      cases hS
  case typeDefinition =>
    have hbuild := build_of_mem_listed (fun o => Symbol.ofType o false) hfound hS
    exact (standsAt_of_ofType hs ho hk hbuild).of_le fun _ => rfl
  case functionMember =>
    have hbuild := build_of_mem_listed (fun o => Symbol.ofMethod o false) hfound hS
    exact (standsAt_of_ofMethod hs ho hk hbuild).of_le fun _ => rfl
  case propertyMember =>
    have hbuild := build_of_mem_listed (fun o => Symbol.ofProperty o false) hfound hS
    exact (standsAt_of_ofProperty hs ho hk hbuild).of_le fun _ => rfl
  all_goals
    cases hfound
    cases hS

/-- A key that is listed stands at a hashtable. -/
theorem standsAt_of_mem_keys {keys : List Symbol}
    (h : q.keys = .ok keys) (hS : S ∈ keys) : q.StandsAt atName S := by
  obtain ⟨o, ho, found, hfound, hS⟩ := (mem_of_gather h).mp hS
  rw [listAt] at hfound
  cases hk : o.kind
  all_goals simp only [hk] at hfound
  case hashtable => exact standsAt_of_mem ho (by rw [Symbol.standingAt, hk]; exact hfound) hS
  all_goals
    cases hfound
    cases hS

/-! ## Self-reference -/

/-- A symbol that is handed out stands at a node. -/
theorem HandsOut.standsAt (hs : q.script.WellTyped) (h : q.HandsOut atName S) :
    q.StandsAt atName S := by
  cases h with
  | located h => exact standsAt_of_symbolUnder hs h
  | command h => exact standsAt_of_commandUnder hs h
  | outlined h hS => exact standsAt_of_mem_outline hs h hS
  | key h hS => exact standsAt_of_mem_keys h hS

/-- A symbol that is handed out is found among its own references, with its extent if it was
handed out at its name; a constructor that is not named like its owner is never found. -/
theorem references_self (hs : q.script.WellTyped) (table : Option AliasTable)
    (hout : q.HandsOut atName S) {refs : List Symbol}
    (h : q.references (some S) table = .ok refs) :
    (¬ S.Misnamed → (∃ R ∈ refs, R.Agrees S) ∧ (atName = true → S ∈ refs)) ∧
      (S.Misnamed → ∀ R ∈ refs, ¬ R.Agrees S) := by
  -- `C` stands where `S` was handed out and agrees with it
  obtain ⟨o, ho, standing, hstanding, C, hC, hagrees, hname⟩ := hout.standsAt hs
  have hregular := regular_of_mem_standingAt (StandsIn.of_mem_nodes hs ho) hstanding hC
  have hS := hregular.of_agrees hagrees
  constructor
  · intro hmis
    have hfound : C ∈ refs :=
      mem_references_of_standing h ho hstanding hC (hS.denotesSame_of_agrees hagrees hmis)
    exact ⟨⟨C, hfound, hagrees⟩, fun hat => hname hat ▸ hfound⟩
  · intro hmis R hR hRagrees
    exact hmis.not_denotesSame hS hRagrees (denotesSame_of_mem_references h hR)

theorem references_self_greeter :
    ∃ S refs, (Query.on Greeter.script).symbolUnder ⟨1, 17⟩ false = .ok (some S) ∧
      (Query.on Greeter.script).references (some S) none = .ok refs ∧
      S.kind = .constructor ∧ S ∈ refs := by
  have hrun : ((Query.on Greeter.script).symbolUnder ⟨1, 17⟩ false).toOption.join.any (fun S =>
      ((Query.on Greeter.script).references (some S) none).toBool && S.kind == .constructor &&
        S.member.any fun m => (sameName S.name m.owner).toOption == some true) = true := by
    decide +kernel
  cases hS : (Query.on Greeter.script).symbolUnder ⟨1, 17⟩ false with
  | error e =>
    rw [hS] at hrun
    cases hrun
  | ok found =>
    cases found with
    | none =>
      rw [hS] at hrun
      cases hrun
    | some S =>
      simp only [hS, Except.toOption, Option.join_some, Option.any_some, Bool.and_eq_true,
        beq_iff_eq, Option.any_eq_true] at hrun
      obtain ⟨⟨hrefs, hkind⟩, m, hm, hname⟩ := hrun
      have hmis : ¬ S.Misnamed := by
        rintro ⟨-, m', hm', hname'⟩
        obtain rfl : m = m' := Option.some_inj.mp (hm.symm.trans hm')
        rw [hname'] at hname
        cases hname
      cases h : (Query.on Greeter.script).references (some S) none with
      | error e =>
        rw [h] at hrefs
        cases hrefs
      | ok refs =>
        have hself := references_self Greeter.wellTyped_script none (.located hS) h
        exact ⟨S, refs, rfl, h, hkind, (hself.1 hmis).2 rfl⟩

end Query

end ScriptNavigation
