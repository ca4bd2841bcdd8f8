/-
# No query fails on a well-typed script

Whatever is optional may be missing in a well-typed script, lists may be empty and extents
may lie anywhere.  Still every query answers: each probe succeeds at each node it is asked
at, because all symbols but the keys of hashtables can be built, because the inferers of the
library name a type for every node, and because symbols with texts as names can be compared.

Main facts:

* `symbolUnder_total`, `commandUnder_total`, `declaration_total`, `outline_total`,
  `includedFiles_total`, `references_total`: a query that does not fail.
* `references_total_of_keys`: nor does the search for keys, if they can be built.
* `queries_total`: no query fails with an inferer of the library.
-/
import ScriptNavigation.Proofs.Navigation.CommandUnder
import ScriptNavigation.Proofs.Navigation.Declaration
import ScriptNavigation.Proofs.Navigation.Outline

namespace ScriptNavigation

namespace Query

open Occurrence

variable {s : Script} {infer : Inferer} {guess : Occurrence → String} {o : Occurrence}
variable {S : Symbol} {p : Position}

/-! ## The symbol at a position -/

theorem requirePosition_eq (hline : 1 ≤ p.line) (hcolumn : 1 ≤ p.column) :
    requirePosition p = .ok () :=
  if_neg (by omega)

theorem hitOf_total {build : Occurrence → Result Symbol} (h : ∃ S, build o = .ok S) :
    ∃ found, hitOf p build o = .ok found :=
  Result.map_total _ h

/-- The probes for the symbol at a position fail at no node. -/
theorem askAt_locateProbes_total (hinfer : infer.Guesses s guess) (ho : o.StandsIn s)
    (whole : Bool) :
    ∃ found, askAt ((Query.mk s infer false).locateProbes p whole) o = .ok found := by
  rw [askAt]
  cases hk : o.kind
  case command => exact ⟨_, ho.hitCommand_eq hk⟩
  case functionDefinition => exact hitOf_total ⟨_, ho.ofFunction_eq hk whole⟩
  case configurationDefinition => exact hitOf_total ⟨_, ho.ofConfiguration_eq hk whole⟩
  case commandParameter => exact hitOf_total ⟨_, rfl⟩
  case variableExpression => exact hitOf_total ⟨_, rfl⟩
  case typeDefinition => exact hitOf_total ⟨_, ho.ofType_eq hk whole⟩
  case typeExpression => exact hitOf_total ⟨_, ho.ofTypeName_eq (Or.inl hk)⟩
  case typeConstraint => exact hitOf_total ⟨_, ho.ofTypeName_eq (Or.inr hk)⟩
  case propertyMember => exact hitOf_total ⟨_, ho.ofProperty_eq hk whole⟩
  case functionMember => exact ⟨_, ho.hitMethod_eq hk p whole⟩
  case memberExpression =>
    have hbuild := Result.map_total (hit p) (ho.ofPropertyAccess_total hk hinfer)
    have hprobe := ho.hitPropertyAccess_eq (q := Query.mk s infer false) (p := p) hk
    dsimp only at hprobe
    split at hprobe
    · exact ⟨none, hprobe⟩
    · exact hbuild.imp fun _ h => hprobe.trans h
  case invokeMemberExpression =>
    -- the call is built where the name contains the position; else the type may be handed out
    have hbuild := Result.map_total some (ho.ofMethodCall_total hk hinfer)
    have hprobe := ho.hitMethodCall_eq (q := Query.mk s infer false) (p := p) hk
    dsimp only at hprobe
    split at hprobe
    · exact ⟨none, hprobe⟩
    · split at hprobe
      · exact hbuild.imp fun _ h => hprobe.trans h
      · exact ⟨_, hprobe⟩
  all_goals exact ⟨none, rfl⟩

theorem symbolUnder_total (hs : s.WellTyped) (hinfer : infer.Guesses s guess) (whole : Bool)
    (hline : 1 ≤ p.line) (hcolumn : 1 ≤ p.column) :
    ∃ found, (Query.mk s infer false).symbolUnder p whole = .ok found := by
  rw [symbolUnder, requirePosition_eq hline hcolumn, Result.ok_bind]
  exact first_total fun o ho => askAt_locateProbes_total hinfer (.of_mem_nodes hs ho) whole

theorem commandUnder_total (hs : s.WellTyped) (hline : 1 ≤ p.line) (hcolumn : 1 ≤ p.column) :
    ∃ found, (Query.mk s infer false).commandUnder p = .ok found := by
  rw [commandUnder, requirePosition_eq hline hcolumn, Result.ok_bind]
  exact ⟨_, first_commandIn hs⟩

/-! ## The outline and the included files -/

theorem outline_total (hs : s.WellTyped) :
    ∃ symbols, (Query.mk s infer false).outline = .ok symbols :=
  ⟨_, outline_eq hs infer⟩

theorem includedFiles_total (hs : s.WellTyped) :
    ∃ files, (Query.mk s infer false).includedFiles = .ok files := by
  apply gather_total
  intro o ho
  have hin := StandsIn.of_mem_nodes hs ho
  rw [listAt]
  cases hk : o.kind
  case command => exact ⟨_, hin.includedFile_eq hk⟩
  all_goals exact ⟨[], rfl⟩

/-! ## Declarations -/

/-- A symbol that is built and can be compared is matched without a failure. -/
theorem matching_total (table : Option AliasTable) {build : Probe (Option Symbol)}
    (hS : S.HasTexts) (h : ∃ found, build o = .ok found ∧ ∀ C, found = some C → C.Regular) :
    ∃ found, matching table S build o = .ok found := by
  obtain ⟨found, hfound, hregular⟩ := h
  rw [matching, hfound, Result.ok_bind]
  cases found with
  | none => exact ⟨none, rfl⟩
  | some C =>
    obtain ⟨same, hsame⟩ := denotesSame_total table hS (hregular C rfl).hasTexts
    exact ⟨if same then some C else none, by simp only [hsame, Result.ok_bind, Result.pure_eq]⟩

/-- Each node that declares symbols of a family builds a regular symbol, or none. -/
theorem declarations_regular (ho : o.StandsIn s) {family : SymbolKind}
    {build : Probe (Option Symbol)} (h : (declarations family).lookup o.kind = some build) :
    ∃ found, build o = .ok found ∧ ∀ C, found = some C → C.Regular :=
  ⟨_, build_of_lookup_declarations ho h, fun _ hC => regular_of_declaration? hC⟩

theorem declaration_total (hs : s.WellTyped) (hS : S.HasTexts) :
    ∃ found, (Query.mk s infer false).declaration (some S) = .ok found := by
  rw [declaration]
  by_cases hempty : (declarations S.kind.family).isEmpty = true
  · rw [if_pos hempty]
    exact ⟨none, rfl⟩
  · rw [if_neg hempty]
    apply first_total
    intro o ho
    rw [askAt, lookup_map_snd]
    cases hbuild : (declarations S.kind.family).lookup o.kind with
    | none => exact ⟨none, rfl⟩
    | some build =>
      exact matching_total none hS (declarations_regular (.of_mem_nodes hs ho) hbuild)

/-! ## References -/

/-- What matches a symbol is listed at a node where everything that stands there is built. -/
theorem listAt_referenceProbes_total (ho : o.StandsIn s) (hS : S.HasTexts)
    (table : Option AliasTable)
    (h : ∃ standing, Symbol.standingAt infer o = .ok standing) :
    ∃ found, listAt ((Query.mk s infer false).referenceProbes S table) o = .ok found := by
  obtain ⟨standing, hstanding⟩ := h
  rw [listAt_referenceProbes (Query.mk s infer false) S table hstanding]
  apply Result.filterM_total
  intro C hC
  exact denotesSame_total table hS (regular_of_mem_standingAt ho hstanding hC).hasTexts

theorem references_total (hs : s.WellTyped) (hinfer : infer.NamesTypes s) (hS : S.HasTexts)
    (hkey : S.kind ≠ .hashtableKey) (table : Option AliasTable) :
    ∃ refs, (Query.mk s infer false).references (some S) table = .ok refs := by
  rw [references_eq_gather]
  apply gather_total
  intro o ho
  have hin := StandsIn.of_mem_nodes hs ho
  by_cases hk : o.kind = .hashtable
  · -- the keys that stand here may fail to be built, but the symbol is no key
    have hfam : o.kind.symbolFamily? ≠ some S.kind.family := by
      rw [hk]
      cases hSk : S.kind
      case hashtableKey => exact absurd hSk hkey
      all_goals decide
    exact ⟨[], listAt_referenceProbes_of_ne _ table hfam⟩
  · exact listAt_referenceProbes_total hin hS table
      (standingAt_total hin hinfer fun h => absurd h hk)

/-- Where the keys of all hashtables can be built, the references to keys are listed too. -/
theorem references_total_of_keys (hs : s.WellTyped) (hinfer : infer.NamesTypes s)
    (hS : S.HasTexts)
    (hkeys : ∀ o ∈ s.nodes, o.kind = .hashtable → ∃ keys, Symbol.ofHashtable o = .ok keys)
    (table : Option AliasTable) :
    ∃ refs, (Query.mk s infer false).references (some S) table = .ok refs := by
  rw [references_eq_gather]
  apply gather_total
  intro o ho
  have hin := StandsIn.of_mem_nodes hs ho
  exact listAt_referenceProbes_total hin hS table (standingAt_total hin hinfer (hkeys o ho))

end Query

/-! ## All queries -/

/-- An inferer of the library names a type for every node. -/
theorem StandardInferer.namesTypes (kind : StandardInferer) {s : Script} (hs : s.WellTyped) :
    (kind.inferer s).NamesTypes s :=
  fun o ho => ⟨kind.guess s o, kind.infer_eq s o (.of_mem_nodes hs ho)⟩

namespace Query

/-- No query fails on a well-typed script with an inferer of the library, if positions start at
one and names are texts; the keys of hashtables are the one exception. -/
theorem queries_total (kind : StandardInferer) {s : Script} (hs : s.WellTyped) :
    (∀ p : Position, 1 ≤ p.line → 1 ≤ p.column →
      (∀ whole, ∃ found, (kind.query s).symbolUnder p whole = .ok found) ∧
        ∃ found, (kind.query s).commandUnder p = .ok found) ∧
      (∀ S : Symbol, S.HasTexts →
        (∃ found, (kind.query s).declaration (some S) = .ok found) ∧
          (S.kind ≠ .hashtableKey → ∀ table,
            ∃ refs, (kind.query s).references (some S) table = .ok refs)) ∧
      (∃ symbols, (kind.query s).outline = .ok symbols) ∧
      (∃ files, (kind.query s).includedFiles = .ok files) ∧
      ∀ o ∈ s.nodes, ∃ name, kind.inferer s (.node o) = .ok (.str name) := by
  have hinfer := kind.infer_eq s
  have hnames := kind.namesTypes hs
  refine ⟨?_, ?_, outline_total hs, includedFiles_total hs, hnames⟩
  · intro p hline hcolumn
    exact ⟨fun whole => symbolUnder_total hs hinfer whole hline hcolumn,
      commandUnder_total hs hline hcolumn⟩
  · intro S hS
    exact ⟨declaration_total hs hS, fun hkey table => references_total hs hnames hS hkey table⟩

theorem queries_total_greeter :
    (∃ found, (StandardInferer.syntactic.query Greeter.script).symbolUnder ⟨1, 60⟩ true =
        .ok found) ∧
      ∃ found, (StandardInferer.syntactic.query Greeter.script).declaration
        (some ⟨.classType, .str "greeter", Extent.nowhere.withText .null, none⟩) = .ok found := by
  obtain ⟨hposition, hsymbol, -⟩ := queries_total .syntactic Greeter.wellTyped_script
  have htexts : Symbol.HasTexts
      ⟨.classType, .str "greeter", Extent.nowhere.withText .null, none⟩ :=
    ⟨⟨"greeter", rfl⟩, fun m hm => nomatch hm⟩
  exact ⟨(hposition ⟨1, 60⟩ (by decide) (by decide)).1 true, (hsymbol _ htexts).1⟩

end Query

end ScriptNavigation
