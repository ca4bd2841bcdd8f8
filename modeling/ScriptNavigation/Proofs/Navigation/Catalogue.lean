/-
# The references to a symbol among all symbols

A node stands for symbols by its kind alone: the catalogue of a script lists, node by node
in document order, every symbol that can be built.  The references to a symbol are looked
for at the nodes of its family only.  Nothing is lost by that: the references are those
symbols of the catalogue that match, in the same order.  The table from families to kinds of
nodes and the test for matching agree, because every symbol that stands at a node has the
family that the kind of the node says.

Main facts:

* `family_of_mem_standingAt`: the family of a symbol is that of the node it stands at.
* `exists_probe_of_family`, `lookup_occurrences_eq_none`: which nodes a family is looked for at.
* `listAt_referenceProbes`: what is listed at a node is what stands there and matches.
* `standingAt_total`, `regular_of_mem_standingAt`: what stands at a node of a well-typed script.
* `references_eq_filter_catalogue`: the references are the matching symbols of the catalogue.
-/
import ScriptNavigation.Navigation.References
import ScriptNavigation.Proofs.Navigation.Answers
import ScriptNavigation.Proofs.Symbol.Built

namespace ScriptNavigation

/-! ## What stands at a node -/

/-- All symbols that stand at a node, at the name: those that are built for its kind. -/
def Symbol.standingAt (infer : Inferer) (o : Occurrence) : Result (List Symbol) :=
  match o.kind with
  | .command => (Symbol.ofCommand o).map Option.toList
  | .functionDefinition => (Symbol.ofFunction o false).map List.singleton
  | .configurationDefinition => (Symbol.ofConfiguration o false).map List.singleton
  | .commandParameter => .ok [Symbol.ofParameter o]
  | .variableExpression => .ok [Symbol.ofVariable o]
  | .typeDefinition => (Symbol.ofType o false).map List.singleton
  | .typeExpression | .typeConstraint => (Symbol.ofTypeName o).map List.singleton
  | .functionMember => (Symbol.ofMethod o false).map List.singleton
  | .invokeMemberExpression => (Symbol.ofMethodCall infer o).map List.singleton
  | .propertyMember => (Symbol.ofProperty o false).map List.singleton
  | .memberExpression => (Symbol.ofPropertyAccess infer o).map List.singleton
  | .hashtable => Symbol.ofHashtable o
  | _ => .ok []

/-- The family of the symbols that stand at nodes of a kind, if there are any. -/
def NodeKind.symbolFamily? : NodeKind → Option SymbolKind
  | .command | .functionDefinition => some .function
  | .configurationDefinition => some .configuration
  | .commandParameter => some .parameter
  | .variableExpression => some .variableName
  | .typeDefinition | .typeExpression | .typeConstraint => some .classType
  | .functionMember | .invokeMemberExpression => some .method
  | .propertyMember | .memberExpression => some .property
  | .hashtable => some .hashtableKey
  | _ => none

namespace Query

/-- All symbols of a script, in document order. -/
def catalogue (q : Query) : Result (List Symbol) := do
  return (← q.script.nodes.mapM (Symbol.standingAt q.infer)).flatten

variable {infer : Inferer} {o : Occurrence} {S C : Symbol} {standing : List Symbol}

/-! ## Families -/

theorem family_of_ofFunction {whole : Bool} (h : Symbol.ofFunction o whole = .ok S) :
    S.kind.family = .function := by
  obtain ⟨workflow, -, h⟩ := Result.bind_eq_ok.mp h
  obtain ⟨name, -, h⟩ := Result.bind_eq_ok.mp h
  obtain ⟨extent, -, h⟩ := Result.bind_eq_ok.mp h
  cases h
  dsimp only
  split <;> rfl

theorem family_of_ofConfiguration {whole : Bool} (h : Symbol.ofConfiguration o whole = .ok S) :
    S.kind.family = .configuration := by
  obtain ⟨name, -, h⟩ := Result.bind_eq_ok.mp h
  obtain ⟨extent, -, h⟩ := Result.bind_eq_ok.mp h
  cases h
  rfl

theorem family_of_ofType {whole : Bool} (h : Symbol.ofType o whole = .ok S) :
    S.kind.family = .classType := by
  obtain ⟨name, -, h⟩ := Result.bind_eq_ok.mp h
  obtain ⟨extent, -, h⟩ := Result.bind_eq_ok.mp h
  cases h
  rfl

theorem family_of_ofMethod {whole : Bool} (h : Symbol.ofMethod o whole = .ok S) :
    S.kind.family = .method := by
  simp only [Symbol.ofMethod, Result.bind_eq_ok, Result.pure_eq] at h
  obtain ⟨name, -, extent, -, isConstructor, -, owner, -, isStatic, -, parameters, -, items, -,
    types, -, returnField, -, returnType, -, h⟩ := h
  cases h
  dsimp only
  split <;> rfl

theorem family_of_ofProperty {whole : Bool} (h : Symbol.ofProperty o whole = .ok S) :
    S.kind.family = .property := by
  cases whole with
  | true =>
    simp only [Symbol.ofProperty, if_true, Result.bind_eq_ok, Result.pure_eq] at h
    obtain ⟨name, -, extent, -, owner, -, isStatic, -, typeField, -, returnType, -, h⟩ := h
    cases h
    rfl
  | false =>
    simp only [Symbol.ofProperty, Bool.false_eq_true, if_false, Result.bind_eq_ok,
      Result.pure_eq] at h
    obtain ⟨name, -, extent, -, owner, -, isStatic, -, typeField, -, returnType, -, h⟩ := h
    cases h
    rfl

theorem family_of_ofCommand (h : Symbol.ofCommand o = .ok (some S)) :
    S.kind.family = .function := by
  obtain ⟨name, -, h⟩ := Result.bind_eq_ok.mp h
  split at h
  · cases h
  · obtain ⟨extent, -, h⟩ := Result.bind_eq_ok.mp h
    cases h
    rfl

theorem family_of_ofTypeName (h : Symbol.ofTypeName o = .ok S) : S.kind.family = .classType := by
  obtain ⟨name, -, h⟩ := Result.bind_eq_ok.mp h
  obtain ⟨extent, -, h⟩ := Result.bind_eq_ok.mp h
  cases h
  rfl

theorem family_of_ofMethodCall (h : Symbol.ofMethodCall infer o = .ok S) :
    S.kind.family = .method := by
  obtain ⟨isConstructor, -, h⟩ := Result.bind_eq_ok.mp h
  cases isConstructor with
  | true =>
    simp only [if_true, Result.bind_eq_ok, Result.pure_eq] at h
    obtain ⟨receiver, -, called, -, name, -, extent, -, owner, -, isStatic, -, arguments, -,
      items, -, types, -, h⟩ := h
    cases h
    rfl
  | false =>
    simp only [Bool.false_eq_true, if_false, Result.bind_eq_ok, Result.pure_eq] at h
    obtain ⟨called, -, name, -, extent, -, owner, -, isStatic, -, arguments, -, items, -,
      types, -, h⟩ := h
    cases h
    rfl

theorem family_of_ofPropertyAccess (h : Symbol.ofPropertyAccess infer o = .ok S) :
    S.kind.family = .property := by
  simp only [Symbol.ofPropertyAccess, Result.bind_eq_ok, Result.pure_eq] at h
  obtain ⟨member, -, name, -, extent, -, owner, -, isStatic, -, h⟩ := h
  cases h
  rfl

theorem family_of_ofPair {pair : Datum} (h : Symbol.ofPair pair = .ok (some S)) :
    S.kind.family = .hashtableKey := by
  obtain ⟨items, -, h⟩ := Result.bind_eq_ok.mp h
  split at h
  · split at h
    · cases h
    · split at h
      all_goals
        simp only [Result.bind_eq_ok, Result.pure_eq] at h
        obtain ⟨last, -, name, -, extent, -, h⟩ := h
        cases h
        rfl
  · cases h

theorem family_of_mem_ofHashtable {keys : List Symbol} (h : Symbol.ofHashtable o = .ok keys)
    (hS : S ∈ keys) : S.kind.family = .hashtableKey := by
  obtain ⟨pairs, -, h⟩ := Result.bind_eq_ok.mp h
  obtain ⟨found, hfound, h⟩ := Result.bind_eq_ok.mp h
  cases h
  obtain ⟨key, hkey, hid⟩ := List.mem_filterMap.mp hS
  obtain ⟨pair, -, hpair⟩ := (Result.mem_iff_of_mapM_eq_ok hfound).mp hkey
  rw [id_eq] at hid
  exact family_of_ofPair (hpair.trans (congrArg _ hid))

/-- What stands at a node as its only symbol was built there. -/
theorem build_of_mem_singleton {build : Result Symbol}
    (h : build.map List.singleton = .ok standing) (hS : S ∈ standing) : build = .ok S := by
  obtain ⟨C, hC, rfl⟩ := Result.map_eq_ok.mp h
  rw [List.mem_singleton.mp hS, hC]

/-- The family of a symbol is that of the nodes at which it stands. -/
theorem family_of_mem_standingAt (h : Symbol.standingAt infer o = .ok standing)
    (hS : S ∈ standing) : o.kind.symbolFamily? = some S.kind.family := by
  cases hk : o.kind
  all_goals simp only [Symbol.standingAt, hk] at h
  case command =>
    obtain ⟨C, hC, rfl⟩ := Result.map_eq_ok.mp h
    rw [Option.mem_toList] at hS
    rw [family_of_ofCommand (hC.trans (congrArg _ hS)), NodeKind.symbolFamily?]
  case functionDefinition =>
    rw [family_of_ofFunction (build_of_mem_singleton h hS), NodeKind.symbolFamily?]
  case configurationDefinition =>
    rw [family_of_ofConfiguration (build_of_mem_singleton h hS), NodeKind.symbolFamily?]
  case commandParameter | variableExpression =>
    cases h
    rw [List.mem_singleton.mp hS]
    rfl
  case typeDefinition =>
    rw [family_of_ofType (build_of_mem_singleton h hS), NodeKind.symbolFamily?]
  case typeExpression | typeConstraint =>
    rw [family_of_ofTypeName (build_of_mem_singleton h hS), NodeKind.symbolFamily?]
  case functionMember =>
    rw [family_of_ofMethod (build_of_mem_singleton h hS), NodeKind.symbolFamily?]
  case invokeMemberExpression =>
    rw [family_of_ofMethodCall (build_of_mem_singleton h hS), NodeKind.symbolFamily?]
  case propertyMember =>
    rw [family_of_ofProperty (build_of_mem_singleton h hS), NodeKind.symbolFamily?]
  case memberExpression =>
    rw [family_of_ofPropertyAccess (build_of_mem_singleton h hS), NodeKind.symbolFamily?]
  case hashtable => rw [family_of_mem_ofHashtable h hS, NodeKind.symbolFamily?]
  all_goals
    cases h
    cases hS

/-! ## Where a family is looked for -/

/-- A probe that builds a symbol of every node lists that symbol. -/
theorem map_toList_always (build : Occurrence → Result Symbol) (o : Occurrence) :
    (always build o).map Option.toList = (build o).map List.singleton := by
  rw [always]
  cases build o <;> rfl

/-- A family of symbols without keys is looked for at each node that has symbols of it, by
building what stands there. -/
theorem exists_probe_of_family (infer : Inferer) {family : SymbolKind}
    (h : o.kind.symbolFamily? = some family) (hkey : family ≠ .hashtableKey) :
    ∃ build, (occurrences infer family).lookup o.kind = some build ∧
      Symbol.standingAt infer o = (build o).map Option.toList := by
  rw [Symbol.standingAt]
  cases hk : o.kind
  all_goals
    rw [hk] at h
    cases h
  case hashtable => exact absurd rfl hkey
  case command => exact ⟨_, rfl, rfl⟩
  case commandParameter | variableExpression => exact ⟨_, rfl, rfl⟩
  all_goals
    refine ⟨_, rfl, ?_⟩
    rw [map_toList_always]

/-- A family of symbols is not looked for at nodes that have no symbols of it. -/
theorem lookup_occurrences_eq_none {family : SymbolKind}
    (h : o.kind.symbolFamily? ≠ some family) :
    (occurrences infer family).lookup o.kind = none := by
  -- where the kind has a probe for the family, it has symbols of the family
  cases family
  all_goals
    cases hk : o.kind
    all_goals first
      | rfl
      | exact absurd (congrArg NodeKind.symbolFamily? hk) h

/-! ## What is listed at a node -/

/-- The symbol of a node is listed exactly when it matches. -/
theorem matchingList_eq (table : Option AliasTable) {build : Probe (Option Symbol)}
    {found : Option Symbol} (h : build o = .ok found) :
    matchingList table S build o = found.toList.filterM (denotesSame table S) := by
  rw [matchingList, matching, h, Result.ok_bind]
  cases found with
  | none => rfl
  | some C =>
    rw [Option.toList_some, Result.filterM_cons]
    cases hsame : denotesSame table S C with
    | error e => simp only [hsame, Result.error_bind]
    | ok same => cases same <;> simp [hsame]

/-- Whether a key matches does not depend on an alias table. -/
theorem denotesSame_key (table : Option AliasTable) (hS : S.kind.family = .hashtableKey) :
    denotesSame table S C = denotesSame none S C := by
  rw [denotesSame, denotesSame, hS]

/-- A pair without a key lists nothing. -/
theorem matchingPairs_of_none {pair : Datum} (rest : List Datum)
    (h : Symbol.ofPair pair = .ok none) :
    matchingPairs S (pair :: rest) = matchingPairs S rest := by
  simp only [matchingPairs, h, Result.ok_bind, Result.pure_eq, List.nil_append]
  cases matchingPairs S rest <;> rfl

/-- The key of a pair is listed first, if it matches. -/
theorem matchingPairs_of_some {pair : Datum} (rest : List Datum)
    (h : Symbol.ofPair pair = .ok (some C)) :
    matchingPairs S (pair :: rest) = do
      let same ← denotesSame none S C
      let kept ← matchingPairs S rest
      return if same then C :: kept else kept := by
  simp only [matchingPairs, h, Result.ok_bind, Result.pure_eq]
  cases denotesSame none S C with
  | error e => rfl
  | ok same =>
    cases matchingPairs S rest with
    | error e => rfl
    | ok kept => cases same <;> rfl

/-- The pairs of a hashtable list the keys that match, if all keys can be built. -/
theorem matchingPairs_eq (S : Symbol) {pairs : List Datum} {found : List (Option Symbol)}
    (h : pairs.mapM Symbol.ofPair = .ok found) :
    matchingPairs S pairs = (found.filterMap id).filterM (denotesSame none S) := by
  induction pairs generalizing found with
  | nil =>
    cases h
    rfl
  | cons pair rest ih =>
    obtain ⟨key, keys, hkey, hkeys, rfl⟩ := Result.mapM_cons_eq_ok.mp h
    cases key with
    | none => rw [matchingPairs_of_none rest hkey, ih hkeys, List.filterMap_cons, id_eq]
    | some C =>
      rw [matchingPairs_of_some rest hkey, ih hkeys, List.filterMap_cons, id_eq,
        Result.filterM_cons]

/-- If the pairs of a hashtable can be gone through, all their keys can be built. -/
theorem exists_keys_of_matchingPairs {pairs : List Datum} {kept : List Symbol}
    (h : matchingPairs S pairs = .ok kept) : ∃ found, pairs.mapM Symbol.ofPair = .ok found := by
  induction pairs generalizing kept with
  | nil => exact ⟨[], rfl⟩
  | cons pair rest ih =>
    obtain ⟨key, hkey, -⟩ := Result.bind_eq_ok.mp h
    -- whatever the key is, the rest has been gone through as well
    have hrest : ∃ kept', matchingPairs S rest = .ok kept' := by
      cases key with
      | none => exact ⟨kept, matchingPairs_of_none rest hkey ▸ h⟩
      | some C =>
        rw [matchingPairs_of_some rest hkey] at h
        obtain ⟨same, -, h⟩ := Result.bind_eq_ok.mp h
        obtain ⟨kept', hkept', -⟩ := Result.bind_eq_ok.mp h
        exact ⟨kept', hkept'⟩
    obtain ⟨kept', hkept'⟩ := hrest
    obtain ⟨found, hfound⟩ := ih hkept'
    refine ⟨key :: found, ?_⟩
    rw [List.mapM_cons, hkey, hfound]
    rfl

/-- Nothing is listed at a node for a symbol of another family. -/
theorem listAt_referenceProbes_of_ne (q : Query) (table : Option AliasTable)
    (h : o.kind.symbolFamily? ≠ some S.kind.family) :
    listAt (q.referenceProbes S table) o = .ok [] := by
  rw [listAt, referenceProbes]
  by_cases hkey : S.kind.family = .hashtableKey
  · have hk : (o.kind == NodeKind.hashtable) = false := by
      rw [beq_eq_false_iff_ne]
      intro hk
      exact h (by rw [hk, hkey, NodeKind.symbolFamily?])
    rw [if_pos hkey, List.lookup_cons, hk]
    rfl
  · rw [if_neg hkey, lookup_map_snd, lookup_occurrences_eq_none h, Option.map_none]

/-- Only hashtables have keys. -/
theorem kind_of_symbolFamily_key {k : NodeKind} (h : k.symbolFamily? = some .hashtableKey) :
    k = .hashtable := by
  cases k
  case hashtable => rfl
  all_goals cases h

/-- What is listed at a hashtable for a key. -/
theorem listAt_referenceProbes_key (q : Query) (table : Option AliasTable)
    (hk : o.kind = .hashtable) (hkey : S.kind.family = .hashtableKey) :
    listAt (q.referenceProbes S table) o = Symbol.pairsOf o >>= matchingPairs S := by
  rw [listAt, referenceProbes, if_pos hkey, hk]
  rfl

/-- What is listed at a node is what stands there and matches. -/
theorem listAt_referenceProbes (q : Query) (S : Symbol) (table : Option AliasTable)
    (h : Symbol.standingAt q.infer o = .ok standing) :
    listAt (q.referenceProbes S table) o = standing.filterM (denotesSame table S) := by
  by_cases hfam : o.kind.symbolFamily? = some S.kind.family
  · by_cases hkey : S.kind.family = .hashtableKey
    · -- keys have probes of their own, which take no table: it does not matter for keys
      have hk := kind_of_symbolFamily_key (hfam.trans (congrArg some hkey))
      have hsame : denotesSame table S = denotesSame none S :=
        funext fun C => denotesSame_key table hkey
      simp only [Symbol.standingAt, hk] at h
      obtain ⟨pairs, hpairs, h⟩ := Result.bind_eq_ok.mp h
      obtain ⟨keys, hkeys, h⟩ := Result.bind_eq_ok.mp h
      cases h
      rw [listAt_referenceProbes_key q table hk hkey, hpairs, hsame]
      exact matchingPairs_eq S hkeys
    · obtain ⟨build, hbuild, hstanding⟩ := exists_probe_of_family q.infer hfam hkey
      rw [hstanding, Result.map_eq_ok] at h
      obtain ⟨found, hfound, rfl⟩ := h
      rw [listAt, referenceProbes, if_neg hkey, lookup_map_snd, hbuild, Option.map_some]
      exact matchingList_eq table hfound
  · -- nothing is listed here, so nothing that stands here may match
    have hnone : ∀ C ∈ standing, denotesSame table S C = .ok false := by
      intro C hC
      apply denotesSame_of_family_ne
      intro heq
      exact hfam ((family_of_mem_standingAt h hC).trans (congrArg some heq.symm))
    rw [listAt_referenceProbes_of_ne q table hfam, Result.filterM_eq_ok hnone]
    simp

/-- If a node lists anything at all for a symbol of its family, then what stands there can be
built. -/
theorem exists_standing_of_listAt {q : Query} {table : Option AliasTable} {found : List Symbol}
    (h : listAt (q.referenceProbes S table) o = .ok found)
    (hfam : o.kind.symbolFamily? = some S.kind.family) :
    ∃ standing, Symbol.standingAt q.infer o = .ok standing := by
  by_cases hkey : S.kind.family = .hashtableKey
  · have hk := kind_of_symbolFamily_key (hfam.trans (congrArg some hkey))
    rw [listAt_referenceProbes_key q table hk hkey] at h
    obtain ⟨pairs, hpairs, h⟩ := Result.bind_eq_ok.mp h
    obtain ⟨keys, hkeys⟩ := exists_keys_of_matchingPairs h
    refine ⟨keys.filterMap id, ?_⟩
    rw [Symbol.standingAt, hk]
    dsimp only
    rw [Symbol.ofHashtable, hpairs, Result.ok_bind, hkeys]
    rfl
  · obtain ⟨build, hbuild, hstanding⟩ := exists_probe_of_family q.infer hfam hkey
    rw [listAt, referenceProbes, if_neg hkey, lookup_map_snd, hbuild, Option.map_some] at h
    obtain ⟨match?, hmatch, -⟩ := Result.bind_eq_ok.mp h
    obtain ⟨C, hC, -⟩ := Result.bind_eq_ok.mp hmatch
    rw [hstanding, hC]
    exact ⟨C.toList, rfl⟩

/-- What is listed at a node for a symbol stands there and matches the symbol. -/
theorem exists_standing_of_mem_listAt {q : Query} {table : Option AliasTable}
    {found : List Symbol} (h : listAt (q.referenceProbes S table) o = .ok found)
    (hC : C ∈ found) :
    ∃ standing, Symbol.standingAt q.infer o = .ok standing ∧ C ∈ standing ∧
      denotesSame table S C = .ok true := by
  by_cases hfam : o.kind.symbolFamily? = some S.kind.family
  · obtain ⟨standing, hstanding⟩ := exists_standing_of_listAt h hfam
    rw [listAt_referenceProbes q S table hstanding] at h
    exact ⟨standing, hstanding, (Result.mem_of_filterM_eq_ok h).mp hC⟩
  · rw [listAt_referenceProbes_of_ne q table hfam] at h
    cases h
    exact absurd hC List.not_mem_nil

/-! ## The references of a query -/

/-- Without probes nothing is listed. -/
theorem gather_nil {α : Type} (s : Script) (infer : Inferer) :
    (Query.mk s infer false).gather ([] : Probes (List α)) = .ok [] := by
  have hnone : ∀ o ∈ s.nodes, listAt ([] : Probes (List α)) o = .ok [] := fun o _ => rfl
  rw [gather_eq, Result.mapM_eq_ok hnone, Result.map_ok, List.map_const',
    List.flatten_replicate_nil]

/-- The references are all answers of the probes for them, also if there are none. -/
theorem references_eq_gather (s : Script) (infer : Inferer) (S : Symbol)
    (table : Option AliasTable) :
    (Query.mk s infer false).references (some S) table =
      (Query.mk s infer false).gather ((Query.mk s infer false).referenceProbes S table) := by
  rw [references]
  by_cases hempty : ((Query.mk s infer false).referenceProbes S table).isEmpty = true
  · rw [if_pos hempty, List.isEmpty_iff.mp hempty, gather_nil]
    rfl
  · rw [if_neg hempty]

/-- Filtering lists of symbols one by one is filtering all of them. -/
theorem mapM_filterM {α β : Type} (p : β → Result Bool) {f : α → Result (List β)}
    {g : α → Result (List β)} {as : List α} {lists : List (List β)} (h : as.mapM f = .ok lists)
    (hg : ∀ a ∈ as, ∀ l, f a = .ok l → g a = l.filterM p) :
    (as.mapM g).map List.flatten = lists.flatten.filterM p := by
  induction as generalizing lists with
  | nil =>
    cases h
    rfl
  | cons a as ih =>
    obtain ⟨l, rest, hl, hrest, rfl⟩ := Result.mapM_cons_eq_ok.mp h
    have htail := ih hrest fun b hb => hg b (List.mem_cons_of_mem _ hb)
    rw [List.flatten_cons, Result.filterM_append, ← htail, List.mapM_cons,
      hg a List.mem_cons_self l hl]
    cases l.filterM p with
    | error e => rfl
    | ok kept => cases as.mapM g <;> rfl

/-- The references to a symbol are the matching symbols of the catalogue, where there is one. -/
theorem references_eq_filterM {s : Script} {infer : Inferer} {symbols : List Symbol}
    (h : (Query.mk s infer false).catalogue = .ok symbols) (S : Symbol)
    (table : Option AliasTable) :
    (Query.mk s infer false).references (some S) table =
      symbols.filterM (denotesSame table S) := by
  obtain ⟨lists, hlists, h⟩ := Result.bind_eq_ok.mp h
  cases h
  rw [references_eq_gather, gather_eq]
  exact mapM_filterM _ hlists fun o _ l hl => listAt_referenceProbes _ S table hl

/-- The references are all answers of the probes for them; none, if there are no probes. -/
theorem gather_of_references {q : Query} {table : Option AliasTable} {refs : List Symbol}
    (h : q.references (some S) table = .ok refs) :
    (q.referenceProbes S table = [] ∧ refs = []) ∨
      q.gather (q.referenceProbes S table) = .ok refs := by
  rw [references] at h
  by_cases hempty : (q.referenceProbes S table).isEmpty = true
  · rw [if_pos hempty] at h
    cases h
    exact Or.inl ⟨List.isEmpty_iff.mp hempty, rfl⟩
  · rw [if_neg hempty] at h
    exact Or.inr h

/-- The references are what the probes for them list at some node. -/
theorem exists_of_mem_references {q : Query} {table : Option AliasTable} {refs : List Symbol}
    (h : q.references (some S) table = .ok refs) (hC : C ∈ refs) :
    ∃ o ∈ q.script.nodes, ∃ found,
      listAt (q.referenceProbes S table) o = .ok found ∧ C ∈ found := by
  rcases gather_of_references h with ⟨-, rfl⟩ | hgather
  · exact absurd hC List.not_mem_nil
  · exact (mem_of_gather hgather).mp hC

/-- A reference to a symbol stands at a node and matches the symbol. -/
theorem exists_standing_of_mem_references {q : Query} {table : Option AliasTable}
    {refs : List Symbol} (h : q.references (some S) table = .ok refs) (hC : C ∈ refs) :
    ∃ o ∈ q.script.nodes, ∃ standing, Symbol.standingAt q.infer o = .ok standing ∧
      C ∈ standing ∧ denotesSame table S C = .ok true := by
  obtain ⟨o, ho, found, hfound, hC⟩ := exists_of_mem_references h hC
  exact ⟨o, ho, exists_standing_of_mem_listAt hfound hC⟩

/-- The references to a symbol match it. -/
theorem denotesSame_of_mem_references {q : Query} {table : Option AliasTable} {refs : List Symbol}
    (h : q.references (some S) table = .ok refs) (hC : C ∈ refs) :
    denotesSame table S C = .ok true := by
  obtain ⟨-, -, -, -, -, hsame⟩ := exists_standing_of_mem_references h hC
  exact hsame

/-- What stands at a node and matches a symbol is among the references to it. -/
theorem mem_references_of_standing {q : Query} {table : Option AliasTable} {refs : List Symbol}
    (h : q.references (some S) table = .ok refs) (ho : o ∈ q.script.nodes)
    (hstanding : Symbol.standingAt q.infer o = .ok standing) (hC : C ∈ standing)
    (hsame : denotesSame table S C = .ok true) : C ∈ refs := by
  have hlist := listAt_referenceProbes q S table hstanding
  rcases gather_of_references h with ⟨hnone, -⟩ | hgather
  · rw [hnone] at hlist
    exact absurd ((Result.mem_of_filterM_eq_ok hlist.symm).mpr ⟨hC, hsame⟩) List.not_mem_nil
  · obtain ⟨found, hfound⟩ := exists_of_gather hgather ho
    have hkept := (Result.mem_of_filterM_eq_ok (hlist.symm.trans hfound)).mpr ⟨hC, hsame⟩
    exact (mem_of_gather hgather).mpr ⟨o, ho, found, hfound, hkept⟩

/-- What stands at a node is built without a failure, if its keys are and the inferer names
types. -/
theorem standingAt_total {s : Script} (ho : o.StandsIn s) (hinfer : infer.NamesTypes s)
    (hkeys : o.kind = .hashtable → ∃ keys, Symbol.ofHashtable o = .ok keys) :
    ∃ standing, Symbol.standingAt infer o = .ok standing := by
  obtain ⟨guess, hguess⟩ := hinfer.exists_guess
  rw [Symbol.standingAt]
  cases hk : o.kind
  case command => exact Result.map_total _ ⟨_, ho.ofCommand_eq hk⟩
  case functionDefinition => exact Result.map_total _ ⟨_, ho.ofFunction_eq hk false⟩
  case configurationDefinition => exact Result.map_total _ ⟨_, ho.ofConfiguration_eq hk false⟩
  case typeDefinition => exact Result.map_total _ ⟨_, ho.ofType_eq hk false⟩
  case typeExpression => exact Result.map_total _ ⟨_, ho.ofTypeName_eq (Or.inl hk)⟩
  case typeConstraint => exact Result.map_total _ ⟨_, ho.ofTypeName_eq (Or.inr hk)⟩
  case functionMember => exact Result.map_total _ ⟨_, ho.ofMethod_eq hk false⟩
  case propertyMember => exact Result.map_total _ ⟨_, ho.ofProperty_eq hk false⟩
  case invokeMemberExpression => exact Result.map_total _ (ho.ofMethodCall_total hk hguess)
  case memberExpression => exact Result.map_total _ (ho.ofPropertyAccess_total hk hguess)
  case hashtable => exact hkeys hk
  all_goals exact ⟨_, rfl⟩

/-- What stands at a node of a well-typed script is regular. -/
theorem regular_of_mem_standingAt {s : Script} (ho : o.StandsIn s)
    (h : Symbol.standingAt infer o = .ok standing) (hS : S ∈ standing) : S.Regular := by
  cases hk : o.kind
  all_goals simp only [Symbol.standingAt, hk] at h
  case command =>
    obtain ⟨C, hC, rfl⟩ := Result.map_eq_ok.mp h
    rw [Option.mem_toList] at hS
    exact ho.regular_of_ofCommand hk (hC.trans (congrArg _ hS))
  case functionDefinition => exact ho.regular_of_ofFunction hk (build_of_mem_singleton h hS)
  case configurationDefinition =>
    exact ho.regular_of_ofConfiguration hk (build_of_mem_singleton h hS)
  case commandParameter | variableExpression =>
    cases h
    rw [List.mem_singleton.mp hS]
    exact Occurrence.regular_ofWholeNode o (by decide) rfl
  case typeDefinition => exact ho.regular_of_ofType hk (build_of_mem_singleton h hS)
  case typeExpression =>
    exact ho.regular_of_ofTypeName (Or.inl hk) (build_of_mem_singleton h hS)
  case typeConstraint =>
    exact ho.regular_of_ofTypeName (Or.inr hk) (build_of_mem_singleton h hS)
  case functionMember => exact ho.regular_of_ofMethod hk (build_of_mem_singleton h hS)
  case invokeMemberExpression =>
    exact ho.regular_of_ofMethodCall hk (build_of_mem_singleton h hS)
  case propertyMember => exact ho.regular_of_ofProperty hk (build_of_mem_singleton h hS)
  case memberExpression =>
    exact ho.regular_of_ofPropertyAccess hk (build_of_mem_singleton h hS)
  case hashtable => exact ho.regular_of_mem_ofHashtable hk h hS
  all_goals
    cases h
    cases hS

/-- A well-typed script whose keys can all be built has a catalogue. -/
theorem catalogue_total {s : Script} (hs : s.WellTyped) (hinfer : infer.NamesTypes s)
    (hkeys : ∀ o ∈ s.nodes, o.kind = .hashtable → ∃ keys, Symbol.ofHashtable o = .ok keys) :
    ∃ symbols, (Query.mk s infer false).catalogue = .ok symbols := by
  have hstanding : ∀ o ∈ s.nodes, ∃ standing, Symbol.standingAt infer o = .ok standing :=
    fun o ho => standingAt_total (.of_mem_nodes hs ho) hinfer (hkeys o ho)
  choose! standing hstanding using hstanding
  refine ⟨(s.nodes.map standing).flatten, ?_⟩
  rw [catalogue, Result.mapM_eq_ok hstanding]
  rfl

/-- The references to a symbol are the matching symbols of the catalogue, in the same order.
A well-typed script whose keys can all be built has a catalogue whenever the inferer names
types. -/
theorem references_eq_filter_catalogue {s : Script} (hs : s.WellTyped)
    (hkeys : ∀ o ∈ s.nodes, o.kind = .hashtable → ∃ keys, Symbol.ofHashtable o = .ok keys)
    (infer : Inferer) (S : Symbol) (table : Option AliasTable) :
    (∀ symbols, (Query.mk s infer false).catalogue = .ok symbols →
      (Query.mk s infer false).references (some S) table =
        symbols.filterM (denotesSame table S)) ∧
      (infer.NamesTypes s → ∃ symbols, (Query.mk s infer false).catalogue = .ok symbols) :=
  ⟨fun _ h => references_eq_filterM h S table, fun hinfer => catalogue_total hs hinfer hkeys⟩

theorem references_eq_filter_catalogue_greeter :
    ∃ symbols, (Query.mk Greeter.script Inferer.wildcard false).catalogue = .ok symbols ∧
      (Query.mk Greeter.script Inferer.wildcard false).references
          (some ⟨.hashtableKey, .str "A", Extent.nowhere.withText (.str "A"), none⟩) none =
        symbols.filterM (denotesSame none
          ⟨.hashtableKey, .str "A", Extent.nowhere.withText (.str "A"), none⟩) := by
  have hkeys : ∀ o ∈ Greeter.script.nodes, o.kind = .hashtable →
      ∃ keys, Symbol.ofHashtable o = .ok keys := by
    have hok : ∀ o ∈ Greeter.script.nodes, o.kind = .hashtable →
        (Symbol.ofHashtable o).toBool = true := by decide +kernel
    intro o ho hk
    cases h : Symbol.ofHashtable o with
    | ok keys => exact ⟨keys, rfl⟩
    | error e =>
      have hb := hok o ho hk
      rw [h] at hb
      exact absurd hb Bool.false_ne_true
  obtain ⟨hfilter, htotal⟩ := references_eq_filter_catalogue Greeter.wellTyped_script hkeys
    Inferer.wildcard ⟨.hashtableKey, .str "A", Extent.nowhere.withText (.str "A"), none⟩ none
  obtain ⟨symbols, h⟩ := htotal fun o _ => ⟨"object", rfl⟩
  exact ⟨symbols, h, hfilter symbols h⟩

end Query

end ScriptNavigation
