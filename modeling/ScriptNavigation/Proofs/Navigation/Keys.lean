/-
# The literal keys of hashtables

The symbol of a literal key reaches from the start of the key to the end of the value.  A key and
its value are nodes of their own and each may lie anywhere, or nowhere at all, so the two ends may
come in the wrong order, and then there is no such extent.  The keys of a script are listed exactly
if this happens nowhere, and the references to a key are found exactly if the keys can be listed.

Main facts:

* `StandsIn.ofHashtable_eq_mapM`: the keys of a hashtable are built one after the other.
* `keys_eq_mapM`: so are those of a script.
* `keys_listed_iff`: what is listed, when, and which pair makes a list fail.
* `UnplacedValue.keys_fail`: a value without a place may keep all keys from being listed.
-/
import ScriptNavigation.Document.Script
import ScriptNavigation.Proofs.Navigation.Totality

namespace ScriptNavigation

namespace Occurrence

/-! ## Pairs with literal keys -/

/-- The pairs of a hashtable whose keys are literal, in order. -/
def literalPairs (o : Occurrence) : List (Occurrence × Occurrence) :=
  (o.pairsIn .pairs).filter fun p => p.1.kind == .stringConstant

/-- The symbol of a pair with a literal key, from the start of the key to the end of the value. -/
def keySymbol (p : Occurrence × Occurrence) : Result Symbol :=
  (Extent.between p.1.extent.start p.2.extent.stop (.str (p.1.textIn .value))
    p.1.extent.file).map fun e => ⟨.hashtableKey, .str (p.1.textIn .value), e, none⟩

/-- What a symbol is that stands for the key of a pair. -/
structure IsKeyOf (p : Occurrence × Occurrence) (S : Symbol) : Prop where
  kind : S.kind = .hashtableKey
  name : S.name = .str (p.1.textIn .value)
  start : S.extent.start = p.1.extent.start
  stop : S.extent.stop = p.2.extent.stop
  text : S.extent.text = .str (p.1.textIn .value)
  file : S.extent.file = p.1.extent.file
  member : S.member = none

/-- Whether the value of a pair ends no earlier than its key starts. -/
def InOrder (p : Occurrence × Occurrence) : Prop := p.1.extent.start ≤ p.2.extent.stop

instance (p : Occurrence × Occurrence) : Decidable (InOrder p) :=
  inferInstanceAs (Decidable (p.1.extent.start ≤ p.2.extent.stop))

variable {o : Occurrence} {p : Occurrence × Occurrence} {S : Symbol} {s : Script}

/-- A symbol that is built for a pair stands for its key. -/
theorem isKeyOf_of_keySymbol (h : keySymbol p = .ok S) : IsKeyOf p S := by
  rw [keySymbol, Extent.between] at h
  split at h
  · cases h
    exact ⟨rfl, rfl, rfl, rfl, rfl, rfl, rfl⟩
  · cases h

/-- A key behind the end of its value is refused. -/
theorem keySymbol_eq_error (h : ¬ InOrder p) :
    keySymbol p =
      .error (.rejected (.extentReversed p.1.extent.start p.2.extent.stop)) := by
  rw [InOrder] at h
  rw [keySymbol, Extent.between, dif_neg h]
  rfl

/-- A key has a symbol exactly if it starts no later than its value ends. -/
theorem keySymbol_ok_iff : (∃ S, keySymbol p = .ok S) ↔ InOrder p := by
  constructor
  · rintro ⟨S, hS⟩
    by_contra h
    rw [keySymbol_eq_error h] at hS
    cases hS
  · intro h
    rw [InOrder] at h
    rw [keySymbol, Extent.between, dif_pos h]
    exact ⟨_, rfl⟩

/-- Pairs whose keys are computed are passed over. -/
theorem keySymbol?_eq (p : Occurrence × Occurrence) :
    keySymbol? p = if p.1.kind = .stringConstant then (keySymbol p).map some else .ok none := by
  rw [keySymbol?, keySymbol]
  split
  · cases Extent.between p.1.extent.start p.2.extent.stop
      (Value.str (p.1.textIn .value) : Datum) p.1.extent.file <;> rfl
  · rfl

/-- The keys of some pairs are those of the pairs that are not passed over. -/
theorem mapM_keySymbol? (ps : List (Occurrence × Occurrence)) :
    ((ps.mapM keySymbol?).map fun keys => keys.filterMap id) =
      (ps.filter fun p => p.1.kind == .stringConstant).mapM keySymbol := by
  induction ps with
  | nil => rfl
  | cons p ps ih =>
    rw [List.mapM_cons, keySymbol?_eq, List.filter_cons]
    by_cases hk : p.1.kind = .stringConstant
    · rw [if_pos hk, if_pos (beq_iff_eq.mpr hk), List.mapM_cons, ← ih]
      cases keySymbol p with
      | error e => rfl
      | ok S => cases ps.mapM keySymbol? <;> rfl
    · rw [if_neg hk, if_neg (by simpa using hk), ← ih]
      cases ps.mapM keySymbol? <;> rfl

namespace StandsIn

/-- The keys of a hashtable are built one after the other. -/
theorem ofHashtable_eq_mapM (ho : o.StandsIn s) (hk : o.kind = .hashtable) :
    Symbol.ofHashtable o = o.literalPairs.mapM keySymbol := by
  rw [ho.ofHashtable_eq hk, mapM_keySymbol?, literalPairs]

/-- A hashtable has symbols for its keys exactly if each key starts no later than its value ends. -/
theorem ofHashtable_ok_iff (ho : o.StandsIn s) (hk : o.kind = .hashtable) :
    (∃ keys, Symbol.ofHashtable o = .ok keys) ↔ ∀ p ∈ o.literalPairs, InOrder p := by
  rw [ho.ofHashtable_eq_mapM hk, Result.mapM_ok_iff]
  exact forall₂_congr fun p _ => keySymbol_ok_iff

end StandsIn

end Occurrence

/-- The pairs with literal keys in a script: those of its hashtables, in document order. -/
def Script.literalPairs (s : Script) : List (Occurrence × Occurrence) :=
  (s.nodes.filter fun o => o.kind == .hashtable).flatMap Occurrence.literalPairs

namespace Query

open Occurrence

variable {s : Script} {infer : Inferer} {S : Symbol} {o : Occurrence}

theorem mem_literalPairs {p : Occurrence × Occurrence} :
    p ∈ s.literalPairs ↔ ∃ o ∈ s.nodes, o.kind = .hashtable ∧ p ∈ o.literalPairs := by
  simp only [Script.literalPairs, List.mem_flatMap, List.mem_filter, beq_iff_eq, and_assoc]

/-! ## The keys of a script -/

/-- A node lists the keys of its pairs if it is a hashtable, and nothing else. -/
theorem listAt_ofHashtable (ho : o.StandsIn s) :
    listAt [(.hashtable, Symbol.ofHashtable)] o =
      if o.kind = .hashtable then o.literalPairs.mapM keySymbol else .ok [] := by
  rw [listAt]
  by_cases hk : o.kind = .hashtable
  · rw [if_pos hk, hk]
    exact ho.ofHashtable_eq_mapM hk
  · rw [if_neg hk, List.lookup_cons, beq_eq_false_iff_ne.mpr hk]
    rfl

/-- The keys of some nodes are those of the pairs of the hashtables among them. -/
theorem mapM_listAt_ofHashtable {os : List Occurrence} (h : ∀ o ∈ os, o.StandsIn s) :
    (os.mapM (listAt [(.hashtable, Symbol.ofHashtable)])).map List.flatten =
      ((os.filter fun o => o.kind == .hashtable).flatMap literalPairs).mapM keySymbol := by
  induction os with
  | nil => rfl
  | cons o os ih =>
    have ih := ih fun c hc => h c (List.mem_cons_of_mem o hc)
    rw [Result.map_flatten_mapM_cons, listAt_ofHashtable (h o List.mem_cons_self), ih,
      List.filter_cons]
    by_cases hk : o.kind = .hashtable
    · rw [if_pos hk, if_pos (beq_iff_eq.mpr hk), List.flatMap_cons, List.mapM_append]
      rfl
    · rw [if_neg hk, if_neg (by simpa using hk), Result.ok_bind]
      exact congrFun Except.map_id _

/-- The keys of a script are built one after the other. -/
theorem keys_eq_mapM (hs : s.WellTyped) (infer : Inferer) :
    (Query.mk s infer false).keys = s.literalPairs.mapM keySymbol := by
  rw [keys, gather_eq]
  exact mapM_listAt_ofHashtable fun o ho => .of_mem_nodes hs ho

/-! ## References to keys -/

/-- The references to a key are found exactly if every key can be built. -/
theorem references_key_ok_iff (hs : s.WellTyped) (infer : Inferer) (hS : S.HasTexts)
    (hkey : S.kind = .hashtableKey) (table : Option AliasTable) :
    (∃ refs, (Query.mk s infer false).references (some S) table = .ok refs) ↔
      ∀ p ∈ s.literalPairs, InOrder p := by
  have hfamily : S.kind.family = .hashtableKey := by rw [hkey]; rfl
  rw [references_eq_gather]
  constructor
  · rintro ⟨refs, hrefs⟩ p hp
    obtain ⟨o, ho, hk, hpo⟩ := mem_literalPairs.mp hp
    obtain ⟨found, hfound⟩ := exists_of_gather hrefs ho
    have hsymbols : o.kind.symbolFamily? = some S.kind.family := by rw [hk, hfamily]; rfl
    obtain ⟨standing, hstanding⟩ := exists_standing_of_listAt hfound hsymbols
    rw [Symbol.standingAt, hk] at hstanding
    exact ((StandsIn.of_mem_nodes hs ho).ofHashtable_ok_iff hk).mp ⟨standing, hstanding⟩ p hpo
  · intro h
    apply gather_total
    intro o ho
    have hin := StandsIn.of_mem_nodes hs ho
    by_cases hk : o.kind = .hashtable
    · have hkeys := (hin.ofHashtable_ok_iff hk).mpr fun p hp =>
        h p (mem_literalPairs.mpr ⟨o, ho, hk, hp⟩)
      refine listAt_referenceProbes_total hin hS table ?_
      rw [Symbol.standingAt, hk]
      exact hkeys
    · refine ⟨[], listAt_referenceProbes_of_ne _ table fun hsymbols => hk ?_⟩
      exact kind_of_symbolFamily_key (hsymbols.trans (congrArg some hfamily))

/-! ## What is listed, and when -/

/-- The keys that are listed are those of the pairs with literal keys, one for each pair, in
document order.  They are listed exactly if each of these keys starts no later than its value ends,
and so are the references to a key; else the first pair where it does not is refused. -/
theorem keys_listed_iff (hs : s.WellTyped) (infer : Inferer) :
    (∀ keys, (Query.mk s infer false).keys = .ok keys →
        List.Forall₂ IsKeyOf s.literalPairs keys) ∧
      ((∃ keys, (Query.mk s infer false).keys = .ok keys) ↔ ∀ p ∈ s.literalPairs, InOrder p) ∧
      (∀ before p after, s.literalPairs = before ++ p :: after → (∀ q ∈ before, InOrder q) →
        ¬ InOrder p → (Query.mk s infer false).keys =
          .error (.rejected (.extentReversed p.1.extent.start p.2.extent.stop))) ∧
      ∀ S : Symbol, S.HasTexts → S.kind = .hashtableKey → ∀ table,
        (∃ refs, (Query.mk s infer false).references (some S) table = .ok refs) ↔
          ∀ p ∈ s.literalPairs, InOrder p := by
  refine ⟨?_, ?_, ?_, ?_⟩
  · intro keys h
    rw [keys_eq_mapM hs] at h
    exact (Result.forall₂_of_mapM_eq_ok h).imp fun p S hS => isKeyOf_of_keySymbol hS
  · rw [keys_eq_mapM hs, Result.mapM_ok_iff]
    exact forall₂_congr fun p _ => keySymbol_ok_iff
  · intro before p after hsplit hbefore hp
    rw [keys_eq_mapM hs, hsplit]
    exact Result.mapM_eq_error (fun q hq => keySymbol_ok_iff.mpr (hbefore q hq))
      (keySymbol_eq_error hp)
  · intro S hS hkey table
    exact references_key_ok_iff hs infer hS hkey table

theorem keys_listed_iff_greeter :
    ∃ K, (Query.on Greeter.script).keys = .ok [K] ∧ K.name = .str "a" ∧
      ∃ refs, (Query.on Greeter.script).references
        (some ⟨.hashtableKey, .str "A", Extent.nowhere.withText .null, none⟩) none = .ok refs := by
  obtain ⟨hkeys, hlisted, -, hrefs⟩ := keys_listed_iff Greeter.wellTyped_script
    (Inferer.syntactic Greeter.script.evidence)
  have horder : ∀ p ∈ Greeter.script.literalPairs, InOrder p := by decide +kernel
  have hnames : (Greeter.script.literalPairs.map fun p => p.1.textIn .value) = ["a"] := by
    decide +kernel
  have htexts : Symbol.HasTexts
      ⟨.hashtableKey, .str "A", Extent.nowhere.withText .null, none⟩ :=
    ⟨⟨"A", rfl⟩, fun m hm => nomatch hm⟩
  obtain ⟨keys, hlist⟩ := hlisted.mpr horder
  obtain ⟨p, hp, hname⟩ := List.map_eq_singleton_iff.mp hnames
  have hmatch := hkeys keys hlist
  rw [hp] at hmatch
  cases hmatch with
  | cons hK hrest =>
    cases hrest
    exact ⟨_, hlist, hK.name.trans (congrArg Value.str hname),
      (hrefs _ htexts rfl none).mpr horder⟩

end Query

/-! ## A value without a place -/

namespace UnplacedValue

/-- The text of the script. -/
def source : String := "@\x7b A = 1 \x7d"

/-- The object of a node that spans the characters between two offsets. -/
def spanning (kind : String) (start stop : Int) (fields : Members) : Json :=
  .object ([("kind", .str kind), ("span", .array [.int start, .int stop])] ++ fields)

/-- A document with a hashtable whose value does not say where it is. -/
def document : Document where
  root :=
    [("kind", .str "ScriptBlock"), ("span", .array [.int 0, .int 10]),
      ("blocks", .array [spanning "NamedBlock" 0 10
        [("block_kind", .str "end"), ("statements", .array [spanning "Hashtable" 0 10
          [("pairs", .array [.array
            [spanning "StringConstant" 3 4 [("value", .str "A"), ("string_kind", .str "BareWord")],
              .object [("kind", .str "Constant"), ("value", .int 1)]]])]])]])]
  file := none
  source := some source

/-- A key, as it may be asked for from outside of the script. -/
def key : Symbol := ⟨.hashtableKey, .str "A", Extent.nowhere.withText .null, none⟩

/-- The script is well typed and has one pair with a literal key, but the value is taken to be at
the very start, in front of the key.  So neither the keys nor the references to the key are
listed. -/
theorem keys_fail :
    ∃ s, document.script none = .ok s ∧ s.WellTyped ∧ s.literalPairs.length = 1 ∧
      (Query.on s).keys = .error (.rejected (.extentReversed ⟨1, 4⟩ ⟨1, 1⟩)) ∧
      (Query.on s).references (some key) none =
        .error (.rejected (.extentReversed ⟨1, 4⟩ ⟨1, 1⟩)) := by
  have hall : (document.script none).toOption.any (fun s =>
      decide s.WellTyped && s.literalPairs.length == 1 &&
        Result.failure? (Query.on s).keys ==
          some (.rejected (.extentReversed ⟨1, 4⟩ ⟨1, 1⟩)) &&
        Result.failure? ((Query.on s).references (some key) none) ==
          some (.rejected (.extentReversed ⟨1, 4⟩ ⟨1, 1⟩))) = true := by
    decide +kernel
  obtain ⟨s, hs, hfacts⟩ := Result.exists_of_toOption_any hall
  simp only [Bool.and_eq_true, decide_eq_true_eq, beq_iff_eq] at hfacts
  obtain ⟨⟨⟨htyped, hone⟩, hkeys⟩, hrefs⟩ := hfacts
  exact ⟨s, hs, htyped, hone, Result.eq_error_of_failure? hkeys, Result.eq_error_of_failure? hrefs⟩

end UnplacedValue

end ScriptNavigation
