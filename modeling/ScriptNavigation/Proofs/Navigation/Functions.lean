/-
# References to functions

Functions and workflows are called by commands and declared by definitions.  In a well-typed
script the symbols of both can always be built, and they are compared by their names alone,
possibly through an alias table.  So the references to a function are a plain filter of the
symbols of functions, whatever guesses types and whichever symbol is asked for.

Main facts:

* `sameFunction_text`: when two names of functions match.
* `Script.mem_functions`: the symbols of functions are of their family and named by texts.
* `references_function`: the references to a function are a filter.
-/
import ScriptNavigation.Proofs.Navigation.Catalogue

namespace ScriptNavigation

/-! ## Names of functions -/

/-- Whether two names may denote the same function: they are equal up to case, or a table of
aliases relates them. -/
def namesFunction (table : Option AliasTable) (reference candidate : String) : Bool :=
  Text.sameFolded reference candidate || table.any fun t => relatedByAlias t reference candidate

/-- Names of functions that are texts can be compared. -/
theorem sameFunction_text (table : Option AliasTable) (a b : String) :
    sameFunction table (.str a) (.str b) = .ok (namesFunction table a b) := by
  simp only [sameFunction, sameName_text, Result.ok_bind, namesFunction]
  cases Text.sameFolded a b with
  | true => rfl
  | false => cases table <;> rfl

/-- Symbols of functions are compared by their names. -/
theorem denotesSame_function {table : Option AliasTable} {S C : Symbol} {a b : String}
    (hS : S.kind.family = .function) (hC : C.kind.family = .function) (ha : S.name = .str a)
    (hb : C.name = .str b) : denotesSame table S C = .ok (namesFunction table a b) := by
  rw [denotesSame, if_neg (not_not_intro (hS.trans hC.symm)), hS, ha, hb]
  exact sameFunction_text table a b

/-! ## Symbols of functions -/

/-- The symbol of a function at a node: that of a command or of a definition. -/
def Occurrence.functionSymbol? (o : Occurrence) : Option Symbol :=
  match o.kind with
  | .command => o.commandSymbol?
  | .functionDefinition => some (o.declaredSymbol o.functionKind false)
  | _ => none

/-- The symbols of the functions that a script calls and defines, in document order. -/
def Script.functions (s : Script) : List Symbol :=
  s.nodes.filterMap Occurrence.functionSymbol?

namespace Occurrence

variable {s : Script} {o : Occurrence} {C : Symbol} {infer : Inferer}

/-- The symbol of a function is of the family of functions, and its name is a text. -/
theorem functionSymbol?_eq_some (h : o.functionSymbol? = some C) :
    C.kind.family = .function ∧ ∃ name, C.name = .str name := by
  unfold functionSymbol? at h
  split at h
  · obtain ⟨name, -, rfl⟩ := Option.map_eq_some_iff.mp h
    exact ⟨rfl, _, rfl⟩
  · cases h
    refine ⟨?_, _, rfl⟩
    rw [declaredSymbol, functionKind]
    split <;> rfl
  · cases h

/-- Nodes without symbols of functions have no symbol of one. -/
theorem functionSymbol?_eq_none (h : o.kind.symbolFamily? ≠ some .function) :
    o.functionSymbol? = none := by
  unfold functionSymbol?
  split
  · rename_i hk
    rw [hk] at h
    exact absurd rfl h
  · rename_i hk
    rw [hk] at h
    exact absurd rfl h
  · rfl

/-- The symbol of a function is all that stands at its node. -/
theorem StandsIn.standingAt_function (ho : o.StandsIn s)
    (h : o.kind.symbolFamily? = some .function) :
    Symbol.standingAt infer o = .ok o.functionSymbol?.toList := by
  rw [Symbol.standingAt, functionSymbol?]
  cases hk : o.kind
  case command =>
    dsimp only
    rw [ho.ofCommand_eq hk]
    rfl
  case functionDefinition =>
    dsimp only
    rw [ho.ofFunction_eq hk]
    rfl
  all_goals
    rw [hk] at h
    cases h

end Occurrence

/-- The symbols of functions are of their family and named by texts. -/
theorem Script.mem_functions {s : Script} {C : Symbol} (h : C ∈ s.functions) :
    C.kind.family = .function ∧ ∃ name, C.name = .str name := by
  obtain ⟨o, -, ho⟩ := List.mem_filterMap.mp h
  exact Occurrence.functionSymbol?_eq_some ho

/-! ## References -/

namespace Query

open Occurrence

variable {s : Script} {infer : Inferer} {o : Occurrence} {S C : Symbol} {name : String}

/-- Whether a symbol has a name under which a function is found. -/
def namedLike (table : Option AliasTable) (name : String) (C : Symbol) : Bool :=
  C.name.str?.any (namesFunction table name)

/-- The symbols listed at a node for a function. -/
theorem listAt_referenceProbes_function (ho : o.StandsIn s) (hS : S.kind.family = .function)
    (hname : S.name = .str name) (table : Option AliasTable) :
    listAt ((Query.mk s infer false).referenceProbes S table) o =
      .ok (o.functionSymbol?.toList.filter (namedLike table name)) := by
  by_cases hfam : o.kind.symbolFamily? = some .function
  · rw [listAt_referenceProbes _ S table (ho.standingAt_function hfam)]
    apply Result.filterM_eq_ok
    intro C hC
    obtain ⟨hC, b, hb⟩ := functionSymbol?_eq_some (Option.mem_toList.mp hC)
    rw [denotesSame_function hS hC hname hb, namedLike, hb]
    rfl
  · rw [listAt_referenceProbes_of_ne _ table (hS ▸ hfam), functionSymbol?_eq_none hfam]
    rfl

/-- The references to a function are the symbols of functions whose names match its name. -/
theorem references_function (hs : s.WellTyped) (hS : S.kind.family = .function)
    (hname : S.name = .str name) (table : Option AliasTable) :
    (Query.mk s infer false).references (some S) table =
      .ok (s.functions.filter (namedLike table name)) := by
  have hlist : ∀ o ∈ s.nodes, listAt ((Query.mk s infer false).referenceProbes S table) o =
      .ok (o.functionSymbol?.toList.filter (namedLike table name)) :=
    fun o ho => listAt_referenceProbes_function (.of_mem_nodes hs ho) hS hname table
  rw [references_eq_gather, gather_eq, Result.mapM_eq_ok hlist, Result.map_ok, Script.functions,
    List.filterMap_eq_flatMap_toList, List.filter_flatMap, List.flatMap_def]

/-- The references to a function hold a symbol of a function exactly when the names match. -/
theorem mem_references_function (hC : C ∈ s.functions) {b : String} (hb : C.name = .str b)
    (table : Option AliasTable) :
    C ∈ s.functions.filter (namedLike table name) ↔ namesFunction table name b = true := by
  rw [List.mem_filter, namedLike, hb]
  exact and_iff_right hC

end Query

end ScriptNavigation
