/-
# Alias tables from either direction

The same pairs of an alias and its command may be written down in two ways: as lists of the
aliases of each command, or as a command for each alias.  The tables that are built from them
differ in the spelling of commands and in the order of aliases, since of two spellings of an
alias the first one counts among the lists and the last one among the assignments.  But where an
alias has one command, up to case, no name tells the tables apart.

Main facts:

* `mem_entries_grouped`: grouping keeps the pairs.
* `InStep.alike`: tables that relate the same names are alike if each alias has one command.
* `Alike.sameFunction_eq`, `Alike.references_eq`: alike tables match the same names of functions,
  so that they find the same references.
* `ofEntries_grouped_agrees`: the tables of the two directions are alike.
-/
import ScriptNavigation.Proofs.Alias.Matching
import ScriptNavigation.Proofs.Navigation.ReferenceClass

namespace ScriptNavigation

/-- Pairs of an alias and its command in which one alias is spelled in two ways, and so is its
command. -/
def Listing.pairs : List (String × String) :=
  [("gci", "Get-ChildItem"), ("ls", "Get-ChildItem"), ("LS", "get-childitem")]

namespace AliasTable

open Text

variable {t u : AliasTable}

/-! ## Pairs written down by commands -/

/-- The aliases of some pairs, listed under their commands.  The commands come in the order in
which they come first, and so do the aliases of each one. -/
def grouped (pairs : List (String × String)) : List (String × List String) :=
  (pairs.map Prod.snd).eraseDups.map fun command =>
    (command, (pairs.filter fun p => p.2 = command).map Prod.fst)

/-- Grouping keeps the pairs: the entries of the lists are those of the assignments. -/
theorem mem_entries_grouped (pairs : List (String × String)) (e : String × String) :
    e ∈ entries (grouped pairs) [] ↔ e ∈ entries [] pairs := by
  simp only [entries, grouped, List.map_nil, List.append_nil, List.flatMap_nil, List.nil_append,
    List.flatMap_map, List.mem_flatMap, List.mem_eraseDups, List.mem_map, List.mem_filter,
    decide_eq_true_eq]
  constructor
  · rintro ⟨command, -, x, ⟨p, ⟨hp, rfl⟩, rfl⟩, rfl⟩
    exact ⟨p, hp, rfl⟩
  · rintro ⟨p, hp, rfl⟩
    exact ⟨p.2, ⟨p, hp, rfl⟩, p.1, ⟨p, ⟨hp, rfl⟩, rfl⟩, rfl⟩

/-! ## Tables that no name tells apart -/

/-- Two tables give each command the same aliases and each name the same command, up to case. -/
structure Alike (t u : AliasTable) : Prop where
  hasAlias : ∀ command name, t.hasAlias command name = u.hasAlias command name
  commandOf : ∀ name, foldCase (t.commandOf name) = foldCase (u.commandOf name)

/-- Tables that relate the same names are alike if each alias has one command. -/
theorem InStep.alike (ht : t.InStep) (hu : u.InStep)
    (hsame : ∀ c x, t.hasAlias c x = u.hasAlias c x)
    (howns : ∀ c x, t.hasAlias c x = true → t.Owns c x) : t.Alike u where
  hasAlias := hsame
  commandOf := by
    intro x
    by_cases hx : ∃ c, t.hasAlias c x = true
    · -- the command in the one table has the name as an alias in the other one too
      obtain ⟨c, hc⟩ := hx
      rw [hsame] at hc
      have hcommand : t.hasAlias (u.commandOf x) x = true := by
        rw [hsame]
        exact hu.hasAlias_commandOf hc
      exact ht.commandOf_of_owns (howns _ x hcommand)
    · simp only [not_exists, Bool.not_eq_true] at hx
      rw [ht.commandOf_eq_empty hx, hu.commandOf_eq_empty fun c => hsame c x ▸ hx c]

namespace Alike

/-- A name stands for a command in the one of two alike tables if it does in the other. -/
theorem commandOf_ne_iff (h : t.Alike u) (name : String) :
    t.commandOf name ≠ "" ↔ u.commandOf name ≠ "" := by
  rw [not_iff_not, ← foldCase_eq_empty_iff, h.commandOf name, foldCase_eq_empty_iff]

/-- Alike tables relate the same names. -/
theorem relatedByAlias_eq (h : t.Alike u) (a b : String) :
    relatedByAlias t a b = relatedByAlias u a b := by
  rw [Bool.eq_iff_iff]
  simp only [relatedByAlias, Bool.or_eq_true, Bool.and_eq_true, bne_iff_ne, sameFolded_iff,
    h.hasAlias, h.commandOf, h.commandOf_ne_iff]

/-- Alike tables match the same names of functions. -/
theorem sameFunction_eq (h : t.Alike u) : sameFunction (some t) = sameFunction (some u) := by
  funext a b
  simp only [sameFunction, h.relatedByAlias_eq]

/-- Alike tables match the same symbols. -/
theorem denotesSame_eq (h : t.Alike u) (S : Symbol) :
    denotesSame (some t) S = denotesSame (some u) S := by
  funext C
  simp only [denotesSame, h.sameFunction_eq]

/-- Alike tables find the same references. -/
theorem references_eq (h : t.Alike u) (q : Query) (S : Option Symbol) :
    q.references S (some t) = q.references S (some u) := by
  cases S with
  | none => rfl
  | some S =>
    have hprobes : q.referenceProbes S (some t) = q.referenceProbes S (some u) := by
      simp only [Query.referenceProbes, Query.matchingList_eq_of_same (h.denotesSame_eq S)]
    rw [Query.references, Query.references, hprobes]

end Alike

/-! ## The two directions -/

/-- The tables that are built from the same pairs of an alias and its command, as lists of aliases
or as commands for aliases, are alike if an alias has one command up to case.  The spellings of
the aliases need not be different for this. -/
theorem alike_grouped {pairs : List (String × String)}
    (h : ∀ p ∈ pairs, ∀ q ∈ pairs, foldCase p.1 = foldCase q.1 → foldCase p.2 = foldCase q.2) :
    (ofEntries (grouped pairs) []).Alike (ofEntries [] pairs) := by
  have hpairs : ∀ e ∈ entries (grouped pairs) [], e.swap ∈ pairs := by
    intro e he
    obtain ⟨p, hp, rfl⟩ := List.mem_map.mp ((mem_entries_grouped pairs e).mp he)
    exact hp
  apply InStep.alike (inStep_ofEntries _ _) (inStep_ofEntries _ _)
  · intro c x
    rw [Bool.eq_iff_iff, hasAlias_ofEntries, hasAlias_ofEntries]
    simp only [mem_entries_grouped]
  · intro c x hx
    refine owns_ofEntries ?_ hx
    intro e he e' he'
    exact h e.swap (hpairs e he) e'.swap (hpairs e' he')

/-- A table may be written down from either direction: built from some pairs of an alias and its
command, where aliases that are equal up to case have commands that are, the table of the lists of
aliases and the table of the commands for aliases have the same aliases for each command and, up
to case, the same command for each name.  So they match the same names of functions, and they find
the same references. -/
theorem ofEntries_grouped_agrees {pairs : List (String × String)}
    (h : ∀ p ∈ pairs, ∀ q ∈ pairs, foldCase p.1 = foldCase q.1 → foldCase p.2 = foldCase q.2) :
    (∀ command name, (ofEntries (grouped pairs) []).hasAlias command name =
        (ofEntries [] pairs).hasAlias command name) ∧
      (∀ name, foldCase ((ofEntries (grouped pairs) []).commandOf name) =
        foldCase ((ofEntries [] pairs).commandOf name)) ∧
      (∀ a b, sameFunction (some (ofEntries (grouped pairs) [])) (.str a) (.str b) =
        sameFunction (some (ofEntries [] pairs)) (.str a) (.str b)) ∧
      ∀ (q : Query) (S : Option Symbol), q.references S (some (ofEntries (grouped pairs) [])) =
        q.references S (some (ofEntries [] pairs)) := by
  have halike := alike_grouped h
  refine ⟨halike.hasAlias, halike.commandOf, ?_, halike.references_eq⟩
  intro a b
  rw [halike.sameFunction_eq]

theorem ofEntries_grouped_agrees_spellings :
    (ofEntries (grouped Listing.pairs) []).commandOf "Ls" = "Get-ChildItem" ∧
      (ofEntries [] Listing.pairs).commandOf "Ls" = "get-childitem" ∧
      foldCase ((ofEntries (grouped Listing.pairs) []).commandOf "Ls") =
        foldCase ((ofEntries [] Listing.pairs).commandOf "Ls") ∧
      sameFunction (some (ofEntries (grouped Listing.pairs) [])) (.str "Ls") (.str "GCI") =
        sameFunction (some (ofEntries [] Listing.pairs)) (.str "Ls") (.str "GCI") := by
  have hpairs : ∀ p ∈ Listing.pairs, ∀ q ∈ Listing.pairs,
      foldCase p.1 = foldCase q.1 → foldCase p.2 = foldCase q.2 := by decide +kernel
  obtain ⟨-, hcommand, hsame, -⟩ := ofEntries_grouped_agrees hpairs
  exact ⟨by decide +kernel, by decide +kernel, hcommand "Ls", hsame "Ls" "GCI"⟩

end AliasTable

end ScriptNavigation
