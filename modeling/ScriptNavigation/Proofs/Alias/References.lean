/-
# References with an alias table

A table is consulted for functions and workflows only, and there only where the names do not
match already.  So the references that are found without a table are found with it too, in the
same order, and for all other symbols the table makes no difference at all.

Main facts:

* `denotesSame_some_of_ne`: the table does not matter outside of the family of functions.
* `exists_denotesSame_none`: where names are compared with a table, they are without one.
* `references_sublist`: the references without a table are among those with it, in order.
-/
import ScriptNavigation.Proofs.Alias.Matching
import ScriptNavigation.Proofs.Navigation.ReferenceClass

namespace ScriptNavigation

variable {S C : Symbol}

/-! ## Matching with and without a table -/

/-- An alias table does not matter for what symbols outside of the family of functions match. -/
theorem denotesSame_some_of_ne (t : AliasTable) (hS : S.kind.family ≠ .function) :
    denotesSame (some t) S = denotesSame none S := by
  funext C
  rw [denotesSame, denotesSame]
  cases hfam : S.kind.family
  case function => exact absurd hfam hS
  all_goals rfl

/-- Names of functions that can be compared with a table can be compared without it. -/
theorem exists_sameFunction_none {t : AliasTable} {a b : Datum} {same : Bool}
    (h : sameFunction (some t) a b = .ok same) :
    ∃ plain, sameFunction none a b = .ok plain ∧ (plain = true → same = true) := by
  obtain ⟨plain, hplain, h⟩ := Result.bind_eq_ok.mp h
  refine ⟨plain, (sameFunction_none a b).trans hplain, ?_⟩
  rintro rfl
  exact (Except.ok.inj h).symm

/-- Symbols that can be compared with a table can be compared without it; those that match
without it match with it. -/
theorem exists_denotesSame_none {t : AliasTable} {same : Bool}
    (h : denotesSame (some t) S C = .ok same) :
    ∃ plain, denotesSame none S C = .ok plain ∧ (plain = true → same = true) := by
  by_cases hS : S.kind.family = .function
  · rw [denotesSame] at h ⊢
    by_cases hC : S.kind.family = C.kind.family
    · rw [if_neg (not_not_intro hC), hS] at h ⊢
      exact exists_sameFunction_none h
    · rw [if_pos hC] at h ⊢
      exact ⟨same, h, id⟩
  · rw [denotesSame_some_of_ne t hS] at h
    exact ⟨same, h, id⟩

namespace Query

variable {q : Query} {o : Occurrence}

/-! ## References with and without a table -/

/-- For symbols outside of the family of functions the probes do not depend on a table. -/
theorem referenceProbes_some_of_ne (t : AliasTable) (hS : S.kind.family ≠ .function) :
    q.referenceProbes S (some t) = q.referenceProbes S none := by
  simp only [referenceProbes, matchingList_eq_of_same (denotesSame_some_of_ne t hS)]

/-- Whether there are probes at all does not depend on a table. -/
theorem referenceProbes_eq_nil {table : Option AliasTable}
    (h : q.referenceProbes S table = []) : q.referenceProbes S none = [] := by
  rw [referenceProbes] at h ⊢
  split at h
  · cases h
  · rename_i hkey
    rw [if_neg hkey, List.map_eq_nil_iff.mp h, List.map_nil]

/-- What a node lists without a table is a part of what it lists with one. -/
theorem listAt_sublist {t : AliasTable} {found : List Symbol}
    (h : listAt (q.referenceProbes S (some t)) o = .ok found) :
    ∃ plain, listAt (q.referenceProbes S none) o = .ok plain ∧ plain.Sublist found := by
  by_cases hfam : o.kind.symbolFamily? = some S.kind.family
  · obtain ⟨standing, hstanding⟩ := exists_standing_of_listAt h hfam
    rw [listAt_referenceProbes q S _ hstanding] at h ⊢
    exact Result.filterM_sublist (fun C same => exists_denotesSame_none) h
  · rw [listAt_referenceProbes_of_ne q _ hfam] at h
    exact ⟨[], listAt_referenceProbes_of_ne q none hfam, List.nil_sublist found⟩

/-- An alias table can only add references: those that are listed without it are listed with it,
in the same order.  For symbols that are neither functions nor workflows the table makes no
difference. -/
theorem references_sublist (q : Query) (S : Symbol) (t : AliasTable) :
    (∀ all, q.references (some S) (some t) = .ok all →
      ∃ plain, q.references (some S) none = .ok plain ∧ plain.Sublist all) ∧
      (S.kind ≠ .function → S.kind ≠ .workflow →
        q.references (some S) (some t) = q.references (some S) none) := by
  constructor
  · intro all h
    rcases gather_of_references h with ⟨hnone, rfl⟩ | hgather
    · refine ⟨[], ?_, .slnil⟩
      rw [references, referenceProbes_eq_nil hnone]
      rfl
    · obtain ⟨hq, lists, hlists, rfl⟩ := gather_eq_ok_iff.mp hgather
      -- node by node, so that nothing has to be said about where in the list a reference stands
      obtain ⟨plain, hplain, hsub⟩ :=
        Result.mapM_flatten_sublist (fun o _ found => listAt_sublist) hlists
      refine ⟨plain.flatten, ?_, hsub⟩
      obtain ⟨s, infer, cancelled⟩ := q
      dsimp only at hq
      subst hq
      rw [references_eq_gather, gather_eq_ok_iff]
      exact ⟨rfl, plain, hplain, rfl⟩
  · intro hfunction hworkflow
    have hfam : S.kind.family ≠ .function := by
      cases hk : S.kind
      case function => exact absurd hk hfunction
      case workflow => exact absurd hk hworkflow
      all_goals decide
    rw [references, references, referenceProbes_some_of_ne t hfam]

/-- With the table the function is found under its aliases too; a variable has no aliases. -/
theorem references_sublist_listing :
    (∃ plain all,
      (Query.on Listing.script).references (some Listing.function) none = .ok plain ∧
      (Query.on Listing.script).references (some Listing.function)
        (some (.ofEntries Listing.listed Listing.assigned)) = .ok all ∧
      plain.Sublist all ∧ plain.length = 1 ∧ all.length = 3) ∧
      (Query.on Greeter.script).references (some Greeter.holder)
          (some (.ofEntries Listing.listed Listing.assigned)) =
        (Query.on Greeter.script).references (some Greeter.holder) none := by
  have hrun : ((Query.on Listing.script).references (some Listing.function)
      (some (.ofEntries Listing.listed Listing.assigned))).toOption.any
        (fun refs => refs.length == 3) = true := by decide +kernel
  have hplain : ((Query.on Listing.script).references (some Listing.function)
      none).toOption.any (fun refs => refs.length == 1) = true := by decide +kernel
  obtain ⟨all, hall, hthree⟩ := Result.exists_of_toOption_any hrun
  obtain ⟨plain, h, hsub⟩ := (references_sublist (Query.on Listing.script) Listing.function
    (.ofEntries Listing.listed Listing.assigned)).1 all hall
  rw [h] at hplain
  exact ⟨⟨plain, all, h, hall, hsub, eq_of_beq hplain, eq_of_beq hthree⟩,
    (references_sublist (Query.on Greeter.script) Greeter.holder
      (.ofEntries Listing.listed Listing.assigned)).2 (by decide) (by decide)⟩

end Query

end ScriptNavigation
