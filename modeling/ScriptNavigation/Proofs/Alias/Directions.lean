/-
# The two directions of an alias table

A table is built entry by entry.  In the direction from commands to aliases nothing is ever
lost: a command has a name as an alias exactly when some entry says so, up to case.  In the
other direction a name stands for one command only, and an entry for a name may be passed
over or replaced.  The two directions stay in step all the same: the command that a name
stands for has the name as an alias, and every alias of a command stands for some command.

Main facts:

* `hasAlias_list`, `hasAlias_assign`: an entry adds what it says and nothing else.
* `ofEntries_iff_exists`: what each entry adds to, the entries together add to.
* `hasAlias_ofEntries`: a command has the aliases that the entries give it.
* `inStep_ofEntries`: the two directions of a table are in step.
* `InStep.hasAlias_commandOf`, `InStep.commandOf_eq_empty`: the command of a name that is an
  alias, and of a name that is none.
-/
import ScriptNavigation.Alias.Table

namespace ScriptNavigation

/-- A property that each step of a loop adds to holds in the end if it held before or some
step added it. -/
theorem foldl_iff_exists {α β : Type} {step : β → α → β} {p : β → Prop} {adds : α → Prop}
    (h : ∀ b a, p (step b a) ↔ p b ∨ adds a) (as : List α) (b : β) :
    p (as.foldl step b) ↔ p b ∨ ∃ a ∈ as, adds a := by
  induction as generalizing b with
  | nil => simp
  | cons a as ih =>
    rw [List.foldl_cons, ih, h]
    simp [or_assoc]

namespace AliasTable

open Text

variable {t : AliasTable} {command short c d x y : String}
variable {listed : List (String × List String)} {assigned : List (String × String)}

/-! ## Names up to case -/

/-- Whether a command has an alias depends on the two names up to case only. -/
theorem hasAlias_congr (t : AliasTable) (hc : foldCase c = foldCase d)
    (hx : foldCase x = foldCase y) : t.hasAlias c x = t.hasAlias d y := by
  have haliases : t.aliases c = t.aliases d := by rw [aliases, aliases, hc]
  have hsame : (fun a => sameFolded a x) = fun a => sameFolded a y := by
    funext a
    rw [sameFolded, sameFolded, hx]
  rw [hasAlias, hasAlias, haliases, hsame]

/-- A command has an alias when one of its aliases is the name up to case. -/
theorem hasAlias_iff :
    t.hasAlias command short = true ↔ ∃ a ∈ t.aliases command, foldCase a = foldCase short := by
  rw [hasAlias, List.any_eq_true]
  simp only [sameFolded_iff]

@[simp] theorem hasAlias_empty : empty.hasAlias command short = false := rfl

/-! ## One entry -/

/-- The aliases of a command after an alias is listed. -/
theorem aliases_list (t : AliasTable) (c x command : String) :
    (t.list c x).aliases command =
      if foldCase command = foldCase c then t.aliases c ++ [x] else t.aliases command := by
  rw [aliases, list, lookup_put]
  split <;> rfl

/-- Listing an alias under a command adds it to the command. -/
theorem hasAlias_list (t : AliasTable) (c x command short : String) :
    (t.list c x).hasAlias command short = true ↔
      t.hasAlias command short = true ∨
        foldCase c = foldCase command ∧ foldCase x = foldCase short := by
  rw [hasAlias_iff, aliases_list]
  by_cases hc : foldCase command = foldCase c
  · rw [if_pos hc, hasAlias_congr t hc rfl, hasAlias_iff]
    simp [or_and_right, exists_or, hc]
  · rw [if_neg hc, ← hasAlias_iff]
    simp [Ne.symm hc]

/-- The aliases of a command after a name is made to stand for a command. -/
theorem aliases_assign (t : AliasTable) (x c command : String) :
    (t.assign x c).aliases command =
      if foldCase command = foldCase c then
        if t.hasAlias c x then t.aliases c else t.aliases c ++ [x]
      else t.aliases command := by
  rw [aliases, assign, lookup_put]
  split <;> rfl

/-- Making a name stand for a command adds it to the aliases of the command. -/
theorem hasAlias_assign (t : AliasTable) (x c command short : String) :
    (t.assign x c).hasAlias command short = true ↔
      t.hasAlias command short = true ∨
        foldCase c = foldCase command ∧ foldCase x = foldCase short := by
  rw [hasAlias_iff, aliases_assign]
  by_cases hc : foldCase command = foldCase c
  · rw [if_pos hc, hasAlias_congr t hc rfl]
    by_cases hknown : t.hasAlias c x = true
    · -- the name is an alias of the command already, so nothing is added
      rw [if_pos hknown, ← hasAlias_iff]
      refine ⟨Or.inl, ?_⟩
      rintro (h | ⟨-, hx⟩)
      · exact h
      · rwa [hasAlias_congr t rfl hx] at hknown
    · rw [if_neg hknown, hasAlias_iff]
      simp [or_and_right, exists_or, hc]
  · rw [if_neg hc, ← hasAlias_iff]
    simp [Ne.symm hc]

/-- After an alias is listed, names that stood for a command still do. -/
theorem lookup_list (t : AliasTable) (c x short : String) :
    (t.list c x).byAlias.lookup (foldCase short) =
      (t.byAlias.lookup (foldCase short)).or
        (if foldCase short = foldCase x then some c else none) := by
  rw [list]
  cases hx : t.byAlias.lookup (foldCase x) with
  | some d =>
    by_cases hs : foldCase short = foldCase x
    · simp [hs, hx]
    · simp [hs]
  | none =>
    dsimp only
    rw [lookup_put]
    by_cases hs : foldCase short = foldCase x
    · simp [hs, hx]
    · simp [hs]

/-- After a name is made to stand for a command it does, whatever it stood for before. -/
theorem lookup_assign (t : AliasTable) (x c short : String) :
    (t.assign x c).byAlias.lookup (foldCase short) =
      if foldCase short = foldCase x then some c else t.byAlias.lookup (foldCase short) := by
  rw [assign, lookup_put]

/-! ## All entries -/

/-- What the entries of a table say, each as a command and an alias of it. -/
def entries (listed : List (String × List String)) (assigned : List (String × String)) :
    List (String × String) :=
  (listed.flatMap fun e => e.2.map fun x => (e.1, x)) ++ assigned.map Prod.swap

/-- Some entry is of a kind if some alias that is listed or some assignment is. -/
theorem exists_entry_iff {p : String → String → Prop} :
    (∃ e ∈ entries listed assigned, p e.1 e.2) ↔
      (∃ e ∈ listed, ∃ x ∈ e.2, p e.1 x) ∨ ∃ e ∈ assigned, p e.2 e.1 := by
  simp only [entries, List.mem_append, List.mem_flatMap, List.mem_map]
  constructor
  · rintro ⟨-, ⟨e, he, x, hx, rfl⟩ | ⟨e, he, rfl⟩, hp⟩
    · exact Or.inl ⟨e, he, x, hx, hp⟩
    · exact Or.inr ⟨e, he, hp⟩
  · rintro (⟨e, he, x, hx, hp⟩ | ⟨e, he, hp⟩)
    · exact ⟨(e.1, x), Or.inl ⟨e, he, x, hx, rfl⟩, hp⟩
    · exact ⟨e.swap, Or.inr ⟨e, he, rfl⟩, hp⟩

/-- A property of tables that each entry adds to, whether it is listed or assigned, holds of the
table of the entries if it holds of the table that knows nothing or some entry adds it. -/
theorem ofEntries_iff_exists {p : AliasTable → Prop} {adds : String → String → Prop}
    (hlist : ∀ t c x, p (t.list c x) ↔ p t ∨ adds c x)
    (hassign : ∀ t x c, p (t.assign x c) ↔ p t ∨ adds c x) :
    p (ofEntries listed assigned) ↔
      p empty ∨ ∃ e ∈ entries listed assigned, adds e.1 e.2 := by
  have hnames : ∀ t (e : String × List String),
      p (e.2.foldl (fun t x => t.list e.1 x) t) ↔ p t ∨ ∃ x ∈ e.2, adds e.1 x :=
    fun t e => foldl_iff_exists (fun t x => hlist t e.1 x) e.2 t
  have hlisted := foldl_iff_exists hnames listed empty
  have hassigned := fun t => foldl_iff_exists (fun t e => hassign t e.1 e.2) assigned t
  rw [ofEntries, hassigned, hlisted, or_assoc, exists_entry_iff]

/-- A command has the aliases that the entries give it, up to case. -/
theorem hasAlias_ofEntries (listed : List (String × List String))
    (assigned : List (String × String)) (command short : String) :
    (ofEntries listed assigned).hasAlias command short = true ↔
      ∃ e ∈ entries listed assigned, foldCase e.1 = foldCase command ∧
        foldCase e.2 = foldCase short := by
  rw [ofEntries_iff_exists (p := fun t => t.hasAlias command short = true)
    (fun t c x => hasAlias_list t c x command short)
    (fun t x c => hasAlias_assign t x c command short), hasAlias_empty]
  exact or_iff_right Bool.false_ne_true

/-- What every entry keeps, starting from the table that knows nothing, holds of the table of
the entries. -/
theorem ofEntries_induction {motive : AliasTable → Prop} (hempty : motive empty)
    (hlist : ∀ t c x, motive t → motive (t.list c x))
    (hassign : ∀ t x c, motive t → motive (t.assign x c)) : motive (ofEntries listed assigned) := by
  apply List.foldlRecOn
  · apply List.foldlRecOn
    · exact hempty
    · intro t ht e _
      exact List.foldlRecOn e.2 _ ht fun t ht x _ => hlist t e.1 x ht
  · exact fun t ht e _ => hassign t e.1 e.2 ht

/-! ## Directions in step -/

/-- The command that a name stands for has the name as an alias, and each alias of a command
stands for some command. -/
structure InStep (t : AliasTable) : Prop where
  hasAlias_of_lookup : ∀ short command,
    t.byAlias.lookup (foldCase short) = some command → t.hasAlias command short = true
  lookup_of_hasAlias : ∀ command short,
    t.hasAlias command short = true → ∃ c, t.byAlias.lookup (foldCase short) = some c

theorem inStep_empty : InStep empty where
  hasAlias_of_lookup := fun _ _ h => nomatch h
  lookup_of_hasAlias := fun _ _ h => nomatch h

theorem InStep.list (h : t.InStep) (c x : String) : (t.list c x).InStep where
  hasAlias_of_lookup := by
    intro short command hlookup
    rw [lookup_list, Option.or_eq_some_iff] at hlookup
    rw [hasAlias_list]
    rcases hlookup with hlookup | ⟨-, hlookup⟩
    · exact Or.inl (h.hasAlias_of_lookup short command hlookup)
    · obtain ⟨hx, hc⟩ := Option.ite_none_right_eq_some.mp hlookup
      cases hc
      exact Or.inr ⟨rfl, hx.symm⟩
  lookup_of_hasAlias := by
    intro command short halias
    rw [lookup_list]
    rcases (hasAlias_list t c x command short).mp halias with halias | ⟨-, hx⟩
    · obtain ⟨d, hd⟩ := h.lookup_of_hasAlias command short halias
      exact ⟨d, by rw [hd]; rfl⟩
    · rw [if_pos hx.symm]
      cases t.byAlias.lookup (foldCase short) with
      | some d => exact ⟨d, rfl⟩
      | none => exact ⟨c, rfl⟩

theorem InStep.assign (h : t.InStep) (x c : String) : (t.assign x c).InStep where
  hasAlias_of_lookup := by
    intro short command hlookup
    rw [lookup_assign] at hlookup
    rw [hasAlias_assign]
    split at hlookup
    · rename_i hx
      cases hlookup
      exact Or.inr ⟨rfl, hx.symm⟩
    · exact Or.inl (h.hasAlias_of_lookup short command hlookup)
  lookup_of_hasAlias := by
    intro command short halias
    rw [lookup_assign]
    split
    · exact ⟨c, rfl⟩
    · rename_i hx
      rcases (hasAlias_assign t x c command short).mp halias with halias | ⟨-, hx'⟩
      · exact h.lookup_of_hasAlias command short halias
      · exact absurd hx'.symm hx

/-- The two directions of a table are in step, whatever the entries. -/
theorem inStep_ofEntries (listed : List (String × List String))
    (assigned : List (String × String)) : (ofEntries listed assigned).InStep :=
  ofEntries_induction inStep_empty (fun _ c x h => h.list c x) fun _ x c h => h.assign x c

/-! ## The command of a name -/

/-- The command that a name stands for has the name as an alias, if the name is an alias. -/
theorem InStep.hasAlias_commandOf (h : t.InStep) (hx : t.hasAlias command short = true) :
    t.hasAlias (t.commandOf short) short = true := by
  obtain ⟨c, hc⟩ := h.lookup_of_hasAlias command short hx
  rw [commandOf, hc]
  exact h.hasAlias_of_lookup short c hc

/-- A name that is no alias stands for no command. -/
theorem InStep.commandOf_eq_empty (h : t.InStep) (hx : ∀ c, t.hasAlias c short = false) :
    t.commandOf short = "" := by
  rw [commandOf]
  cases hlookup : t.byAlias.lookup (foldCase short) with
  | none => rfl
  | some c =>
    have halias := h.hasAlias_of_lookup short c hlookup
    rw [hx c] at halias
    cases halias

/-- A name that stands for a command is an alias of it. -/
theorem InStep.hasAlias_of_commandOf_ne (h : t.InStep) (hne : t.commandOf short ≠ "") :
    t.hasAlias (t.commandOf short) short = true := by
  by_cases hx : ∃ c, t.hasAlias c short = true
  · obtain ⟨c, hc⟩ := hx
    exact h.hasAlias_commandOf hc
  · exact absurd (h.commandOf_eq_empty fun c => Bool.eq_false_iff.mpr fun hc => hx ⟨c, hc⟩) hne

end AliasTable

end ScriptNavigation
