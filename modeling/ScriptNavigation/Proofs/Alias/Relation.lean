/-
# The relation that an alias table holds

A table is built by two loops, one over the lists of aliases and one over the commands that are
assigned to names.  The first one keeps the command that a name has already, the second one
replaces it.  So a name stands for the last command that is assigned to it, or else for the first
one under which it is listed.  Nothing of this depends on how names are spelled, up to case, and
a table has as many entries as there are different names among the aliases.

Main facts:

* `lookup_foldl_list`, `lookup_listed`, `lookup_assigned`: what each loop makes of the command
  of a name.
* `lookup_ofEntries`: the command of a name, said on the two lists.
* `nodup_keys_ofEntries`, `mem_keys_ofEntries`: the names that stand for commands.
* `relation_ofEntries`: the relation of a table, said on the two lists.
-/
import Mathlib.Data.List.Dedup
import ScriptNavigation.Proofs.Alias.Directions

namespace ScriptNavigation

namespace AliasTable

open Text

variable {t : AliasTable} {command name key : String}
variable {listed : List (String × List String)} {assigned : List (String × String)}

/-! ## The command of a name on the two lists -/

/-- The command of the first list that holds a name, up to case. -/
def listedCommand? (listed : List (String × List String)) (name : String) : Option String :=
  (listed.find? fun e => e.2.any fun x => sameFolded x name).map Prod.fst

/-- The last command that is assigned to a name, up to case. -/
def assignedCommand? (assigned : List (String × String)) (name : String) : Option String :=
  (assigned.reverse.find? fun e => sameFolded e.1 name).map Prod.snd

/-- A longer listing starts with its first list. -/
theorem listedCommand?_cons (e : String × List String) (listed : List (String × List String))
    (name : String) :
    listedCommand? (e :: listed) name =
      (if e.2.any (fun x => sameFolded x name) then some e.1 else none).or
        (listedCommand? listed name) := by
  rw [listedCommand?, List.find?_cons]
  cases e.2.any fun x => sameFolded x name <;> rfl

/-- A later assignment counts before the first one. -/
theorem assignedCommand?_cons (e : String × String) (assigned : List (String × String))
    (name : String) :
    assignedCommand? (e :: assigned) name =
      (assignedCommand? assigned name).or (if sameFolded e.1 name then some e.2 else none) := by
  rw [assignedCommand?, assignedCommand?, List.reverse_cons, List.find?_append, Option.map_or]
  cases h : sameFolded e.1 name <;> simp [h]

/-! ## What the loops make of a name -/

/-- Listing aliases of one command leaves a name with the command that it has, and gives the
command to the others among the aliases. -/
theorem lookup_foldl_list (t : AliasTable) (command : String) (names : List String)
    (name : String) :
    (names.foldl (fun t x => t.list command x) t).byAlias.lookup (foldCase name) =
      (t.byAlias.lookup (foldCase name)).or
        (if names.any (fun x => sameFolded x name) then some command else none) := by
  induction names generalizing t with
  | nil => simp
  | cons x names ih =>
    rw [List.foldl_cons, ih, lookup_list, Option.or_assoc, List.any_cons]
    -- both sides start with the command that the name has before the first alias is listed
    congr 1
    by_cases hx : foldCase name = foldCase x
    · simp [hx, sameFolded]
    · simp [hx, Ne.symm hx, sameFolded]

/-- The lists leave a name with the command that it has, or give it that of the first list which
holds it. -/
theorem lookup_listed (t : AliasTable) (listed : List (String × List String)) (name : String) :
    (listed.foldl (fun t e => e.2.foldl (fun t x => t.list e.1 x) t) t).byAlias.lookup
        (foldCase name) =
      (t.byAlias.lookup (foldCase name)).or (listedCommand? listed name) := by
  induction listed generalizing t with
  | nil => simp [listedCommand?]
  | cons e listed ih =>
    rw [List.foldl_cons, ih, lookup_foldl_list, listedCommand?_cons, Option.or_assoc]

/-- The assignments give a name the last command that is assigned to it, or leave it as it is. -/
theorem lookup_assigned (t : AliasTable) (assigned : List (String × String)) (name : String) :
    (assigned.foldl (fun t e => t.assign e.1 e.2) t).byAlias.lookup (foldCase name) =
      (assignedCommand? assigned name).or (t.byAlias.lookup (foldCase name)) := by
  induction assigned generalizing t with
  | nil => rfl
  | cons e assigned ih =>
    rw [List.foldl_cons, ih, lookup_assign, assignedCommand?_cons, Option.or_assoc]
    congr 1
    by_cases he : foldCase name = foldCase e.1
    · simp [he, sameFolded]
    · simp [he, Ne.symm he, sameFolded]

/-- A name stands for the last command that is assigned to it, or else for that of the first list
which holds it. -/
theorem lookup_ofEntries (listed : List (String × List String))
    (assigned : List (String × String)) (name : String) :
    (ofEntries listed assigned).byAlias.lookup (foldCase name) =
      (assignedCommand? assigned name).or (listedCommand? listed name) := by
  rw [ofEntries, lookup_assigned, lookup_listed]
  rfl

/-! ## The names that stand for commands -/

/-- Putting an entry keeps the keys, and adds its own at the end unless it is there. -/
theorem keys_put {β : Type} (entries : List (String × β)) (key : String) (v : β) :
    (put entries key v).map Prod.fst =
      if key ∈ entries.map Prod.fst then entries.map Prod.fst
      else entries.map Prod.fst ++ [key] := by
  induction entries with
  | nil => rfl
  | cons e entries ih =>
    rw [put]
    by_cases he : e.1 = key
    · simp [he]
    · rw [if_neg he, List.map_cons, ih, List.map_cons]
      by_cases hkey : key ∈ entries.map Prod.fst
      · rw [if_pos hkey, if_pos (List.mem_cons_of_mem _ hkey)]
      · have hnot : key ∉ e.1 :: entries.map Prod.fst := by
          rw [List.mem_cons]
          rintro (h | h)
          · exact he h.symm
          · exact hkey h
        rw [if_neg hkey, if_neg hnot, List.cons_append]

/-- The keys after an entry is put. -/
theorem mem_keys_put {β : Type} (entries : List (String × β)) (key other : String) (v : β) :
    other ∈ (put entries key v).map Prod.fst ↔ other ∈ entries.map Prod.fst ∨ other = key := by
  rw [keys_put]
  split
  · rename_i hkey
    refine ⟨Or.inl, ?_⟩
    rintro (h | rfl)
    · exact h
    · exact hkey
  · rw [List.mem_append, List.mem_singleton]

/-- Putting an entry makes no key come twice. -/
theorem nodup_keys_put {β : Type} {entries : List (String × β)}
    (h : (entries.map Prod.fst).Nodup) (key : String) (v : β) :
    ((put entries key v).map Prod.fst).Nodup := by
  rw [keys_put]
  split
  · exact h
  · rename_i hkey
    exact List.nodup_append_comm.mp (List.nodup_cons.mpr ⟨hkey, h⟩)

/-- A key whose value is found is among the keys. -/
theorem mem_keys_of_lookup {β : Type} {entries : List (String × β)} {v : β}
    (h : entries.lookup key = some v) : key ∈ entries.map Prod.fst := by
  obtain ⟨before, after, rfl, -⟩ := List.lookup_eq_some_iff.mp h
  simp

/-- Listing an alias adds its name to those that stand for commands. -/
theorem mem_keys_list (t : AliasTable) (command name key : String) :
    key ∈ (t.list command name).byAlias.map Prod.fst ↔
      key ∈ t.byAlias.map Prod.fst ∨ foldCase name = key := by
  rw [list]
  dsimp only
  split
  · rename_i known hknown
    refine ⟨Or.inl, ?_⟩
    rintro (h | rfl)
    · exact h
    · exact mem_keys_of_lookup hknown
  · rw [mem_keys_put, eq_comm (a := key)]

/-- Assigning a command to a name adds the name to those that stand for commands. -/
theorem mem_keys_assign (t : AliasTable) (name command key : String) :
    key ∈ (t.assign name command).byAlias.map Prod.fst ↔
      key ∈ t.byAlias.map Prod.fst ∨ foldCase name = key := by
  rw [assign, mem_keys_put, eq_comm (a := key)]

/-- The names that stand for commands are the aliases of the entries. -/
theorem mem_keys_ofEntries (listed : List (String × List String))
    (assigned : List (String × String)) (key : String) :
    key ∈ (ofEntries listed assigned).byAlias.map Prod.fst ↔
      ∃ e ∈ entries listed assigned, foldCase e.2 = key := by
  rw [ofEntries_iff_exists (p := fun t => key ∈ t.byAlias.map Prod.fst)
    (fun t c x => mem_keys_list t c x key) (fun t x c => mem_keys_assign t x c key)]
  exact or_iff_right List.not_mem_nil

/-- No name comes twice among those that stand for commands. -/
theorem nodup_keys_ofEntries (listed : List (String × List String))
    (assigned : List (String × String)) :
    ((ofEntries listed assigned).byAlias.map Prod.fst).Nodup := by
  refine ofEntries_induction (motive := fun t => (t.byAlias.map Prod.fst).Nodup) List.nodup_nil
    ?_ ?_
  · intro t c x ht
    rw [list]
    dsimp only
    split
    · exact ht
    · exact nodup_keys_put ht _ _
  · intro t x c ht
    exact nodup_keys_put ht _ _

/-- A table has as many entries as there are different aliases, up to case. -/
theorem size_ofEntries (listed : List (String × List String))
    (assigned : List (String × String)) :
    (ofEntries listed assigned).size =
      ((entries listed assigned).map fun e => foldCase e.2).dedup.length := by
  have hperm : ((ofEntries listed assigned).byAlias.map Prod.fst).Perm
      ((entries listed assigned).map fun e => foldCase e.2).dedup := by
    rw [List.perm_ext_iff_of_nodup (nodup_keys_ofEntries listed assigned) (List.nodup_dedup _)]
    intro key
    rw [mem_keys_ofEntries, List.mem_dedup, List.mem_map]
  rw [size, ← hperm.length_eq, List.length_map]

/-! ## The relation -/

/-- A name is an alias of the command that it stands for exactly when some entry is about it. -/
theorem hasAlias_commandOf_iff (listed : List (String × List String))
    (assigned : List (String × String)) (name : String) :
    (ofEntries listed assigned).hasAlias ((ofEntries listed assigned).commandOf name) name =
        true ↔
      ∃ e ∈ entries listed assigned, foldCase e.2 = foldCase name := by
  constructor
  · intro h
    obtain ⟨e, he, -, hname⟩ := (hasAlias_ofEntries _ _ _ _).mp h
    exact ⟨e, he, hname⟩
  · rintro ⟨e, he, hname⟩
    have halias : (ofEntries listed assigned).hasAlias e.1 name = true :=
      (hasAlias_ofEntries _ _ _ _).mpr ⟨e, he, rfl, hname⟩
    exact (inStep_ofEntries listed assigned).hasAlias_commandOf halias

/-- The relation of a table, up to case.  A name stands for the last command assigned to it, or
else for that of the first list that holds it, or else for none, which is the empty text.  A
command has the names as aliases that are listed under it or to which it is assigned.  So a name
is an alias of the command that it stands for, if it is one at all, and the table knows as many
aliases as there are different names among those of the entries. -/
theorem relation_ofEntries (listed : List (String × List String))
    (assigned : List (String × String)) :
    (∀ name, (ofEntries listed assigned).commandOf name =
        ((assignedCommand? assigned name).or (listedCommand? listed name)).getD "") ∧
      (∀ command name, (ofEntries listed assigned).hasAlias command name = true ↔
        (∃ e ∈ listed, ∃ x ∈ e.2, foldCase e.1 = foldCase command ∧
          foldCase x = foldCase name) ∨
        ∃ e ∈ assigned, foldCase e.2 = foldCase command ∧ foldCase e.1 = foldCase name) ∧
      (∀ name, (ofEntries listed assigned).hasAlias
          ((ofEntries listed assigned).commandOf name) name = true ↔
        ∃ e ∈ entries listed assigned, foldCase e.2 = foldCase name) ∧
      (ofEntries listed assigned).size =
        ((entries listed assigned).map fun e => foldCase e.2).dedup.length := by
  refine ⟨?_, ?_, hasAlias_commandOf_iff listed assigned, size_ofEntries listed assigned⟩
  · intro name
    rw [commandOf, lookup_ofEntries]
  · intro command name
    rw [hasAlias_ofEntries, exists_entry_iff
      (p := fun c x => foldCase c = foldCase command ∧ foldCase x = foldCase name)]

end AliasTable

end ScriptNavigation
