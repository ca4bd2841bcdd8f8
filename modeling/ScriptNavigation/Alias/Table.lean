/-
# Alias tables

A command may have aliases.  A table answers in both directions: which aliases a command
has, and which command an alias stands for.  It is built from a list of aliases for each
command and from a command for each alias; either may be left out, since each direction
is completed from the other.  Names are looked up by their case folding, and both
directions keep the spelling given first, except that a later command for an alias
replaces an earlier one.

Main facts:

* `lookup_put`: after an entry is put, its key has the new value and others are unchanged.
-/
import ScriptNavigation.Failure
import ScriptNavigation.Text.CaseFold
import ScriptNavigation.Value.Reader

namespace ScriptNavigation

/-- The commands and aliases known, each direction with folded names as keys. -/
structure AliasTable where
  byCommand : List (String × List String)
  byAlias : List (String × String)
  deriving DecidableEq, Repr

namespace AliasTable

/-! ## Entries by key -/

/-- Sets the value of a key, in its place if the key is there and at the end if not. -/
def put {β : Type} (entries : List (String × β)) (key : String) (v : β) : List (String × β) :=
  match entries with
  | [] => [(key, v)]
  | e :: rest => if e.1 = key then (key, v) :: rest else e :: put rest key v

/-- The first entry answers for its own key, and the rest for the others. -/
theorem lookup_entry {β : Type} (key other : String) (v : β) (rest : List (String × β)) :
    ((key, v) :: rest).lookup other = if other = key then some v else rest.lookup other := by
  rw [List.lookup_cons]
  cases hb : other == key with
  | true => rw [if_pos (beq_iff_eq.mp hb)]
  | false => rw [if_neg (beq_eq_false_iff_ne.mp hb)]

/-- After an entry is put, its key has the new value and others are unchanged. -/
theorem lookup_put {β : Type} (entries : List (String × β)) (key other : String) (v : β) :
    (put entries key v).lookup other =
      if other = key then some v else entries.lookup other := by
  induction entries with
  | nil => rw [put, lookup_entry]
  | cons e rest ih =>
    obtain ⟨k, w⟩ := e
    rw [put]
    by_cases hk : k = key
    · subst hk
      rw [if_pos rfl, lookup_entry, lookup_entry]
      split <;> rfl
    · rw [if_neg hk, lookup_entry, lookup_entry, ih]
      by_cases h : other = key
      · rw [if_neg fun hb => hk (hb.symm.trans h), if_pos h, if_pos h]
      · rw [if_neg h, if_neg h]

/-! ## Looking up -/

/-- The table that knows nothing. -/
def empty : AliasTable := ⟨[], []⟩

/-- The aliases of a command. -/
def aliases (t : AliasTable) (command : String) : List String :=
  (t.byCommand.lookup (Text.foldCase command)).getD []

/-- The command that an alias stands for, and the empty text for a name that is none. -/
def commandOf (t : AliasTable) (short : String) : String :=
  (t.byAlias.lookup (Text.foldCase short)).getD ""

/-- Whether a command has a name as an alias. -/
def hasAlias (t : AliasTable) (command short : String) : Bool :=
  (t.aliases command).any fun a => Text.sameFolded a short

/-- The number of aliases known. -/
def size (t : AliasTable) : Nat := t.byAlias.length

/-! ## Building -/

/-- Adds an alias listed under a command: it stands for the command unless it already
stands for one. -/
def list (t : AliasTable) (command short : String) : AliasTable where
  byCommand := put t.byCommand (Text.foldCase command) (t.aliases command ++ [short])
  byAlias :=
    match t.byAlias.lookup (Text.foldCase short) with
    | some _ => t.byAlias
    | none => put t.byAlias (Text.foldCase short) command

/-- Makes an alias stand for a command, and adds it to the aliases of the command unless it
is among them. -/
def assign (t : AliasTable) (short command : String) : AliasTable where
  byAlias := put t.byAlias (Text.foldCase short) command
  byCommand :=
    put t.byCommand (Text.foldCase command)
      (if t.hasAlias command short then t.aliases command else t.aliases command ++ [short])

/-- The table of the aliases listed for commands and of the commands given for aliases. -/
def ofEntries (listed : List (String × List String)) (assigned : List (String × String)) :
    AliasTable :=
  let commands := listed.foldl (fun t e => e.2.foldl (fun t short => t.list e.1 short) t) empty
  assigned.foldl (fun t e => t.assign e.1 e.2) commands

/-! ## Documents -/

/-- The form of a document of aliases. -/
def form : Form :=
  .record [("aliases_of", .mapOf (.listOf .text)), ("canonical_of", .mapOf .text)] []

/-- The texts among the items of an array. -/
def textsOf (v : Json) : List String :=
  match v with
  | .array items => items.filterMap Value.str?
  | _ => []

/-- The members of the object under a key of an object. -/
def membersUnder (ms : Members) (key : String) : Members :=
  match ms.lookup key with
  | some (.object inner) => inner
  | _ => []

/-- The table that a value of the right form describes. -/
def ofChecked (v : Json) : AliasTable :=
  match v with
  | .object ms =>
    ofEntries ((membersUnder ms "aliases_of").map fun m => (m.1, textsOf m.2))
      ((membersUnder ms "canonical_of").filterMap fun m => m.2.str?.map fun s => (m.1, s))
  | _ => empty

/-- The table that the bytes of a document describe. -/
def ofBytes (bytes : Json.Bytes) : Result AliasTable :=
  match Json.decode form bytes with
  | .ok v => .ok (ofChecked v)
  | .error why => .error (.unreadable why)

end AliasTable

end ScriptNavigation
