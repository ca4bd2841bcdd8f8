/-
# Matching names through an alias table

With an alias table two names of functions also match when one is an alias of the other, or
when both are aliases of one command.  The test asks for the aliases of the candidate on one
side and for the commands that the names stand for on the other, and since a name stands for
one command only, it finds every relation between names that are aliases of no further
command.  Conversely it finds nothing else, but for the empty name: a candidate that is no
alias stands for the empty command, and the empty name is taken for that command.

Where no name is an alias of two commands and no command is an alias itself, all this comes
down to one thing: names match when they have the same representative, which is the command
of an alias and any other name itself.

Main facts:

* `namesFunction_iff`: the test in terms of the two directions of the table.
* `sameFunction_both_ways`: names that a table relates match whichever is asked for.
* `related_of_sameFunction`: names that match are related by the table.
* `sameFunction_iff_representative`: on a proper table names match by their representatives.
-/
import ScriptNavigation.Proofs.Alias.Directions
import ScriptNavigation.Proofs.Navigation.Functions

namespace ScriptNavigation

/-! ## A small script -/

namespace Listing

/-- The aliases listed for commands. -/
def listed : List (String × List String) := [("Get-ChildItem", ["gci", "ls"])]

/-- The commands given for aliases. -/
def assigned : List (String × String) := [("DIR", "get-childitem")]

/-- The text of the script. -/
def source : String := "function Get-ChildItem \x7b \x7d; gci; LS"

/-- The call of a command without arguments. -/
def call (offset : Nat) (name : String) : Node :=
  .pipeline (.inLine offset name) [.command (.inLine offset name) name]

/-- The definition of the function. -/
def definition : Node :=
  .inLine .functionDefinition 0 "function Get-ChildItem \x7b \x7d"
    [(.name, .str "Get-ChildItem"), (.isWorkflow, .bool false), (.isFilter, .bool false),
      (.parameters, .array []), (.body, .null)]

/-- A script that defines a function and calls it by two of its aliases. -/
def script : Script := .inLine source [definition, call 28 "gci", call 33 "LS"]

/-- The script is well typed. -/
theorem wellTyped_script : script.WellTyped := by decide +kernel

/-- The function, as it may be asked for from outside of the script. -/
def function : Symbol :=
  ⟨.workflow, .str "get-childitem", Extent.nowhere.withText .null, none⟩

end Listing

namespace AliasTable

open Text

variable {t : AliasTable} {a b c d x command : String}
variable {listed : List (String × List String)} {assigned : List (String × String)}

/-! ## The test -/

/-- Names match when they are equal, when the first is an alias of the second, or when the
second stands for the first or for what the first stands for. -/
theorem namesFunction_iff :
    namesFunction (some t) a b = true ↔
      foldCase a = foldCase b ∨ t.hasAlias b a = true ∨ foldCase (t.commandOf b) = foldCase a ∨
        t.commandOf b ≠ "" ∧ foldCase (t.commandOf b) = foldCase (t.commandOf a) := by
  simp only [namesFunction, relatedByAlias, Option.any_some, Bool.or_eq_true, Bool.and_eq_true,
    bne_iff_ne, sameFolded_iff, or_assoc]

/-- An alias matches its commands. -/
theorem namesFunction_of_hasAlias (h : t.hasAlias b a = true) :
    namesFunction (some t) a b = true :=
  namesFunction_iff.mpr (Or.inr (Or.inl h))

/-- A command has a name as an alias, and no other command does, up to case. -/
structure Owns (t : AliasTable) (command x : String) : Prop where
  hasAlias : t.hasAlias command x = true
  only : ∀ c, t.hasAlias c x = true → foldCase c = foldCase command

/-- Where no name is given as an alias to two commands, up to case, each command is the only one
to have its aliases. -/
theorem owns_ofEntries
    (h : ∀ e ∈ entries listed assigned, ∀ e' ∈ entries listed assigned,
      foldCase e.2 = foldCase e'.2 → foldCase e.1 = foldCase e'.1)
    (hx : (ofEntries listed assigned).hasAlias command x = true) :
    (ofEntries listed assigned).Owns command x := by
  refine ⟨hx, ?_⟩
  intro d hd
  obtain ⟨e, he, hec, hex⟩ := (hasAlias_ofEntries _ _ _ _).mp hx
  obtain ⟨e', he', hed, hex'⟩ := (hasAlias_ofEntries _ _ _ _).mp hd
  rw [← hec, ← hed]
  exact h e' he' e he (hex'.trans hex.symm)

/-- A name stands for the only command that has it as an alias. -/
theorem InStep.commandOf_of_owns (h : t.InStep) (hx : t.Owns command x) :
    foldCase (t.commandOf x) = foldCase command :=
  hx.only _ (h.hasAlias_commandOf hx.hasAlias)

/-- A command matches an alias that no other command has. -/
theorem InStep.namesFunction_of_owns (h : t.InStep) (ha : t.Owns b a) :
    namesFunction (some t) b a = true :=
  namesFunction_iff.mpr (Or.inr (Or.inr (Or.inl (h.commandOf_of_owns ha))))

/-- Two aliases match that only one command has. -/
theorem InStep.namesFunction_of_both (h : t.InStep) (hc : c ≠ "") (ha : t.Owns c a)
    (hb : t.Owns c b) : namesFunction (some t) a b = true := by
  have hfold : foldCase (t.commandOf b) = foldCase (t.commandOf a) :=
    (h.commandOf_of_owns hb).trans (h.commandOf_of_owns ha).symm
  have hne : t.commandOf b ≠ "" := by
    intro hempty
    have hcommand := h.commandOf_of_owns hb
    rw [hempty, foldCase_empty] at hcommand
    exact hc (foldCase_eq_empty_iff.mp hcommand.symm)
  exact namesFunction_iff.mpr (Or.inr (Or.inr (Or.inr ⟨hne, hfold⟩)))

/-! ## Related names match -/

/-- Two names match both ways: whichever of them is asked for. -/
def MatchBothWays (t : AliasTable) (a b : String) : Prop :=
  namesFunction (some t) a b = true ∧ namesFunction (some t) b a = true

theorem MatchBothWays.symm (h : t.MatchBothWays a b) : t.MatchBothWays b a := ⟨h.2, h.1⟩

/-- Names that a table relates, each alias being one of a single command, match both ways. -/
theorem InStep.matchBothWays (ht : t.InStep)
    (h : t.Owns b a ∨ t.Owns a b ∨ ∃ c, c ≠ "" ∧ t.Owns c a ∧ t.Owns c b) :
    t.MatchBothWays a b := by
  rcases h with ha | hb | ⟨c, hc, ha, hb⟩
  · exact ⟨namesFunction_of_hasAlias ha.hasAlias, ht.namesFunction_of_owns ha⟩
  · exact ⟨ht.namesFunction_of_owns hb, namesFunction_of_hasAlias hb.hasAlias⟩
  · exact ⟨ht.namesFunction_of_both hc ha hb, ht.namesFunction_of_both hc hb ha⟩

/-- If the names of two functions match both ways, then each one of them is found together
with the other. -/
theorem MatchBothWays.references {s : Script} {infer : Inferer} {A B : Symbol}
    (h : t.MatchBothWays a b) (hs : s.WellTyped) (hA : A ∈ s.functions) (hB : B ∈ s.functions)
    (ha : A.name = .str a) (hb : B.name = .str b) :
    ∃ refs, (Query.mk s infer false).references (some A) (some t) = .ok refs ∧
      A ∈ refs ∧ B ∈ refs := by
  refine ⟨_, Query.references_function hs (Script.mem_functions hA).1 ha (some t), ?_, ?_⟩
  · exact (Query.mem_references_function hA ha (some t)).mpr
      (namesFunction_iff.mpr (Or.inl rfl))
  · exact (Query.mem_references_function hB hb (some t)).mpr h.1

/-- A command and an alias that no other command has match both ways, and so do two aliases
of one command that no other command has.  So the references to a function of a well-typed
script hold every function whose name is so related to its own, and they are held by the
references to it in turn. -/
theorem sameFunction_both_ways
    (h : (ofEntries listed assigned).Owns b a ∨ (ofEntries listed assigned).Owns a b ∨
      ∃ c, c ≠ "" ∧ (ofEntries listed assigned).Owns c a ∧
        (ofEntries listed assigned).Owns c b) :
    sameFunction (some (ofEntries listed assigned)) (.str a) (.str b) = .ok true ∧
      sameFunction (some (ofEntries listed assigned)) (.str b) (.str a) = .ok true ∧
      ∀ (s : Script) (infer : Inferer), s.WellTyped → ∀ A ∈ s.functions, ∀ B ∈ s.functions,
        A.name = .str a → B.name = .str b →
          (∃ refs, (Query.mk s infer false).references (some A)
              (some (ofEntries listed assigned)) = .ok refs ∧ A ∈ refs ∧ B ∈ refs) ∧
            ∃ refs, (Query.mk s infer false).references (some B)
              (some (ofEntries listed assigned)) = .ok refs ∧ B ∈ refs ∧ A ∈ refs := by
  have hboth := (inStep_ofEntries listed assigned).matchBothWays h
  refine ⟨?_, ?_, ?_⟩
  · rw [sameFunction_text, hboth.1]
  · rw [sameFunction_text, hboth.2]
  · intro s infer hs A hA B hB ha hb
    exact ⟨hboth.references hs hA hB ha hb, hboth.symm.references hs hB hA hb ha⟩

theorem sameFunction_both_ways_listing :
    sameFunction (some (ofEntries Listing.listed Listing.assigned)) (.str "Get-ChildItem")
        (.str "LS") = .ok true ∧
      ∃ A ∈ Listing.script.functions, ∃ B ∈ Listing.script.functions,
        A.name = .str "Get-ChildItem" ∧ B.name = .str "LS" ∧
          ∃ refs, (Query.on Listing.script).references (some A)
            (some (ofEntries Listing.listed Listing.assigned)) = .ok refs ∧
            A ∈ refs ∧ B ∈ refs := by
  have howns : (ofEntries Listing.listed Listing.assigned).Owns "Get-ChildItem" "LS" := by
    refine ⟨by decide +kernel, ?_⟩
    intro c hc
    have hall : ∀ e ∈ entries Listing.listed Listing.assigned,
        foldCase e.1 = foldCase "Get-ChildItem" := by decide +kernel
    obtain ⟨e, he, hec, -⟩ := (hasAlias_ofEntries _ _ _ _).mp hc
    exact hec.symm.trans (hall e he)
  have hfound : ∀ name ∈ ["Get-ChildItem", "LS"], (Listing.script.functions.any
      fun C => C.name.str? == some name) = true := by decide +kernel
  have hsymbol : ∀ name ∈ ["Get-ChildItem", "LS"],
      ∃ C ∈ Listing.script.functions, C.name = .str name := by
    intro name hname
    obtain ⟨C, hC, htext⟩ := List.any_eq_true.mp (hfound name hname)
    obtain ⟨-, text, hCname⟩ := Script.mem_functions hC
    rw [hCname] at htext
    exact ⟨C, hC, hCname.trans (congrArg Value.str (Option.some_inj.mp (eq_of_beq htext)))⟩
  obtain ⟨A, hA, ha⟩ := hsymbol "Get-ChildItem" (by decide)
  obtain ⟨B, hB, hb⟩ := hsymbol "LS" (by decide)
  obtain ⟨hmatch, -, hrefs⟩ := sameFunction_both_ways (Or.inr (Or.inl howns))
  exact ⟨hmatch, A, hA, B, hB, ha, hb,
    (hrefs Listing.script (Query.on Listing.script).infer Listing.wellTyped_script A hA B hB ha
      hb).1⟩

/-- An alias that is listed under two commands stands for the first of them: it matches the
second one, but the second one does not match it. -/
theorem contested_alias_missed :
    (ofEntries [("Get-ChildItem", ["ls"]), ("Get-Item", ["ls"])] []).hasAlias "Get-Item" "ls" =
        true ∧
      sameFunction (some (ofEntries [("Get-ChildItem", ["ls"]), ("Get-Item", ["ls"])] []))
        (.str "ls") (.str "Get-Item") = .ok true ∧
      sameFunction (some (ofEntries [("Get-ChildItem", ["ls"]), ("Get-Item", ["ls"])] []))
        (.str "Get-Item") (.str "ls") = .ok false := by
  rw [sameFunction_text, sameFunction_text]
  exact ⟨by decide +kernel, congrArg Except.ok (by decide +kernel),
    congrArg Except.ok (by decide +kernel)⟩

/-! ## Names that match are related -/

/-- A name that stands for another one, up to case, is an alias of it. -/
theorem InStep.hasAlias_of_commandOf_eq (h : t.InStep) (hne : t.commandOf b ≠ "")
    (ha : foldCase (t.commandOf b) = foldCase a) : t.hasAlias a b = true := by
  rw [← hasAlias_congr t ha rfl]
  exact h.hasAlias_of_commandOf_ne hne

/-- Names that match are equal, or one is an alias of the other, or both are aliases of one
command; unless the name asked for is empty and the candidate is no alias. -/
theorem related_of_sameFunction
    (h : sameFunction (some (ofEntries listed assigned)) (.str a) (.str b) = .ok true)
    (hempty : a = "" → ∃ c, (ofEntries listed assigned).hasAlias c b = true) :
    foldCase a = foldCase b ∨ (ofEntries listed assigned).hasAlias b a = true ∨
      (ofEntries listed assigned).hasAlias a b = true ∨
      ∃ c, (ofEntries listed assigned).hasAlias c a = true ∧
        (ofEntries listed assigned).hasAlias c b = true := by
  have ht := inStep_ofEntries listed assigned
  rw [sameFunction_text] at h
  rcases namesFunction_iff.mp (Except.ok.inj h) with hfold | halias | hcommand | ⟨hne, hcommand⟩
  · exact Or.inl hfold
  · exact Or.inr (Or.inl halias)
  · refine Or.inr (Or.inr (Or.inl ?_))
    by_cases ha : a = ""
    · -- the candidate is an alias, of the empty command
      obtain ⟨c, hc⟩ := hempty ha
      rw [← hasAlias_congr _ hcommand rfl]
      exact ht.hasAlias_commandOf hc
    · refine ht.hasAlias_of_commandOf_eq (fun hb => ha ?_) hcommand
      rw [hb, foldCase_empty] at hcommand
      exact foldCase_eq_empty_iff.mp hcommand.symm
  · -- the command of the candidate is not empty, so neither is that of the name asked for
    refine Or.inr (Or.inr (Or.inr ⟨_, ?_, ht.hasAlias_of_commandOf_ne hne⟩))
    refine ht.hasAlias_of_commandOf_eq (fun ha => hne ?_) hcommand.symm
    rw [ha, foldCase_empty] at hcommand
    exact foldCase_eq_empty_iff.mp hcommand

theorem related_of_sameFunction_listing :
    sameFunction (some (ofEntries Listing.listed Listing.assigned)) (.str "gci") (.str "dir") =
        .ok true ∧
      (foldCase "gci" = foldCase "dir" ∨
        (ofEntries Listing.listed Listing.assigned).hasAlias "dir" "gci" = true ∨
        (ofEntries Listing.listed Listing.assigned).hasAlias "gci" "dir" = true ∨
        ∃ c, (ofEntries Listing.listed Listing.assigned).hasAlias c "gci" = true ∧
          (ofEntries Listing.listed Listing.assigned).hasAlias c "dir" = true) := by
  have hmatch : sameFunction (some (ofEntries Listing.listed Listing.assigned)) (.str "gci")
      (.str "dir") = .ok true := by
    rw [sameFunction_text]
    exact congrArg Except.ok (by decide +kernel)
  exact ⟨hmatch, related_of_sameFunction hmatch fun hempty => absurd hempty (by decide)⟩

/-- The empty name matches a command that is no alias at all. -/
theorem empty_name_invents_relation :
    sameFunction (some (ofEntries [("Get-ChildItem", ["gci"])] [])) (.str "")
        (.str "Write-Host") = .ok true ∧
      foldCase "" ≠ foldCase "Write-Host" ∧
      (ofEntries [("Get-ChildItem", ["gci"])] []).hasAlias "Write-Host" "" = false ∧
      ∀ c, (ofEntries [("Get-ChildItem", ["gci"])] []).hasAlias c "Write-Host" = false := by
  rw [sameFunction_text]
  refine ⟨congrArg Except.ok (by decide +kernel), by decide +kernel, by decide +kernel, ?_⟩
  intro c
  have hall : ∀ e ∈ entries [("Get-ChildItem", ["gci"])] [],
      foldCase e.2 ≠ foldCase "Write-Host" := by decide +kernel
  rw [Bool.eq_false_iff]
  intro hc
  obtain ⟨e, he, -, hex⟩ := (hasAlias_ofEntries _ _ _ _).mp hc
  exact hall e he hex

/-! ## Proper tables -/

/-- No name is given as an alias to two commands, no command is an alias itself, all up to
case, and no command is empty.  Commands without aliases do not count. -/
structure ProperEntries (listed : List (String × List String))
    (assigned : List (String × String)) : Prop where
  single : ∀ e ∈ entries listed assigned, ∀ e' ∈ entries listed assigned,
    foldCase e.2 = foldCase e'.2 → foldCase e.1 = foldCase e'.1
  flat : ∀ e ∈ entries listed assigned, ∀ e' ∈ entries listed assigned,
    foldCase e.1 ≠ foldCase e'.2
  named : ∀ e ∈ entries listed assigned, e.1 ≠ ""

/-- Each alias of a table has one command, which is no alias itself and not empty. -/
structure Proper (t : AliasTable) : Prop where
  inStep : t.InStep
  owns : ∀ c x, t.hasAlias c x = true → t.Owns c x
  flat : ∀ c x, t.hasAlias c x = true → ∀ d, t.hasAlias d c = false
  named : ∀ c x, t.hasAlias c x = true → c ≠ ""

/-- Proper entries make up a proper table. -/
theorem ProperEntries.proper (h : ProperEntries listed assigned) :
    (ofEntries listed assigned).Proper where
  inStep := inStep_ofEntries listed assigned
  owns := fun _ _ hc => owns_ofEntries h.single hc
  flat := by
    intro c x hc d
    rw [Bool.eq_false_iff]
    intro hd
    obtain ⟨e, he, hec, -⟩ := (hasAlias_ofEntries _ _ _ _).mp hc
    obtain ⟨e', he', -, hex'⟩ := (hasAlias_ofEntries _ _ _ _).mp hd
    exact h.flat e he e' he' (hec.trans hex'.symm)
  named := by
    rintro c x hc rfl
    obtain ⟨e, he, hec, -⟩ := (hasAlias_ofEntries _ _ _ _).mp hc
    rw [foldCase_empty] at hec
    exact h.named e he (foldCase_eq_empty_iff.mp hec)

/-! ## Representatives -/

/-- The command of an alias, and any other name itself. -/
def representative (t : AliasTable) (name : String) : String := nameOr (t.commandOf name) name

/-- A name that is no alias represents itself. -/
theorem InStep.representative_of_plain (h : t.InStep) (hx : ∀ c, t.hasAlias c x = false) :
    t.representative x = x := by
  rw [representative, h.commandOf_eq_empty hx]
  rfl

namespace Proper

/-- The command of an alias is not empty. -/
theorem commandOf_ne (h : t.Proper) (hx : t.hasAlias c x = true) : t.commandOf x ≠ "" :=
  h.named _ x (h.inStep.hasAlias_commandOf hx)

theorem commandOf_eq (h : t.Proper) (hx : t.hasAlias c x = true) :
    foldCase (t.commandOf x) = foldCase c :=
  h.inStep.commandOf_of_owns (h.owns c x hx)

/-- An alias is represented by its command. -/
theorem representative_eq (h : t.Proper) (hx : t.hasAlias c x = true) :
    foldCase (t.representative x) = foldCase c := by
  rw [representative, nameOr, if_neg (h.commandOf_ne hx)]
  exact h.commandOf_eq hx

/-- An alias is no command. -/
theorem hasAlias_of_alias (h : t.Proper) (hx : t.hasAlias c x = true) (y : String) :
    t.hasAlias x y = false := by
  rw [Bool.eq_false_iff]
  intro hy
  rw [h.flat x y hy c] at hx
  cases hx

/-- Two aliases match when they have the same command. -/
theorem namesFunction_aliases (h : t.Proper) (ha : t.hasAlias c a = true)
    (hb : t.hasAlias d b = true) :
    namesFunction (some t) a b = true ↔ foldCase c = foldCase d := by
  rw [namesFunction_iff, h.hasAlias_of_alias hb, h.commandOf_eq hb, h.commandOf_eq ha]
  constructor
  · rintro (hfold | hfalse | hda | ⟨-, hdc⟩)
    · rw [hasAlias_congr t rfl hfold] at ha
      exact (h.owns d b hb).only c ha
    · cases hfalse
    · -- the command of the candidate would be an alias
      rw [hasAlias_congr t rfl hda.symm, h.flat d b hb c] at ha
      cases ha
    · exact hdc.symm
  · intro hcd
    exact Or.inr (Or.inr (Or.inr ⟨h.commandOf_ne hb, hcd.symm⟩))

/-- An alias matches a name that is none when the name is its command. -/
theorem namesFunction_alias_plain (h : t.Proper) (hne : a ≠ "") (ha : t.hasAlias c a = true)
    (hb : ∀ d, t.hasAlias d b = false) :
    namesFunction (some t) a b = true ↔ foldCase c = foldCase b := by
  rw [namesFunction_iff, h.inStep.commandOf_eq_empty hb, foldCase_empty]
  constructor
  · rintro (hfold | hba | hempty | ⟨hfalse, -⟩)
    · rw [hasAlias_congr t rfl hfold, hb c] at ha
      cases ha
    · exact ((h.owns c a ha).only b hba).symm
    · exact absurd (foldCase_eq_empty_iff.mp hempty.symm) hne
    · exact absurd rfl hfalse
  · intro hcb
    rw [hasAlias_congr t hcb rfl] at ha
    exact Or.inr (Or.inl ha)

/-- A name that is no alias matches the aliases that it is the command of. -/
theorem namesFunction_plain_alias (h : t.Proper) (ha : ∀ c, t.hasAlias c a = false)
    (hb : t.hasAlias d b = true) :
    namesFunction (some t) a b = true ↔ foldCase a = foldCase d := by
  rw [namesFunction_iff, h.hasAlias_of_alias hb, h.commandOf_eq hb,
    h.inStep.commandOf_eq_empty ha, foldCase_empty]
  constructor
  · rintro (hfold | hfalse | hda | ⟨-, hempty⟩)
    · rw [← hasAlias_congr t rfl hfold, ha d] at hb
      cases hb
    · cases hfalse
    · exact hda.symm
    · exact absurd (foldCase_eq_empty_iff.mp hempty) (h.named d b hb)
  · intro had
    exact Or.inr (Or.inr (Or.inl had.symm))

/-- Two names that are no aliases match when they are equal. -/
theorem namesFunction_plain (h : t.Proper) (hne : a ≠ "") (ha : ∀ c, t.hasAlias c a = false)
    (hb : ∀ d, t.hasAlias d b = false) :
    namesFunction (some t) a b = true ↔ foldCase a = foldCase b := by
  rw [namesFunction_iff, ha b, h.inStep.commandOf_eq_empty hb, foldCase_empty]
  constructor
  · rintro (hfold | hfalse | hempty | ⟨hfalse, -⟩)
    · exact hfold
    · cases hfalse
    · exact absurd (foldCase_eq_empty_iff.mp hempty.symm) hne
    · exact absurd rfl hfalse
  · exact Or.inl

/-- Names match when they have the same representative, unless the name asked for is empty. -/
theorem namesFunction_iff_representative (h : t.Proper) (hne : a ≠ "") (b : String) :
    namesFunction (some t) a b = true ↔
      foldCase (t.representative a) = foldCase (t.representative b) := by
  by_cases ha : ∃ c, t.hasAlias c a = true
  · obtain ⟨c, hc⟩ := ha
    rw [h.representative_eq hc]
    by_cases hb : ∃ d, t.hasAlias d b = true
    · obtain ⟨d, hd⟩ := hb
      rw [h.representative_eq hd, h.namesFunction_aliases hc hd]
    · simp only [not_exists, Bool.not_eq_true] at hb
      rw [h.inStep.representative_of_plain hb, h.namesFunction_alias_plain hne hc hb]
  · simp only [not_exists, Bool.not_eq_true] at ha
    rw [h.inStep.representative_of_plain ha]
    by_cases hb : ∃ d, t.hasAlias d b = true
    · obtain ⟨d, hd⟩ := hb
      rw [h.representative_eq hd, h.namesFunction_plain_alias ha hd]
    · simp only [not_exists, Bool.not_eq_true] at hb
      rw [h.inStep.representative_of_plain hb, h.namesFunction_plain hne ha hb]

/-- What is named by the one of two names with the same representative is named by the other. -/
theorem namedLike_eq (h : t.Proper) (ha : a ≠ "") (hb : b ≠ "")
    (hab : namesFunction (some t) a b = true) :
    Query.namedLike (some t) b = Query.namedLike (some t) a := by
  have hrep := (h.namesFunction_iff_representative ha b).mp hab
  funext C
  rw [Query.namedLike, Query.namedLike]
  cases C.name.str? with
  | none => rfl
  | some name =>
    rw [Option.any_some, Option.any_some, Bool.eq_iff_iff,
      h.namesFunction_iff_representative hb name, h.namesFunction_iff_representative ha name,
      hrep]

/-- On a proper table the references to a function can be asked from any of them, if no
function is named by the empty text. -/
theorem references_eq_of_mem (h : t.Proper) {s : Script} {infer : Inferer} {R : Symbol}
    (hs : s.WellTyped) (hnames : ∀ C ∈ s.functions, C.name ≠ .str "") (ha : a ≠ "")
    (hR : R ∈ s.functions.filter (Query.namedLike (some t) a)) :
    (Query.mk s infer false).references (some R) (some t) =
      .ok (s.functions.filter (Query.namedLike (some t) a)) := by
  have hmem := List.mem_of_mem_filter hR
  obtain ⟨hfam, b, hname⟩ := Script.mem_functions hmem
  have hb : b ≠ "" := by
    rintro rfl
    exact hnames R hmem hname
  have hab := (Query.mem_references_function hmem hname (some t)).mp hR
  rw [Query.references_function hs hfam hname, h.namedLike_eq ha hb hab]

end Proper

/-- On a proper table two names match exactly when they have the same representative.  So the
references to a function of a well-typed script whose functions all have names are the same
asked from any of them. -/
theorem sameFunction_iff_representative (h : ProperEntries listed assigned) :
    (∀ a b, a ≠ "" →
      (sameFunction (some (ofEntries listed assigned)) (.str a) (.str b) = .ok true ↔
        foldCase ((ofEntries listed assigned).representative a) =
          foldCase ((ofEntries listed assigned).representative b))) ∧
      ∀ (s : Script) (infer : Inferer), s.WellTyped → (∀ C ∈ s.functions, C.name ≠ .str "") →
        ∀ (S : Symbol) (name : String), S.kind.family = .function → S.name = .str name →
          name ≠ "" →
          ∃ refs, (Query.mk s infer false).references (some S)
              (some (ofEntries listed assigned)) = .ok refs ∧
            ∀ R ∈ refs, (Query.mk s infer false).references (some R)
              (some (ofEntries listed assigned)) = .ok refs := by
  constructor
  · intro a b ha
    rw [sameFunction_text, Except.ok.injEq]
    exact h.proper.namesFunction_iff_representative ha b
  · intro s infer hs hnames S name hS hname hne
    exact ⟨_, Query.references_function hs hS hname _,
      fun R hR => h.proper.references_eq_of_mem hs hnames hne hR⟩

theorem sameFunction_iff_representative_listing :
    ProperEntries Listing.listed Listing.assigned ∧
      sameFunction (some (ofEntries Listing.listed Listing.assigned)) (.str "LS")
        (.str "dir") = .ok true ∧
      ∃ refs, (Query.on Listing.script).references (some Listing.function)
          (some (ofEntries Listing.listed Listing.assigned)) = .ok refs ∧
        refs.length = 3 ∧
        ∀ R ∈ refs, (Query.on Listing.script).references (some R)
          (some (ofEntries Listing.listed Listing.assigned)) = .ok refs := by
  have hproper : ProperEntries Listing.listed Listing.assigned :=
    ⟨by decide +kernel, by decide +kernel, by decide +kernel⟩
  have hnames : ∀ C ∈ Listing.script.functions, C.name ≠ .str "" := by
    have hall : ∀ C ∈ Listing.script.functions, C.name.str? ≠ some "" := by decide +kernel
    intro C hC hempty
    exact hall C hC (congrArg Value.str? hempty)
  have hrun : ((Query.on Listing.script).references (some Listing.function)
      (some (ofEntries Listing.listed Listing.assigned))).toOption.any
        (fun refs => refs.length == 3) = true := by decide +kernel
  obtain ⟨hiff, hrefs⟩ := sameFunction_iff_representative hproper
  obtain ⟨refs, h, hall⟩ := hrefs Listing.script (Query.on Listing.script).infer
    Listing.wellTyped_script hnames Listing.function "get-childitem" rfl rfl (by decide)
  refine ⟨hproper, (hiff "LS" "dir" (by decide)).mpr (by decide +kernel), refs, h, ?_, hall⟩
  have hok : (Query.on Listing.script).references (some Listing.function)
      (some (ofEntries Listing.listed Listing.assigned)) = .ok refs := h
  rw [hok] at hrun
  exact eq_of_beq hrun

end AliasTable

end ScriptNavigation
