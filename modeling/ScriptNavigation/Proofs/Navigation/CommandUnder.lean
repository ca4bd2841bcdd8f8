/-
# The command at a position

The search for a command goes through the elements of the pipelines that start on the line of
the position, in document order, and takes the first command that reaches over the column.  It
compares columns only, so the command stands on that line if all commands of these pipelines
do.  In a pipeline that goes on in the next line, a command of that line may be found instead.

Main facts:

* `first_commandIn`: which command is found in a well-typed script.
* `commandUnder_on_line`: the command starts on the line, not behind the column, if the commands
  of the pipelines that start on the line do so too.
* `BrokenPipeline.command_of_next_line`: a pipeline spread over two lines.
-/
import ScriptNavigation.Proofs.Navigation.Answers
import ScriptNavigation.Proofs.Reading.Probe

namespace ScriptNavigation

open Occurrence

namespace Script

/-- The elements of the pipelines that start on a line, in document order. -/
def elementsOn (s : Script) (line : Int) : List Occurrence :=
  (s.nodes.filter fun o => o.kind == .pipeline && o.extent.start.line == line).flatMap
    fun o => o.childrenIn .elements

/-- The first command of a pipeline on the line of a position that reaches over the column. -/
def commandAt? (s : Script) (p : Position) : Option Occurrence :=
  (s.elementsOn p.line).find? fun c => (commandOver? s p.column c).isSome

variable {s : Script} {p : Position} {c : Occurrence} {S : Symbol}

/-- The elements of the pipelines of a script stand in the script. -/
theorem standsIn_of_mem_elementsOn (hs : s.WellTyped) {line : Int} (h : c ∈ s.elementsOn line) :
    c.StandsIn s := by
  obtain ⟨o, ho, hc⟩ := List.mem_flatMap.mp h
  exact (StandsIn.of_mem_nodes hs (List.mem_of_mem_filter ho)).of_mem_childrenIn hc

/-- The command that is found is an element of a pipeline on the line and reaches over the column;
the symbol that is handed out is built from it. -/
theorem of_commandAt? (h : s.commandAt? p = some c) :
    c ∈ s.elementsOn p.line ∧
      (c.kind = .command ∧ c.extent.start.column ≤ p.column ∧
        p.column ≤ Query.reach s c.extent) ∧
      commandOver? s p.column c = c.commandSymbol? := by
  refine ⟨List.mem_of_find?_eq_some h, ?_⟩
  have hover := List.find?_some h
  rw [commandOver?] at hover ⊢
  split at hover
  · rename_i hreach
    exact ⟨hreach, if_pos hreach⟩
  · cases hover

end Script

/-! ## Going through elements -/

/-- The first answer is that of the first element that has one. -/
theorem findSome?_eq_bind_find? {α β : Type} (f : α → Option β) (as : List α) :
    as.findSome? f = (as.find? fun a => (f a).isSome).bind f := by
  induction as with
  | nil => rfl
  | cons a as ih =>
    rw [List.findSome?_cons, List.find?_cons]
    cases hf : f a with
    | some b => exact hf.symm
    | none => exact ih

/-- Going through lists that are put together is going through one after the other. -/
theorem findSome?_flatMap_filter {α β γ : Type} (keep : α → Bool) (f : α → List β)
    (g : β → Option γ) (as : List α) :
    ((as.filter keep).flatMap f).findSome? g =
      as.findSome? fun a => if keep a then (f a).findSome? g else none := by
  induction as with
  | nil => rfl
  | cons a as ih =>
    rw [List.filter_cons, List.findSome?_cons]
    cases keep a with
    | false => exact ih
    | true =>
      rw [if_pos rfl, if_pos rfl, List.flatMap_cons, List.findSome?_append, ih]
      cases (f a).findSome? g <;> rfl

namespace Query

variable {s : Script} {q : Query} {infer : Inferer} {p : Position} {o c : Occurrence}
variable {S : Symbol}

/-- What the search for a command does at a node. -/
theorem askAt_commandIn (ho : o.StandsIn s) :
    askAt [(.pipeline, commandIn s p)] o =
      .ok (if o.kind == .pipeline && o.extent.start.line == p.line then
          (o.childrenIn .elements).findSome? (commandOver? s p.column)
        else none) := by
  rw [askAt]
  cases hk : o.kind
  case pipeline =>
    refine (ho.commandIn_eq hk s).trans ?_
    by_cases hline : o.extent.start.line = p.line
    · rw [if_neg (not_not_intro hline), hline]
      simp
    · rw [if_pos hline, beq_eq_false_iff_ne.mpr hline]
      simp
  all_goals rfl

/-- Which command the search at a position finds in a well-typed script. -/
theorem first_commandIn (hs : s.WellTyped) :
    (Query.mk s infer false).first [(.pipeline, commandIn s p)] =
      .ok ((s.commandAt? p).bind commandSymbol?) := by
  have hfirst : (s.elementsOn p.line).findSome? (commandOver? s p.column) =
      (s.commandAt? p).bind commandSymbol? := by
    rw [findSome?_eq_bind_find?, ← Script.commandAt?]
    cases hc : s.commandAt? p with
    | none => rfl
    | some c => exact (Script.of_commandAt? hc).2.2
  rw [first_eq, firstAnswer_eq_findSome? fun o ho => askAt_commandIn (.of_mem_nodes hs ho),
    ← findSome?_flatMap_filter]
  exact congrArg Except.ok hfirst

/-- The symbol that is handed out for a position was built from the command that is found. -/
theorem exists_of_commandUnder (hs : q.script.WellTyped) (h : q.commandUnder p = .ok (some S)) :
    ∃ c, q.script.commandAt? p = some c ∧ c.StandsIn q.script ∧ c.kind = .command ∧
      Symbol.ofCommand c = .ok (some S) := by
  obtain ⟨-, -, h⟩ := Result.bind_eq_ok.mp h
  obtain ⟨s, infer, cancelled⟩ := q
  obtain rfl : cancelled = false := (first_eq_ok_iff.mp h).1
  rw [first_commandIn hs, Except.ok.injEq, Option.bind_eq_some_iff] at h
  obtain ⟨c, hc, hS⟩ := h
  obtain ⟨hmem, ⟨hk, -⟩, -⟩ := Script.of_commandAt? hc
  have hin := Script.standsIn_of_mem_elementsOn hs hmem
  exact ⟨c, hc, hin, hk, (hin.ofCommand_eq hk).trans (congrArg _ hS)⟩

/-! ## Lines -/

/-- The command at a position starts on the line of the position, at a column not behind it, if
the commands of the pipelines that start on the line all do so too. -/
theorem commandUnder_on_line (hs : q.script.WellTyped)
    (hlayout : ∀ c ∈ q.script.elementsOn p.line, c.kind = .command →
      c.extent.start.line = p.line)
    (h : q.commandUnder p = .ok (some S)) :
    ∃ c ∈ q.script.nodes, q.script.commandAt? p = some c ∧ c.kind = .command ∧
      Symbol.ofCommand c = .ok (some S) ∧ c.extent.start.line = p.line ∧
      c.extent.start.column ≤ p.column := by
  obtain ⟨c, hc, hin, hk, hS⟩ := exists_of_commandUnder hs h
  obtain ⟨hmem, ⟨-, hcolumn, -⟩, -⟩ := Script.of_commandAt? hc
  exact ⟨c, hin.mem_nodes, hc, hk, hS, hlayout c hmem hk, hcolumn⟩

theorem commandUnder_on_line_greeter :
    ∃ S c, (Query.on Greeter.script).commandUnder ⟨1, 40⟩ = .ok (some S) ∧
      c ∈ Greeter.script.nodes ∧ Symbol.ofCommand c = .ok (some S) ∧
      c.extent.start.line = 1 := by
  have hrun : ((Query.on Greeter.script).commandUnder ⟨1, 40⟩).toOption.any Option.isSome =
      true := by decide +kernel
  have hlayout : ∀ c ∈ Greeter.script.elementsOn 1, c.kind = .command →
      c.extent.start.line = 1 := by decide +kernel
  obtain ⟨found, h, hsome⟩ := Result.exists_of_toOption_any hrun
  obtain ⟨S, rfl⟩ := Option.isSome_iff_exists.mp hsome
  obtain ⟨c, hc, -, -, hS, hline, -⟩ :=
    commandUnder_on_line Greeter.wellTyped_script hlayout h
  exact ⟨S, c, h, hc, hS, hline⟩

end Query

/-! ## A pipeline spread over two lines -/

namespace BrokenPipeline

/-- The text of a script that goes on with a pipeline in the second line. -/
def source : String := "Get-A |\n  Get-B"

/-- The script of the pipeline. -/
def script : Script := .ofTwoCommands source

/-- At the end of the first line the command of the second one is found, as it would reach over
the column if it stood on the first line. -/
theorem command_of_next_line :
    script.WellTyped ∧
      ∃ S c, (Query.on script).commandUnder ⟨1, 8⟩ = .ok (some S) ∧
        script.commandAt? ⟨1, 8⟩ = some c ∧ Symbol.ofCommand c = .ok (some S) ∧
        c.extent.start = ⟨2, 3⟩ := by
  have htyped : script.WellTyped := by decide +kernel
  have hrun : ((Query.on script).commandUnder ⟨1, 8⟩).toOption.any Option.isSome = true := by
    decide +kernel
  have hplace : (script.commandAt? ⟨1, 8⟩).any (fun c => c.extent.start == ⟨2, 3⟩) = true := by
    decide +kernel
  obtain ⟨found, h, hsome⟩ := Result.exists_of_toOption_any hrun
  obtain ⟨S, rfl⟩ := Option.isSome_iff_exists.mp hsome
  obtain ⟨c, hc, -, -, hS⟩ := Query.exists_of_commandUnder htyped h
  obtain ⟨c', hc', hstart⟩ := (Option.any_eq_true _ _).mp hplace
  obtain rfl : c = c' := Option.some_inj.mp (hc.symm.trans hc')
  exact ⟨htyped, S, c, h, hc, hS, eq_of_beq hstart⟩

end BrokenPipeline

end ScriptNavigation
