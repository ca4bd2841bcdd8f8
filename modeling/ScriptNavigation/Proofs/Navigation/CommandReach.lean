/-
# Which positions have a command

A command is found at a position exactly if one of the commands of the pipelines that start on
the line reaches over the column.  A command reaches at least up to its end column, so a cursor
inside a command that ends on the line finds a command.  Of a command that goes on in the next
line only the number of its end column is known to the search, although the whole rest of the
line belongs to it.

Main facts:

* `exists_commandUnder_iff`: the positions that have a command.
* `commandUnder_of_contains`: a cursor inside a command finds a command, if the command ends on
  the line or at a later column.
* `SpreadCommand.no_command_inside`: a command spread over two lines.
-/
import ScriptNavigation.Proofs.Navigation.Totality

namespace ScriptNavigation

open Occurrence

/-- A command reaches at least up to its end column. -/
theorem Query.stop_le_reach (s : Script) (e : Extent String) :
    e.stop.column ≤ Query.reach s e := by
  rw [Query.reach]
  split
  · exact Int.le_refl _
  · exact Int.le_add_of_nonneg_right (Int.natCast_nonneg _)

namespace Occurrence

/-- A command has a symbol if it has an element. -/
theorem isSome_commandSymbol? {c : Occurrence} :
    c.commandSymbol?.isSome = true ↔ c.childrenIn .elements ≠ [] := by
  rw [commandSymbol?, Option.isSome_map, commandName?, List.isSome_head?]

/-- Which elements of a pipeline reach over a column. -/
theorem isSome_commandOver? {s : Script} {column : Int} {c : Occurrence} :
    (c.commandOver? s column).isSome = true ↔
      c.kind = .command ∧ c.childrenIn .elements ≠ [] ∧
        c.extent.start.column ≤ column ∧ column ≤ Query.reach s c.extent := by
  rw [commandOver?]
  split
  · rename_i h
    rw [isSome_commandSymbol?]
    exact ⟨fun hne => ⟨h.1, hne, h.2⟩, fun hc => hc.2.1⟩
  · rename_i h
    exact iff_of_false Bool.false_ne_true fun hc => h ⟨hc.1, hc.2.2⟩

end Occurrence

namespace Script

variable {s : Script} {p : Position} {c : Occurrence}

theorem mem_elementsOn {line : Int} :
    c ∈ s.elementsOn line ↔
      ∃ pipe ∈ s.nodes, pipe.kind = .pipeline ∧ pipe.extent.start.line = line ∧
        c ∈ pipe.childrenIn .elements := by
  simp only [elementsOn, List.mem_flatMap, List.mem_filter, Bool.and_eq_true, beq_iff_eq,
    and_assoc]

/-- There is a command at a position exactly if one of the commands of the pipelines on the line
has an element and reaches over the column. -/
theorem isSome_commandAt? :
    (s.commandAt? p).isSome = true ↔
      ∃ c ∈ s.elementsOn p.line, c.kind = .command ∧ c.childrenIn .elements ≠ [] ∧
        c.extent.start.column ≤ p.column ∧ p.column ≤ Query.reach s c.extent := by
  rw [commandAt?, List.find?_isSome]
  exact exists_congr fun c => and_congr_right fun _ => isSome_commandOver?

end Script

namespace Query

variable {q : Query} {p : Position} {pipe c : Occurrence}

/-- The positions that have a command in a well-typed script. -/
theorem exists_commandUnder_iff (hs : q.script.WellTyped) (hq : q.cancelled = false)
    (hline : 1 ≤ p.line) (hcolumn : 1 ≤ p.column) :
    (∃ S, q.commandUnder p = .ok (some S)) ↔
      ∃ c ∈ q.script.elementsOn p.line, c.kind = .command ∧ c.childrenIn .elements ≠ [] ∧
        c.extent.start.column ≤ p.column ∧ p.column ≤ reach q.script c.extent := by
  obtain ⟨s, infer, cancelled⟩ := q
  dsimp only at hs hq
  subst hq
  rw [commandUnder, requirePosition_eq hline hcolumn, Result.ok_bind, first_commandIn hs,
    ← Script.isSome_commandAt?]
  cases hc : s.commandAt? p with
  | none => simp
  | some c =>
    -- the command that is found has a symbol, as it reaches over the column
    have hover := List.find?_some hc
    rw [(Script.of_commandAt? hc).2.2] at hover
    obtain ⟨S, hS⟩ := Option.isSome_iff_exists.mp hover
    exact ⟨fun _ => rfl, fun _ => ⟨S, congrArg Except.ok hS⟩⟩

/-- A cursor inside a command finds a command.  The command has to end on the line of the cursor,
or not to end at an earlier column of a later line. -/
theorem commandUnder_of_contains (hs : q.script.WellTyped) (hq : q.cancelled = false)
    (hline : 1 ≤ p.line) (hcolumn : 1 ≤ p.column)
    (hpipe : pipe ∈ q.script.nodes) (hkind : pipe.kind = .pipeline)
    (hstart : pipe.extent.start.line = p.line)
    (hc : c ∈ pipe.childrenIn .elements) (hcommand : c.kind = .command)
    (hname : c.childrenIn .elements ≠ []) (hinside : c.extent.contains p = true)
    (hend : c.extent.stop.line = p.line ∨ p.column ≤ c.extent.stop.column) :
    ∃ S, q.commandUnder p = .ok (some S) := by
  obtain ⟨-, hfrom, hto⟩ := Extent.contains_iff.mp hinside
  -- the end column bounds the cursor also if it is a column of another line
  have hstop : p.column ≤ c.extent.stop.column := by
    rcases hend with hend | hend
    · omega
    · exact hend
  have helement : c ∈ q.script.elementsOn p.line :=
    Script.mem_elementsOn.mpr ⟨pipe, hpipe, hkind, hstart, hc⟩
  exact (exists_commandUnder_iff hs hq hline hcolumn).mpr
    ⟨c, helement, hcommand, hname, hfrom, Int.le_trans hstop (stop_le_reach q.script c.extent)⟩

theorem commandUnder_of_contains_greeter :
    (∃ pipe ∈ Greeter.script.nodes, ∃ c ∈ pipe.childrenIn .elements, c.kind = .command ∧
      c.extent.contains ⟨1, 40⟩ = true) ∧
      ∃ S, (Query.on Greeter.script).commandUnder ⟨1, 40⟩ = .ok (some S) := by
  have hplace : ∃ pipe ∈ Greeter.script.nodes, pipe.kind = .pipeline ∧
      pipe.extent.start.line = 1 ∧ ∃ c ∈ pipe.childrenIn .elements, c.kind = .command ∧
        c.childrenIn .elements ≠ [] ∧ c.extent.contains ⟨1, 40⟩ = true ∧
        c.extent.stop.line = 1 := by decide +kernel
  obtain ⟨pipe, hpipe, hkind, hstart, c, hc, hcommand, hname, hinside, hend⟩ := hplace
  exact ⟨⟨pipe, hpipe, c, hc, hcommand, hinside⟩,
    commandUnder_of_contains Greeter.wellTyped_script rfl (by decide) (by decide) hpipe hkind
      hstart hc hcommand hname hinside (.inl hend)⟩

end Query

/-! ## A command spread over two lines -/

namespace SpreadCommand

/-- The text of a script with a block as the argument of a command. -/
def source : String := "Get-A \x7b\n\x7d"

/-- The command with its argument. -/
def command : Node :=
  .inSource source .command 0 9
    [(.invocationOperator, .str ""), (.elements, .array
      [.node (.word (.inSource source 0 5) "Get-A"),
        .node (.inSource source .scriptBlockExpression 6 9 [(.scriptBlock, .null)])])]

/-- The script of the command. -/
def script : Script := .inSource source [.pipeline (.inSource source 0 9) [command]]

/-- At the brace in the first line no command is found, as the command ends at the second column
of the next line. -/
theorem no_command_inside :
    script.WellTyped ∧
      (∃ pipe ∈ script.nodes, pipe.kind = .pipeline ∧ pipe.extent.start.line = 1 ∧
        ∃ c ∈ pipe.childrenIn .elements, c.kind = .command ∧ c.childrenIn .elements ≠ [] ∧
          c.extent.start.line = 1 ∧ c.extent.contains ⟨1, 7⟩ = true) ∧
      (Query.on script).commandUnder ⟨1, 7⟩ = .ok none := by
  have hrun : ((Query.on script).commandUnder ⟨1, 7⟩).toOption.any Option.isNone = true := by
    decide +kernel
  obtain ⟨found, h, hnone⟩ := Result.exists_of_toOption_any hrun
  rw [Option.isNone_iff_eq_none.mp hnone] at h
  exact ⟨by decide +kernel, by decide +kernel, h⟩

end SpreadCommand

end ScriptNavigation
