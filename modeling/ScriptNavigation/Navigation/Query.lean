/-
# Queries

A query asks something of a script: which symbol stands at a position, where a symbol is
declared, where it is used.  All queries share the script, a way to guess types, and
whether they have been cancelled.  A query walks over the tree with handlers for the kinds
of nodes that matter to it.

Main facts:

* `hit_eq_some_iff`, `hit_eq_none_iff`: what contains a position.
-/
import ScriptNavigation.Symbol.Declared
import ScriptNavigation.Symbol.Used

namespace ScriptNavigation

/-- What a query works with. -/
structure Query where
  script : Script
  infer : Inferer
  cancelled : Bool := false

/-- What a query does at a node: an answer that does not depend on earlier nodes. -/
abbrev Probe (α : Type) := Occurrence → Result α

/-- The probes of a query by the kind of node that each one is for. -/
abbrev Probes (α : Type) := List (NodeKind × Probe α)

namespace Query

/-- A query that guesses types from the syntax of the script. -/
def on (s : Script) : Query := ⟨s, Inferer.syntactic s.evidence, false⟩

/-- A probe as a handler of a walk without a state. -/
def handler {α : Type} (probe : Probe α) : Handler Unit α := fun o s => (probe o, s)

/-- The first answer of the probes in document order. -/
def first {α : Type} (q : Query) (probes : Probes (Option α)) : Result (Option α) :=
  (Walk.first (fun _ => q.cancelled) (probes.map fun p => (p.1, handler p.2))
    (some q.script.top) ()).1

/-- All answers of the probes in document order. -/
def gather {α : Type} (q : Query) (probes : Probes (List α)) : Result (List α) :=
  (Walk.gather (fun _ => q.cancelled) (probes.map fun p => (p.1, handler p.2))
    (some q.script.top) ()).1

/-- Refuses a position before the first line or column. -/
def requirePosition (p : Position) : Result Unit :=
  if p.line < 1 ∨ p.column < 1 then .error (.rejected (.positionOutside p.line p.column))
  else .ok ()

/-! ## Probes for symbols -/

/-- The symbol if it contains a position. -/
def hit (p : Position) (s : Symbol) : Option Symbol :=
  if s.extent.contains p then some s else none

/-- A probe that builds a symbol of every node. -/
def always (build : Occurrence → Result Symbol) : Probe (Option Symbol) := fun o =>
  (build o).map some

/-! ## Laws -/

/-- What is left of a test on a position is the symbol that was tested, and it contains it. -/
theorem hit_eq_some_iff {p : Position} {C S : Symbol} :
    hit p C = some S ↔ C = S ∧ S.extent.contains p = true := by
  unfold hit
  split
  · rename_i h
    rw [Option.some_inj]
    exact ⟨fun heq => ⟨heq, heq ▸ h⟩, fun heq => heq.1⟩
  · rename_i h
    constructor
    · intro hnone
      cases hnone
    · rintro ⟨rfl, hcontains⟩
      exact absurd hcontains h

theorem hit_eq_none_iff {p : Position} {C : Symbol} :
    hit p C = none ↔ C.extent.contains p = false := by
  simp [hit]

end Query

end ScriptNavigation
