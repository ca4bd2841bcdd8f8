/-
# The outline as a tree

In the outline the members of a class stand under the class.  A member is put under the
last class before it that has the name of its owner, up to case; a member without such a
class stays at the top, like every symbol that is no member.

Main facts:

* `attach_isSome_iff`: a member finds a place exactly when some class has its owner's name.
-/
import ScriptNavigation.Report.Record

namespace ScriptNavigation

/-- A symbol at the top of an outline with the members under it. -/
structure OutlineGroup where
  head : Symbol
  /-- The folded name of the class that the head is, if it is one. -/
  className : Option String
  members : List Symbol

namespace OutlineGroup

/-- Puts a member under the last class with the folded name of its owner, if there is one. -/
def attach (owner : String) (m : Symbol) : List OutlineGroup → Option (List OutlineGroup)
  | [] => none
  | g :: gs =>
    match attach owner m gs with
    | some gs' => some (g :: gs')
    | none =>
      if g.className = some owner then some ({ g with members := g.members ++ [m] } :: gs)
      else none

/-- The group of a symbol that stands at the top. -/
def ofHead (s : Symbol) : Result OutlineGroup := do
  if s.kind = .classType then return ⟨s, some (← s.name.folded), []⟩
  return ⟨s, none, []⟩

/-- The folded name of the owner of a symbol, if the symbol is a member of a class. -/
def ownerName? (s : Symbol) : Result (Option String) :=
  match s.kind.isMember, s.member with
  | true, some m => m.owner.folded.map some
  | _, _ => .ok none

/-- Adds a symbol to an outline: under its class, or else at the end. -/
def add (gs : List OutlineGroup) (s : Symbol) : Result (List OutlineGroup) := do
  match (← ownerName? s).bind fun owner => attach owner s gs with
  | some gs' => return gs'
  | none => return gs ++ [← ofHead s]

/-- The outline of some symbols. -/
def ofSymbols (symbols : List Symbol) : Result (List OutlineGroup) :=
  symbols.foldlM add []

/-- The record of a group: that of its head, which lists its members if it is a class. -/
def record (g : OutlineGroup) : Datum :=
  .object
    (g.head.recordMembers ++
      (if g.head.kind = .classType then [("children", .array (g.members.map Symbol.record))]
        else []))

/-- A member finds a place exactly when some class has its owner's name. -/
theorem attach_isSome_iff (owner : String) (m : Symbol) (gs : List OutlineGroup) :
    (attach owner m gs).isSome ↔ ∃ g ∈ gs, g.className = some owner := by
  induction gs with
  | nil => simp [attach]
  | cons g gs ih =>
    rw [attach]
    cases h : attach owner m gs with
    | some gs' =>
      rw [h] at ih
      obtain ⟨g', hmem, hname⟩ := ih.mp rfl
      simp only [Option.isSome_some, true_iff]
      exact ⟨g', List.mem_cons_of_mem g hmem, hname⟩
    | none =>
      rw [h] at ih
      have hnone : ¬ ∃ g ∈ gs, g.className = some owner := fun hex => by simpa using ih.mpr hex
      by_cases hg : g.className = some owner
      · simp [hg]
      · simpa [hg] using hnone

end OutlineGroup

/-- The record of the outline of some symbols. -/
def recordOfOutline (symbols : List Symbol) : Result Datum := do
  return .array ((← OutlineGroup.ofSymbols symbols).map OutlineGroup.record)

end ScriptNavigation
