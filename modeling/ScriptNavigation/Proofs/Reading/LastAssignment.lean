/-
# The assignment that decides the type of a variable

The scan for the type of a variable goes through the assignments to its name in document order.
It takes the one whose target the variable is, passes over those around the variable, remembers
the latest one so far, and ends at the first one that does not start before the variable.  Where
these assignments start one after the other, that is the last assignment before the use, which
is said here without a scan.

Main facts:

* `decidingIn?_filter`: assignments to other names play no part.
* `decidingIn?_before`: where the variable is no target, the scan finds the last one before it.
* `decidingIn?_eq_chosen`: the scan finds the assignment that is chosen.
* `inferFrom_variable`: the type of a variable is the type that the chosen assignment gives.
-/
import ScriptNavigation.Proofs.Reading.Budget

namespace ScriptNavigation

namespace Occurrence

/-! ## Assignments to a name -/

/-- Whether an assignment assigns to a variable of a folded name. -/
def assignsTo (name : String) (a : Occurrence) : Bool :=
  a.target?.any fun t => Text.foldCase (t.textIn .name) == name

/-- Whether an assignment assigns to this very variable. -/
def isAssignedBy (v a : Occurrence) : Bool := a.target?.any fun t => t.index == v.index

/-- Whether a node stands around another one. -/
def isAround (a v : Occurrence) : Bool := v.ancestors.any fun b => b.index == a.index

/-- Whether the left side of an assignment starts before a variable and the assignment is not
around the variable. -/
def isBefore (a v : Occurrence) : Bool :=
  decide (a.leftStart < v.extent.start) && !a.isAround v

end Occurrence

/-- The assignments of a script to a variable of a folded name, in document order. -/
def Script.assignmentsTo (s : Script) (name : String) : List Occurrence :=
  s.evidence.assignments.filter fun a => a.assignsTo name

/-- The assignments to a name start one after the other, and a target that is converted does not
start before its conversion. -/
structure Script.AssignsInOrder (s : Script) (name : String) : Prop where
  increasing : (s.assignmentsTo name).Pairwise fun a b => a.leftStart < b.leftStart
  converted : ∀ a ∈ s.assignmentsTo name, ∀ convert t,
    a.childOf? .left .convertExpression = some convert → a.target? = some t →
      convert.extent.start ≤ t.extent.start

/-- The assignment that is chosen among some for the type of a variable: the one whose target it
is, or else the last one before it. -/
def Occurrence.chosenAmong? (v : Occurrence) (as : List Occurrence) : Option Occurrence :=
  (as.find? v.isAssignedBy).or (as.filter fun a => a.isBefore v).getLast?

namespace Occurrence

variable {s : Script} {v a b : Occurrence} {name : String} {as : List Occurrence}

/-- In a script a node stands around another one if it is among those above it. -/
theorem isAround_iff (hv : v ∈ s.nodes) (ha : a ∈ s.nodes) :
    a.isAround v = true ↔ a ∈ v.ancestors := by
  rw [s.nodes_eq] at hv ha
  unfold isAround
  rw [List.any_eq_true]
  constructor
  · rintro ⟨b, hb, hindex⟩
    rwa [← eq_of_index_eq (mem_preorder_of_ancestor hv hb) ha (beq_iff_eq.mp hindex)]
  · intro h
    exact ⟨a, h, beq_self_eq_true _⟩

/-- An assignment assigns to a variable of a script if that is its target. -/
theorem isAssignedBy_iff (hv : v.StandsIn s) (ha : a.StandsIn s) :
    v.isAssignedBy a = true ↔ a.target? = some v := by
  unfold isAssignedBy
  rw [Option.any_eq_true]
  constructor
  · rintro ⟨t, ht, hindex⟩
    rw [ht, eq_of_index_eq (ha.target ht).1.mem hv.mem (beq_iff_eq.mp hindex)]
  · intro h
    exact ⟨v, h, beq_self_eq_true _⟩

/-! ## The scan -/

/-- Assignments to other names play no part. -/
theorem decidingIn?_filter (v : Occurrence) (name : String) (as : List Occurrence)
    (latest : Option Occurrence) :
    v.decidingIn? name as latest =
      v.decidingIn? name (as.filter fun a => a.assignsTo name) latest := by
  induction as generalizing latest with
  | nil => rfl
  | cons a as ih =>
    rw [decidingIn?, List.filter_cons]
    unfold assignsTo
    cases ht : a.target? with
    | none =>
      rw [Option.any_none, if_neg Bool.false_ne_true]
      exact ih latest
    | some t =>
      rw [Option.any_some]
      dsimp only
      by_cases hname : Text.foldCase (t.textIn .name) = name
      · rw [if_neg (not_not.mpr hname), if_pos (beq_iff_eq.mpr hname), decidingIn?, ht]
        dsimp only
        rw [if_neg (not_not.mpr hname)]
        -- the remaining tests are the same, and so is what follows each of them
        simp only [ih]
        rfl
      · rw [if_pos hname, if_neg (by rwa [beq_iff_eq])]
        exact ih latest

/-- One step of the scan, at an assignment to the name of the variable. -/
theorem decidingIn?_cons (ha : a.assignsTo name = true) (latest : Option Occurrence) :
    v.decidingIn? name (a :: as) latest =
      if v.isAssignedBy a then some a
      else if a.isAround v then v.decidingIn? name as latest
      else if v.extent.start ≤ a.leftStart then latest
      else v.decidingIn? name as (some a) := by
  unfold assignsTo at ha
  obtain ⟨t, ht, hname⟩ := (Option.any_eq_true _ _).mp ha
  rw [decidingIn?, ht]
  simp only [isAssignedBy, isAround, ht, Option.any_some, beq_iff_eq]
  exact if_neg (not_not.mpr (beq_iff_eq.mp hname))

/-- Nothing that starts behind an assignment that does not start before a variable is before the
variable either. -/
theorem filter_isBefore_eq_nil (hstart : v.extent.start ≤ a.leftStart)
    (hlater : ∀ b ∈ as, a.leftStart < b.leftStart) : (as.filter fun b => b.isBefore v) = [] := by
  rw [List.filter_eq_nil_iff]
  intro b hb hbefore
  unfold isBefore at hbefore
  rw [Bool.and_eq_true, decide_eq_true_eq] at hbefore
  have hab := hlater b hb
  rw [Position.lt_def] at hab
  have hbv := hbefore.1
  rw [Position.lt_def] at hbv
  rw [Position.le_def] at hstart
  omega

/-- Where the variable is no target, the scan finds the last assignment before it, and keeps the
latest one so far if there is none. -/
theorem decidingIn?_before (hname : ∀ a ∈ as, a.assignsTo name = true)
    (htarget : ∀ a ∈ as, v.isAssignedBy a = false)
    (hincreasing : as.Pairwise fun a b => a.leftStart < b.leftStart)
    (latest : Option Occurrence) :
    v.decidingIn? name as latest = ((as.filter fun a => a.isBefore v).getLast?).or latest := by
  induction as generalizing latest with
  | nil => rfl
  | cons a as ih =>
    obtain ⟨hfirst, hrest⟩ := List.pairwise_cons.mp hincreasing
    have ih := ih (fun b hb => hname b (List.mem_cons_of_mem a hb))
      (fun b hb => htarget b (List.mem_cons_of_mem a hb)) hrest
    rw [decidingIn?_cons (hname a List.mem_cons_self), htarget a List.mem_cons_self,
      if_neg Bool.false_ne_true, List.filter_cons]
    cases haround : a.isAround v with
    | true =>
      -- an assignment around the variable is passed over
      have hnot : a.isBefore v = false := by
        unfold isBefore
        rw [haround, Bool.not_true, Bool.and_false]
      rw [if_pos rfl, hnot, if_neg Bool.false_ne_true]
      exact ih latest
    | false =>
      rw [if_neg Bool.false_ne_true]
      by_cases hstart : v.extent.start ≤ a.leftStart
      · -- the scan ends here, and nothing that follows is before the variable
        have hnot : a.isBefore v = false := by
          unfold isBefore
          rw [decide_eq_false (Position.not_lt.mpr hstart), Bool.false_and]
        rw [if_pos hstart, hnot, if_neg Bool.false_ne_true, filter_isBefore_eq_nil hstart hfirst]
        rfl
      · have hbefore : a.isBefore v = true := by
          unfold isBefore
          have hlt : a.leftStart < v.extent.start := Position.not_le.mp hstart
          rw [decide_eq_true hlt, haround]
          rfl
        rw [if_neg hstart, if_pos hbefore, ih, List.getLast?_cons]
        cases (as.filter fun b => b.isBefore v).getLast? <;> rfl

/-- Where the variable is a target, the scan reaches the assignment that it is the target of. -/
theorem decidingIn?_target {before after : List Occurrence}
    (hname : ∀ b ∈ before ++ a :: after, b.assignsTo name = true)
    (htarget : ∀ b ∈ before, v.isAssignedBy b = false) (ha : v.isAssignedBy a = true)
    (hstart : ∀ b ∈ before, b.leftStart < v.extent.start) (latest : Option Occurrence) :
    v.decidingIn? name (before ++ a :: after) latest = some a := by
  induction before generalizing latest with
  | nil =>
    rw [List.nil_append, decidingIn?_cons (hname a List.mem_cons_self), if_pos ha]
  | cons b before ih =>
    have ih := ih (fun c hc => hname c (List.mem_cons_of_mem b hc))
      (fun c hc => htarget c (List.mem_cons_of_mem b hc))
      (fun c hc => hstart c (List.mem_cons_of_mem b hc))
    have hb := Position.not_le.mpr (hstart b List.mem_cons_self)
    rw [List.cons_append, decidingIn?_cons (hname b List.mem_cons_self),
      htarget b List.mem_cons_self, if_neg Bool.false_ne_true, if_neg hb, ih, ih, ite_self]

/-! ## The assignment that is chosen -/

theorem mem_of_chosenAmong? (h : v.chosenAmong? as = some a) : a ∈ as := by
  unfold chosenAmong? at h
  rcases Option.or_eq_some_iff.mp h with hfound | ⟨-, hlast⟩
  · exact List.mem_of_find?_eq_some hfound
  · exact (List.mem_filter.mp (List.mem_of_getLast? hlast)).1

/-- The left side of an assignment to a variable starts no later than the variable. -/
theorem leftStart_le_target (horder : s.AssignsInOrder name) (ha : a ∈ s.assignmentsTo name)
    (ht : a.target? = some v) : a.leftStart ≤ v.extent.start := by
  obtain ⟨left, hleft⟩ := StandsIn.exists_left_of_target? ht
  have hstart : a.leftStart = left.extent.start := by
    rw [leftStart, hleft, Option.map_some, Option.getD_some]
  rw [hstart]
  by_cases hconvert : left.kind = .convertExpression
  · exact horder.converted a ha left v (childOf?_eq_some.mpr ⟨hleft, hconvert⟩) ht
  · have hassigned := (Option.filter_eq_some_iff.mp ht).1
    rw [assigned?, hleft, Option.bind_some, if_neg hconvert, Option.some_inj] at hassigned
    rw [hassigned]
    exact Position.le_refl _

/-- The scan finds the assignment that is chosen. -/
theorem decidingIn?_eq_chosen (horder : s.AssignsInOrder name) (hv : v.StandsIn s) :
    v.decidingIn? name s.evidence.assignments none = v.chosenAmong? (s.assignmentsTo name) := by
  have hname : ∀ a ∈ s.assignmentsTo name, a.assignsTo name = true :=
    fun a ha => (List.mem_filter.mp ha).2
  rw [decidingIn?_filter, chosenAmong?]
  change v.decidingIn? name (s.assignmentsTo name) none = _
  cases hfound : (s.assignmentsTo name).find? v.isAssignedBy with
  | none =>
    have htarget : ∀ a ∈ s.assignmentsTo name, v.isAssignedBy a = false :=
      fun a ha => Bool.not_eq_true _ ▸ List.find?_eq_none.mp hfound a ha
    rw [decidingIn?_before hname htarget horder.increasing, Option.none_or, Option.or_none]
  | some a =>
    obtain ⟨hassigned, before, after, hsplit, hbefore⟩ := List.find?_eq_some_iff_append.mp hfound
    have ha : a ∈ s.assignmentsTo name := List.mem_of_find?_eq_some hfound
    have hain := (Script.of_mem_assignments hv.wellTyped (List.mem_filter.mp ha).1).1
    have hle := leftStart_le_target horder ha ((isAssignedBy_iff hv hain).mp hassigned)
    have hincreasing := horder.increasing
    rw [hsplit] at hname hincreasing ⊢
    rw [Option.some_or]
    refine decidingIn?_target hname (fun b hb => ?_) hassigned (fun b hb => ?_) none
    · simpa using hbefore b hb
    · have hlt := (List.pairwise_append.mp hincreasing).2.2 b hb a List.mem_cons_self
      rw [Position.lt_def] at hlt ⊢
      rw [Position.le_def] at hle
      omega

end Occurrence

namespace Evidence

open Occurrence

variable {s : Script} {v : Occurrence}

/-- In a well-typed script, take a variable that is not `this` and that no parameter of the
innermost function or method around it is named like, and let the assignments to its name start
one after the other.  Within the limit its type is the wildcard type if no assignment is chosen;
it is the type of the conversion if the chosen assignment converts; and else it is the type of
the right side of that assignment, one level deeper. -/
theorem inferFrom_variable {depth : Nat} (hs : s.WellTyped) (hv : v ∈ s.nodes)
    (hk : v.kind = .variableExpression) (hthis : Text.foldCase (v.textIn .name) ≠ "this")
    (hparameter : ∀ c, v.callableAround? = some c → ∀ p ∈ c.parametersOf,
      p.hasFoldedName (Text.foldCase (v.textIn .name)) = false)
    (horder : s.AssignsInOrder (Text.foldCase (v.textIn .name))) (hdepth : depth ≤ 8) :
    s.evidence.inferFrom depth (.node v) =
      match v.chosenAmong? (s.assignmentsTo (Text.foldCase (v.textIn .name))) with
      | none => .ok wildcardType
      | some a =>
        match a.childOf? .left .convertExpression with
        | some convert => .ok (.str (convert.constraintIn .typeConstraint "object"))
        | none => a.field .right >>= s.evidence.inferFrom (depth + 1) := by
  have hin := StandsIn.of_mem_nodes hs hv
  have hbudget : budget - depth = budget - (depth + 1) + 1 := by
    unfold budget
    omega
  have hnone : (v.callableAround?.bind fun c =>
      parameterTypeIn? (Text.foldCase (v.textIn .name)) c.parametersOf) = none := by
    cases hc : v.callableAround? with
    | none => rfl
    | some c =>
      rw [Option.bind_some, parameterTypeIn?, Option.map_eq_none_iff, List.find?_eq_none]
      intro p hp
      rw [hparameter c hc p hp]
      exact Bool.false_ne_true
  rw [inferFrom_eq hin, hbudget, guessWithin, nodeTypeBy, hk]
  dsimp only
  rw [variableTypeBy, if_neg hthis, hnone, Option.getD_none, assignedTypeOf,
    decidingIn?_eq_chosen horder hin]
  cases hchosen : v.chosenAmong? (s.assignmentsTo (Text.foldCase (v.textIn .name))) with
  | none => rfl
  | some a =>
    have ha := (List.mem_filter.mp (mem_of_chosenAmong? hchosen)).1
    obtain ⟨hain, hak⟩ := Script.of_mem_assignments hs ha
    rw [Option.map_some, Option.getD_some, assignedTypeBy]
    dsimp only
    cases a.childOf? .left .convertExpression with
    | some convert => rfl
    | none =>
      dsimp only
      rw [hain.field_child hak rfl, Result.ok_bind]
      exact (inferWithin_eq s _ (a.childIn? .right) fun _ hc => hain.childIn hc).symm

end Evidence

/-! ## A small script that reassigns a variable -/

namespace Reassigned

/-- The text of the script. -/
def source : String := "$x = 'a'; $X = ($x)"

/-- A use of the variable. -/
def use (offset : Nat) (text name : String) : Value Node :=
  .node (.variableUse (.inLine offset text) name)

/-- The assignment of a string. -/
def first : Node :=
  .inLine .assignment 0 "$x = 'a'"
    [(.left, use 0 "$x" "x"), (.operator, .str "="),
      (.right, .node (.inLine .stringConstant 5 "'a'"
        [(.value, .str "a"), (.stringKind, .str "SingleQuoted")]))]

/-- The assignment of the variable to itself. -/
def second : Node :=
  .inLine .assignment 10 "$X = ($x)"
    [(.left, use 10 "$X" "X"), (.operator, .str "="),
      (.right, .node (.inLine .parenExpression 15 "($x)" [(.pipeline, use 16 "$x" "x")]))]

/-- The script of the two assignments. -/
def script : Script := .inLine source [first, second]

/-- The script is well typed. -/
theorem wellTyped_script : script.WellTyped := by decide +kernel

/-- The two assignments stand in order. -/
theorem assignsInOrder_script : script.AssignsInOrder "x" where
  increasing := by decide +kernel
  converted := by
    have h : ∀ a ∈ script.assignmentsTo "x", a.childOf? .left .convertExpression = none := by
      decide +kernel
    intro a ha convert t hconvert
    rw [h a ha] at hconvert
    cases hconvert

end Reassigned

/-- The variable on the right side of the second assignment has the type of the string, since
the assignment around it is passed over. -/
theorem Evidence.inferFrom_variable_reassigned :
    ∃ v ∈ Reassigned.script.nodes, v.index = 8 ∧
      (v.chosenAmong? (Reassigned.script.assignmentsTo "x")).map (fun a => a.index) = some 2 ∧
      Reassigned.script.evidence.inferFrom 0 (.node v) = .ok (.str "string") := by
  have hv : ∃ v ∈ Reassigned.script.nodes, v.index = 8 ∧ v.kind = .variableExpression ∧
      Text.foldCase (v.textIn .name) = "x" ∧ v.callableAround?.isNone = true ∧
      (v.chosenAmong? (Reassigned.script.assignmentsTo "x")).any (fun a => a.index == 2 &&
        (a.childOf? .left .convertExpression).isNone &&
        Reassigned.script.evidence.guessWithin 8 (a.childIn? .right) == "string") = true := by
    decide +kernel
  obtain ⟨v, hv, hindex, hk, hx, haround, hany⟩ := hv
  obtain ⟨a, hchosen, ha⟩ := (Option.any_eq_true _ _).mp hany
  rw [Bool.and_eq_true, Bool.and_eq_true, beq_iff_eq, beq_iff_eq, Option.isNone_iff_eq_none] at ha
  obtain ⟨⟨hfirst, hconvert⟩, htype⟩ := ha
  refine ⟨v, hv, hindex, by rw [hchosen, Option.map_some, hfirst], ?_⟩
  have hassigned := (List.mem_filter.mp (Occurrence.mem_of_chosenAmong? hchosen)).1
  obtain ⟨hain, hak⟩ := Script.of_mem_assignments Reassigned.wellTyped_script hassigned
  rw [Evidence.inferFrom_variable Reassigned.wellTyped_script hv hk (by rw [hx]; decide)
    (fun c hc => absurd hc (by rw [Option.isNone_iff_eq_none.mp haround]; exact nofun))
    (by rw [hx]; exact Reassigned.assignsInOrder_script) (by decide), hx, hchosen]
  dsimp only
  rw [hconvert]
  dsimp only
  rw [hain.field_child hak rfl, Result.ok_bind, ← htype]
  exact inferWithin_eq Reassigned.script 8 (a.childIn? .right) fun _ hc => hain.childIn hc

end ScriptNavigation
