/-
# Guesses in a script that is continued

A script is continued when another one mirrors it and has further nodes, all behind the
twins in document order and none starting before a node of the script.  If no declaration of
a member is among the further nodes, the types of the nodes stay what they are: a variable
gets its type from an assignment that starts before it, and the search for that assignment
ends at the latest where the further ones begin.

Main facts:

* `Continues`: a script mirrors another one and has further nodes behind it.
* `Continues.mem_added_of_child`: what is below a further node is a further node.
* `Continues.decidingIn?_assignments`: assignments among the further nodes decide nothing.
* `Continues.scriptGuess`, `Continues.inferAlike`: the types of the nodes stay the same.
-/
import ScriptNavigation.Proofs.Mirror.Guess

namespace ScriptNavigation

/-- A script mirrors another one and has further nodes behind it: they do not start before
the nodes of the other one, and they declare no members. -/
structure Continues (s s' : Script) (twin : Occurrence → Occurrence) (added : List Occurrence) :
    Prop extends Mirrors s s' twin where
  wellTyped : s.WellTyped
  nodes : s'.nodes = s.nodes.map twin ++ added
  depth : ∀ {o}, o.StandsIn s → (twin o).ancestors.length = o.ancestors.length
  noMembers : ∀ b ∈ added, b.kind ≠ .functionMember ∧ b.kind ≠ .propertyMember
  behind : ∀ b ∈ added, ∀ p ∈ s.nodes, p.extent.start ≤ b.extent.start

namespace Continues

open Occurrence

variable {s s' : Script} {twin : Occurrence → Occurrence} {added : List Occurrence}
variable (h : Continues s s' twin added) {o b c : Occurrence}
include h

/-! ## Numbers -/

theorem standsIn_of_mem_nodes (ho : o ∈ s.nodes) : o.StandsIn s := .of_mem_nodes h.wellTyped ho

/-- A script that continues a well-typed one is well typed. -/
theorem wellTyped_continued : s'.WellTyped :=
  (h.standsIn ⟨h.wellTyped, s.top.self_mem_preorder⟩).wellTyped

/-- The further nodes stand in the continued script. -/
theorem standsIn_added (hb : b ∈ added) : b.StandsIn s' := by
  refine .of_mem_nodes h.wellTyped_continued ?_
  rw [h.nodes]
  exact List.mem_append_right _ hb

/-- The twins take up the first numbers and the further nodes those behind them. -/
theorem map_index :
    (s.nodes.map twin).map index = List.range' 0 s.nodes.length ∧
      added.map index = List.range' s.nodes.length added.length := by
  have hnumbers : s'.nodes.map index = List.range' 0 s'.nodes.length := by
    have hall := map_index_preorder s'.top
    rw [← s'.nodes_eq] at hall
    have hlength := congrArg List.length hall
    rw [List.length_map, List.length_range'] at hlength
    rw [hall, hlength]
    rfl
  rw [h.nodes, List.map_append, List.length_append, List.length_map, ← List.range'_append_1,
    Nat.zero_add] at hnumbers
  exact List.append_inj hnumbers (by rw [List.length_map, List.length_map, List.length_range'])

theorem index_twin_lt (ho : o.StandsIn s) : (twin o).index < s.nodes.length := by
  have hmem : (twin o).index ∈ (s.nodes.map twin).map index :=
    List.mem_map_of_mem (List.mem_map_of_mem ho.mem_nodes)
  rw [h.map_index.1, List.mem_range'_1] at hmem
  omega

theorem length_le_index (hb : b ∈ added) : s.nodes.length ≤ b.index := by
  have hmem : b.index ∈ added.map index := List.mem_map_of_mem hb
  rw [h.map_index.2, List.mem_range'_1] at hmem
  exact hmem.1

/-- A node with a number behind the twins is a further one. -/
theorem mem_added_of_length_le (hc : c.StandsIn s') (hle : s.nodes.length ≤ c.index) :
    c ∈ added := by
  have hmem := hc.mem_nodes
  rw [h.nodes, List.mem_append] at hmem
  rcases hmem with htwin | hadded
  · obtain ⟨p, hp, rfl⟩ := List.mem_map.mp htwin
    have hlt : (twin p).index < s.nodes.length := by
      have hmem : (twin p).index ∈ (s.nodes.map twin).map index := List.mem_map_of_mem htwin
      rw [h.map_index.1, List.mem_range'_1] at hmem
      omega
    omega
  · exact hadded

/-- What is below a further node is a further node. -/
theorem mem_added_of_child (hb : b ∈ added) (hc : c ∈ b.children) : c ∈ added := by
  have hle := h.length_le_index hb
  have hlt := index_lt_of_mem_children hc
  exact h.mem_added_of_length_le ((h.standsIn_added hb).child hc) (by omega)

/-! ## Evidence -/

/-- What is selected by its kind among the twins are the twins of what is selected. -/
theorem filter_twins (test : NodeKind → Bool) :
    (s.nodes.map twin).filter (fun o => test o.kind) =
      (s.nodes.filter fun o => test o.kind).map twin := by
  rw [List.filter_map]
  congr 1
  apply List.filter_congr
  intro o ho
  rw [Function.comp_apply, h.kind (h.standsIn_of_mem_nodes ho)]

/-- The declarations of members are the twins of those of the script. -/
theorem members_eq : s'.evidence.members = s.evidence.members.map twin := by
  have hnone : added.filter (fun o => o.kind == .functionMember || o.kind == .propertyMember) =
      [] := by
    rw [List.filter_eq_nil_iff]
    intro b hb
    obtain ⟨hmethod, hproperty⟩ := h.noMembers b hb
    rw [Bool.or_eq_true, beq_iff_eq, beq_iff_eq]
    exact fun hk => hk.elim hmethod hproperty
  have htwins := h.filter_twins fun k => k == .functionMember || k == .propertyMember
  simp only [Script.evidence, h.nodes, List.filter_append, hnone, List.append_nil, htwins]

/-- The assignments are the twins of those of the script, and further ones. -/
theorem assignments_eq : s'.evidence.assignments =
    s.evidence.assignments.map twin ++ added.filter fun o => o.kind == .assignment := by
  have htwins := h.filter_twins fun k => k == .assignment
  simp only [Script.evidence, h.nodes, List.filter_append, htwins]

/-! ## Assignments -/

omit h in
/-- Assignments to other variables that neither are around a variable nor start before it do
not decide its type. -/
theorem decidingIn?_append {name : String} {bs : List Occurrence}
    (hbehind : ∀ b ∈ bs, ∀ t, b.target? = some t → t.index ≠ o.index ∧
      (o.ancestors.any fun a => a.index == b.index) = false ∧ o.extent.start ≤ b.leftStart)
    (as : List Occurrence) (latest : Option Occurrence) :
    o.decidingIn? name (as ++ bs) latest = o.decidingIn? name as latest := by
  induction as generalizing latest with
  | nil =>
    -- whichever further assignment is to the same name, the search ends with it
    rw [List.nil_append, Occurrence.decidingIn?]
    induction bs with
    | nil => rfl
    | cons b bs ih =>
      have ih := ih fun d hd => hbehind d (List.mem_cons_of_mem b hd)
      rw [Occurrence.decidingIn?]
      cases ht : b.target? with
      | none => exact ih
      | some t =>
        obtain ⟨hindex, haround, hstart⟩ := hbehind b List.mem_cons_self t ht
        dsimp only
        rw [if_neg hindex, haround, if_neg Bool.false_ne_true, if_pos hstart, ih, ite_self]
  | cons a as ih =>
    rw [List.cons_append, Occurrence.decidingIn?, Occurrence.decidingIn?]
    cases a.target? with
    | none => exact ih latest
    | some t =>
      dsimp only
      rw [ih, ih]

/-- A further assignment does not start before a node of the script. -/
theorem start_le_leftStart (ho : o.StandsIn s) {t : Occurrence} (hb : b ∈ added)
    (ht : b.target? = some t) : o.extent.start ≤ b.leftStart := by
  obtain ⟨left, hleft⟩ := StandsIn.exists_left_of_target? ht
  have hmem := h.mem_added_of_child hb (mem_children_of_childIn? hleft)
  rw [leftStart, hleft, Option.map_some, Option.getD_some]
  exact h.behind left hmem o ho.mem_nodes

/-- The variable that a further assignment assigns to is a further node. -/
theorem mem_added_of_target {t : Occurrence} (hb : b ∈ added) (ht : b.target? = some t) :
    t ∈ added := by
  obtain ⟨left, hleft, hassigned⟩ :=
    Option.bind_eq_some_iff.mp (Option.filter_eq_some_iff.mp ht).1
  have hmem := h.mem_added_of_child hb (mem_children_of_childIn? hleft)
  split at hassigned
  · exact h.mem_added_of_child hmem (mem_children_of_childIn? hassigned)
  · rw [Option.some_inj] at hassigned
    exact hassigned ▸ hmem

/-- The assignment that decides the type of a variable is the same with the further ones. -/
theorem decidingIn?_assignments (name : String) (ho : o.StandsIn s) :
    (twin o).decidingIn? name s'.evidence.assignments none =
      (o.decidingIn? name s.evidence.assignments none).map twin := by
  have has : ∀ a ∈ s.evidence.assignments, a.StandsIn s :=
    fun a ha => (Script.of_mem_assignments ho.wellTyped ha).1
  have htwin := h.index_twin_lt ho
  rw [h.assignments_eq, decidingIn?_append]
  · exact h.decidingIn? name has none ho
  · intro b hb t ht
    have hb := (List.mem_filter.mp hb).1
    have hbindex := h.length_le_index hb
    have htindex := h.length_le_index (h.mem_added_of_target hb ht)
    refine ⟨by omega, ?_, ?_⟩
    · -- what is around a twin has a smaller number than the twin
      rw [List.any_eq_false]
      intro a ha
      have hlt := index_lt_of_mem_ancestors (h.standsIn ho).mem (fun a ha => nomatch ha) a ha
      rw [beq_iff_eq]
      omega
    · rw [h.extent ho]
      exact h.start_le_leftStart ho hb ht

/-! ## Guesses -/

variable {guess guess' : Option Occurrence → String}

/-- Twins get the same type by assignment. -/
theorem assignedTypeOf (hguess : GuessAlike s twin guess' guess) (name : String)
    (ho : o.StandsIn s) :
    s'.evidence.assignedTypeOf guess' (twin o) name = s.evidence.assignedTypeOf guess o name := by
  rw [Evidence.assignedTypeOf, Evidence.assignedTypeOf, h.decidingIn?_assignments name ho]
  cases hd : o.decidingIn? name s.evidence.assignments none with
  | none => rfl
  | some a =>
    have ha := (Script.of_mem_assignments ho.wellTyped (mem_of_decidingIn? hd)).1
    rw [Option.map_some, Option.map_some, Option.map_some, h.assignedTypeBy hguess ha]

/-- Guesses within a budget are the same. -/
theorem guessWithin (budget : Nat) :
    GuessAlike s twin (s'.evidence.guessWithin budget) (s.evidence.guessWithin budget) := by
  induction budget with
  | zero => exact fun _ _ => rfl
  | succ budget ih =>
    intro c hc
    cases c with
    | none => rfl
    | some o =>
      have ho := hc o rfl
      exact h.nodeTypeBy h.members_eq ih (fun name => h.assignedTypeOf ih name ho) ho

/-- The types that the syntax tells are the same. -/
theorem scriptGuess (ho : o.StandsIn s) : s'.guess (twin o) = s.guess o := by
  rw [Script.guess, Script.guess, ← Option.map_some,
    h.guessWithin _ _ fun p hp => Option.some_inj.mp hp ▸ ho]

/-- An inferer of the library names the same types. -/
theorem inferAlike (kind : StandardInferer) :
    InferAlike s twin (kind.inferer s') (kind.inferer s) := by
  intro c hc
  rw [kind.infer_eq s' (twin c) (h.standsIn hc), kind.infer_eq s c hc]
  cases kind with
  | wildcard => rfl
  | syntactic => rw [StandardInferer.guess, StandardInferer.guess, h.scriptGuess hc]

end Continues

end ScriptNavigation
