/-
# Guesses with more steps

The type that an inference names for a node is the type of a part of the node, or that of a
member that the type of the receiver declares, or it does not depend on any part.  So if the
types of the parts are known, the type of the node does not change when more becomes known of
other nodes; in particular it does not change with a larger budget.

An inference that starts at a depth has the steps that are left up to the limit.  So one that
starts deeper may end in the wildcard type, but it names no other type.

Main facts:

* `KnowsMore.nodeTypeBy`: one step of an inference keeps the types that are known.
* `guessWithin_succ`: a larger budget keeps the types that are known.
* `inferFrom_deeper`: starting deeper only loses what is known.
-/
import ScriptNavigation.Proofs.Reading.Guess

namespace ScriptNavigation

namespace Evidence

/-- A guess knows the types that another one knows, and names them alike. -/
def KnowsMore (guess guess' : Option Occurrence → String) : Prop :=
  ∀ c, isWildcardName (guess c) = false → guess' c = guess c

namespace KnowsMore

variable {guess guess' : Option Occurrence → String} {e : Evidence} {o a : Occurrence}

theorem assignedTypeBy (h : KnowsMore guess guess')
    (hknown : isWildcardName (a.assignedTypeBy guess) = false) :
    a.assignedTypeBy guess' = a.assignedTypeBy guess := by
  unfold Occurrence.assignedTypeBy at hknown ⊢
  cases hleft : a.childOf? .left .convertExpression with
  | some convert => rfl
  | none =>
    rw [hleft] at hknown
    exact h _ hknown

theorem assignedTypeOf (h : KnowsMore guess guess') {name : String}
    (hknown : isWildcardName (e.assignedTypeOf guess o name) = false) :
    e.assignedTypeOf guess' o name = e.assignedTypeOf guess o name := by
  rw [Evidence.assignedTypeOf] at hknown
  rw [Evidence.assignedTypeOf, Evidence.assignedTypeOf]
  cases hd : o.decidingIn? name e.assignments none with
  | none => rfl
  | some a =>
    rw [hd] at hknown
    exact h.assignedTypeBy hknown

theorem variableTypeBy (h : KnowsMore guess guess')
    (hknown : isWildcardName (e.variableTypeBy guess o) = false) :
    e.variableTypeBy guess' o = e.variableTypeBy guess o := by
  unfold Evidence.variableTypeBy at hknown ⊢
  dsimp only at hknown ⊢
  split
  · rfl
  · rename_i hthis
    rw [if_neg hthis] at hknown
    cases hparameter : o.callableAround?.bind fun c =>
        Occurrence.parameterTypeIn? (Text.foldCase (o.textIn .name)) c.parametersOf with
    | some type => rfl
    | none =>
      rw [hparameter] at hknown
      exact h.assignedTypeOf hknown

theorem memberTypeBy (h : KnowsMore guess guess')
    (hknown : isWildcardName (e.memberTypeBy guess o) = false) :
    e.memberTypeBy guess' o = e.memberTypeBy guess o := by
  unfold Evidence.memberTypeBy at hknown ⊢
  cases hr : o.receiverType? with
  | some type => rfl
  | none =>
    rw [hr] at hknown
    dsimp only at hknown ⊢
    -- nothing would be known of the member if its owner were not known
    have howner : isWildcardName (guess (o.childIn? .expression)) = false := by
      by_contra hwild
      rw [memberTypeOf, if_pos (Bool.not_eq_false _ ▸ hwild), isWildcardName_object] at hknown
      cases hknown
    rw [h _ howner]

/-- One step of an inference keeps the types that are known. -/
theorem nodeTypeBy (h : KnowsMore guess guess')
    (hknown : isWildcardName (e.nodeTypeBy guess o) = false) :
    e.nodeTypeBy guess' o = e.nodeTypeBy guess o := by
  unfold Evidence.nodeTypeBy at hknown ⊢
  cases hk : o.kind
  all_goals simp only [hk] at hknown ⊢
  -- the types of all other kinds are read off without a guess
  case variableExpression => exact h.variableTypeBy hknown
  case memberExpression => exact h.memberTypeBy hknown
  case invokeMemberExpression =>
    split
    · rfl
    · rename_i hcreation
      rw [if_neg hcreation] at hknown
      exact h.memberTypeBy hknown
  case parenExpression | commandExpression => exact h _ hknown
  case pipeline =>
    split
    · rename_i hone
      rw [if_pos hone] at hknown
      exact h _ hknown
    · rfl

end KnowsMore

/-- A larger budget keeps the types that are known. -/
theorem guessWithin_succ (e : Evidence) (budget : Nat) :
    KnowsMore (e.guessWithin budget) (e.guessWithin (budget + 1)) := by
  induction budget with
  | zero =>
    -- without a budget nothing is known
    intro c hknown
    rw [guessWithin, isWildcardName_object] at hknown
    cases hknown
  | succ budget ih =>
    intro c hknown
    cases c with
    | none => rfl
    | some o => exact ih.nodeTypeBy hknown

/-! ## Starting at a depth -/

/-- What is known within a budget is known within every larger one. -/
theorem guessWithin_mono (e : Evidence) {budget budget' : Nat} (h : budget ≤ budget') :
    KnowsMore (e.guessWithin budget) (e.guessWithin budget') := by
  induction h with
  | refl =>
    intro c _
    rfl
  | @step more _ ih =>
    intro c hknown
    have hmore := ih c hknown
    rw [← hmore] at hknown
    rw [guessWithin_succ e more c hknown, hmore]

/-- The type of a value for an inference that has gone down to a depth already. -/
def inferFrom (e : Evidence) (depth : Nat) : Inferer := e.inferWithin (budget - depth)

/-- An inference starts at depth zero. -/
theorem syntactic_eq_inferFrom (e : Evidence) (d : Datum) :
    Inferer.syntactic e d = e.inferFrom 0 d >>= orWildcard := rfl

/-- Below the limit nothing is known. -/
theorem inferFrom_of_lt {depth : Nat} (e : Evidence) (h : 8 < depth) (d : Datum) :
    e.inferFrom depth d = .ok wildcardType := by
  have hnone : budget - depth = 0 := by
    unfold budget
    omega
  rw [inferFrom, hnone, inferWithin_zero]

/-- From a depth on, too, an inference computes a guess. -/
theorem inferFrom_eq {s : Script} {o : Occurrence} (ho : o.StandsIn s) (depth : Nat) :
    s.evidence.inferFrom depth (.node o) =
      .ok (.str (s.evidence.guessWithin (budget - depth) (some o))) :=
  inferWithin_eq s (budget - depth) (some o) fun _ hp => Option.some_inj.mp hp ▸ ho

/-- An inference that starts deeper names the type that one from higher up names, or that one
knows nothing: in every well-typed script both succeed, and the deeper one ends in a name that
stands for any type, or in the very same type name. -/
theorem inferFrom_deeper {s : Script} {o : Occurrence} {depth depth' : Nat} (hs : s.WellTyped)
    (ho : o ∈ s.nodes) (h : depth ≤ depth') :
    ∃ type type', s.evidence.inferFrom depth (.node o) = .ok (.str type) ∧
      s.evidence.inferFrom depth' (.node o) = .ok (.str type') ∧
      (isWildcardName type' = true ∨ type = type') := by
  have hin := Occurrence.StandsIn.of_mem_nodes hs ho
  refine ⟨_, _, inferFrom_eq hin depth, inferFrom_eq hin depth', ?_⟩
  by_cases hwild : isWildcardName (s.evidence.guessWithin (budget - depth') (some o)) = true
  · exact Or.inl hwild
  · right
    have hle : budget - depth' ≤ budget - depth := by omega
    exact guessWithin_mono s.evidence hle (some o) (Bool.not_eq_true _ ▸ hwild)

/-- The type of the variable that is assigned a new object is known from the top, and lost by an
inference that starts at the limit. -/
theorem inferFrom_deeper_greeter :
    ∃ o ∈ Greeter.script.nodes, o.kind = .variableExpression ∧
      Greeter.script.evidence.inferFrom 0 (.node o) = .ok (.str "Greeter") ∧
      Greeter.script.evidence.inferFrom 8 (.node o) = .ok (.str "object") ∧
      ∃ type type', Greeter.script.evidence.inferFrom 0 (.node o) = .ok (.str type) ∧
        Greeter.script.evidence.inferFrom 8 (.node o) = .ok (.str type') ∧
        (isWildcardName type' = true ∨ type = type') := by
  have hvariable : ∃ o ∈ Greeter.script.nodes, o.kind = .variableExpression ∧
      Greeter.script.evidence.guessWithin 9 (some o) = "Greeter" ∧
      Greeter.script.evidence.guessWithin 1 (some o) = "object" := by decide +kernel
  obtain ⟨o, ho, hk, hknown, hlost⟩ := hvariable
  have hin := Occurrence.StandsIn.of_mem_nodes Greeter.wellTyped_script ho
  refine ⟨o, ho, hk, ?_, ?_, inferFrom_deeper Greeter.wellTyped_script ho (by decide)⟩
  · rw [inferFrom_eq hin 0]
    exact congrArg (fun name => Except.ok (Value.str name)) hknown
  · rw [inferFrom_eq hin 8]
    exact congrArg (fun name => Except.ok (Value.str name)) hlost

end Evidence

end ScriptNavigation
