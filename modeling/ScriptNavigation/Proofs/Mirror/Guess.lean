/-
# Guesses in scripts that mirror each other

A guess follows the readings of a node, the assignments and the declarations of members of
the script.  If the declarations are twins of each other, and a variable gets the same type
by assignment in both scripts, then a node and its twin have the same type.  This holds in
particular when the assignments are twins of each other too.

Main facts:

* `Mirrors.nodeTypeBy`: one step of a guess is the same at a node and at its twin.
* `Mirrors.scriptGuess`: the whole guess is the same when assignments and members are twins.
-/
import ScriptNavigation.Proofs.Mirror.Reading

namespace ScriptNavigation

/-- Guesses for a node and its twin are the same, also where the node is missing. -/
def GuessAlike (s : Script) (twin : Occurrence → Occurrence)
    (guess' guess : Option Occurrence → String) : Prop :=
  ∀ c, (∀ o, c = some o → o.StandsIn s) → guess' (c.map twin) = guess c

namespace Mirrors

open Occurrence

variable {s s' : Script} {twin : Occurrence → Occurrence} (h : Mirrors s s' twin)
variable {o : Occurrence} {guess guess' : Option Occurrence → String}

include h

/-! ## Variables -/

theorem hasFoldedName (name : String) (ho : o.StandsIn s) :
    (twin o).hasFoldedName name = o.hasFoldedName name := by
  rw [Occurrence.hasFoldedName, Occurrence.hasFoldedName,
    h.any_childIn? (by decide) (fun hc => by rw [h.textIn hc]) ho]

theorem parameterTypeIn? (name : String) {ps : List Occurrence} (hps : ∀ p ∈ ps, p.StandsIn s) :
    Occurrence.parameterTypeIn? name (ps.map twin) = Occurrence.parameterTypeIn? name ps := by
  induction ps with
  | nil => rfl
  | cons p ps ih =>
    have hp := hps p List.mem_cons_self
    have ih := ih fun b hb => hps b (List.mem_cons_of_mem p hb)
    rw [Occurrence.parameterTypeIn?, Occurrence.parameterTypeIn?] at ih
    rw [Occurrence.parameterTypeIn?, Occurrence.parameterTypeIn?, List.map_cons, List.find?_cons,
      List.find?_cons, h.hasFoldedName name hp]
    cases p.hasFoldedName name with
    | true => rw [Option.map_some, Option.map_some, h.constraintIn (by decide) _ hp]
    | false => exact ih

/-- The assignment that decides the type of a variable is the twin of the one that does so for
the variable itself, if the assignments are twins. -/
theorem decidingIn? (name : String) {as : List Occurrence} (has : ∀ a ∈ as, a.StandsIn s)
    (latest : Option Occurrence) (ho : o.StandsIn s) :
    (twin o).decidingIn? name (as.map twin) (latest.map twin) =
      (o.decidingIn? name as latest).map twin := by
  -- each assignment and its twin pass the same tests, so both searches go the same way
  induction as generalizing latest with
  | nil => rfl
  | cons a rest ih =>
    have ha := has a List.mem_cons_self
    have ih := fun latest => ih (fun b hb => has b (List.mem_cons_of_mem a hb)) latest
    rw [List.map_cons, Occurrence.decidingIn?, Occurrence.decidingIn?, h.target? ha]
    cases ht : a.target? with
    | none => exact ih latest
    | some target =>
      have htarget := (ha.target ht).1
      rw [Option.map_some]
      dsimp only
      rw [h.textIn htarget, h.around ho ha, h.extent ho, h.leftStart ha,
        if_congr (h.index htarget ho) rfl rfl]
      split
      · exact ih latest
      · split
        · rfl
        · split
          · exact ih latest
          · split
            · rfl
            · exact ih (some a)

theorem assignedTypeBy
    (hguess : GuessAlike s twin guess' guess)
    (ho : o.StandsIn s) : (twin o).assignedTypeBy guess' = o.assignedTypeBy guess := by
  rw [Occurrence.assignedTypeBy, Occurrence.assignedTypeBy, h.childOf? (by decide) _ ho]
  cases hc : o.childOf? .left .convertExpression with
  | none =>
    rw [Option.map_none]
    dsimp only
    rw [h.childIn? ho (by decide), hguess _ fun p hp => ho.childIn hp]
  | some convert => exact h.constraintIn (by decide) _ (ho.childOf hc)

/-- Twins get the same type by assignment, if the assignments are twins. -/
theorem assignedTypeOf (hassignments : s'.evidence.assignments = s.evidence.assignments.map twin)
    (hguess : GuessAlike s twin guess' guess) (name : String) (ho : o.StandsIn s) :
    s'.evidence.assignedTypeOf guess' (twin o) name = s.evidence.assignedTypeOf guess o name := by
  have has : ∀ a ∈ s.evidence.assignments, a.StandsIn s :=
    fun a ha => (Script.of_mem_assignments ho.wellTyped ha).1
  rw [Evidence.assignedTypeOf, Evidence.assignedTypeOf, hassignments]
  have hdeciding := h.decidingIn? name has none ho
  rw [Option.map_none] at hdeciding
  rw [hdeciding]
  cases hd : o.decidingIn? name s.evidence.assignments none with
  | none => rfl
  | some a =>
    rw [Option.map_some, Option.map_some, Option.map_some,
      h.assignedTypeBy hguess (has a (mem_of_decidingIn? hd))]

theorem variableTypeBy
    (hassigned : ∀ name, s'.evidence.assignedTypeOf guess' (twin o) name =
      s.evidence.assignedTypeOf guess o name)
    (ho : o.StandsIn s) :
    s'.evidence.variableTypeBy guess' (twin o) = s.evidence.variableTypeBy guess o := by
  have hparameter : ∀ name, ((twin o).callableAround?.bind fun c =>
      Occurrence.parameterTypeIn? name c.parametersOf) =
        o.callableAround?.bind fun c => Occurrence.parameterTypeIn? name c.parametersOf := by
    intro name
    rw [h.callableAround? ho]
    cases hc : o.callableAround? with
    | none => rfl
    | some callable =>
      obtain ⟨hmem, hkind⟩ := mem_ancestors_of_callableAround? hc
      have hin := ho.ancestor hmem
      rw [Option.map_some, Option.bind_some, Option.bind_some, h.parametersOf hin,
        h.parameterTypeIn? name fun p hp => (hin.of_mem_parametersOf hkind hp).1]
  simp only [Evidence.variableTypeBy, h.textIn ho, h.typeNameAround ho, hparameter, hassigned]

/-! ## Members -/

theorem declaredMemberIn? (owner name : String) {member : Occurrence} (ho : o.StandsIn s)
    (hm : member.StandsIn s) :
    (twin o).declaredMemberIn? owner name (twin member) =
      o.declaredMemberIn? owner name member := by
  have hlength : ∀ {p : Occurrence} {f : Field}, p.StandsIn s → f ≠ .statements →
      ((twin p).childrenIn f).length = (p.childrenIn f).length := by
    intro p f hp hf
    rw [h.childrenIn hp hf, List.length_map]
  rw [Occurrence.declaredMemberIn?, Occurrence.declaredMemberIn?, h.typeNameAround hm, h.kind ho,
    h.kind hm, h.textIn hm, hlength hm (by decide), hlength ho (by decide),
    h.map_childIn? (by decide) (fun hc => h.textIn hc _) hm,
    h.map_childIn? (by decide) (fun hc => h.textIn hc _) hm]

/-- Twins have members of the same type, if the declarations of members are twins. -/
theorem memberTypeOf (hmembers : s'.evidence.members = s.evidence.members.map twin)
    (owner : String) (ho : o.StandsIn s) :
    s'.evidence.memberTypeOf (twin o) owner = s.evidence.memberTypeOf o owner := by
  have hfind : ∀ (owner name : String) (ms : List Occurrence), (∀ m ∈ ms, m.StandsIn s) →
      (ms.map twin).findSome? ((twin o).declaredMemberIn? owner name) =
        ms.findSome? (o.declaredMemberIn? owner name) := by
    intro owner name ms hms
    induction ms with
    | nil => rfl
    | cons m ms ih =>
      rw [List.map_cons, List.findSome?_cons, List.findSome?_cons,
        h.declaredMemberIn? owner name ho (hms m List.mem_cons_self),
        ih fun b hb => hms b (List.mem_cons_of_mem m hb)]
  rw [Evidence.memberTypeOf, Evidence.memberTypeOf, hmembers, h.memberName ho,
    hfind _ _ _ fun m hm => (Script.of_mem_members ho.wellTyped hm).1]

theorem memberTypeBy (hmembers : s'.evidence.members = s.evidence.members.map twin)
    (hguess : GuessAlike s twin guess' guess) (ho : o.StandsIn s) :
    s'.evidence.memberTypeBy guess' (twin o) = s.evidence.memberTypeBy guess o := by
  rw [Evidence.memberTypeBy, Evidence.memberTypeBy, h.receiverType? ho]
  cases hr : o.receiverType? with
  | none =>
    rw [Option.map_none]
    dsimp only
    rw [h.childIn? ho (by decide), hguess _ (fun p hp => ho.childIn hp),
      h.memberTypeOf hmembers _ ho]
  | some type =>
    rw [Option.map_some]
    dsimp only
    rw [h.textIn (ho.childOf hr), h.memberTypeOf hmembers _ ho]

/-! ## Nodes -/

/-- Twins have the same type, if that holds for their parts, for variables by assignment and
for members. -/
theorem nodeTypeBy (hmembers : s'.evidence.members = s.evidence.members.map twin)
    (hguess : GuessAlike s twin guess' guess)
    (hassigned : ∀ name, s'.evidence.assignedTypeOf guess' (twin o) name =
      s.evidence.assignedTypeOf guess o name)
    (ho : o.StandsIn s) :
    s'.evidence.nodeTypeBy guess' (twin o) = s.evidence.nodeTypeBy guess o := by
  have hpart : ∀ {f : Field}, f ≠ .statements →
      guess' ((twin o).childIn? f) = guess (o.childIn? f) := by
    intro f hf
    rw [h.childIn? ho hf, hguess _ fun p hp => ho.childIn hp]
  rw [Evidence.nodeTypeBy, Evidence.nodeTypeBy, h.kind ho]
  cases o.kind
  case invokeMemberExpression =>
    dsimp only
    rw [h.isCreation ho, h.memberTypeBy hmembers hguess ho, Occurrence.receiverType?,
      Occurrence.receiverType?, h.map_childOf? (by decide) _ (fun hc => h.textIn hc _) ho]
  case memberExpression => exact h.memberTypeBy hmembers hguess ho
  case convertExpression => exact h.constraintIn (by decide) _ ho
  case constant => exact h.textIn ho _
  case variableExpression => exact h.variableTypeBy hassigned ho
  case parenExpression => exact hpart (by decide)
  case commandExpression => exact hpart (by decide)
  case pipeline =>
    have hfirst : ∀ p, (o.childrenIn .elements).head? = some p → p.StandsIn s :=
      fun p hp => ho.of_mem_childrenIn (List.mem_of_head? hp)
    dsimp only
    rw [h.childrenIn ho (by decide), List.length_map, List.head?_map, hguess _ hfirst]
  all_goals rfl

/-- Guesses within a budget are the same, if assignments and members are twins. -/
theorem guessWithin (hassignments : s'.evidence.assignments = s.evidence.assignments.map twin)
    (hmembers : s'.evidence.members = s.evidence.members.map twin) (budget : Nat) :
    GuessAlike s twin (s'.evidence.guessWithin budget) (s.evidence.guessWithin budget) := by
  induction budget with
  | zero => exact fun _ _ => rfl
  | succ budget ih =>
    intro c hc
    cases c with
    | none => rfl
    | some o =>
      -- the parts of the node and what is assigned to it have one step less
      have ho := hc o rfl
      exact h.nodeTypeBy hmembers ih (fun name => h.assignedTypeOf hassignments ih name ho) ho

/-- The types that the syntax tells are the same, if assignments and members are twins. -/
theorem scriptGuess (hassignments : s'.evidence.assignments = s.evidence.assignments.map twin)
    (hmembers : s'.evidence.members = s.evidence.members.map twin) (ho : o.StandsIn s) :
    s'.guess (twin o) = s.guess o := by
  rw [Script.guess, Script.guess, ← Option.map_some,
    h.guessWithin hassignments hmembers _ _ fun p hp => Option.some_inj.mp hp ▸ ho]

end Mirrors

end ScriptNavigation
