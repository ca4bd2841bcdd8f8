/-
# The types of well-typed nodes

In a well-typed script no inference fails, and each one ends in a type name.  The guess is
said once more here, as a total function of the readings of the nodes, and the inference is
shown to compute it.

Main facts:

* `StandsIn.variableType_eq`, `StandsIn.memberType_eq`, `StandsIn.nodeType_eq`: one step.
* `inferWithin_eq`: an inference within a budget computes the guess within that budget.
* `StandardInferer.infer_eq`: both inferers of the library name the type of every node.
-/
import ScriptNavigation.Navigation.Query
import ScriptNavigation.Proofs.Reading.Symbol

namespace ScriptNavigation

/-- A type name, and the name of the wildcard type for one that stands for any type. -/
def nameOrWildcard (name : String) : String := if isWildcardName name then "object" else name

theorem orWildcard_text (name : String) :
    orWildcard (.str name) = .ok (.str (nameOrWildcard name)) := by
  rw [orWildcard, isWildcard, Result.ok_bind, nameOrWildcard]
  cases isWildcardName name <;> rfl

/-- Where no question fails, the first answer is found by going through the list. -/
theorem firstAnswer_eq_findSome? {α β : Type} {ask : α → Result (Option β)}
    {answer : α → Option β} {as : List α} (h : ∀ a ∈ as, ask a = .ok (answer a)) :
    firstAnswer ask as = .ok (as.findSome? answer) := by
  induction as with
  | nil => rfl
  | cons a as ih =>
    rw [firstAnswer, h a List.mem_cons_self, Result.ok_bind, List.findSome?_cons]
    cases answer a with
    | some b => rfl
    | none => exact ih fun b hb => h b (List.mem_cons_of_mem a hb)

namespace Occurrence

/-! ## Variables -/

/-- Whether a parameter has a folded name. -/
def hasFoldedName (p : Occurrence) (name : String) : Bool :=
  (p.childIn? .name).any fun declared => Text.foldCase (declared.textIn .name) == name

/-- The type of the parameter of a folded name, if one of the parameters has it. -/
def parameterTypeIn? (name : String) (ps : List Occurrence) : Option String :=
  (ps.find? fun p => p.hasFoldedName name).map fun p => p.constraintIn .typeConstraint "object"

/-- The expression that an assignment assigns to, below a conversion if there is one. -/
def assigned? (a : Occurrence) : Option Occurrence :=
  (a.childIn? .left).bind fun left =>
    if left.kind = .convertExpression then left.childIn? .child else some left

/-- The variable that an assignment assigns to. -/
def target? (a : Occurrence) : Option Occurrence :=
  a.assigned?.filter fun t => t.kind == .variableExpression

/-- Where the left side of an assignment starts. -/
def leftStart (a : Occurrence) : Position :=
  ((a.childIn? .left).map fun left => left.extent.start).getD Position.first

/-- The assignment that decides the type of a variable of a folded name. -/
def decidingIn? (o : Occurrence) (name : String) :
    List Occurrence → Option Occurrence → Option Occurrence
  | [], latest => latest
  | a :: rest, latest =>
    match a.target? with
    | none => decidingIn? o name rest latest
    | some target =>
      if Text.foldCase (target.textIn .name) ≠ name then decidingIn? o name rest latest
      else if target.index = o.index then some a
      else if o.ancestors.any fun b => b.index == a.index then decidingIn? o name rest latest
      else if o.extent.start ≤ a.leftStart then latest
      else decidingIn? o name rest (some a)

/-- The type that an assignment gives to its variable. -/
def assignedTypeBy (guess : Option Occurrence → String) (a : Occurrence) : String :=
  match a.childOf? .left .convertExpression with
  | some convert => convert.constraintIn .typeConstraint "object"
  | none => guess (a.childIn? .right)

/-! ## Members -/

/-- The type that a declaration declares for the member of an owner and a name, both folded,
if it declares that member. -/
def declaredMemberIn? (access : Occurrence) (owner name : String) (member : Occurrence) :
    Option String :=
  if Text.foldCase member.typeNameAround ≠ owner then none
  else if access.kind = .invokeMemberExpression then
    if member.kind = .functionMember ∧ Text.foldCase (member.textIn .name) = name ∧
        (member.childrenIn .parameters).length = (access.childrenIn .arguments).length then
      (member.childIn? .returnType).map fun constraint => constraint.textIn .typeName
    else none
  else if member.kind = .propertyMember ∧ Text.foldCase (member.textIn .name) = name then
    (member.childIn? .propertyType).map fun constraint => constraint.textIn .typeName
  else none

end Occurrence

/-! ## Guesses -/

namespace Evidence

/-- The type that the deciding assignment gives to a variable of a folded name. -/
def assignedTypeOf (e : Evidence) (guess : Option Occurrence → String) (o : Occurrence)
    (name : String) : String :=
  ((o.decidingIn? name e.assignments none).map fun a => a.assignedTypeBy guess).getD "object"

/-- The type of a variable, with a guess for assigned expressions. -/
def variableTypeBy (e : Evidence) (guess : Option Occurrence → String) (o : Occurrence) :
    String :=
  let name := Text.foldCase (o.textIn .name)
  if name = "this" then nameOr o.typeNameAround "object"
  else
    (o.callableAround?.bind fun c => Occurrence.parameterTypeIn? name c.parametersOf).getD
      (e.assignedTypeOf guess o name)

/-- The type of the member of an owner that is accessed. -/
def memberTypeOf (e : Evidence) (o : Occurrence) (owner : String) : String :=
  if isWildcardName owner then "object"
  else
    (e.members.findSome?
      (o.declaredMemberIn? (Text.foldCase owner) (Text.foldCase o.memberName))).getD "object"

/-- The type of a member access, with a guess for the receiver. -/
def memberTypeBy (e : Evidence) (guess : Option Occurrence → String) (o : Occurrence) : String :=
  match o.receiverType? with
  | some type => e.memberTypeOf o (type.textIn .typeName)
  | none => e.memberTypeOf o (guess (o.childIn? .expression))

/-- The type of a node, with a guess for its parts. -/
def nodeTypeBy (e : Evidence) (guess : Option Occurrence → String) (o : Occurrence) : String :=
  match o.kind with
  | .invokeMemberExpression =>
    if o.isCreation then (o.receiverType?.map fun type => type.textIn .typeName).getD ""
    else e.memberTypeBy guess o
  | .memberExpression => e.memberTypeBy guess o
  | .convertExpression => o.constraintIn .typeConstraint "object"
  | .stringConstant | .expandableString => "string"
  | .constant => o.textIn .staticType
  | .hashtable => "hashtable"
  | .arrayLiteral => "object[]"
  | .scriptBlockExpression => "scriptblock"
  | .typeExpression => "type"
  | .variableExpression => e.variableTypeBy guess o
  | .parenExpression => guess (o.childIn? .pipeline)
  | .pipeline =>
    if (o.childrenIn .elements).length = 1 then guess (o.childrenIn .elements).head?
    else "object"
  | .commandExpression => guess (o.childIn? .expression)
  | _ => "object"

/-- The type of a node that may be missing, within a budget of steps. -/
def guessWithin (e : Evidence) : (budget : Nat) → Option Occurrence → String
  | 0, _ => "object"
  | _ + 1, none => "object"
  | budget + 1, some o => e.nodeTypeBy (e.guessWithin budget) o

end Evidence

/-- The type that the syntax of a script tells for a node. -/
def Script.guess (s : Script) (o : Occurrence) : String :=
  nameOrWildcard (s.evidence.guessWithin Evidence.budget (some o))

/-! ## The evidence of a script -/

namespace Script

variable {s : Script} {o : Occurrence}

theorem of_mem_assignments (hs : s.WellTyped) (ho : o ∈ s.evidence.assignments) :
    o.StandsIn s ∧ o.kind = .assignment := by
  obtain ⟨hmem, hkind⟩ := List.mem_filter.mp ho
  exact ⟨.of_mem_nodes hs hmem, beq_iff_eq.mp hkind⟩

theorem of_mem_members (hs : s.WellTyped) (ho : o ∈ s.evidence.members) :
    o.StandsIn s ∧ (o.kind = .functionMember ∨ o.kind = .propertyMember) := by
  obtain ⟨hmem, hkind⟩ := List.mem_filter.mp ho
  rw [Bool.or_eq_true, beq_iff_eq, beq_iff_eq] at hkind
  exact ⟨.of_mem_nodes hs hmem, hkind⟩

end Script

/-- An inferer names the types of the parts of nodes, also of missing ones, as a guess does. -/
def Inferer.GuessesParts (infer : Inferer) (s : Script) (guess : Option Occurrence → String) :
    Prop :=
  ∀ c, (∀ o, c = some o → o.StandsIn s) → infer (Datum.ofChild c) = .ok (.str (guess c))

namespace Occurrence

/-! ## The inference computes the guess -/

/-- The type of the parameter of a name is read from the parameters. -/
theorem parameterType?_eq {s : Script} (name : String) {ps : List Occurrence}
    (h : ∀ p ∈ ps, p.StandsIn s ∧ p.kind = .parameter) :
    parameterType? name (ps.map .node) = .ok ((parameterTypeIn? name ps).map .str) := by
  induction ps with
  | nil => rfl
  | cons p ps ih =>
    obtain ⟨hp, hk⟩ := h p List.mem_cons_self
    have ih := ih fun q hq => h q (List.mem_cons_of_mem _ hq)
    rw [List.map_cons, parameterType?, Datum.field_of_node, hp.field_child hk rfl, Result.ok_bind,
      parameterTypeIn?, List.find?_cons, hasFoldedName, Datum.isNull_ofChild]
    cases hd : p.childIn? .name with
    | none => exact ih
    | some declared =>
      have hdeclared := hp.childIn hd
      have hdeclaredKind : declared.kind = .variableExpression := hp.kind_of_childIn hk rfl hd
      simp only [Datum.ofChild_some, Datum.field_of_node, Option.isNone_some, Bool.false_eq_true,
        if_false, hdeclared.field_text (f := .name) hdeclaredKind rfl, Result.ok_bind,
        Value.folded, Value.asName, Result.map_ok, Option.any_some, beq_iff_eq]
      by_cases hname : Text.foldCase (declared.textIn .name) = name
      · simp only [if_pos hname, beq_iff_eq.mpr hname,
          hp.field_child (f := .typeConstraint) hk rfl, Result.ok_bind, Datum.isNull_ofChild,
          Option.map_some, constraintIn]
        cases hc : p.childIn? .typeConstraint with
        | none => rfl
        | some c =>
          simp only [Option.isNone_some, Bool.false_eq_true, if_false, Datum.ofChild_some,
            Datum.field_of_node, hp.field_typeName_of_childIn (f := .typeConstraint) hk rfl hc,
            Result.ok_bind, Option.map_some, Option.getD_some]
          rfl
      · rw [if_neg hname, beq_eq_false_iff_ne.mpr hname]
        exact ih

/-- The deciding assignment is one of those that are looked at, or the latest before them. -/
theorem mem_or_of_decidingIn? {o a : Occurrence} {name : String} {as : List Occurrence}
    {latest : Option Occurrence} (h : o.decidingIn? name as latest = some a) :
    a ∈ as ∨ latest = some a := by
  -- along the search: an assignment that is found is looked at or was the latest before
  fun_induction decidingIn? o name as latest with
  | case1 latest => exact Or.inr h
  | case4 _ b rest => exact Or.inl (Option.some_inj.mp h ▸ List.mem_cons_self)
  | case6 => exact Or.inr h
  | case7 _ b rest _ _ _ _ _ _ ih =>
    rcases ih h with h | h
    · exact Or.inl (List.mem_cons_of_mem _ h)
    · exact Or.inl (Option.some_inj.mp h ▸ List.mem_cons_self)
  | case2 _ _ _ _ ih | case3 _ _ _ _ _ _ ih | case5 _ _ _ _ _ _ _ _ ih =>
    exact (ih h).imp_left (List.mem_cons_of_mem _)

/-- The deciding assignment is one of those that are looked at. -/
theorem mem_of_decidingIn? {o a : Occurrence} {name : String} {as : List Occurrence}
    (h : o.decidingIn? name as none = some a) : a ∈ as := by
  rcases mem_or_of_decidingIn? h with h | h
  · exact h
  · cases h

namespace StandsIn

variable {s : Script} {o a member : Occurrence}

/-- The expression that an assignment assigns to is read from its left side. -/
theorem assignedExpression_eq (ha : a.StandsIn s) (hk : a.kind = .assignment) :
    (a.field .left >>= assignedExpression) = .ok (Datum.ofChild a.assigned?) := by
  rw [ha.field_child hk rfl, Result.ok_bind, assignedExpression, Datum.isNodeOf_ofChild, assigned?]
  cases hl : a.childIn? .left with
  | none => rfl
  | some left =>
    simp only [Option.any_some, beq_iff_eq, Datum.ofChild_some, Datum.field_of_node,
      Option.bind_some]
    by_cases hconvert : left.kind = .convertExpression
    · rw [if_pos hconvert, if_pos hconvert]
      exact (ha.childIn hl).field_child hconvert rfl
    · rw [if_neg hconvert, if_neg hconvert, Datum.ofChild_some]

theorem assigned (ha : a.StandsIn s) (h : a.assigned? = some o) : o.StandsIn s := by
  obtain ⟨left, hleft, h⟩ := Option.bind_eq_some_iff.mp h
  have hin := ha.childIn hleft
  split at h
  · exact hin.childIn h
  · rw [Option.some_inj] at h
    exact h ▸ hin

theorem target (ha : a.StandsIn s) (h : a.target? = some o) :
    o.StandsIn s ∧ o.kind = .variableExpression := by
  rw [target?, Option.filter_eq_some_iff, beq_iff_eq] at h
  exact ⟨ha.assigned h.1, h.2⟩

theorem exists_left_of_target? (h : a.target? = some o) :
    ∃ left, a.childIn? .left = some left := by
  obtain ⟨left, hleft, -⟩ := Option.bind_eq_some_iff.mp (Option.filter_eq_some_iff.mp h).1
  exact ⟨left, hleft⟩

/-- The assignment that decides the type of a variable is found by the readings. -/
theorem decidingAssignment?_eq (name : String) {as : List Occurrence}
    (h : ∀ a ∈ as, a.StandsIn s ∧ a.kind = .assignment) (latest : Option Occurrence) :
    decidingAssignment? o name as latest = .ok (o.decidingIn? name as latest) := by
  induction as generalizing latest with
  | nil => rfl
  | cons a as ih =>
    obtain ⟨ha, hk⟩ := h a List.mem_cons_self
    have ih := ih fun b hb => h b (List.mem_cons_of_mem _ hb)
    have hassigned := ha.assignedExpression_eq hk
    rw [ha.field_child hk rfl, Result.ok_bind] at hassigned
    rw [decidingAssignment?, ha.field_child hk rfl, Result.ok_bind, hassigned, Result.ok_bind,
      Datum.nodeOf?_ofChild, ← target?, decidingIn?]
    cases ht : a.target? with
    | none => exact ih latest
    | some target =>
      obtain ⟨hin, htk⟩ := ha.target ht
      obtain ⟨left, hleft⟩ := exists_left_of_target? ht
      have hstart : a.leftStart = left.extent.start := by
        rw [leftStart, hleft, Option.map_some, Option.getD_some]
      simp only [hin.field_text (f := .name) htk rfl, Result.ok_bind, Value.folded, Value.asName,
        Result.map_ok, bne_iff_ne, ih, hleft, Datum.ofChild_some, Datum.extent_of_node, hstart]
      -- the four tests come in the same order on both sides
      split <;> [rfl; skip]
      split <;> [rfl; skip]
      split <;> [rfl; skip]
      split <;> rfl

/-- The type that an assignment gives is read from its conversion or guessed. -/
theorem assignedType_eq {infer : Inferer} {guess : Option Occurrence → String}
    (hinfer : infer.GuessesParts s guess) (ha : a.StandsIn s) (hk : a.kind = .assignment) :
    assignedType infer a = .ok (.str (a.assignedTypeBy guess)) := by
  have hright := hinfer (a.childIn? .right) fun o ho => ha.childIn ho
  rw [assignedType, ha.field_child hk rfl, Result.ok_bind, Datum.isNodeOf_ofChild, assignedTypeBy,
    childOf?]
  cases hl : a.childIn? .left with
  | none =>
    rw [Option.any_none, if_neg Bool.false_ne_true, ha.field_child hk rfl, Result.ok_bind]
    exact hright
  | some left =>
    have hin := ha.childIn hl
    rw [Option.any_some, Option.filter_some]
    cases hconvert : left.kind == .convertExpression with
    | false =>
      rw [if_neg Bool.false_ne_true, if_neg Bool.false_ne_true, ha.field_child hk rfl,
        Result.ok_bind]
      exact hright
    | true =>
      have hlk := beq_iff_eq.mp hconvert
      rw [if_pos rfl, if_pos rfl]
      exact hin.constraintField_eq hlk rfl "object"

/-! ## Single steps of the inference -/

variable {infer : Inferer} {guess : Option Occurrence → String}

/-- The type that the deciding assignment gives to a variable is the guess. -/
theorem assignedTypeOf_eq
    (hinfer : infer.GuessesParts s guess) (hs : s.WellTyped) (o : Occurrence) (name : String) :
    (do
      match ← decidingAssignment? o name s.evidence.assignments none with
      | none => return wildcardType
      | some a => assignedType infer a) =
      (.ok (.str (s.evidence.assignedTypeOf guess o name)) : Result Datum) := by
  rw [decidingAssignment?_eq name (fun a ha => Script.of_mem_assignments hs ha) none,
    Result.ok_bind, Evidence.assignedTypeOf]
  cases hd : o.decidingIn? name s.evidence.assignments none with
  | none => rfl
  | some a =>
    obtain ⟨ha, hk⟩ := Script.of_mem_assignments hs (mem_of_decidingIn? hd)
    exact ha.assignedType_eq hinfer hk

/-- The type of a variable is the guess. -/
theorem variableType_eq
    (hinfer : infer.GuessesParts s guess) (ho : o.StandsIn s) (hk : o.kind = .variableExpression) :
    s.evidence.variableType infer o = .ok (.str (s.evidence.variableTypeBy guess o)) := by
  have hassigned :=
    assignedTypeOf_eq hinfer ho.wellTyped o (Text.foldCase (o.textIn .name))
  have hcallable : o.ancestors.find? (fun a => a.kind.isCallable) = o.callableAround? := rfl
  simp only [Evidence.variableType, ho.field_text (f := .name) hk rfl, Result.ok_bind,
    Value.folded, Value.asName, Result.map_ok, beq_iff_eq, ho.surroundingType_eq, hcallable,
    Evidence.variableTypeBy]
  split
  · rfl
  · cases hc : o.callableAround? with
    | none => exact hassigned
    | some callable =>
      obtain ⟨hmem, hck⟩ := mem_ancestors_of_callableAround? hc
      have hin := ho.ancestor hmem
      have hdeclared := parameterType?_eq (Text.foldCase (o.textIn .name))
        fun p hp => hin.of_mem_parametersOf hck hp
      simp only [hin.declaredParameters_eq hck, hdeclared, Result.ok_bind, Option.bind_some]
      cases parameterTypeIn? (Text.foldCase (o.textIn .name)) callable.parametersOf with
      | none => exact hassigned
      | some type => rfl

/-- The type of a constraint is read from the field that holds it, if there is one. -/
theorem constraintType_eq {k : NodeKind} {f : Field} (ho : o.StandsIn s) (hk : o.kind = k)
    (hf : k.schema.lookup f = some (.child (some .typeConstraint))) :
    (do
      let type ← o.field f
      if type.isNull then return none
      return some (← type.field .typeName)) =
      (.ok (((o.childIn? f).map fun constraint => constraint.textIn .typeName).map .str) :
        Result (Option Datum)) := by
  rw [ho.field_child hk hf, Result.ok_bind]
  cases hc : o.childIn? f with
  | none => rfl
  | some c =>
    rw [Datum.ofChild_some, Datum.field_of_node, ho.field_typeName_of_childIn hk hf hc]
    rfl

/-- Whether a declaration declares a member is read from its fields. -/
theorem declaredMemberType?_eq (ho : o.StandsIn s) (hm : member.StandsIn s)
    (hk : member.kind = .functionMember ∨ member.kind = .propertyMember) (owner name : String) :
    declaredMemberType? o owner name member =
      .ok ((o.declaredMemberIn? owner name member).map .str) := by
  have hname : member.field .name = .ok (.str (member.textIn .name)) := by
    rcases hk with h | h
    · exact hm.field_text h rfl
    · exact hm.field_text h rfl
  simp only [declaredMemberType?, hm.surroundingTypeName_eq, Result.ok_bind, Value.folded,
    Value.asName, Result.map_ok, bne_iff_ne, hname, declaredMemberIn?]
  by_cases howner : Text.foldCase member.typeNameAround ≠ owner
  · rw [if_pos howner, if_pos howner]
    rfl
  rw [if_neg howner, if_neg howner]
  by_cases hcall : o.kind = .invokeMemberExpression
  · rw [if_pos hcall, if_pos hcall]
    by_cases hmk : member.kind = .functionMember
    · have htype := hm.constraintType_eq (f := .returnType) hmk rfl
      simp only [hm.field_children (f := .parameters) hmk rfl,
        ho.field_children (f := .arguments) hcall rfl, Datum.length_ofChildren, htype,
        Result.ok_bind,
        hmk, ne_eq, not_true, if_false, true_and]
      by_cases hsame : Text.foldCase (member.textIn .name) = name
      · by_cases hlength :
            (member.childrenIn .parameters).length = (o.childrenIn .arguments).length
        · rw [if_neg (not_not.mpr hsame), if_neg (not_not.mpr hlength), if_pos ⟨hsame, hlength⟩]
        · rw [if_neg (not_not.mpr hsame), if_pos hlength, if_neg fun h => hlength h.2]
          rfl
      · rw [if_pos hsame, if_neg fun h => hsame h.1]
        rfl
    · rw [if_pos hmk, if_neg fun h => hmk h.1]
      rfl
  · rw [if_neg hcall, if_neg hcall]
    by_cases hmk : member.kind = .propertyMember
    · have htype := hm.constraintType_eq (f := .propertyType) hmk rfl
      simp only [htype, hmk, ne_eq, not_true, if_false, true_and]
      by_cases hsame : Text.foldCase (member.textIn .name) = name
      · rw [if_neg (not_not.mpr hsame), if_pos hsame]
      · rw [if_pos hsame, if_neg hsame]
        rfl
    · rw [if_pos hmk, if_neg fun h => hmk h.1]
      rfl

/-- The type of the member of an owner is found among the declarations. -/
theorem memberTypeOf_eq (ho : o.StandsIn s) (hacc : o.kind.isMemberAccess = true)
    (owner : String) :
    (do
      if ← isWildcard (.str owner) then return wildcardType
      let name ← (← o.literalMember).folded
      let ownerName ← (Value.str owner : Datum).folded
      return (← firstAnswer (declaredMemberType? o ownerName name) s.evidence.members).getD
        wildcardType) = (.ok (.str (s.evidence.memberTypeOf o owner)) : Result Datum) := by
  have hfirst : firstAnswer
      (declaredMemberType? o (Text.foldCase owner) (Text.foldCase o.memberName))
        s.evidence.members = .ok ((s.evidence.members.findSome?
          (o.declaredMemberIn? (Text.foldCase owner) (Text.foldCase o.memberName))).map .str) := by
    rw [List.map_findSome?]
    apply firstAnswer_eq_findSome?
    intro m hm
    obtain ⟨hin, hk⟩ := Script.of_mem_members ho.wellTyped hm
    exact ho.declaredMemberType?_eq hin hk _ _
  simp only [isWildcard, Result.ok_bind, ho.literalMember_eq hacc, Value.folded, Value.asName,
    Result.map_ok, hfirst, Evidence.memberTypeOf]
  cases isWildcardName owner with
  | true => rfl
  | false =>
    rw [if_neg Bool.false_ne_true, if_neg Bool.false_ne_true]
    cases s.evidence.members.findSome?
        (o.declaredMemberIn? (Text.foldCase owner) (Text.foldCase o.memberName)) <;> rfl

/-- The type of a member access is the guess. -/
theorem memberType_eq
    (hinfer : infer.GuessesParts s guess)
    (ho : o.StandsIn s) (hacc : o.kind.isMemberAccess = true) :
    s.evidence.memberType infer o = .ok (.str (s.evidence.memberTypeBy guess o)) := by
  have hguess := hinfer (o.childIn? .expression) fun c hc => ho.childIn hc
  have hany : Datum.isNodeOf .typeExpression (Datum.ofChild (o.childIn? .expression)) =
      o.receiverType?.isSome := by
    rw [Datum.isNodeOf_ofChild, receiverType?, childOf?, Option.isSome_filter]
  simp only [Evidence.memberType, (ho.access_fields hacc).1, Result.ok_bind, hany, hguess,
    Evidence.memberTypeBy]
  cases hr : o.receiverType? with
  | none =>
    rw [Option.isSome_none, if_neg Bool.false_ne_true]
    exact ho.memberTypeOf_eq hacc _
  | some type =>
    obtain ⟨hchild, hkind⟩ := childOf?_eq_some.mp hr
    rw [Option.isSome_some, if_pos rfl, hchild, Datum.ofChild_some, Datum.field_of_node,
      (ho.childOf hr).field_text hkind rfl, Result.ok_bind]
    exact ho.memberTypeOf_eq hacc _

/-- The type of a node is the guess, if that holds for the parts of the node. -/
theorem nodeType_eq
    (hinfer : infer.GuessesParts s guess) (ho : o.StandsIn s) :
    s.evidence.nodeType infer o = .ok (.str (s.evidence.nodeTypeBy guess o)) := by
  have hpart : ∀ {f kind}, o.kind.schema.lookup f = some (.child kind) →
      (o.field f >>= infer) = .ok (.str (guess (o.childIn? f))) := by
    intro f kind hf
    rw [ho.field_child rfl hf, Result.ok_bind]
    exact hinfer _ fun c hc => ho.childIn hc
  unfold Evidence.nodeType Evidence.nodeTypeBy
  cases hk : o.kind with
  | invokeMemberExpression =>
    have hacc : o.kind.isMemberAccess = true := by rw [hk]; rfl
    rw [ho.createsObject_eq hk, Result.ok_bind]
    cases hnew : o.isCreation with
    | false => exact ho.memberType_eq hinfer hacc
    | true =>
      obtain ⟨type, htype, hchild, hname⟩ := ho.creation_receiver hnew
      rw [if_pos rfl, if_pos rfl, (ho.access_fields hacc).1, hchild, htype]
      exact hname
  | memberExpression => exact ho.memberType_eq hinfer (by rw [hk]; rfl)
  | convertExpression => exact ho.constraintField_eq hk rfl "object"
  | constant => exact ho.field_text hk rfl
  | variableExpression => exact ho.variableType_eq hinfer hk
  | parenExpression => exact hpart (by rw [hk]; rfl)
  | commandExpression => exact hpart (by rw [hk]; rfl)
  | pipeline =>
    have hfirst : ∀ c, (o.childrenIn .elements).head? = some c → c.StandsIn s :=
      fun c hc => ho.of_mem_childrenIn (List.mem_of_head? hc)
    simp only [ho.field_children (f := .elements) hk rfl, Result.ok_bind,
      Datum.length_ofChildren, Datum.first_ofChildren, hinfer _ hfirst]
    split <;> rfl
  | _ => rfl

end StandsIn

end Occurrence

/-! ## Whole inferences -/

/-- An inference within a budget computes the guess within that budget. -/
theorem inferWithin_eq (s : Script) (budget : Nat) :
    Inferer.GuessesParts (s.evidence.inferWithin budget) s (s.evidence.guessWithin budget) := by
  induction budget with
  | zero => exact fun _ _ => rfl
  | succ budget ih =>
    intro c hc
    cases c with
    | none => rfl
    | some o => exact (hc o rfl).nodeType_eq ih

/-! ## The inferers of the library -/

namespace Inferer

/-- An inferer names a type for every node of a script. -/
def NamesTypes (infer : Inferer) (s : Script) : Prop :=
  ∀ o ∈ s.nodes, ∃ name, infer (.node o) = .ok (.str name)

/-- An inferer names the type of every node of a script as a guess does. -/
def Guesses (infer : Inferer) (s : Script) (guess : Occurrence → String) : Prop :=
  ∀ o, o.StandsIn s → infer (.node o) = .ok (.str (guess o))

/-- An inferer that names types does so by a guess. -/
theorem NamesTypes.exists_guess {infer : Inferer} {s : Script} (h : infer.NamesTypes s) :
    ∃ guess, infer.Guesses s guess := by
  choose! guess hguess using h
  exact ⟨guess, fun o ho => hguess o (s.nodes_eq ▸ ho.mem)⟩

end Inferer

/-- The two inferers that the library has. -/
inductive StandardInferer where
  | wildcard
  | syntactic
  deriving DecidableEq, Repr

namespace StandardInferer

/-- The inferer for a script. -/
def inferer : StandardInferer → Script → Inferer
  | wildcard, _ => Inferer.wildcard
  | syntactic, s => Inferer.syntactic s.evidence

/-- The query that asks about a script with an inferer. -/
def query (kind : StandardInferer) (s : Script) : Query := { script := s, infer := kind.inferer s }

/-- The type that an inferer names for a node. -/
def guess : StandardInferer → Script → Occurrence → String
  | wildcard, _ => fun _ => "object"
  | syntactic, s => s.guess

/-- Both inferers name the type of every node of a well-typed script. -/
theorem infer_eq (kind : StandardInferer) (s : Script) :
    (kind.inferer s).Guesses s (kind.guess s) := by
  intro o ho
  cases kind with
  | wildcard => rfl
  | syntactic =>
    have h := inferWithin_eq s Evidence.budget (some o) fun p hp => Option.some_inj.mp hp ▸ ho
    rw [Datum.ofChild_some] at h
    rw [inferer, Inferer.syntactic, h, Result.ok_bind, orWildcard_text]
    rfl

end StandardInferer

end ScriptNavigation
