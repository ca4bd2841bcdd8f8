/-
# What stands around a well-typed node

In a well-typed script the type definition around a node has a name, an access has a member
that is named literally or not, and a function has its parameters, so what the syntax says
around a node never fails to be found out.

Main facts:

* `StandsIn.surroundingType_eq`: a node belongs to the innermost type around it.
* `StandsIn.literalMember_eq`, `StandsIn.createsObject_eq`: what an access names.
* `StandsIn.declaredParameters_eq`: a function or method has the parameters read from it.
-/
import ScriptNavigation.Proofs.Reading.Field
import ScriptNavigation.Proofs.Result
import ScriptNavigation.Typing.Surroundings

namespace ScriptNavigation

/-- A name, and a default for the empty name. -/
def nameOr (name default : String) : String := if name = "" then default else name

theorem orElse_text (name default : String) :
    (Value.str name : Datum).orElse (.str default) = .str (nameOr name default) := by
  unfold Value.orElse nameOr
  by_cases h : name = ""
  · subst h
    rfl
  · rw [Value.truthy, bne_iff_ne.mpr h, if_pos rfl, if_neg h]

theorem orElse_wildcardType (name : String) :
    (Value.str name : Datum).orElse wildcardType = .str (nameOr name "object") :=
  orElse_text name "object"

namespace NodeKind

theorem eq_of_isMemberAccess {k : NodeKind} (h : k.isMemberAccess = true) :
    k = .memberExpression ∨ k = .invokeMemberExpression := by
  cases k <;> simp_all [isMemberAccess]

theorem eq_of_isCallable {k : NodeKind} (h : k.isCallable = true) :
    k = .functionDefinition ∨ k = .functionMember := by
  cases k <;> simp_all [isCallable]

end NodeKind

namespace Occurrence

/-! ## Readings -/

/-- The innermost type definition around a node. -/
def typeAround? (o : Occurrence) : Option Occurrence :=
  o.ancestors.find? fun a => a.kind == .typeDefinition

/-- The name of the innermost type definition around a node, empty when there is none. -/
def typeNameAround (o : Occurrence) : String :=
  (o.typeAround?.map fun definition => definition.textIn .name).getD ""

/-- The innermost function or method around a node. -/
def callableAround? (o : Occurrence) : Option Occurrence :=
  o.ancestors.find? fun a => a.kind.isCallable

/-- The node in a field, if it is of the kind given. -/
def childOf? (o : Occurrence) (f : Field) (kind : NodeKind) : Option Occurrence :=
  (o.childIn? f).filter fun c => c.kind == kind

/-- The name of the member that an access names literally, empty when it is computed. -/
def memberName (o : Occurrence) : String :=
  ((o.childOf? .member .stringConstant).map fun constant => constant.textIn .value).getD ""

/-- The type on which an access is made literally. -/
def receiverType? (o : Occurrence) : Option Occurrence :=
  o.childOf? .expression .typeExpression

/-- Whether a call creates an object. -/
def isCreation (o : Occurrence) : Bool :=
  o.receiverType?.isSome && Text.foldCase o.memberName == "new"

/-- The parameter block of the body of a function or method. -/
def paramBlock? (o : Occurrence) : Option Occurrence :=
  (o.childIn? .body).bind fun body => body.childIn? .paramBlock

/-- The parameters of a function or method: those in its brackets and those of the
parameter block of its body. -/
def parametersOf (o : Occurrence) : List Occurrence :=
  o.childrenIn .parameters ++ (o.paramBlock?.map fun block => block.childrenIn .parameters).getD []

/-! ## Facts about readings -/

theorem childOf?_eq_some {o c : Occurrence} {f : Field} {kind : NodeKind} :
    o.childOf? f kind = some c ↔ o.childIn? f = some c ∧ c.kind = kind := by
  rw [childOf?, Option.filter_eq_some_iff, beq_iff_eq]

theorem mem_ancestors_of_typeAround? {o a : Occurrence} (h : o.typeAround? = some a) :
    a ∈ o.ancestors ∧ a.kind = .typeDefinition := by
  have hkind := List.find?_some h
  exact ⟨List.mem_of_find?_eq_some h, beq_iff_eq.mp hkind⟩

theorem mem_ancestors_of_callableAround? {o a : Occurrence} (h : o.callableAround? = some a) :
    a ∈ o.ancestors ∧ a.kind.isCallable = true :=
  ⟨List.mem_of_find?_eq_some h, List.find?_some (p := fun b : Occurrence => b.kind.isCallable) h⟩

namespace StandsIn

variable {s : Script} {o p : Occurrence} {f : Field} {kind : NodeKind}

/-! ## Types around a node -/

/-- The name of the innermost type around a node is found out. -/
theorem surroundingTypeName_eq (ho : o.StandsIn s) :
    o.surroundingTypeName = .ok (.str o.typeNameAround) := by
  have hsearch : (o.ancestors.find? fun a => a.kind == .typeDefinition) = o.typeAround? := rfl
  rw [surroundingTypeName, hsearch, typeNameAround]
  cases h : o.typeAround? with
  | none => rfl
  | some a =>
    obtain ⟨ha, hk⟩ := mem_ancestors_of_typeAround? h
    exact (ho.ancestor ha).field_text hk rfl

/-- A node belongs to the innermost type around it. -/
theorem surroundingType_eq (ho : o.StandsIn s) :
    o.surroundingType = .ok (.str (nameOr o.typeNameAround "object")) := by
  rw [surroundingType, ho.surroundingTypeName_eq, Result.ok_bind, orElse_wildcardType]
  rfl

/-! ## Accesses to members -/

/-- The fields of an access that a property access and a call have in common. -/
theorem access_fields (ho : o.StandsIn s) (hk : o.kind.isMemberAccess = true) :
    o.field .expression = .ok (Datum.ofChild (o.childIn? .expression)) ∧
      o.field .member = .ok (Datum.ofChild (o.childIn? .member)) ∧
      o.field .isStaticAccess = .ok (.bool (o.flagIn .isStaticAccess)) := by
  rcases NodeKind.eq_of_isMemberAccess hk with h | h
  · exact ⟨ho.field_child h rfl, ho.field_child h rfl, ho.field_flag h rfl⟩
  · exact ⟨ho.field_child h rfl, ho.field_child h rfl, ho.field_flag h rfl⟩

theorem childOf (ho : o.StandsIn s) (hc : o.childOf? f kind = some p) : p.StandsIn s :=
  ho.childIn (childOf?_eq_some.mp hc).1

/-- An access names its member literally or not at all. -/
theorem literalMember_eq (ho : o.StandsIn s) (hk : o.kind.isMemberAccess = true) :
    o.literalMember = .ok (.str o.memberName) := by
  obtain ⟨-, hmember, -⟩ := ho.access_fields hk
  have hsearch : Datum.nodeOf? .stringConstant (Datum.ofChild (o.childIn? .member)) =
      o.childOf? .member .stringConstant := Datum.nodeOf?_ofChild _ _
  rw [literalMember, if_pos hk, hmember, Result.ok_bind, hsearch, memberName]
  cases h : o.childOf? .member .stringConstant with
  | none => rfl
  | some constant => exact (ho.childOf h).field_text (childOf?_eq_some.mp h).2 rfl

/-- A call creates an object or calls a method. -/
theorem createsObject_eq (ho : o.StandsIn s) (hk : o.kind = .invokeMemberExpression) :
    o.createsObject = .ok o.isCreation := by
  have hacc : o.kind.isMemberAccess = true := by rw [hk]; rfl
  have hany : ((o.childIn? .expression).any fun c => c.kind == .typeExpression) =
      o.receiverType?.isSome := by
    rw [receiverType?, childOf?, Option.isSome_filter]
  rw [createsObject, if_pos hk, (ho.access_fields hacc).1, Result.ok_bind, Datum.isNodeOf_ofChild,
    hany, isCreation]
  cases o.receiverType?.isSome with
  | false => rfl
  | true =>
    rw [if_pos rfl, ho.literalMember_eq hacc]
    rfl

/-! ## Parameters -/

/-- The body of a function or method is a script block. -/
theorem kind_of_body (ho : o.StandsIn s) (hk : o.kind.isCallable = true)
    (hp : o.childIn? .body = some p) : p.kind = .scriptBlock := by
  rcases NodeKind.eq_of_isCallable hk with h | h
  · exact ho.kind_of_childIn h rfl hp
  · exact ho.kind_of_childIn h rfl hp

/-- The parameter block of a body stands in the script and has the kind of one. -/
theorem of_paramBlock? (ho : o.StandsIn s) (hk : o.kind.isCallable = true)
    (h : o.paramBlock? = some p) : p.StandsIn s ∧ p.kind = .paramBlock := by
  obtain ⟨body, hbody, hp⟩ := Option.bind_eq_some_iff.mp h
  have hbodyKind := ho.kind_of_body hk hbody
  have hbodyIn := ho.childIn hbody
  exact ⟨hbodyIn.childIn hp, hbodyIn.kind_of_childIn hbodyKind rfl hp⟩

/-- The fields that a function and a method have in common. -/
theorem callable_fields (ho : o.StandsIn s) (hk : o.kind.isCallable = true) :
    o.field .parameters = .ok (Datum.ofChildren (o.childrenIn .parameters)) ∧
      o.field .body = .ok (Datum.ofChild (o.childIn? .body)) := by
  rcases NodeKind.eq_of_isCallable hk with h | h
  · exact ⟨ho.field_children h rfl, ho.field_child h rfl⟩
  · exact ⟨ho.field_children h rfl, ho.field_child h rfl⟩

/-- The parameters of a function or method stand in the script. -/
theorem of_mem_parametersOf (ho : o.StandsIn s) (hk : o.kind.isCallable = true)
    (hp : p ∈ o.parametersOf) : p.StandsIn s ∧ p.kind = .parameter := by
  rcases List.mem_append.mp hp with hp | hp
  · refine ⟨ho.of_mem_childrenIn hp, ?_⟩
    rcases NodeKind.eq_of_isCallable hk with h | h
    · exact ho.kind_of_mem_childrenIn h rfl hp
    · exact ho.kind_of_mem_childrenIn h rfl hp
  · cases hblock : o.paramBlock? with
    | none => simp [hblock] at hp
    | some block =>
      rw [hblock, Option.map_some, Option.getD_some] at hp
      obtain ⟨hin, hkind⟩ := ho.of_paramBlock? hk hblock
      exact ⟨hin.of_mem_childrenIn hp, hin.kind_of_mem_childrenIn hkind rfl hp⟩

/-- A function or method has the parameters read from it. -/
theorem declaredParameters_eq (ho : o.StandsIn s) (hk : o.kind.isCallable = true) :
    o.declaredParameters = .ok (o.parametersOf.map .node) := by
  obtain ⟨hparameters, hbody⟩ := ho.callable_fields hk
  rw [declaredParameters, hparameters, hbody, parametersOf, paramBlock?]
  cases hb : o.childIn? .body with
  | none => exact congrArg Except.ok (by simp)
  | some body =>
    have hbodyIn := ho.childIn hb
    have hbodyKind := ho.kind_of_body hk hb
    have hblock := field?_of_field (hbodyIn.field_child (f := .paramBlock) hbodyKind rfl)
    simp only [Result.ok_bind, Datum.ofChild_some, hblock, Option.getD_some, Option.bind_some,
      Datum.isNull_ofChild]
    cases hp : body.childIn? .paramBlock with
    | none => exact congrArg Except.ok (by simp)
    | some block =>
      have hblockIn := hbodyIn.childIn hp
      have hblockKind : block.kind = .paramBlock := hbodyIn.kind_of_childIn hbodyKind rfl hp
      simp only [Option.isNone_some, Bool.false_eq_true, if_false, Datum.ofChild_some,
        Datum.field_of_node, hblockIn.field_children (f := .parameters) hblockKind rfl,
        Result.ok_bind, Option.map_some, Option.getD_some, List.map_append]
      rfl

end StandsIn

end Occurrence

end ScriptNavigation
