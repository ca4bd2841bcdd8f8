/-
# The probes of the queries at well-typed nodes

What a query does at a node of a well-typed script comes down to the readings of the node:
the variable that an assignment assigns to, the command of a pipeline that reaches over a
column, the file that a command includes, and the symbols whose extents contain a position.
Only accesses to members are left to the inferer.

Main facts:

* `StandsIn.assignedVariable_eq`, `StandsIn.commandIn_eq`, `StandsIn.includedFile_eq`: probes
  that never fail.
* `StandsIn.hitMethod_eq`, `StandsIn.hitPropertyAccess_eq`, `StandsIn.hitMethodCall_eq`: the
  probes for members at a position.
* `StandsIn.outlineFunction_eq`, `StandsIn.outlineVariable_eq`: the probes for the outline.
-/
import ScriptNavigation.Navigation.Cursor
import ScriptNavigation.Navigation.Outline
import ScriptNavigation.Proofs.Reading.Guess

namespace ScriptNavigation

namespace Occurrence

open Query

/-! ## Readings -/

/-- The symbol of a command that reaches over a column. -/
def commandOver? (s : Script) (column : Int) (c : Occurrence) : Option Symbol :=
  if c.kind = .command ∧ c.extent.start.column ≤ column ∧ column ≤ reach s c.extent then
    c.commandSymbol?
  else none

/-- The literal path of the file that a command includes. -/
def includedPath? (o : Occurrence) : Option String :=
  if o.textIn .invocationOperator = "." then
    (o.commandName?.filter fun name => name.kind == .stringConstant).map fun name =>
      name.textIn .value
  else none

/-- The method that a node declares, if it contains a position outside of a body that does
not count. -/
def methodHit? (o : Occurrence) (p : Position) (whole : Bool) : Option Symbol :=
  if whole && (o.childIn? .body).any fun body => body.extent.contains p then none
  else hit p (o.methodSymbol whole)

namespace StandsIn

variable {s : Script} {o : Occurrence} {p : Position} {q : Query}

/-! ## Assignments -/

theorem assignedTo?_eq (ho : o.StandsIn s) (hk : o.kind = .assignment) :
    assignedTo? o = .ok o.target? := by
  have hassigned := ho.assignedExpression_eq hk
  rw [ho.field_child hk rfl, Result.ok_bind] at hassigned
  rw [assignedTo?, ho.field_child hk rfl, Result.ok_bind, hassigned, Result.ok_bind,
    Datum.nodeOf?_ofChild, target?, Result.pure_eq]

theorem assignedVariable_eq (ho : o.StandsIn s) (hk : o.kind = .assignment) :
    assignedVariable o = .ok (o.target?.map Symbol.ofVariable) := by
  rw [assignedVariable, ho.assignedTo?_eq hk]
  rfl

theorem outlineVariable_eq (ho : o.StandsIn s) (hk : o.kind = .assignment) :
    outlineVariable o =
      .ok (if isTopLevel o then (o.target?.map Symbol.ofVariable).toList else []) := by
  rw [outlineVariable, ho.assignedVariable_eq hk, Result.ok_bind]
  cases o.target? with
  | none => cases isTopLevel o <;> rfl
  | some target => cases isTopLevel o <;> rfl

/-! ## Functions and commands -/

theorem outlineFunction_eq (ho : o.StandsIn s) (hk : o.kind = .functionDefinition) :
    outlineFunction o =
      .ok (if (o.parent?.map kind) = some .functionMember then []
        else [o.declaredSymbol o.functionKind true]) := by
  rw [outlineFunction, ho.ofFunction_eq hk]
  split <;> rfl

/-- The first of several elements that is a command and reaches over a column. -/
theorem commandOver_eq (script : Script) (column : Int) {elements : List Occurrence}
    (h : ∀ e ∈ elements, e.StandsIn s) :
    commandOver script column (elements.map .node) =
      .ok (elements.findSome? (commandOver? script column)) := by
  induction elements with
  | nil => rfl
  | cons e rest ih =>
    have ih := ih fun c hc => h c (List.mem_cons_of_mem e hc)
    have hnode : Datum.nodeOf? .command (.node e) = if e.kind = .command then some e else none := by
      rw [← Datum.ofChild_some, Datum.nodeOf?_ofChild, Option.filter_some]
      simp only [beq_iff_eq]
    rw [List.map_cons, commandOver, hnode, List.findSome?_cons, commandOver?]
    by_cases hk : e.kind = .command
    · rw [if_pos hk]
      dsimp only
      rw [(h e List.mem_cons_self).ofCommand_eq hk, Result.ok_bind]
      by_cases hreach : e.extent.start.column ≤ column ∧ column ≤ reach script e.extent
      · rw [if_pos ⟨hk, hreach⟩]
        cases e.commandSymbol? with
        | none => exact ih
        | some C => exact if_pos hreach
      · rw [if_neg fun hboth => hreach hboth.2]
        cases e.commandSymbol? with
        | none => exact ih
        | some C => exact (if_neg hreach).trans ih
    · rw [if_neg hk, if_neg fun hboth => hk hboth.1]
      exact ih

theorem commandIn_eq (ho : o.StandsIn s) (hk : o.kind = .pipeline) (script : Script) :
    commandIn script p o =
      .ok (if o.extent.start.line ≠ p.line then none
        else (o.childrenIn .elements).findSome? (commandOver? script p.column)) := by
  rw [commandIn]
  split
  · rfl
  · rw [ho.field_children hk rfl, Result.ok_bind, Datum.items_ofChildren, Result.ok_bind]
    exact commandOver_eq script p.column fun e he => ho.of_mem_childrenIn he

theorem same_str (a b : String) : Datum.same (.str a) (.str b) = (a == b) := by
  simp [Datum.same, Value.same, Value.sameLeaf]

theorem includedFile_eq (ho : o.StandsIn s) (hk : o.kind = .command) :
    includedFile o = .ok (o.includedPath?.toList.map .str) := by
  rw [includedFile, ho.field_text hk rfl, Result.ok_bind, same_str, includedPath?]
  by_cases hop : o.textIn .invocationOperator = "."
  · rw [hop, if_pos rfl, ho.commandName_eq hk, Result.ok_bind, Datum.nodeOf?_ofChild]
    cases hname : o.commandName?.filter fun name => name.kind == .stringConstant with
    | none => rfl
    | some constant =>
      rw [Option.filter_eq_some_iff, beq_iff_eq] at hname
      have hin := ho.of_mem_childrenIn (List.mem_of_head? hname.1)
      dsimp only
      rw [hin.field_text hname.2 rfl]
      rfl
  · rw [if_neg hop, beq_eq_false_iff_ne.mpr hop]
    rfl

theorem hitCommand_eq (ho : o.StandsIn s) (hk : o.kind = .command) :
    hitCommand p o = .ok (o.commandSymbol?.bind (hit p)) := by
  rw [hitCommand, ho.ofCommand_eq hk]
  rfl

/-! ## Members at a position -/

theorem hitMethod_eq (ho : o.StandsIn s) (hk : o.kind = .functionMember) (p : Position)
    (whole : Bool) : hitMethod p whole o = .ok (o.methodHit? p whole) := by
  rw [hitMethod, methodHit?]
  cases whole with
  | false =>
    simp only [ho.ofMethod_eq hk, Bool.false_eq_true, if_false, Bool.false_and, Result.ok_bind,
      Result.pure_eq]
  | true =>
    simp only [ho.field_child (f := .body) hk rfl, ho.ofMethod_eq hk, Result.ok_bind,
      Datum.isNull_ofChild, if_true, Bool.true_and]
    cases o.childIn? .body with
    | none => rfl
    | some body =>
      simp only [Option.isNone_some, Bool.not_false, if_true, Datum.ofChild_some,
        Datum.extent_of_node, Result.ok_bind, Option.any_some]
      by_cases hbody : body.extent.contains p = true
      · rw [if_pos hbody, if_pos hbody, Result.pure_eq]
      · rw [if_neg hbody, if_neg hbody, Result.pure_eq]

theorem hitPropertyAccess_eq (ho : o.StandsIn s) (hk : o.kind = .memberExpression) :
    q.hitPropertyAccess p o =
      if (o.childIn? .member).isNone || !o.extent.contains p then .ok none
      else (Symbol.ofPropertyAccess q.infer o).map (hit p) := by
  rw [hitPropertyAccess, ho.field_child hk rfl, Result.ok_bind, Datum.isNull_ofChild]
  split
  · rfl
  · cases Symbol.ofPropertyAccess q.infer o <;> rfl

theorem hitMethodCall_eq (ho : o.StandsIn s) (hk : o.kind = .invokeMemberExpression) :
    q.hitMethodCall p o =
      if !o.extent.contains p then .ok none
      else if (o.childIn? .member).any fun member => member.extent.contains p then
        (Symbol.ofMethodCall q.infer o).map some
      else .ok (o.receiverType?.bind fun type => hit p type.typeNameSymbol) := by
  have hreceiver : Datum.nodeOf? .typeExpression (Datum.ofChild (o.childIn? .expression)) =
      o.receiverType? := Datum.nodeOf?_ofChild _ _
  have hname : ∀ type, o.receiverType? = some type →
      Symbol.ofTypeName type = .ok type.typeNameSymbol := by
    intro type htype
    exact (ho.childOf htype).ofTypeName_eq (Or.inl (childOf?_eq_some.mp htype).2)
  rw [hitMethodCall]
  split
  · rfl
  · simp only [ho.field_child (f := .member) hk rfl, ho.field_child (f := .expression) hk rfl,
      Result.ok_bind, Datum.isNull_ofChild, hreceiver]
    cases o.childIn? .member with
    | none =>
      cases htype : o.receiverType? with
      | none => rfl
      | some type => simp [hname type htype]
    | some member =>
      simp only [Option.isNone_some, Bool.not_false, if_true, Datum.ofChild_some,
        Datum.extent_of_node, Result.ok_bind, Option.any_some]
      by_cases hmember : member.extent.contains p = true
      · rw [if_pos hmember, if_pos hmember]
        cases Symbol.ofMethodCall q.infer o <;> rfl
      · rw [if_neg hmember, if_neg hmember]
        cases htype : o.receiverType? with
        | none => rfl
        | some type => simp [hname type htype]

end StandsIn

end Occurrence

end ScriptNavigation
