/-
# Symbols of well-typed nodes

Every node of a well-typed script that stands for a symbol builds it without a failure: the
symbol is made from the readings of the node.  Only two things are left open.  The owner of
a member that is accessed and the types of the arguments of a call come from an inferer,
which may be any function.  And the extent of a hashtable key is refused when the value
ends before the key starts.

Main facts:

* `StandsIn.ofFunction_eq` and its companions: the symbol of each kind of node.
* `StandsIn.owningType_eq`: where the owner of an access comes from.
* `StandsIn.ofMethodCall_eq`, `StandsIn.ofPropertyAccess_eq`: the symbols of accesses.
* `StandsIn.ofPair_eq`: the symbol of a pair of a hashtable.
-/
import ScriptNavigation.Proofs.Reading.Around
import ScriptNavigation.Symbol.Declared
import ScriptNavigation.Symbol.Used

namespace ScriptNavigation

/-! ## Extents of names -/

/-- The extent of a name inside that of a declaration, or the whole one where that is asked
for or the name does not occur. -/
def Extent.ofName (e : Extent String) (whole : Bool) (name : String) : Extent Datum :=
  wholeExtent (if whole then e else (e.named? name).getD e)

theorem declarationExtent_text (o : Occurrence) (whole : Bool) (name : String) :
    declarationExtent o whole (.str name) = .ok (o.extent.ofName whole name) := by
  cases whole with
  | true => rfl
  | false => exact narrowTo_text o.extent name

namespace Occurrence

variable (o : Occurrence)

/-! ## Readings of declarations -/

/-- The symbol of a node that declares something under the name in its name field. -/
def declaredSymbol (kind : SymbolKind) (whole : Bool) : Symbol :=
  ⟨kind, .str (o.textIn .name), o.extent.ofName whole (o.textIn .name), none⟩

/-- The kind of the symbol of a function definition. -/
def functionKind : SymbolKind := if o.flagIn .isWorkflow then .workflow else .function

/-- The type name in a constraint that may be missing, and a default. -/
def constraintIn (f : Field) (default : String) : String :=
  ((o.childIn? f).map fun constraint => constraint.textIn .typeName).getD default

/-- The type that a parameter is declared to have. -/
def declaredType : String := nameOr (o.constraintIn .typeConstraint "") "Object"

/-- The symbol of the declaration of a method or constructor. -/
def methodSymbol (whole : Bool) : Symbol where
  kind := if o.flagIn .isConstructor then .constructor else .method
  name := .str (o.textIn .name)
  extent := o.extent.ofName whole (o.textIn .name)
  member := some {
    owner := .str (nameOr o.typeNameAround "object")
    isStatic := .bool (o.flagIn .isStatic)
    parameterTypes := (o.childrenIn .parameters).map fun p => .str p.declaredType
    returnType := .str (o.constraintIn .returnType "")
    isConstructor := .bool (o.flagIn .isConstructor) }

/-- The extent of the name of a property, after its sigil if it occurs with one. -/
def propertyExtent : Extent Datum :=
  let name := o.textIn .name
  ((o.extent.findAfterSigil? name).map fun e => e.withText (.str name)).getD
    (o.extent.ofName false name)

/-- The symbol of the declaration of a property. -/
def propertySymbol (whole : Bool) : Symbol where
  kind := .property
  name := .str (o.textIn .name)
  extent := if whole then wholeExtent o.extent else o.propertyExtent
  member := some {
    owner := .str (nameOr o.typeNameAround "object")
    isStatic := .bool (o.flagIn .isStatic)
    returnType := .str (o.constraintIn .propertyType "object") }

/-! ## Readings of uses -/

/-- The first element of a command, which names it. -/
def commandName? : Option Occurrence := (o.childrenIn .elements).head?

/-- The symbol of a command that has elements. -/
def commandSymbol? : Option Symbol :=
  o.commandName?.map fun name => Symbol.ofWholeNode .function name

/-- The symbol of a type name that is used. -/
def typeNameSymbol : Symbol :=
  ⟨.classType, .str (o.textIn .typeName), o.extent.ofName false (o.textIn .typeName), none⟩

/-- The owner of a member that is accessed: literal, by the place of the access, or guessed. -/
def ownerVia (infer : Inferer) : Result Datum :=
  match o.childIn? .expression with
  | none => .ok (.str (nameOr o.typeNameAround "object"))
  | some receiver =>
    if receiver.kind = .typeExpression then .ok (.str (nameOr (receiver.textIn .typeName) "object"))
    else if Text.foldCase receiver.extent.text = "$this" then
      .ok (.str (nameOr o.typeNameAround "object"))
    else infer (.node receiver) >>= orWildcard

/-- The extent of the member that an access names, or that of its name in the access. -/
def memberExtent : Extent Datum :=
  ((o.childIn? .member).map fun member => wholeExtent member.extent).getD
    (o.extent.ofName false o.memberName)

/-- A name, or the text of the member of an access when the name is empty. -/
def nameOrMemberText (name : String) : String :=
  if name = "" then ((o.childIn? .member).map fun member => member.extent.text).getD "" else name

/-- The name under which a call is known: that of the type for the creation of an object. -/
def calledName : String :=
  if o.isCreation then (o.receiverType?.map fun type => type.textIn .typeName).getD ""
  else o.memberName

/-- The symbol of a call, given its owner and the types of its arguments. -/
def callSymbol (owner : Datum) (types : List Datum) : Symbol where
  kind := if o.isCreation then .constructor else .method
  name := .str (o.nameOrMemberText o.calledName)
  extent := o.memberExtent
  member := some {
    owner := owner
    isStatic := .bool (o.flagIn .isStaticAccess)
    parameterTypes := types
    isConstructor := .bool o.isCreation }

/-- The symbol of the access to a property, given its owner. -/
def accessSymbol (owner : Datum) : Symbol where
  kind := .property
  name := .str (o.nameOrMemberText o.memberName)
  extent := o.memberExtent
  member := some { owner := owner, isStatic := .bool (o.flagIn .isStaticAccess) }

/-- The symbol of a pair of a hashtable, none when the key is computed. -/
def keySymbol? (p : Occurrence × Occurrence) : Result (Option Symbol) :=
  if p.1.kind = .stringConstant then
    (Extent.between p.1.extent.start p.2.extent.stop (.str (p.1.textIn .value))
      p.1.extent.file).map fun e => some ⟨.hashtableKey, .str (p.1.textIn .value), e, none⟩
  else .ok none

namespace StandsIn

variable {s : Script} {o}

/-! ## Functions, configurations and types -/

theorem ofFunction_eq (ho : o.StandsIn s) (hk : o.kind = .functionDefinition) (whole : Bool) :
    Symbol.ofFunction o whole = .ok (o.declaredSymbol o.functionKind whole) := by
  simp only [Symbol.ofFunction, ho.field_flag (f := .isWorkflow) hk rfl,
    ho.field_text (f := .name) hk rfl, declarationExtent_text, Result.ok_bind]
  rfl

theorem ofConfiguration_eq (ho : o.StandsIn s) (hk : o.kind = .configurationDefinition)
    (whole : Bool) :
    Symbol.ofConfiguration o whole = .ok (o.declaredSymbol .configuration whole) := by
  simp only [Symbol.ofConfiguration, ho.field_text (f := .name) hk rfl, declarationExtent_text,
    Result.ok_bind]
  rfl

theorem ofType_eq (ho : o.StandsIn s) (hk : o.kind = .typeDefinition) (whole : Bool) :
    Symbol.ofType o whole = .ok (o.declaredSymbol .classType whole) := by
  simp only [Symbol.ofType, ho.field_text (f := .name) hk rfl, declarationExtent_text,
    Result.ok_bind]
  rfl

/-! ## Members -/

/-- A constraint that is there has a type name. -/
theorem field_typeName_of_childIn {k : NodeKind} {f : Field} {c : Occurrence}
    (ho : o.StandsIn s) (hk : o.kind = k)
    (hf : k.schema.lookup f = some (.child (some .typeConstraint))) (hc : o.childIn? f = some c) :
    c.field .typeName = .ok (.str (c.textIn .typeName)) :=
  (ho.childIn hc).field_text (ho.kind_of_childIn hk hf hc) rfl

/-- The type name of a constraint is read from the field that holds the constraint. -/
theorem constraintName_eq {k : NodeKind} {f : Field} (ho : o.StandsIn s) (hk : o.kind = k)
    (hf : k.schema.lookup f = some (.child (some .typeConstraint))) (default : String) :
    (o.field f >>= fun constraint => Symbol.constraintName constraint default) =
      .ok (.str (o.constraintIn f default)) := by
  rw [ho.field_child hk hf, Result.ok_bind, Symbol.constraintName, constraintIn]
  cases hc : o.childIn? f with
  | none => rfl
  | some c => exact ho.field_typeName_of_childIn hk hf hc

/-- The type of a constraint that may be missing is read from the field that holds it. -/
theorem constraintField_eq {k : NodeKind} {f : Field} (ho : o.StandsIn s) (hk : o.kind = k)
    (hf : k.schema.lookup f = some (.child (some .typeConstraint))) (default : String) :
    (do
      let constraint ← o.field f
      if constraint.isNull then return .str default
      constraint.field .typeName) = (.ok (.str (o.constraintIn f default)) : Result Datum) :=
  ho.constraintName_eq hk hf default

/-- A parameter has the type that its constraint names. -/
theorem parameterTypeName_eq (ho : o.StandsIn s) (hk : o.kind = .parameter) :
    Symbol.parameterTypeName (.node o) = .ok (.str o.declaredType) := by
  have hnode : Datum.nodeOf? .parameter (.node o) = some o :=
    (Datum.nodeOf?_ofChild .parameter (some o)).trans (by simp [hk])
  simp only [Symbol.parameterTypeName, hnode, ho.field_child (f := .typeConstraint) hk rfl,
    Result.ok_bind, declaredType, constraintIn]
  cases hc : o.childIn? .typeConstraint with
  | none => rfl
  | some c =>
    simp only [Datum.ofChild_some, Datum.field_of_node, ho.field_typeName_of_childIn hk rfl hc,
      Value.isNull, Bool.false_eq_true, if_false, Result.ok_bind, Option.map_some,
      Option.getD_some, orElse_text, Result.pure_eq]

theorem ofMethod_eq (ho : o.StandsIn s) (hk : o.kind = .functionMember) (whole : Bool) :
    Symbol.ofMethod o whole = .ok (o.methodSymbol whole) := by
  have htypes : ((o.childrenIn .parameters).map Value.node).mapM Symbol.parameterTypeName =
      .ok ((o.childrenIn .parameters).map fun p => .str p.declaredType) := by
    rw [List.mapM_map]
    apply Result.mapM_eq_ok
    intro p hp
    exact (ho.of_mem_childrenIn hp).parameterTypeName_eq
      (ho.kind_of_mem_childrenIn (f := .parameters) hk rfl hp)
  have hreturn := ho.constraintName_eq (f := .returnType) hk rfl ""
  simp only [ho.field_child (f := .returnType) hk rfl, Result.ok_bind] at hreturn
  simp only [Symbol.ofMethod, ho.field_text (f := .name) hk rfl, declarationExtent_text,
    ho.field_flag (f := .isConstructor) hk rfl, ho.surroundingType_eq,
    ho.field_flag (f := .isStatic) hk rfl, ho.field_children (f := .parameters) hk rfl,
    ho.field_child (f := .returnType) hk rfl, Datum.items_ofChildren, htypes, hreturn,
    Result.ok_bind]
  rfl

/-- The name of a property is found with its sigil, or without, or the whole extent counts. -/
theorem propertyNameExtent_eq (o : Occurrence) :
    Symbol.propertyNameExtent o (.str (o.textIn .name)) = .ok o.propertyExtent := by
  have hdisplay : Datum.display (.str (o.textIn .name)) = o.textIn .name := rfl
  rw [Symbol.propertyNameExtent, hdisplay, propertyExtent]
  cases o.extent.findAfterSigil? (o.textIn .name) with
  | none => exact narrowTo_text o.extent (o.textIn .name)
  | some e => rfl

theorem ofProperty_eq (ho : o.StandsIn s) (hk : o.kind = .propertyMember) (whole : Bool) :
    Symbol.ofProperty o whole = .ok (o.propertySymbol whole) := by
  have htype := ho.constraintName_eq (f := .propertyType) hk rfl "object"
  simp only [ho.field_child (f := .propertyType) hk rfl, Result.ok_bind] at htype
  simp only [Symbol.ofProperty, ho.field_text (f := .name) hk rfl, propertyNameExtent_eq,
    ho.surroundingType_eq, ho.field_flag (f := .isStatic) hk rfl,
    ho.field_child (f := .propertyType) hk rfl, htype, Result.ok_bind]
  cases whole with
  | true => rfl
  | false => rfl

/-! ## Commands and type names -/

theorem commandName_eq (ho : o.StandsIn s) (hk : o.kind = .command) :
    Symbol.commandName o = .ok (Datum.ofChild o.commandName?) := by
  rw [Symbol.commandName, if_neg (by simp [hk]), ho.field_children hk rfl, Result.ok_bind,
    Datum.first_ofChildren, commandName?]

theorem ofCommand_eq (ho : o.StandsIn s) (hk : o.kind = .command) :
    Symbol.ofCommand o = .ok o.commandSymbol? := by
  rw [Symbol.ofCommand, ho.commandName_eq hk, Result.ok_bind, commandSymbol?]
  cases o.commandName? with
  | none => rfl
  | some name => rfl

theorem ofTypeName_eq (ho : o.StandsIn s)
    (hk : o.kind = .typeExpression ∨ o.kind = .typeConstraint) :
    Symbol.ofTypeName o = .ok o.typeNameSymbol := by
  have hname : o.field .typeName = .ok (.str (o.textIn .typeName)) := by
    rcases hk with h | h
    · exact ho.field_text h rfl
    · exact ho.field_text h rfl
  simp only [Symbol.ofTypeName, hname, narrowTo_text, Result.ok_bind]
  rfl

/-! ## Accesses to members -/

/-- The owner of a member that is accessed is literal, the type around the access, or guessed
by the inferer. -/
theorem owningType_eq (ho : o.StandsIn s) (hk : o.kind.isMemberAccess = true)
    (infer : Inferer) : Symbol.owningType infer o = o.ownerVia infer := by
  have hnot : (!o.kind.isMemberAccess) = false := by rw [hk]; rfl
  simp only [Symbol.owningType, hnot, (ho.access_fields hk).1, ownerVia, Bool.false_eq_true,
    if_false, Result.ok_bind, Datum.isNodeOf_ofChild, Datum.isNull_ofChild]
  cases hr : o.childIn? .expression with
  | none => exact ho.surroundingType_eq
  | some receiver =>
    have hin := ho.childIn hr
    simp only [Option.any_some, beq_iff_eq, Option.isNone_some, Bool.false_eq_true, if_false,
      Datum.ofChild_some, Datum.field_of_node, Datum.extent_of_node, Result.ok_bind]
    by_cases htype : receiver.kind = .typeExpression
    · rw [if_pos htype, if_pos htype, hin.field_text htype rfl, Result.ok_bind,
        orElse_wildcardType, Result.pure_eq]
    · rw [if_neg htype, if_neg htype, ho.surroundingType_eq]

theorem accessExtent_eq (ho : o.StandsIn s) (hk : o.kind.isMemberAccess = true) :
    Symbol.accessExtent o = .ok o.memberExtent := by
  simp only [Symbol.accessExtent, (ho.access_fields hk).2.1, ho.literalMember_eq hk,
    Result.ok_bind, Datum.isNull_ofChild, memberExtent]
  cases o.childIn? .member with
  | none => exact narrowTo_text o.extent o.memberName
  | some member => rfl

theorem orMemberText_eq (ho : o.StandsIn s) (hk : o.kind.isMemberAccess = true)
    (name : String) :
    Symbol.orMemberText o (.str name) = .ok (.str (o.nameOrMemberText name)) := by
  simp only [Symbol.orMemberText, Value.truthy, bne_iff_ne, (ho.access_fields hk).2.1,
    Result.ok_bind, Datum.isNull_ofChild, nameOrMemberText]
  by_cases hname : name = ""
  · rw [if_neg (by simpa using hname), if_pos hname]
    cases o.childIn? .member with
    | none =>
      subst hname
      rfl
    | some member => rfl
  · rw [if_pos hname, if_neg hname]
    rfl

/-- The receiver of a call that creates an object has a type name. -/
theorem creation_receiver (ho : o.StandsIn s) (h : o.isCreation = true) :
    ∃ type, o.receiverType? = some type ∧ o.childIn? .expression = some type ∧
      type.field .typeName = .ok (.str (type.textIn .typeName)) := by
  rw [isCreation, Bool.and_eq_true, Option.isSome_iff_exists] at h
  obtain ⟨⟨type, htype⟩, -⟩ := h
  obtain ⟨hchild, hkind⟩ := childOf?_eq_some.mp htype
  exact ⟨type, htype, hchild, (ho.childOf htype).field_text hkind rfl⟩

theorem ofMethodCall_eq (ho : o.StandsIn s) (hk : o.kind = .invokeMemberExpression)
    (infer : Inferer) :
    Symbol.ofMethodCall infer o = (do
      let owner ← o.ownerVia infer
      let types ← ((o.childrenIn .arguments).map Value.node).mapM infer
      return o.callSymbol owner types) := by
  have hacc : o.kind.isMemberAccess = true := by rw [hk]; rfl
  simp only [Symbol.ofMethodCall, ho.createsObject_eq hk, ho.literalMember_eq hacc,
    (ho.access_fields hacc).1, ho.accessExtent_eq hacc, ho.owningType_eq hacc,
    (ho.access_fields hacc).2.2, ho.field_children (f := .arguments) hk rfl,
    Datum.items_ofChildren, Result.ok_bind, callSymbol, calledName]
  cases hnew : o.isCreation with
  | false =>
    simp only [Bool.false_eq_true, if_false, ho.orMemberText_eq hacc, Result.ok_bind]
  | true =>
    obtain ⟨type, htype, hchild, hname⟩ := ho.creation_receiver hnew
    simp only [if_true, hchild, Datum.ofChild_some, Datum.field_of_node, hname, htype,
      Option.map_some, Option.getD_some, ho.orMemberText_eq hacc, Result.ok_bind]

theorem ofPropertyAccess_eq (ho : o.StandsIn s) (hk : o.kind = .memberExpression)
    (infer : Inferer) :
    Symbol.ofPropertyAccess infer o = (do
      let owner ← o.ownerVia infer
      return o.accessSymbol owner) := by
  have hacc : o.kind.isMemberAccess = true := by rw [hk]; rfl
  simp only [Symbol.ofPropertyAccess, ho.literalMember_eq hacc, ho.orMemberText_eq hacc,
    ho.accessExtent_eq hacc, ho.owningType_eq hacc, (ho.access_fields hacc).2.2, Result.ok_bind]
  rfl

/-! ## Keys of hashtables -/

theorem ofPair_eq {p : Occurrence × Occurrence} (h : p.1.StandsIn s) :
    Symbol.ofPair (Datum.ofPair p) = keySymbol? p := by
  have hnode : Datum.nodeOf? .stringConstant (.node p.1) =
      if p.1.kind = .stringConstant then some p.1 else none := by
    rw [← Datum.ofChild_some, Datum.nodeOf?_ofChild, Option.filter_some]
    simp only [beq_iff_eq]
  simp only [Symbol.ofPair, Datum.ofPair, Value.items, Result.ok_bind, hnode, keySymbol?]
  by_cases hk : p.1.kind = .stringConstant
  · simp only [if_pos hk, Value.isNull, Bool.false_eq_true, if_false, Datum.extent_of_node,
      h.field_text (f := .value) hk rfl, Result.ok_bind]
    cases Extent.between p.1.extent.start p.2.extent.stop
        (Value.str (p.1.textIn .value) : Datum) p.1.extent.file <;> rfl
  · rw [if_neg hk, if_neg hk]
    rfl

theorem pairsOf_eq (ho : o.StandsIn s) (hk : o.kind = .hashtable) :
    Symbol.pairsOf o = .ok ((o.pairsIn .pairs).map Datum.ofPair) := by
  rw [Symbol.pairsOf, ho.field_pairs hk rfl]
  rfl

/-- The pairs of a hashtable are read one after the other. -/
theorem ofHashtable_eq (ho : o.StandsIn s) (hk : o.kind = .hashtable) :
    Symbol.ofHashtable o =
      ((o.pairsIn .pairs).mapM keySymbol?).map fun keys => keys.filterMap id := by
  have hkeys : ((o.pairsIn .pairs).map Datum.ofPair).mapM Symbol.ofPair =
      (o.pairsIn .pairs).mapM keySymbol? := by
    rw [List.mapM_map]
    apply Result.mapM_congr
    intro p hp
    exact ofPair_eq (ho.of_mem_pairsIn hp).1
  rw [Symbol.ofHashtable, ho.pairsOf_eq hk, Result.ok_bind, hkeys]
  cases (o.pairsIn .pairs).mapM keySymbol? <;> rfl

end StandsIn

end Occurrence

end ScriptNavigation
