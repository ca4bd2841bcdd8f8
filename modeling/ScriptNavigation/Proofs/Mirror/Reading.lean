/-
# Scripts that mirror each other

Two scripts may hold the same nodes at different places, and one of them further nodes
around or behind them.  Each node of the first script then has a twin in the second that
reads the same: it has the same kind, extent, texts and flags, its children are the twins of
the children, and the types and functions around it are twins too.  Only the statements of a
block may differ.  Whatever is built from readings is the same at a node and at its twin.

Main facts:

* `Mirrors`: each node of a script has a twin that reads the same.
* `Mirrors.declaredSymbol`, `Mirrors.methodSymbol`, `Mirrors.callSymbol` and their companions:
  twins stand for the same symbols.
* `Mirrors.ofFunction`, `Mirrors.ofMethodCall`, `Mirrors.ofHashtable` and their companions: the
  builders of symbols do the same at twins, also where they may fail.
-/
import ScriptNavigation.Proofs.Reading.Probe

namespace ScriptNavigation

/-- Each node of a script has a twin in another script that reads the same, but for the
statements of blocks. -/
structure Mirrors (s s' : Script) (twin : Occurrence → Occurrence) : Prop where
  standsIn : ∀ {o}, o.StandsIn s → (twin o).StandsIn s'
  kind : ∀ {o}, o.StandsIn s → (twin o).kind = o.kind
  extent : ∀ {o}, o.StandsIn s → (twin o).extent = o.extent
  textIn : ∀ {o}, o.StandsIn s → ∀ f, (twin o).textIn f = o.textIn f
  flagIn : ∀ {o}, o.StandsIn s → ∀ f, (twin o).flagIn f = o.flagIn f
  childIn? : ∀ {o}, o.StandsIn s → ∀ {f}, f ≠ .statements →
    (twin o).childIn? f = (o.childIn? f).map twin
  childrenIn : ∀ {o}, o.StandsIn s → ∀ {f}, f ≠ .statements →
    (twin o).childrenIn f = (o.childrenIn f).map twin
  pairsIn : ∀ {o}, o.StandsIn s → ∀ {f}, f ≠ .statements →
    (twin o).pairsIn f = (o.pairsIn f).map (Prod.map twin twin)
  typeAround? : ∀ {o}, o.StandsIn s → (twin o).typeAround? = o.typeAround?.map twin
  callableAround? : ∀ {o}, o.StandsIn s → (twin o).callableAround? = o.callableAround?.map twin
  inMethod : ∀ {o}, o.StandsIn s →
    ((twin o).parent?.map Occurrence.kind = some .functionMember ↔
      o.parent?.map Occurrence.kind = some .functionMember)
  index : ∀ {o a}, o.StandsIn s → a.StandsIn s →
    ((twin o).index = (twin a).index ↔ o.index = a.index)
  around : ∀ {o a}, o.StandsIn s → a.StandsIn s →
    ((twin o).ancestors.any fun b => b.index == (twin a).index) =
      o.ancestors.any fun b => b.index == a.index

/-- Two inferers say the same about a node and its twin. -/
def InferAlike (s : Script) (twin : Occurrence → Occurrence) (infer' infer : Inferer) : Prop :=
  ∀ c : Occurrence, c.StandsIn s → infer' (.node (twin c)) = infer (.node c)

namespace Mirrors

open Occurrence

variable {s s' : Script} {twin : Occurrence → Occurrence} (h : Mirrors s s' twin)
variable {o : Occurrence}
include h

/-! ## Readings -/

/-- A reading of a child is the same for the child of the twin. -/
theorem map_childIn? {α : Type} {f : Field} (hf : f ≠ .statements) {read : Occurrence → α}
    (hread : ∀ {c : Occurrence}, c.StandsIn s → read (twin c) = read c) (ho : o.StandsIn s) :
    ((twin o).childIn? f).map read = (o.childIn? f).map read := by
  rw [h.childIn? ho hf]
  cases hc : o.childIn? f with
  | none => rfl
  | some c => rw [Option.map_some, Option.map_some, Option.map_some, hread (ho.childIn hc)]

theorem any_childIn? {f : Field} (hf : f ≠ .statements) {test : Occurrence → Bool}
    (htest : ∀ {c : Occurrence}, c.StandsIn s → test (twin c) = test c) (ho : o.StandsIn s) :
    ((twin o).childIn? f).any test = (o.childIn? f).any test := by
  rw [h.childIn? ho hf]
  cases hc : o.childIn? f with
  | none => rfl
  | some c => rw [Option.map_some, Option.any_some, Option.any_some, htest (ho.childIn hc)]

theorem childOf? {f : Field} (hf : f ≠ .statements) (k : NodeKind) (ho : o.StandsIn s) :
    (twin o).childOf? f k = (o.childOf? f k).map twin := by
  rw [Occurrence.childOf?, Occurrence.childOf?, h.childIn? ho hf]
  cases hc : o.childIn? f with
  | none => rfl
  | some c =>
    rw [Option.map_some, Option.filter_some, Option.filter_some, h.kind (ho.childIn hc)]
    split <;> rfl

/-- A reading of a child of a kind is the same for that of the twin. -/
theorem map_childOf? {α : Type} {f : Field} (hf : f ≠ .statements) (k : NodeKind)
    {read : Occurrence → α}
    (hread : ∀ {c : Occurrence}, c.StandsIn s → read (twin c) = read c) (ho : o.StandsIn s) :
    ((twin o).childOf? f k).map read = (o.childOf? f k).map read := by
  rw [h.childOf? hf k ho]
  cases hc : o.childOf? f k with
  | none => rfl
  | some c => rw [Option.map_some, Option.map_some, Option.map_some, hread (ho.childOf hc)]

theorem constraintIn {f : Field} (hf : f ≠ .statements) (default : String) (ho : o.StandsIn s) :
    (twin o).constraintIn f default = o.constraintIn f default := by
  rw [Occurrence.constraintIn, Occurrence.constraintIn,
    h.map_childIn? hf (fun hc => h.textIn hc _) ho]

theorem typeNameAround (ho : o.StandsIn s) : (twin o).typeNameAround = o.typeNameAround := by
  rw [Occurrence.typeNameAround, Occurrence.typeNameAround, h.typeAround? ho]
  cases ht : o.typeAround? with
  | none => rfl
  | some type =>
    have htype := ho.ancestor (mem_ancestors_of_typeAround? ht).1
    rw [Option.map_some, Option.map_some, Option.map_some, h.textIn htype]

theorem memberName (ho : o.StandsIn s) : (twin o).memberName = o.memberName := by
  rw [Occurrence.memberName, Occurrence.memberName,
    h.map_childOf? (by decide) _ (fun hc => h.textIn hc _) ho]

theorem receiverType? (ho : o.StandsIn s) :
    (twin o).receiverType? = o.receiverType?.map twin :=
  h.childOf? (by decide) _ ho

theorem isCreation (ho : o.StandsIn s) : (twin o).isCreation = o.isCreation := by
  rw [Occurrence.isCreation, Occurrence.isCreation, h.receiverType? ho, Option.isSome_map,
    h.memberName ho]

theorem parametersOf (ho : o.StandsIn s) :
    (twin o).parametersOf = o.parametersOf.map twin := by
  have hblock : (twin o).paramBlock? = o.paramBlock?.map twin := by
    rw [paramBlock?, paramBlock?, h.childIn? ho (by decide)]
    cases hb : o.childIn? .body with
    | none => rfl
    | some body =>
      rw [Option.map_some, Option.bind_some, Option.bind_some,
        h.childIn? (ho.childIn hb) (by decide)]
  rw [Occurrence.parametersOf, Occurrence.parametersOf, h.childrenIn ho (by decide), hblock,
    List.map_append]
  cases hp : o.paramBlock? with
  | none => rfl
  | some block =>
    obtain ⟨body, hbody, hchild⟩ := Option.bind_eq_some_iff.mp hp
    have hin := (ho.childIn hbody).childIn hchild
    rw [Option.map_some, Option.map_some, Option.map_some, Option.getD_some, Option.getD_some,
      h.childrenIn hin (by decide)]

/-! ## Symbols -/

theorem declaredSymbol (kind : SymbolKind) (whole : Bool) (ho : o.StandsIn s) :
    (twin o).declaredSymbol kind whole = o.declaredSymbol kind whole := by
  rw [Occurrence.declaredSymbol, Occurrence.declaredSymbol, h.textIn ho, h.extent ho]

theorem functionKind (ho : o.StandsIn s) : (twin o).functionKind = o.functionKind := by
  rw [Occurrence.functionKind, Occurrence.functionKind, h.flagIn ho]

theorem declaredType (ho : o.StandsIn s) : (twin o).declaredType = o.declaredType := by
  rw [Occurrence.declaredType, Occurrence.declaredType, h.constraintIn (by decide) _ ho]

theorem methodSymbol (whole : Bool) (ho : o.StandsIn s) :
    (twin o).methodSymbol whole = o.methodSymbol whole := by
  have hparameters : ((twin o).childrenIn .parameters).map (fun p => Value.str p.declaredType) =
      (o.childrenIn .parameters).map fun p => (Value.str p.declaredType : Datum) := by
    rw [h.childrenIn ho (by decide), List.map_map]
    apply List.map_congr_left
    intro p hp
    rw [Function.comp_apply, h.declaredType (ho.of_mem_childrenIn hp)]
  rw [Occurrence.methodSymbol, Occurrence.methodSymbol, h.flagIn ho, h.flagIn ho, h.textIn ho,
    h.extent ho, h.typeNameAround ho, hparameters, h.constraintIn (by decide) _ ho]

theorem propertySymbol (whole : Bool) (ho : o.StandsIn s) :
    (twin o).propertySymbol whole = o.propertySymbol whole := by
  rw [Occurrence.propertySymbol, Occurrence.propertySymbol, propertyExtent, propertyExtent,
    h.textIn ho, h.flagIn ho, h.extent ho, h.typeNameAround ho, h.constraintIn (by decide) _ ho]

theorem ofWholeNode (kind : SymbolKind) (ho : o.StandsIn s) :
    Symbol.ofWholeNode kind (twin o) = Symbol.ofWholeNode kind o := by
  rw [Symbol.ofWholeNode, Symbol.ofWholeNode, h.extent ho]

theorem commandName? (ho : o.StandsIn s) :
    (twin o).commandName? = o.commandName?.map twin := by
  rw [Occurrence.commandName?, Occurrence.commandName?, h.childrenIn ho (by decide),
    List.head?_map]

theorem commandSymbol? (ho : o.StandsIn s) : (twin o).commandSymbol? = o.commandSymbol? := by
  rw [Occurrence.commandSymbol?, Occurrence.commandSymbol?, h.commandName? ho]
  cases hname : o.commandName? with
  | none => rfl
  | some name =>
    have hin := ho.of_mem_childrenIn (List.mem_of_head? hname)
    rw [Option.map_some, Option.map_some, Option.map_some, h.ofWholeNode _ hin]

theorem typeNameSymbol (ho : o.StandsIn s) : (twin o).typeNameSymbol = o.typeNameSymbol := by
  rw [Occurrence.typeNameSymbol, Occurrence.typeNameSymbol, h.textIn ho, h.extent ho]

/-! ## Builders of symbols -/

theorem ofFunction (whole : Bool) (ho : o.StandsIn s) (hk : o.kind = .functionDefinition) :
    Symbol.ofFunction (twin o) whole = Symbol.ofFunction o whole := by
  rw [(h.standsIn ho).ofFunction_eq ((h.kind ho).trans hk), ho.ofFunction_eq hk,
    h.functionKind ho, h.declaredSymbol _ _ ho]

theorem ofConfiguration (whole : Bool) (ho : o.StandsIn s)
    (hk : o.kind = .configurationDefinition) :
    Symbol.ofConfiguration (twin o) whole = Symbol.ofConfiguration o whole := by
  rw [(h.standsIn ho).ofConfiguration_eq ((h.kind ho).trans hk), ho.ofConfiguration_eq hk,
    h.declaredSymbol _ _ ho]

theorem ofType (whole : Bool) (ho : o.StandsIn s) (hk : o.kind = .typeDefinition) :
    Symbol.ofType (twin o) whole = Symbol.ofType o whole := by
  rw [(h.standsIn ho).ofType_eq ((h.kind ho).trans hk), ho.ofType_eq hk, h.declaredSymbol _ _ ho]

theorem ofMethod (whole : Bool) (ho : o.StandsIn s) (hk : o.kind = .functionMember) :
    Symbol.ofMethod (twin o) whole = Symbol.ofMethod o whole := by
  rw [(h.standsIn ho).ofMethod_eq ((h.kind ho).trans hk), ho.ofMethod_eq hk, h.methodSymbol _ ho]

theorem ofProperty (whole : Bool) (ho : o.StandsIn s) (hk : o.kind = .propertyMember) :
    Symbol.ofProperty (twin o) whole = Symbol.ofProperty o whole := by
  rw [(h.standsIn ho).ofProperty_eq ((h.kind ho).trans hk), ho.ofProperty_eq hk,
    h.propertySymbol _ ho]

theorem ofCommand (ho : o.StandsIn s) (hk : o.kind = .command) :
    Symbol.ofCommand (twin o) = Symbol.ofCommand o := by
  rw [(h.standsIn ho).ofCommand_eq ((h.kind ho).trans hk), ho.ofCommand_eq hk,
    h.commandSymbol? ho]

theorem ofTypeName (ho : o.StandsIn s) (hk : o.kind = .typeExpression ∨ o.kind = .typeConstraint) :
    Symbol.ofTypeName (twin o) = Symbol.ofTypeName o := by
  have hk' := hk
  rw [← h.kind ho] at hk'
  rw [(h.standsIn ho).ofTypeName_eq hk', ho.ofTypeName_eq hk, h.typeNameSymbol ho]

/-! ## Accesses to members -/

theorem memberExtent (ho : o.StandsIn s) : (twin o).memberExtent = o.memberExtent := by
  rw [Occurrence.memberExtent, Occurrence.memberExtent, h.extent ho, h.memberName ho,
    h.map_childIn? (by decide) (fun hc => by rw [h.extent hc]) ho]

theorem nameOrMemberText (name : String) (ho : o.StandsIn s) :
    (twin o).nameOrMemberText name = o.nameOrMemberText name := by
  rw [Occurrence.nameOrMemberText, Occurrence.nameOrMemberText,
    h.map_childIn? (by decide) (fun hc => by rw [h.extent hc]) ho]

theorem calledName (ho : o.StandsIn s) : (twin o).calledName = o.calledName := by
  rw [Occurrence.calledName, Occurrence.calledName, h.isCreation ho, h.memberName ho,
    Occurrence.receiverType?, Occurrence.receiverType?,
    h.map_childOf? (by decide) _ (fun hc => h.textIn hc _) ho]

theorem callSymbol (owner : Datum) (types : List Datum) (ho : o.StandsIn s) :
    (twin o).callSymbol owner types = o.callSymbol owner types := by
  rw [Occurrence.callSymbol, Occurrence.callSymbol, h.isCreation ho, h.calledName ho,
    h.nameOrMemberText _ ho, h.memberExtent ho, h.flagIn ho]

theorem accessSymbol (owner : Datum) (ho : o.StandsIn s) :
    (twin o).accessSymbol owner = o.accessSymbol owner := by
  rw [Occurrence.accessSymbol, Occurrence.accessSymbol, h.memberName ho, h.nameOrMemberText _ ho,
    h.memberExtent ho, h.flagIn ho]

/-- Inferers that name the same types give an access and its twin the same owner. -/
theorem ownerVia {infer infer' : Inferer}
    (hinfer : InferAlike s twin infer' infer)
    (ho : o.StandsIn s) : (twin o).ownerVia infer' = o.ownerVia infer := by
  rw [Occurrence.ownerVia, Occurrence.ownerVia, h.childIn? ho (by decide), h.typeNameAround ho]
  cases hr : o.childIn? .expression with
  | none => rfl
  | some receiver =>
    have hin := ho.childIn hr
    rw [Option.map_some]
    dsimp only
    rw [h.kind hin, h.textIn hin, h.extent hin, hinfer _ hin]

theorem ofMethodCall {infer infer' : Inferer}
    (hinfer : InferAlike s twin infer' infer)
    (ho : o.StandsIn s) (hk : o.kind = .invokeMemberExpression) :
    Symbol.ofMethodCall infer' (twin o) = Symbol.ofMethodCall infer o := by
  have htypes : (((twin o).childrenIn .arguments).map Value.node).mapM infer' =
      ((o.childrenIn .arguments).map Value.node).mapM infer := by
    rw [h.childrenIn ho (by decide), List.map_map, List.mapM_map, List.mapM_map]
    apply Result.mapM_congr
    intro argument hargument
    exact hinfer _ (ho.of_mem_childrenIn hargument)
  rw [(h.standsIn ho).ofMethodCall_eq ((h.kind ho).trans hk), ho.ofMethodCall_eq hk,
    h.ownerVia hinfer ho, htypes]
  simp only [h.callSymbol _ _ ho]

theorem ofPropertyAccess {infer infer' : Inferer}
    (hinfer : InferAlike s twin infer' infer)
    (ho : o.StandsIn s) (hk : o.kind = .memberExpression) :
    Symbol.ofPropertyAccess infer' (twin o) = Symbol.ofPropertyAccess infer o := by
  rw [(h.standsIn ho).ofPropertyAccess_eq ((h.kind ho).trans hk), ho.ofPropertyAccess_eq hk,
    h.ownerVia hinfer ho]
  simp only [h.accessSymbol _ ho]

/-! ## Keys, commands and assignments -/

theorem keySymbol? {p : Occurrence × Occurrence} (hkey : p.1.StandsIn s) (hvalue : p.2.StandsIn s) :
    Occurrence.keySymbol? (p.map twin twin) = Occurrence.keySymbol? p := by
  rw [Occurrence.keySymbol?, Occurrence.keySymbol?, Prod.map_fst, Prod.map_snd, h.kind hkey,
    h.extent hkey, h.extent hvalue, h.textIn hkey]

theorem ofHashtable (ho : o.StandsIn s) (hk : o.kind = .hashtable) :
    Symbol.ofHashtable (twin o) = Symbol.ofHashtable o := by
  have hkeys : ((twin o).pairsIn .pairs).mapM Occurrence.keySymbol? =
      (o.pairsIn .pairs).mapM Occurrence.keySymbol? := by
    rw [h.pairsIn ho (by decide), List.mapM_map]
    apply Result.mapM_congr
    intro p hp
    obtain ⟨hkey, hvalue⟩ := ho.of_mem_pairsIn hp
    exact h.keySymbol? hkey hvalue
  rw [(h.standsIn ho).ofHashtable_eq ((h.kind ho).trans hk), ho.ofHashtable_eq hk, hkeys]

theorem assigned? (ho : o.StandsIn s) : (twin o).assigned? = o.assigned?.map twin := by
  rw [Occurrence.assigned?, Occurrence.assigned?, h.childIn? ho (by decide)]
  cases hl : o.childIn? .left with
  | none => rfl
  | some left =>
    have hin := ho.childIn hl
    rw [Option.map_some, Option.bind_some, Option.bind_some, h.kind hin]
    split
    · exact h.childIn? hin (by decide)
    · rfl

theorem target? (ho : o.StandsIn s) : (twin o).target? = o.target?.map twin := by
  rw [Occurrence.target?, Occurrence.target?, h.assigned? ho]
  cases ha : o.assigned? with
  | none => rfl
  | some assigned =>
    rw [Option.map_some, Option.filter_some, Option.filter_some, h.kind (ho.assigned ha)]
    split <;> rfl

theorem map_ofVariable_target? (ho : o.StandsIn s) :
    (twin o).target?.map Symbol.ofVariable = o.target?.map Symbol.ofVariable := by
  rw [h.target? ho]
  cases ht : o.target? with
  | none => rfl
  | some target =>
    rw [Option.map_some, Option.map_some, Option.map_some, Symbol.ofVariable,
      h.ofWholeNode _ (ho.target ht).1, Symbol.ofVariable]

theorem leftStart (ho : o.StandsIn s) : (twin o).leftStart = o.leftStart := by
  rw [Occurrence.leftStart, Occurrence.leftStart,
    h.map_childIn? (by decide) (fun hc => by rw [h.extent hc]) ho]

theorem methodHit? (p : Position) (whole : Bool) (ho : o.StandsIn s) :
    (twin o).methodHit? p whole = o.methodHit? p whole := by
  rw [Occurrence.methodHit?, Occurrence.methodHit?, h.methodSymbol whole ho,
    h.any_childIn? (by decide) (fun hc => by rw [h.extent hc]) ho]

theorem includedPath? (ho : o.StandsIn s) : (twin o).includedPath? = o.includedPath? := by
  rw [Occurrence.includedPath?, Occurrence.includedPath?, h.textIn ho, h.commandName? ho]
  cases hname : o.commandName? with
  | none => rfl
  | some name =>
    have hin := ho.of_mem_childrenIn (List.mem_of_head? hname)
    rw [Option.map_some, Option.filter_some, Option.filter_some, h.kind hin]
    split
    · split
      · rw [Option.map_some, Option.map_some, h.textIn hin]
      · rfl
    · rfl

/-- A command and its twin reach over the same columns of the same source text. -/
theorem commandOver? (hsource : s'.source = s.source) (column : Int) (ho : o.StandsIn s) :
    (twin o).commandOver? s' column = o.commandOver? s column := by
  have hreach : Query.reach s' o.extent = Query.reach s o.extent := by
    rw [Query.reach, Query.reach, Script.line, Script.line, hsource]
  rw [Occurrence.commandOver?, Occurrence.commandOver?, h.kind ho, h.extent ho, hreach,
    h.commandSymbol? ho]

end Mirrors

end ScriptNavigation
