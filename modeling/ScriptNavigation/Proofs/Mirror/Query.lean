/-
# Probes in scripts that mirror each other

A probe does the same at a node and at its twin, if the inferers of the two queries name the
same types.  Three things are outside of this: the command at a position depends on the
source text, the outline tells whether a variable is assigned in the outermost block, and
nodes that are nobody's twin are not accounted for.

Main facts:

* `Mirrors.askAt_locateProbes`, `Mirrors.askAt_commandIn`, `Mirrors.askAt_declarations`: the
  probes for one answer.
* `Mirrors.listAt_referenceProbes`, `Mirrors.listAt_keys`, `Mirrors.listAt_includedFile`,
  `Mirrors.listAt_outlineProbes`: the probes for lists.
-/
import ScriptNavigation.Navigation.References
import ScriptNavigation.Proofs.Mirror.Reading
import ScriptNavigation.Proofs.Navigation.Answers

namespace ScriptNavigation

namespace Query

/-! ## Matching what is built at a node -/

/-- Matching the probes one by one is matching what they build at a node. -/
theorem askAt_map_matching (table : Option AliasTable) (S : Symbol)
    (probes : Probes (Option Symbol)) (o : Occurrence) :
    askAt (probes.map fun p => (p.1, matching table S p.2)) o =
      matching table S (askAt probes) o := by
  rw [askAt, lookup_map_snd, matching, askAt]
  cases probes.lookup o.kind <;> rfl

/-- Listing what matches probe by probe is listing what they build at a node and matches. -/
theorem listAt_map_matchingList (table : Option AliasTable) (S : Symbol)
    (probes : Probes (Option Symbol)) (o : Occurrence) :
    listAt (probes.map fun p => (p.1, matchingList table S p.2)) o =
      matchingList table S (askAt probes) o := by
  rw [listAt, lookup_map_snd, matchingList, matching, askAt]
  cases probes.lookup o.kind <;> rfl

end Query

namespace Mirrors

open Occurrence Query

variable {s s' : Script} {twin : Occurrence → Occurrence} (h : Mirrors s s' twin)
variable {infer infer' : Inferer} {o : Occurrence} {p : Position}
include h

/-! ## Symbols at a position -/

omit h in
theorem hitOf_congr {build build' : Occurrence → Result Symbol}
    (hbuild : build' (twin o) = build o) :
    hitOf p build' (twin o) = hitOf p build o := by
  rw [hitOf, hitOf, hbuild]

theorem hitCommand (ho : o.StandsIn s) (hk : o.kind = .command) :
    Query.hitCommand p (twin o) = Query.hitCommand p o := by
  rw [Query.hitCommand, Query.hitCommand, h.ofCommand ho hk]

theorem hitMethod (whole : Bool) (ho : o.StandsIn s) (hk : o.kind = .functionMember) :
    Query.hitMethod p whole (twin o) = Query.hitMethod p whole o := by
  rw [(h.standsIn ho).hitMethod_eq ((h.kind ho).trans hk), ho.hitMethod_eq hk,
    h.methodHit? _ _ ho]

theorem hitPropertyAccess
    (hinfer : InferAlike s twin infer' infer)
    (ho : o.StandsIn s) (hk : o.kind = .memberExpression) :
    (Query.mk s' infer' false).hitPropertyAccess p (twin o) =
      (Query.mk s infer false).hitPropertyAccess p o := by
  rw [(h.standsIn ho).hitPropertyAccess_eq ((h.kind ho).trans hk), ho.hitPropertyAccess_eq hk,
    h.childIn? ho (by decide), Option.isNone_map, h.extent ho, h.ofPropertyAccess hinfer ho hk]

theorem hitMethodCall
    (hinfer : InferAlike s twin infer' infer)
    (ho : o.StandsIn s) (hk : o.kind = .invokeMemberExpression) :
    (Query.mk s' infer' false).hitMethodCall p (twin o) =
      (Query.mk s infer false).hitMethodCall p o := by
  have hreceiver : ((twin o).receiverType?.bind fun type => hit p type.typeNameSymbol) =
      o.receiverType?.bind fun type => hit p type.typeNameSymbol := by
    rw [h.receiverType? ho]
    cases hr : o.receiverType? with
    | none => rfl
    | some type =>
      rw [Option.map_some, Option.bind_some, Option.bind_some, h.typeNameSymbol (ho.childOf hr)]
  rw [(h.standsIn ho).hitMethodCall_eq ((h.kind ho).trans hk), ho.hitMethodCall_eq hk,
    h.extent ho, h.any_childIn? (by decide) (fun hc => by rw [h.extent hc]) ho,
    h.ofMethodCall hinfer ho hk, hreceiver]

/-- The symbol at a position is found alike at a node and at its twin. -/
theorem askAt_locateProbes
    (hinfer : InferAlike s twin infer' infer) (whole : Bool) (ho : o.StandsIn s) :
    askAt ((Query.mk s' infer' false).locateProbes p whole) (twin o) =
      askAt ((Query.mk s infer false).locateProbes p whole) o := by
  rw [askAt, askAt, h.kind ho]
  cases hk : o.kind
  case command => exact h.hitCommand ho hk
  case functionDefinition => exact hitOf_congr (h.ofFunction whole ho hk)
  case configurationDefinition => exact hitOf_congr (h.ofConfiguration whole ho hk)
  case commandParameter => exact hitOf_congr (congrArg Except.ok (h.ofWholeNode _ ho))
  case variableExpression => exact hitOf_congr (congrArg Except.ok (h.ofWholeNode _ ho))
  case typeDefinition => exact hitOf_congr (h.ofType whole ho hk)
  case typeExpression => exact hitOf_congr (h.ofTypeName ho (Or.inl hk))
  case typeConstraint => exact hitOf_congr (h.ofTypeName ho (Or.inr hk))
  case propertyMember => exact hitOf_congr (h.ofProperty whole ho hk)
  case functionMember => exact h.hitMethod whole ho hk
  case memberExpression => exact h.hitPropertyAccess hinfer ho hk
  case invokeMemberExpression => exact h.hitMethodCall hinfer ho hk
  all_goals rfl

/-- The command at a position is found alike at a node and at its twin. -/
theorem askAt_commandIn (hsource : s'.source = s.source) (ho : o.StandsIn s) :
    askAt [(.pipeline, commandIn s' p)] (twin o) = askAt [(.pipeline, commandIn s p)] o := by
  have hin := h.standsIn ho
  have hover : ∀ elements : List Occurrence, (∀ e ∈ elements, e.StandsIn s) →
      (elements.map twin).findSome? (Occurrence.commandOver? s' p.column) =
        elements.findSome? (Occurrence.commandOver? s p.column) := by
    intro elements helements
    induction elements with
    | nil => rfl
    | cons e rest ih =>
      rw [List.map_cons, List.findSome?_cons, List.findSome?_cons,
        h.commandOver? hsource _ (helements e List.mem_cons_self),
        ih fun c hc => helements c (List.mem_cons_of_mem e hc)]
  rw [askAt, askAt, h.kind ho]
  cases hk : o.kind
  case pipeline =>
    have hprobe : commandIn s' p (twin o) = commandIn s p o := by
      rw [hin.commandIn_eq ((h.kind ho).trans hk), ho.commandIn_eq hk, h.extent ho,
        h.childrenIn ho (by decide), hover _ fun e he => ho.of_mem_childrenIn he]
    exact hprobe
  all_goals rfl

/-! ## Declarations and references -/

omit h in
theorem always_congr {build build' : Occurrence → Result Symbol}
    (hbuild : build' (twin o) = build o) : always build' (twin o) = always build o := by
  rw [always, always, hbuild]

/-- Declarations of a family are built alike at a node and at its twin. -/
theorem askAt_declarations (family : SymbolKind) (ho : o.StandsIn s) :
    askAt (declarations family) (twin o) = askAt (declarations family) o := by
  rw [askAt, askAt, h.kind ho]
  cases hk : o.kind
  all_goals cases family
  case functionDefinition.function => exact always_congr (h.ofFunction false ho hk)
  case assignment.variableName =>
    have hprobe : assignedVariable (twin o) = assignedVariable o := by
      rw [(h.standsIn ho).assignedVariable_eq ((h.kind ho).trans hk), ho.assignedVariable_eq hk,
        h.map_ofVariable_target? ho]
    exact hprobe
  case typeDefinition.classType => exact always_congr (h.ofType false ho hk)
  case functionMember.method => exact always_congr (h.ofMethod false ho hk)
  case propertyMember.property => exact always_congr (h.ofProperty false ho hk)
  case configurationDefinition.configuration => exact always_congr (h.ofConfiguration false ho hk)
  all_goals rfl

/-- Symbols of a family are built alike at a node and at its twin. -/
theorem askAt_occurrences
    (hinfer : InferAlike s twin infer' infer) (family : SymbolKind) (ho : o.StandsIn s) :
    askAt (occurrences infer' family) (twin o) = askAt (occurrences infer family) o := by
  rw [askAt, askAt, h.kind ho]
  cases hk : o.kind
  all_goals cases family
  case command.function => exact h.ofCommand ho hk
  case functionDefinition.function => exact always_congr (h.ofFunction false ho hk)
  case variableExpression.variableName =>
    exact always_congr (congrArg Except.ok (h.ofWholeNode _ ho))
  case commandParameter.parameter =>
    exact always_congr (congrArg Except.ok (h.ofWholeNode _ ho))
  case typeDefinition.classType => exact always_congr (h.ofType false ho hk)
  case typeExpression.classType => exact always_congr (h.ofTypeName ho (Or.inl hk))
  case typeConstraint.classType => exact always_congr (h.ofTypeName ho (Or.inr hk))
  case functionMember.method => exact always_congr (h.ofMethod false ho hk)
  case invokeMemberExpression.method => exact always_congr (h.ofMethodCall hinfer ho hk)
  case propertyMember.property => exact always_congr (h.ofProperty false ho hk)
  case memberExpression.property => exact always_congr (h.ofPropertyAccess hinfer ho hk)
  case configurationDefinition.configuration => exact always_congr (h.ofConfiguration false ho hk)
  all_goals rfl

/-- A declaration is matched alike at a node and at its twin. -/
theorem askAt_matching (S : Symbol) (ho : o.StandsIn s) :
    askAt ((declarations S.kind.family).map fun p => (p.1, matching none S p.2)) (twin o) =
      askAt ((declarations S.kind.family).map fun p => (p.1, matching none S p.2)) o := by
  rw [askAt_map_matching, askAt_map_matching, matching, matching, h.askAt_declarations _ ho]

theorem matchingPairs (S : Symbol) {ps : List (Occurrence × Occurrence)}
    (hps : ∀ p ∈ ps, p.1.StandsIn s ∧ p.2.StandsIn s) :
    Query.matchingPairs S ((ps.map (Prod.map twin twin)).map Datum.ofPair) =
      Query.matchingPairs S (ps.map Datum.ofPair) := by
  induction ps with
  | nil => rfl
  | cons p ps ih =>
    obtain ⟨hkey, hvalue⟩ := hps p List.mem_cons_self
    rw [List.map_cons, List.map_cons, List.map_cons, Query.matchingPairs, Query.matchingPairs,
      StandsIn.ofPair_eq (h.standsIn hkey), StandsIn.ofPair_eq hkey, h.keySymbol? hkey hvalue,
      ih fun b hb => hps b (List.mem_cons_of_mem p hb)]

/-- The references to a symbol are listed alike at a node and at its twin. -/
theorem listAt_referenceProbes
    (hinfer : InferAlike s twin infer' infer)
    (S : Symbol) (table : Option AliasTable) (ho : o.StandsIn s) :
    listAt ((Query.mk s' infer' false).referenceProbes S table) (twin o) =
      listAt ((Query.mk s infer false).referenceProbes S table) o := by
  rw [referenceProbes, referenceProbes]
  by_cases hkey : S.kind.family = .hashtableKey
  · rw [if_pos hkey, if_pos hkey, listAt, listAt, h.kind ho]
    cases hk : o.kind
    case hashtable =>
      have hprobe : (Symbol.pairsOf (twin o) >>= Query.matchingPairs S) =
          Symbol.pairsOf o >>= Query.matchingPairs S := by
        rw [(h.standsIn ho).pairsOf_eq ((h.kind ho).trans hk), ho.pairsOf_eq hk, Result.ok_bind,
          Result.ok_bind, h.pairsIn ho (by decide),
          h.matchingPairs S fun p hp => ho.of_mem_pairsIn hp]
      exact hprobe
    all_goals rfl
  · rw [if_neg hkey, if_neg hkey, listAt_map_matchingList, listAt_map_matchingList, matchingList,
      matchingList, matching, matching, h.askAt_occurrences hinfer _ ho]

/-! ## Keys, included files and outlines -/

theorem listAt_keys (ho : o.StandsIn s) :
    listAt [(.hashtable, Symbol.ofHashtable)] (twin o) =
      listAt [(.hashtable, Symbol.ofHashtable)] o := by
  rw [listAt, listAt, h.kind ho]
  cases hk : o.kind
  case hashtable => exact h.ofHashtable ho hk
  all_goals rfl

theorem listAt_includedFile (ho : o.StandsIn s) :
    listAt [(.command, includedFile)] (twin o) = listAt [(.command, includedFile)] o := by
  rw [listAt, listAt, h.kind ho]
  cases hk : o.kind
  case command =>
    have hprobe : includedFile (twin o) = includedFile o := by
      rw [(h.standsIn ho).includedFile_eq ((h.kind ho).trans hk), ho.includedFile_eq hk,
        h.includedPath? ho]
    exact hprobe
  all_goals rfl

omit h in
theorem listed_congr {build : Occurrence → Result Symbol} (hbuild : build (twin o) = build o) :
    listed build (twin o) = listed build o := by
  rw [listed, listed, hbuild]

theorem outlineFunction (ho : o.StandsIn s) (hk : o.kind = .functionDefinition) :
    Query.outlineFunction (twin o) = Query.outlineFunction o := by
  rw [(h.standsIn ho).outlineFunction_eq ((h.kind ho).trans hk), ho.outlineFunction_eq hk,
    h.functionKind ho, h.declaredSymbol _ _ ho, if_congr (h.inMethod ho) rfl rfl]

/-- Everything in an outline but the variables is listed alike at a node and at its twin. -/
theorem listAt_outlineProbes (ho : o.StandsIn s) (hk : o.kind ≠ .assignment) :
    listAt outlineProbes (twin o) = listAt outlineProbes o := by
  rw [listAt, listAt, h.kind ho]
  cases hk : o.kind
  case functionDefinition => exact h.outlineFunction ho hk
  case configurationDefinition => exact listed_congr (h.ofConfiguration true ho hk)
  case typeDefinition => exact listed_congr (h.ofType false ho hk)
  case functionMember => exact listed_congr (h.ofMethod false ho hk)
  case propertyMember => exact listed_congr (h.ofProperty false ho hk)
  case assignment => contradiction
  all_goals rfl

end Mirrors

end ScriptNavigation
