/-
# The symbols of a well-typed script are regular

Whatever symbol is built from a node of a well-typed script, its name is a text, and it has
the data of a member, with a text as the owner, exactly when it is a method, a constructor
or a property.  So all of them can be compared, and each one denotes the same as itself.

Main facts:

* `regular_of_ofFunction` and its companions: a symbol that is built is regular.
* `exists_owner_of_ownerVia`: the owner of a member that is accessed is a text.
* `ofMethodCall_total`, `ofPropertyAccess_total`: an inferer that names types never makes an
  access fail.
-/
import ScriptNavigation.Proofs.Reading.Symbol
import ScriptNavigation.Proofs.Reading.Guess
import ScriptNavigation.Proofs.Symbol.Matching

namespace ScriptNavigation

namespace Occurrence

variable {s : Script} {o : Occurrence} {S : Symbol} {whole : Bool} {infer : Inferer}

/-! ## Readings -/

/-- A symbol that is no member is regular when its name is a text. -/
theorem regular_of_plain {kind : SymbolKind} {name : String} {extent : Extent Datum}
    (hknown : kind ≠ .unknown) (hplain : kind.isMember = false) :
    Symbol.Regular ⟨kind, .str name, extent, none⟩ where
  known := hknown
  name := ⟨name, rfl⟩
  plain := fun _ => rfl
  member := fun h => absurd (h.symm.trans hplain) Bool.noConfusion

theorem regular_ofWholeNode (o : Occurrence) {kind : SymbolKind} (hknown : kind ≠ .unknown)
    (hplain : kind.isMember = false) : (Symbol.ofWholeNode kind o).Regular :=
  regular_of_plain hknown hplain

theorem regular_functionSymbol (o : Occurrence) (whole : Bool) :
    (o.declaredSymbol o.functionKind whole).Regular := by
  unfold declaredSymbol functionKind
  cases o.flagIn .isWorkflow with
  | true => exact regular_of_plain (by decide) rfl
  | false => exact regular_of_plain (by decide) rfl

theorem regular_methodSymbol (o : Occurrence) (whole : Bool) : (o.methodSymbol whole).Regular := by
  cases hc : o.flagIn .isConstructor with
  | true =>
    refine ⟨?_, ⟨_, rfl⟩, ?_, fun _ => ⟨_, _, _, rfl, rfl, rfl, ?_⟩⟩
    all_goals simp [methodSymbol, hc, SymbolKind.isMember]
  | false =>
    refine ⟨?_, ⟨_, rfl⟩, ?_, fun _ => ⟨_, _, _, rfl, rfl, rfl, ?_⟩⟩
    all_goals simp [methodSymbol, hc, SymbolKind.isMember]

theorem regular_propertySymbol (o : Occurrence) (whole : Bool) :
    (o.propertySymbol whole).Regular := by
  refine ⟨?_, ⟨_, rfl⟩, ?_, fun _ => ⟨_, _, _, rfl, rfl, rfl, ?_⟩⟩
  all_goals simp [propertySymbol, SymbolKind.isMember]

theorem regular_callSymbol (o : Occurrence) (owner : String) (types : List Datum) :
    (o.callSymbol (.str owner) types).Regular := by
  cases hc : o.isCreation with
  | true =>
    refine ⟨?_, ⟨_, rfl⟩, ?_, fun _ => ⟨_, _, _, rfl, rfl, rfl, ?_⟩⟩
    all_goals simp [callSymbol, hc, SymbolKind.isMember]
  | false =>
    refine ⟨?_, ⟨_, rfl⟩, ?_, fun _ => ⟨_, _, _, rfl, rfl, rfl, ?_⟩⟩
    all_goals simp [callSymbol, hc, SymbolKind.isMember]

theorem regular_accessSymbol (o : Occurrence) (owner : String) :
    (o.accessSymbol (.str owner)).Regular := by
  refine ⟨?_, ⟨_, rfl⟩, ?_, fun _ => ⟨_, _, _, rfl, rfl, rfl, ?_⟩⟩
  all_goals simp [accessSymbol, SymbolKind.isMember]

/-- The owner of a member that is accessed is a text, if the inferer gives an answer. -/
theorem exists_owner_of_ownerVia {owner : Datum} (h : o.ownerVia infer = .ok owner) :
    ∃ name, owner = .str name := by
  unfold ownerVia at h
  split at h
  · cases h
    exact ⟨_, rfl⟩
  · split at h
    · cases h
      exact ⟨_, rfl⟩
    · split at h
      · cases h
        exact ⟨_, rfl⟩
      · obtain ⟨type, -, htype⟩ := Result.bind_eq_ok.mp h
        cases type with
        | null =>
          cases htype
          exact ⟨_, rfl⟩
        | str name =>
          rw [orWildcard_text] at htype
          cases htype
          exact ⟨_, rfl⟩
        | bool | int | float | array | object | node => cases htype

/-- The symbol of a pair is the regular symbol of a key. -/
theorem regular_of_keySymbol? {p : Occurrence × Occurrence} (h : keySymbol? p = .ok (some S)) :
    S.Regular := by
  unfold keySymbol? at h
  split at h
  · obtain ⟨e, -, h⟩ := Result.map_eq_ok.mp h
    cases h
    exact regular_of_plain (by decide) rfl
  · cases h

namespace StandsIn

/-! ## Declarations -/

theorem regular_of_ofFunction (ho : o.StandsIn s) (hk : o.kind = .functionDefinition)
    (h : Symbol.ofFunction o whole = .ok S) : S.Regular := by
  rw [ho.ofFunction_eq hk] at h
  exact Except.ok.inj h ▸ regular_functionSymbol o whole

theorem regular_of_ofConfiguration (ho : o.StandsIn s) (hk : o.kind = .configurationDefinition)
    (h : Symbol.ofConfiguration o whole = .ok S) : S.Regular := by
  rw [ho.ofConfiguration_eq hk] at h
  exact Except.ok.inj h ▸ regular_of_plain (by decide) rfl

theorem regular_of_ofType (ho : o.StandsIn s) (hk : o.kind = .typeDefinition)
    (h : Symbol.ofType o whole = .ok S) : S.Regular := by
  rw [ho.ofType_eq hk] at h
  exact Except.ok.inj h ▸ regular_of_plain (by decide) rfl

theorem regular_of_ofMethod (ho : o.StandsIn s) (hk : o.kind = .functionMember)
    (h : Symbol.ofMethod o whole = .ok S) : S.Regular := by
  rw [ho.ofMethod_eq hk] at h
  exact Except.ok.inj h ▸ regular_methodSymbol o whole

theorem regular_of_ofProperty (ho : o.StandsIn s) (hk : o.kind = .propertyMember)
    (h : Symbol.ofProperty o whole = .ok S) : S.Regular := by
  rw [ho.ofProperty_eq hk] at h
  exact Except.ok.inj h ▸ regular_propertySymbol o whole

/-! ## Uses -/

theorem regular_of_ofCommand (ho : o.StandsIn s) (hk : o.kind = .command)
    (h : Symbol.ofCommand o = .ok (some S)) : S.Regular := by
  rw [ho.ofCommand_eq hk] at h
  obtain ⟨name, -, rfl⟩ := Option.map_eq_some_iff.mp (Except.ok.inj h)
  exact regular_ofWholeNode name (by decide) rfl

theorem regular_of_ofTypeName (ho : o.StandsIn s)
    (hk : o.kind = .typeExpression ∨ o.kind = .typeConstraint)
    (h : Symbol.ofTypeName o = .ok S) : S.Regular := by
  rw [ho.ofTypeName_eq hk] at h
  exact Except.ok.inj h ▸ regular_of_plain (by decide) rfl

theorem regular_of_ofMethodCall (ho : o.StandsIn s) (hk : o.kind = .invokeMemberExpression)
    (h : Symbol.ofMethodCall infer o = .ok S) : S.Regular := by
  rw [ho.ofMethodCall_eq hk, Result.bind_eq_ok] at h
  obtain ⟨owner, howner, h⟩ := h
  obtain ⟨types, -, h⟩ := Result.bind_eq_ok.mp h
  obtain ⟨name, rfl⟩ := exists_owner_of_ownerVia howner
  exact Except.ok.inj h ▸ regular_callSymbol o name types

theorem regular_of_ofPropertyAccess (ho : o.StandsIn s) (hk : o.kind = .memberExpression)
    (h : Symbol.ofPropertyAccess infer o = .ok S) : S.Regular := by
  rw [ho.ofPropertyAccess_eq hk, Result.bind_eq_ok] at h
  obtain ⟨owner, howner, h⟩ := h
  obtain ⟨name, rfl⟩ := exists_owner_of_ownerVia howner
  exact Except.ok.inj h ▸ regular_accessSymbol o name

/-! ## Accesses that can be built -/

/-- An inferer that names types gives each access an owner. -/
theorem ownerVia_total {guess : Occurrence → String} (ho : o.StandsIn s)
    (hinfer : infer.Guesses s guess) : ∃ owner, o.ownerVia infer = .ok owner := by
  unfold ownerVia
  split
  · exact ⟨_, rfl⟩
  · split
    · exact ⟨_, rfl⟩
    · split
      · exact ⟨_, rfl⟩
      · rw [hinfer _ (ho.childIn ‹_›), Result.ok_bind, orWildcard_text]
        exact ⟨_, rfl⟩

/-- An inferer that names types gives each argument of a call a type. -/
theorem mapM_arguments {guess : Occurrence → String} (ho : o.StandsIn s)
    (hinfer : infer.Guesses s guess) :
    ((o.childrenIn .arguments).map Value.node).mapM infer =
      .ok ((o.childrenIn .arguments).map fun argument => .str (guess argument)) := by
  rw [List.mapM_map]
  apply Result.mapM_eq_ok
  intro argument hargument
  exact hinfer argument (ho.of_mem_childrenIn hargument)

theorem ofMethodCall_total {guess : Occurrence → String} (ho : o.StandsIn s)
    (hk : o.kind = .invokeMemberExpression) (hinfer : infer.Guesses s guess) :
    ∃ S, Symbol.ofMethodCall infer o = .ok S := by
  obtain ⟨owner, howner⟩ := ho.ownerVia_total hinfer
  rw [ho.ofMethodCall_eq hk, howner, ho.mapM_arguments hinfer]
  exact ⟨_, rfl⟩

theorem ofPropertyAccess_total {guess : Occurrence → String} (ho : o.StandsIn s)
    (hk : o.kind = .memberExpression) (hinfer : infer.Guesses s guess) :
    ∃ S, Symbol.ofPropertyAccess infer o = .ok S := by
  obtain ⟨owner, howner⟩ := ho.ownerVia_total hinfer
  rw [ho.ofPropertyAccess_eq hk, howner]
  exact ⟨_, rfl⟩

/-! ## Keys -/

theorem regular_of_mem_ofHashtable {keys : List Symbol} (ho : o.StandsIn s)
    (hk : o.kind = .hashtable) (h : Symbol.ofHashtable o = .ok keys) (hS : S ∈ keys) :
    S.Regular := by
  rw [ho.ofHashtable_eq hk, Result.map_eq_ok] at h
  obtain ⟨found, hfound, rfl⟩ := h
  obtain ⟨key, hkey, hid⟩ := List.mem_filterMap.mp hS
  obtain ⟨p, -, hp⟩ := (Result.mem_iff_of_mapM_eq_ok hfound).mp hkey
  rw [id_eq] at hid
  exact regular_of_keySymbol? (hp.trans (congrArg _ hid))

end StandsIn

end Occurrence

/-! ## Symbols asked for from outside of a script -/

namespace Greeter

/-- The constructor of the greeter, by a name in capitals. -/
def creator : Symbol :=
  ⟨.constructor, .str "GREETER", Extent.nowhere.withText .null,
    some { owner := .null, isConstructor := .bool true }⟩

/-- The variable that holds the greeter, with its sigil, in braces and in capitals. -/
def holder : Symbol :=
  ⟨.variableName, .str "$\x7bG\x7d", Extent.nowhere.withText .null, none⟩

end Greeter

end ScriptNavigation
