/-
# What lies under a cursor

A search for the symbol at a position hands out a symbol that contains the position.  This is so
for calls too, where the position is tested on other extents than that of the symbol: the symbol
of a call stands at the member, which is what contains the position, and that of the type on which
the call is made is tested itself.  The search passes by the nodes in front of the one that
answers, or by all nodes if none does.  Those of them that are tested at their names stand for
symbols that do not contain the position, but for commands without elements, which stand for none.

Main facts:

* `contains_of_askAt`: what a node answers contains the position.
* `missedBy_of_askAt`: a node that is tested at its name and has no answer is missed.
* `symbolUnder_contains`: what is found, and what is passed by.
-/
import ScriptNavigation.Proofs.Navigation.CommandReach
import ScriptNavigation.Proofs.Navigation.Located

namespace ScriptNavigation

/-! ## Nodes that are tested at their names -/

namespace NodeKind

/-- Whether nodes of the kind declare something under a name of its own. -/
def declaresName : NodeKind → Bool
  | functionDefinition | configurationDefinition | typeDefinition | functionMember
  | propertyMember => true
  | _ => false

/-- Whether nodes of the kind use what is declared elsewhere, and do so by a name alone. -/
def usesName : NodeKind → Bool
  | command | commandParameter | variableExpression | typeExpression | typeConstraint => true
  | _ => false

/-- Whether a search at a position tests nodes of the kind at their names: uses always, and
declarations unless they are tested over their whole extents. -/
def testedAtName (whole : Bool) (k : NodeKind) : Bool :=
  k.usesName || (!whole && k.declaresName)

end NodeKind

/-- A position misses a node: the symbol that stands at the node does not contain it, or the node
is a command without elements, at which no symbol stands. -/
def Occurrence.MissedBy (o : Occurrence) (infer : Inferer) (p : Position) : Prop :=
  (∃ S, Symbol.standingAt infer o = .ok [S] ∧ S.extent.contains p = false) ∨
    (o.kind = .command ∧ o.childrenIn .elements = [] ∧ Symbol.standingAt infer o = .ok [])

namespace Query

open Occurrence

variable {q : Query} {infer : Inferer} {p : Position} {whole : Bool} {o : Occurrence} {S : Symbol}

/-! ## What a node answers -/

theorem contains_of_hitOf {build : Occurrence → Result Symbol}
    (h : hitOf p build o = .ok (some S)) : S.extent.contains p = true := by
  obtain ⟨C, -, hhit⟩ := Result.map_eq_ok.mp h
  exact (hit_eq_some_iff.mp hhit).2

/-- The symbol of a call contains what its member contains. -/
theorem contains_of_ofMethodCall {member : Occurrence} (ho : o.StandsIn q.script)
    (hk : o.kind = .invokeMemberExpression) (h : Symbol.ofMethodCall infer o = .ok S)
    (hmember : o.childIn? .member = some member) (hcontains : member.extent.contains p = true) :
    S.extent.contains p = true := by
  rw [extent_of_ofMethodCall ho hk h, memberExtent, hmember]
  exact hcontains

/-- The symbol that a call answers with, its own or that of the type, contains the position. -/
theorem contains_of_hitMethodCall (ho : o.StandsIn q.script)
    (hk : o.kind = .invokeMemberExpression) (h : q.hitMethodCall p o = .ok (some S)) :
    S.extent.contains p = true := by
  rw [ho.hitMethodCall_eq hk] at h
  split at h
  · cases h
  · split at h
    · rename_i hmember
      obtain ⟨member, hchild, hcontains⟩ := (Option.any_eq_true _ _).mp hmember
      obtain ⟨C, hC, hsome⟩ := Result.map_eq_ok.mp h
      cases hsome
      exact contains_of_ofMethodCall ho hk hC hchild hcontains
    · obtain ⟨type, -, hhit⟩ := Option.bind_eq_some_iff.mp (Except.ok.inj h)
      exact (hit_eq_some_iff.mp hhit).2

/-- What a node answers contains the position. -/
theorem contains_of_askAt (ho : o.StandsIn q.script)
    (h : askAt (q.locateProbes p whole) o = .ok (some S)) : S.extent.contains p = true := by
  obtain ⟨probe, hprobe, hS⟩ := askAt_eq_some_iff.mp h
  cases hk : o.kind
  all_goals
    rw [hk] at hprobe
    cases hprobe
  case command =>
    rw [ho.hitCommand_eq hk, Except.ok.injEq, Option.bind_eq_some_iff] at hS
    obtain ⟨C, -, hhit⟩ := hS
    exact (hit_eq_some_iff.mp hhit).2
  case functionMember =>
    rw [ho.hitMethod_eq hk, Except.ok.injEq, methodHit?] at hS
    split at hS
    · cases hS
    · exact (hit_eq_some_iff.mp hS).2
  case memberExpression =>
    rw [ho.hitPropertyAccess_eq hk] at hS
    split at hS
    · cases hS
    · obtain ⟨C, -, hhit⟩ := Result.map_eq_ok.mp hS
      exact (hit_eq_some_iff.mp hhit).2
  case invokeMemberExpression => exact contains_of_hitMethodCall ho hk hS
  all_goals exact contains_of_hitOf hS

/-! ## What a search passes by -/

/-- Where the only symbol that stands at a node was tested in vain, the node is missed. -/
theorem missedBy_of_hitOf {build : Occurrence → Result Symbol}
    (hstanding : Symbol.standingAt infer o = (build o).map List.singleton)
    (h : hitOf p build o = .ok none) : o.MissedBy infer p := by
  obtain ⟨C, hC, hhit⟩ := Result.map_eq_ok.mp h
  rw [hC] at hstanding
  exact Or.inl ⟨C, hstanding, hit_eq_none_iff.mp hhit⟩

/-- A command that was tested in vain is missed, or it has no elements. -/
theorem missedBy_of_hitCommand (ho : o.StandsIn q.script) (hk : o.kind = .command)
    (h : hitCommand p o = .ok none) : o.MissedBy infer p := by
  have hstanding : Symbol.standingAt infer o = .ok o.commandSymbol?.toList := by
    rw [Symbol.standingAt, hk]
    exact congrArg (Except.map Option.toList) (ho.ofCommand_eq hk)
  rw [ho.hitCommand_eq hk, Except.ok.injEq] at h
  cases hC : o.commandSymbol? with
  | none =>
    have hempty : o.childrenIn .elements = [] := by
      by_contra hne
      have hsome := isSome_commandSymbol?.mpr hne
      rw [hC] at hsome
      cases hsome
    exact Or.inr ⟨hk, hempty, by rw [hstanding, hC, Option.toList_none]⟩
  | some C =>
    rw [hC] at h
    exact Or.inl ⟨C, by rw [hstanding, hC, Option.toList_some], hit_eq_none_iff.mp h⟩

/-- A method that was tested at its name in vain is missed. -/
theorem missedBy_of_hitMethod (ho : o.StandsIn q.script) (hk : o.kind = .functionMember)
    (h : hitMethod p false o = .ok none) : o.MissedBy infer p := by
  rw [ho.hitMethod_eq hk, Except.ok.injEq, methodHit?, Bool.false_and,
    if_neg Bool.false_ne_true] at h
  refine Or.inl ⟨o.methodSymbol false, ?_, hit_eq_none_iff.mp h⟩
  rw [Symbol.standingAt, hk]
  exact congrArg (Except.map List.singleton) (ho.ofMethod_eq hk false)

/-- A node that is tested at its name and has no answer is missed. -/
theorem missedBy_of_askAt (ho : o.StandsIn q.script) (htested : o.kind.testedAtName whole = true)
    (h : askAt (q.locateProbes p whole) o = .ok none) : o.MissedBy q.infer p := by
  rw [NodeKind.testedAtName, Bool.or_eq_true, Bool.and_eq_true, Bool.not_eq_true'] at htested
  rw [askAt] at h
  cases hk : o.kind
  all_goals
    rw [hk] at h htested
    simp only [NodeKind.usesName, NodeKind.declaresName, Bool.false_eq_true, and_false, or_false,
      and_true, false_or] at htested
  case command => exact missedBy_of_hitCommand ho hk h
  case commandParameter | variableExpression =>
    exact missedBy_of_hitOf (by rw [Symbol.standingAt, hk]; rfl) h
  case typeExpression | typeConstraint =>
    exact missedBy_of_hitOf (by rw [Symbol.standingAt, hk]) h
  all_goals subst htested
  case functionMember => exact missedBy_of_hitMethod ho hk h
  all_goals exact missedBy_of_hitOf (by rw [Symbol.standingAt, hk]) h

/-! ## Searching -/

/-- A search that succeeds finds what the nodes answer first. -/
theorem firstAnswer_of_symbolUnder {found : Option Symbol}
    (h : q.symbolUnder p whole = .ok found) :
    firstAnswer (askAt (q.locateProbes p whole)) q.script.nodes = .ok found := by
  obtain ⟨-, -, h⟩ := Result.bind_eq_ok.mp h
  exact (first_eq_ok_iff.mp h).2

/-- A search for the symbol at a position finds one that contains the position.  It is what some
node answers, and the position misses all nodes before that one that are tested at their names.
If the search finds nothing, the position misses all of them. -/
theorem symbolUnder_contains (hs : q.script.WellTyped) (p : Position) (whole : Bool) :
    (∀ S, q.symbolUnder p whole = .ok (some S) →
      S.extent.contains p = true ∧
        ∃ before o after, q.script.nodes = before ++ o :: after ∧
          askAt (q.locateProbes p whole) o = .ok (some S) ∧
          ∀ n ∈ before, n.kind.testedAtName whole = true → n.MissedBy q.infer p) ∧
      (q.symbolUnder p whole = .ok none →
        ∀ n ∈ q.script.nodes, n.kind.testedAtName whole = true → n.MissedBy q.infer p) := by
  constructor
  · intro S h
    obtain ⟨before, o, after, hsplit, ho, hbefore⟩ :=
      firstAnswer_eq_some_iff.mp (firstAnswer_of_symbolUnder h)
    have hmem : ∀ n ∈ before ++ o :: after, n.StandsIn q.script := fun n hn =>
      .of_mem_nodes hs (hsplit ▸ hn)
    have hin := hmem o (List.mem_append_right before List.mem_cons_self)
    refine ⟨contains_of_askAt hin ho, before, o, after, hsplit, ho, ?_⟩
    intro n hn htested
    exact missedBy_of_askAt (hmem n (List.mem_append_left _ hn)) htested (hbefore n hn)
  · intro h n hn htested
    have hnone := firstAnswer_eq_none_iff.mp (firstAnswer_of_symbolUnder h) n hn
    exact missedBy_of_askAt (.of_mem_nodes hs hn) htested hnone

/-- At the name of a constructor that is called the call is found, and behind the last statement
nothing is. -/
theorem symbolUnder_contains_greeter :
    (∃ S, (Query.on Greeter.script).symbolUnder ⟨1, 62⟩ false = .ok (some S) ∧
      S.kind = .constructor ∧ S.extent.start = ⟨1, 61⟩ ∧ S.extent.contains ⟨1, 62⟩ = true ∧
        ∃ before o after, Greeter.script.nodes = before ++ o :: after ∧
          askAt ((Query.on Greeter.script).locateProbes ⟨1, 62⟩ false) o = .ok (some S) ∧
          ∀ n ∈ before, n.kind.testedAtName false = true →
            n.MissedBy (Query.on Greeter.script).infer ⟨1, 62⟩) ∧
      (Query.on Greeter.script).symbolUnder ⟨1, 80⟩ true = .ok none ∧
      ∀ n ∈ Greeter.script.nodes, n.kind.testedAtName true = true →
        n.MissedBy (Query.on Greeter.script).infer ⟨1, 80⟩ := by
  have hrun : ((Query.on Greeter.script).symbolUnder ⟨1, 62⟩ false).toOption.any
      (fun found => found.any fun S => S.kind == .constructor && S.extent.start == ⟨1, 61⟩) =
        true := by decide +kernel
  have hend : ((Query.on Greeter.script).symbolUnder ⟨1, 80⟩ true).toOption.any Option.isNone =
      true := by decide +kernel
  obtain ⟨found, hfound, hsome⟩ := Result.exists_of_toOption_any hrun
  obtain ⟨S, rfl, hS⟩ := (Option.any_eq_true _ _).mp hsome
  obtain ⟨hkind, hstart⟩ := Bool.and_eq_true_iff.mp hS
  obtain ⟨found', hnone, hisNone⟩ := Result.exists_of_toOption_any hend
  obtain rfl := Option.isNone_iff_eq_none.mp hisNone
  obtain ⟨hcontains, hsplit⟩ := (symbolUnder_contains (q := Query.on Greeter.script)
    Greeter.wellTyped_script ⟨1, 62⟩ false).1 S hfound
  have hmissed := (symbolUnder_contains (q := Query.on Greeter.script)
    Greeter.wellTyped_script ⟨1, 80⟩ true).2 hnone
  exact ⟨⟨S, hfound, eq_of_beq hkind, eq_of_beq hstart, hcontains, hsplit⟩, hnone, hmissed⟩

end Query

end ScriptNavigation
