/-
# References in the order of their positions

References are listed in the order of the nodes they stand at, and a node comes before the nodes
below it.  The references to a variable or to a parameter cover their nodes, so in a script that
is laid out they are in the order of their positions too.  The reference of an access stands at
the name of the member, which comes behind the receiver: where a member is accessed of the result
of another access to it, the later name is listed first.  Apart from such chains, and from members
whose names are found in the wrong place of their declarations, references to members are in order
as well.

Main facts:

* `start_of_standing`: where references to variables, parameters and members start.
* `nameStart_le_of_below`: nothing below a node that refers to a symbol starts before its name.
* `references_in_order`: references are listed in the order of their positions.
* `ChainedAccess.references_backwards`: a property of a property of the same name.
-/
import ScriptNavigation.Proofs.Navigation.Located
import ScriptNavigation.Proofs.Navigation.Outline
import ScriptNavigation.Proofs.Navigation.ReferenceClass
import ScriptNavigation.Proofs.Navigation.Totality
import ScriptNavigation.Proofs.Place.Layout

namespace ScriptNavigation

open Occurrence

/-! ## Where names start -/

namespace Occurrence

/-- Where the symbol starts that a node stands for, if it is a variable, a parameter or a
member. -/
def nameStart (o : Occurrence) : Position :=
  match o.kind with
  | .functionMember => (o.extent.ofName false (o.textIn .name)).start
  | .propertyMember => o.propertyExtent.start
  | .memberExpression | .invokeMemberExpression => o.memberExtent.start
  | _ => o.extent.start

variable {s : Script} {o : Occurrence}

theorem nameStart_access (hacc : o.kind.isMemberAccess = true) :
    o.nameStart = o.memberExtent.start := by
  rw [nameStart]
  rcases NodeKind.eq_of_isMemberAccess hacc with hk | hk
  · rw [hk]
  · rw [hk]

theorem nameStart_plain (h : o.kind.declaresMember = false) (hacc : o.kind.isMemberAccess = false) :
    o.nameStart = o.extent.start := by
  rw [nameStart]
  cases hk : o.kind
  case functionMember | propertyMember => rw [hk] at h; cases h
  case memberExpression | invokeMemberExpression => rw [hk] at hacc; cases hacc
  all_goals rfl

/-- An access without a member is all name. -/
theorem memberExtent_of_none (h : o.childIn? .member = none) :
    o.memberExtent.start = o.extent.start := by
  have hname : o.memberName = "" := by
    rw [memberName, childOf?, h]
    rfl
  have hnone : o.extent.named? "" = none := if_pos rfl
  rw [memberExtent, h, hname]
  change ((o.extent.named? "").getD o.extent).start = o.extent.start
  rw [hnone, Option.getD_none]

/-- The name of a node starts within the node. -/
theorem StandsIn.spans_nameStart (ho : o.StandsIn s) (hplaced : s.PlacedBySpans)
    (hlaid : s.LaidOut) : o.extent.Spans o.nameStart := by
  obtain ⟨start, stop, hspan⟩ := hplaced o ho.mem_nodes
  cases hacc : o.kind.isMemberAccess with
  | true =>
    rw [nameStart_access hacc]
    cases hm : o.childIn? .member with
    | none =>
      rw [memberExtent_of_none hm]
      exact o.extent.spans_start
    | some member =>
      obtain ⟨hstart, hstop⟩ :=
        hlaid.within o ho.mem_nodes member (mem_children_of_childIn? hm)
      rw [start_memberExtent hm]
      exact ⟨hstart, Position.le_trans member.extent.start_le_stop hstop⟩
  | false =>
    cases hdeclares : o.kind.declaresMember with
    | false =>
      rw [nameStart_plain hdeclares hacc]
      exact o.extent.spans_start
    | true =>
      rw [nameStart]
      cases hk : o.kind
      case functionMember => exact Extent.spans_ofName hspan _
      case propertyMember => exact spans_propertyExtent hspan
      all_goals
        rw [hk] at hdeclares
        cases hdeclares

end Occurrence

/-- The kinds of symbols whose references are compared by position here: variables, parameters and
members. -/
def SymbolKind.isOrdered (k : SymbolKind) : Bool :=
  k == .variableName || k == .parameter || k.isMember

/-- The nodes that symbols of these kinds stand at. -/
theorem NodeKind.eq_of_ordered {k : NodeKind} {kind : SymbolKind} (hkind : kind.isOrdered = true)
    (h : k.symbolFamily? = some kind.family) :
    (kind.isMember = true ∧ (k.declaresMember = true ∨ k.isMemberAccess = true)) ∨
      k = .variableExpression ∨ k = .commandParameter := by
  revert h hkind
  cases kind <;> cases k <;> decide

namespace Query

variable {s : Script} {infer : Inferer} {o : Occurrence} {S R : Symbol} {standing : List Symbol}

/-- Where references to variables, parameters and members start. -/
theorem start_of_standing (ho : o.StandsIn s) (hkind : S.kind.isOrdered = true)
    (hfam : R.kind.family = S.kind.family) (h : Symbol.standingAt infer o = .ok standing)
    (hR : R ∈ standing) : R.extent.start = o.nameStart := by
  have hfamily := family_of_mem_standingAt h hR
  rw [hfam] at hfamily
  rw [nameStart]
  cases hk : o.kind
  all_goals simp only [Symbol.standingAt, hk] at h
  case variableExpression | commandParameter =>
    cases h
    rw [List.mem_singleton.mp hR]
    rfl
  case functionMember =>
    cases (ho.ofMethod_eq hk false).symm.trans (build_of_mem_singleton h hR)
    rfl
  case propertyMember =>
    cases (ho.ofProperty_eq hk false).symm.trans (build_of_mem_singleton h hR)
    rfl
  case invokeMemberExpression =>
    rw [extent_of_ofMethodCall ho hk (build_of_mem_singleton h hR)]
  case memberExpression =>
    rw [extent_of_ofPropertyAccess ho hk (build_of_mem_singleton h hR)]
  all_goals
    rw [hk] at hfamily
    rcases NodeKind.eq_of_ordered hkind hfamily with ⟨-, h | h⟩ | h | h <;> cases h

end Query

/-! ## References below each other -/

/-- The name of each member is found in front of the parameters, the body or the initial value in
its declaration. -/
def Script.NamesMembersFirst (s : Script) : Prop :=
  ∀ m ∈ s.nodes, m.kind.declaresMember = true → ∀ c ∈ m.children, c.kind ≠ .typeConstraint →
    m.nameStart ≤ c.extent.start

namespace Query

variable {q : Query} {o c d : Occurrence} {S : Symbol}

/-- No access to a member that refers to a symbol has another reference to it in its receiver. -/
def ReceiversFree (q : Query) (S : Symbol) : Prop :=
  ∀ o ∈ q.script.nodes, o.kind.isMemberAccess = true → q.RefersAt S o →
    ∀ r m, o.childIn? .expression = some r → o.childIn? .member = some m →
      ∀ d ∈ r.preorder, ¬ q.RefersAt S d

/-- A node that refers to a symbol is of a kind for its family. -/
theorem RefersAt.symbolFamily? (h : q.RefersAt S o) :
    o.kind.symbolFamily? = some S.kind.family := by
  obtain ⟨C, found, hfound, hC⟩ := h
  obtain ⟨standing, hstanding, hmem, hsame⟩ := exists_standing_of_mem_listAt hfound hC
  rw [← family_eq_of_denotesSame hsame]
  exact family_of_mem_standingAt hstanding hmem

/-- What stands below an access and refers to the same symbol starts behind the name, unless it
is in the receiver. -/
theorem nameStart_le_of_access (ho : o.StandsIn q.script) (hlaid : q.script.LaidOut)
    (hacc : o.kind.isMemberAccess = true) (hfree : q.ReceiversFree S) (hat : q.RefersAt S o)
    (hc : c ∈ o.children) (hd : d ∈ c.preorder) (hat' : q.RefersAt S d) :
    o.nameStart ≤ c.extent.start := by
  have hmem := ho.mem_nodes
  rw [nameStart_access hacc]
  cases hm : o.childIn? .member with
  | none =>
    rw [memberExtent_of_none hm]
    exact (hlaid.within o hmem c hc).1
  | some m =>
    obtain ⟨rest, hchildren⟩ := ho.exists_children_access hacc
    have hpairwise := hlaid.pairwise_children hmem
    rw [hm, Option.toList_some] at hchildren
    rw [hchildren, List.pairwise_append, List.singleton_append, List.pairwise_cons] at hpairwise
    rw [start_memberExtent hm]
    rw [hchildren, List.mem_append, Option.mem_toList, List.singleton_append,
      List.mem_cons] at hc
    rcases hc with hr | rfl | hrest
    · exact absurd hat' (hfree o hmem hacc hat c m hr hm d hd)
    · exact Position.le_refl _
    · exact Position.le_trans m.extent.start_le_stop (hpairwise.2.1.1 c hrest)

/-- What stands below the declaration of a member and refers to the same symbol starts behind the
name. -/
theorem nameStart_le_of_declaration (ho : o.StandsIn q.script)
    (hk : o.kind.declaresMember = true) (hnames : q.script.NamesMembersFirst)
    (hmember : S.kind.isMember = true) (hc : c ∈ o.children) (hd : d ∈ c.preorder)
    (hat' : q.RefersAt S d) : o.nameStart ≤ c.extent.start := by
  by_cases hconstraint : c.kind = .typeConstraint
  · -- a type constraint refers to a class, and there is nothing below it
    exfalso
    rcases mem_preorder_iff.mp hd with rfl | ⟨b, hb, -⟩
    · have hfamily := hat'.symbolFamily?
      rw [hconstraint] at hfamily
      revert hfamily hmember
      cases S.kind <;> decide
    · rw [(ho.child hc).children_typeConstraint hconstraint] at hb
      cases hb
  · exact hnames o ho.mem_nodes hk c hc hconstraint

/-- Nothing below a node that refers to a symbol as well starts before the name at the node. -/
theorem nameStart_le_of_below (ho : o.StandsIn q.script) (hlaid : q.script.LaidOut)
    (hkind : S.kind.isOrdered = true)
    (hmember : S.kind.isMember = true → q.script.NamesMembersFirst ∧ q.ReceiversFree S)
    (hat : q.RefersAt S o) (hc : c ∈ o.children) (hd : d ∈ c.preorder)
    (hat' : q.RefersAt S d) : o.nameStart ≤ c.extent.start := by
  have hwithin := (hlaid.within o ho.mem_nodes c hc).1
  rcases NodeKind.eq_of_ordered hkind hat.symbolFamily? with ⟨hS, hk | hacc⟩ | hk | hk
  · exact nameStart_le_of_declaration ho hk (hmember hS).1 hS hc hd hat'
  · exact nameStart_le_of_access ho hlaid hacc (hmember hS).2 hat hc hd hat'
  · rw [nameStart_plain (by rw [hk]; rfl) (by rw [hk]; rfl)]
    exact hwithin
  · rw [nameStart_plain (by rw [hk]; rfl) (by rw [hk]; rfl)]
    exact hwithin

/-- Of two nodes that refer to a symbol, the earlier one has the earlier name. -/
theorem nameStart_le_of_later (ho : o.StandsIn q.script) (hd : d.StandsIn q.script)
    (hplaced : q.script.PlacedBySpans) (hlaid : q.script.LaidOut)
    (hkind : S.kind.isOrdered = true)
    (hmember : S.kind.isMember = true → q.script.NamesMembersFirst ∧ q.ReceiversFree S)
    (hat : q.RefersAt S o) (hat' : q.RefersAt S d)
    (hplace : (∃ c ∈ o.children, d ∈ c.preorder) ∨ o.extent.stop ≤ d.extent.start) :
    o.nameStart ≤ d.nameStart := by
  obtain ⟨hbehind, -⟩ := hd.spans_nameStart hplaced hlaid
  rcases hplace with ⟨c, hc, hdc⟩ | hplace
  · calc o.nameStart
      _ ≤ c.extent.start := nameStart_le_of_below ho hlaid hkind hmember hat hc hdc hat'
      _ ≤ d.extent.start := (hlaid.within_preorder (ho.child hc).mem_nodes hdc).1
      _ ≤ d.nameStart := hbehind
  · calc o.nameStart
      _ ≤ o.extent.stop := (ho.spans_nameStart hplaced hlaid).2
      _ ≤ d.extent.start := hplace
      _ ≤ d.nameStart := hbehind

end Query

/-! ## A small script -/

namespace PropertyUses

/-- The text of the script. -/
def source : String := "class A \x7b [int] $P \x7d; $a.P; $b.Q.P"

/-- The access to a property of what a node evaluates to. -/
def access (source : String) (start stop : Int) (receiver : Node) (name : String) : Node :=
  .inSource source .memberExpression start stop
    [(.expression, .node receiver),
      (.member, .node (.word (.inSource source (stop - name.toList.length) stop) name)),
      (.isStaticAccess, .bool false)]

/-- A class with a property. -/
def type : Node :=
  .classType (.inSource source 0 20) "A"
    [.property (.inSource source 10 18) "P"
      (.node (.inSource source .typeConstraint 10 15 [(.typeName, .str "int")]))]

/-- A script that declares a property and accesses it twice. -/
def script : Script :=
  .inSource source
    [type, access source 22 26 (.variableUse (.inSource source 22 24) "a") "P",
      access source 28 34
        (access source 28 32 (.variableUse (.inSource source 28 30) "b") "Q") "P"]

/-- The property, as it may be asked for from outside of the script. -/
def property : Symbol :=
  ⟨.property, .str "p", Extent.nowhere.withText (.str "p"), some { owner := .str "object" }⟩

end PropertyUses

/-! ## All references -/

namespace Query

variable {q : Query} {o : Occurrence} {S R : Symbol}

/-- A reference starts at the name of the node it stands at. -/
theorem start_of_listed {found : List Symbol} (ho : o.StandsIn q.script)
    (hkind : S.kind.isOrdered = true)
    (h : listAt (q.referenceProbes S none) o = .ok found) (hR : R ∈ found) :
    q.RefersAt S o ∧ R.extent.start = o.nameStart := by
  obtain ⟨standing, hstanding, hmem, hsame⟩ := exists_standing_of_mem_listAt h hR
  exact ⟨⟨R, found, h, hR⟩,
    start_of_standing ho hkind (family_eq_of_denotesSame hsame) hstanding hmem⟩

/-- The references to a variable or a parameter are listed in the order of their positions.  So
are those to a member, if no access that refers to it has another reference in its receiver and
if the names of members are found in front of what follows them in their declarations.  There is
such a list for every symbol with a text as its name, if types are named for all nodes. -/
theorem references_in_order (hs : q.script.WellTyped) (hplaced : q.script.PlacedBySpans)
    (hlaid : q.script.LaidOut) (hkind : S.kind.isOrdered = true)
    (hmember : S.kind.isMember = true → q.script.NamesMembersFirst ∧ q.ReceiversFree S) :
    (∀ refs, q.references (some S) none = .ok refs →
      refs.Pairwise fun A B => A.extent.start ≤ B.extent.start) ∧
      (q.cancelled = false → q.infer.NamesTypes q.script → S.HasTexts →
        ∃ refs, q.references (some S) none = .ok refs) := by
  constructor
  · intro refs h
    rcases gather_of_references h with ⟨-, rfl⟩ | hgather
    · exact .nil
    obtain ⟨-, lists, hlists, rfl⟩ := gather_eq_ok_iff.mp hgather
    refine Result.pairwise_flatten hlists ?_ (hlaid.pairwise_nodes.imp_of_mem ?_)
    · -- all references at one node start at its name
      intro o ho found hfound
      have hin : o.StandsIn q.script := .of_mem_nodes hs ho
      refine List.pairwise_of_forall_mem_list fun A hA B hB => ?_
      rw [(start_of_listed hin hkind hfound hA).2, (start_of_listed hin hkind hfound hB).2]
      exact Position.le_refl _
    · intro o d ho hd hplace found found' hfound hfound' A hA B hB
      have hin : o.StandsIn q.script := .of_mem_nodes hs ho
      have hin' : d.StandsIn q.script := .of_mem_nodes hs hd
      obtain ⟨hat, hstart⟩ := start_of_listed hin hkind hfound hA
      obtain ⟨hat', hstart'⟩ := start_of_listed hin' hkind hfound' hB
      rw [hstart, hstart']
      exact nameStart_le_of_later hin hin' hplaced hlaid hkind hmember hat hat' hplace
  · intro hq hinfer hS
    have hkey : S.kind ≠ .hashtableKey := by
      intro hk
      rw [hk] at hkind
      cases hkind
    obtain ⟨s, infer, cancelled⟩ := q
    dsimp only at hq
    subst hq
    exact references_total hs hinfer hS hkey none

theorem references_in_order_property :
    ∃ refs, (Query.on PropertyUses.script).references (some PropertyUses.property) none =
        .ok refs ∧
      refs.length = 3 ∧ refs.Pairwise fun A B => A.extent.start ≤ B.extent.start := by
  have hplaced : PropertyUses.script.PlacedBySpans := by
    have hspan : ∀ o ∈ PropertyUses.script.nodes, (Extent.ofSpan PropertyUses.source
        (o.extent.start.column - 1) (o.extent.stop.column - 1) none).toOption =
          some o.extent := by decide +kernel
    exact fun o ho => ⟨_, _, Result.eq_ok_of_toOption (hspan o ho)⟩
  have hnames : PropertyUses.script.NamesMembersFirst := by
    unfold Script.NamesMembersFirst
    decide +kernel
  have hfree : (Query.on PropertyUses.script).ReceiversFree PropertyUses.property := by
    have hnone : ∀ o ∈ PropertyUses.script.nodes, ((o.childIn? .expression).all fun r =>
        r.preorder.all fun d => (listAt ((Query.on PropertyUses.script).referenceProbes
          PropertyUses.property none) d).toOption.any List.isEmpty) = true := by decide +kernel
    rintro o ho - - r m hr - d hd ⟨C, found, hfound, hC⟩
    have hall := hnone o ho
    rw [hr, Option.all_some] at hall
    have hempty := List.all_eq_true.mp hall d hd
    rw [hfound] at hempty
    rw [List.isEmpty_iff.mp hempty] at hC
    cases hC
  have hs : PropertyUses.script.WellTyped := by decide +kernel
  have hrun : ((Query.on PropertyUses.script).references (some PropertyUses.property)
      none).toOption.all (fun refs => refs.length == 3) = true := by decide +kernel
  obtain ⟨hordered, htotal⟩ := references_in_order (q := .on PropertyUses.script) hs hplaced
    ⟨by decide +kernel, by decide +kernel⟩ (by decide) (fun _ => ⟨hnames, hfree⟩)
  obtain ⟨refs, hrefs⟩ := htotal rfl (StandardInferer.namesTypes .syntactic hs)
    ⟨⟨_, rfl⟩, fun m hm => by cases hm; exact .inr ⟨_, rfl⟩⟩
  rw [hrefs] at hrun
  exact ⟨refs, hrefs, eq_of_beq hrun, hordered refs hrefs⟩

end Query

/-! ## A property of a property of the same name -/

namespace ChainedAccess

open PropertyUses

/-- The text of the script. -/
def source : String := "$a.P.P"

/-- A script that accesses a property of what the access to a property of that name gives. -/
def script : Script :=
  .inSource source
    [access source 0 6 (access source 0 4 (.variableUse (.inSource source 0 2) "a") "P") "P"]

/-- The name that is written last is listed first. -/
theorem references_backwards :
    script.WellTyped ∧ script.PlacedBySpans ∧ script.LaidOut ∧
      ∃ refs, (Query.on script).references (some property) none = .ok refs ∧
        ¬ refs.Pairwise fun A B => A.extent.start ≤ B.extent.start := by
  have hspan : ∀ o ∈ script.nodes, (Extent.ofSpan source
      (o.extent.start.column - 1) (o.extent.stop.column - 1) none).toOption = some o.extent := by
    decide +kernel
  have hrun : ((Query.on script).references (some property) none).toOption.any (fun refs =>
      refs.map (fun R => R.extent.start) == [⟨1, 6⟩, ⟨1, 4⟩]) = true := by decide +kernel
  obtain ⟨refs, hrefs, hplaces⟩ := Result.exists_of_toOption_any hrun
  refine ⟨by decide +kernel, fun o ho => ⟨_, _, Result.eq_ok_of_toOption (hspan o ho)⟩,
    ⟨by decide +kernel, by decide +kernel⟩, refs, hrefs, ?_⟩
  rw [← List.pairwise_map (l := refs) (f := fun R => R.extent.start) (R := (· ≤ ·)),
    eq_of_beq hplaces]
  decide

end ChainedAccess

end ScriptNavigation
