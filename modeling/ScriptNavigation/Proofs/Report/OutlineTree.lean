/-
# Members under their classes

The outline is made a tree by names alone: a member goes under the last class before it that
has the name of its owner.  This is the class around it in the script whenever that class has
a name and no class inside another has the same one.  For what stands between a class and a
member of it, in document order, is inside the class, so no class in between can have its
name.

The groups that are built along the nodes are compared with those said by the script: each
node that contributes no member heads a group, and the members of a group are those declared
in its head among the nodes seen so far.

Main facts:

* `foldlM_add_node`: what one more node adds.
* `ofSymbols_outlined`: the groups of an outline are those that the nodes say.
* `outline_children_of_class`: the outline as a tree.
-/
import ScriptNavigation.Proofs.Navigation.Outline
import ScriptNavigation.Proofs.Report.OutlinePlaces
import ScriptNavigation.Proofs.Tree.Ancestors

namespace ScriptNavigation

/-! ## A small script -/

namespace Nested

/-- The text of the script. -/
def source : String := "class A \x7b class B \x7b $p \x7d \x7d"

/-- A script with a class inside another, under the name given; the inner one has a property. -/
def script (inner : String) : Script :=
  .inLine source [.classType (.inLine 0 source) "A"
    [.classType (.inLine 10 "class B \x7b $p \x7d") inner
      [.property (.inLine 20 "$p") "p" .null]]]

end Nested

/-! ## Groups said by the script -/

namespace Occurrence

/-- Whether a node declares a member of a type: the type is the innermost around the node. -/
def declares (c m : Occurrence) : Bool :=
  m.kind.declaresMember && m.typeAround?.any fun a => a.index == c.index

/-- The folded name of the class that a node defines, if it defines one. -/
def className? (o : Occurrence) : Option String :=
  if o.kind = .typeDefinition then some (Text.foldCase (o.textIn .name)) else none

/-- The members declared in a type at some nodes, in the order of the nodes. -/
def membersAmong (os : List Occurrence) (c : Occurrence) : List Symbol :=
  (os.filter c.declares).filterMap outlinedSymbol?

/-- The group that a node heads in an outline, with the members declared at some nodes. -/
def groupAmong (os : List Occurrence) (o : Occurrence) : Option OutlineGroup :=
  if o.kind.declaresMember then none
  else o.outlinedSymbol?.map fun S => ⟨S, o.className?, membersAmong os o⟩

/-- The group of a class with the members given. -/
def typeGroup (c : Occurrence) (members : List Symbol) : OutlineGroup :=
  ⟨c.declaredSymbol .classType false, some (Text.foldCase (c.textIn .name)), members⟩

/-- The groups that some nodes make. -/
def groupsAmong (os : List Occurrence) : List OutlineGroup := os.filterMap (groupAmong os)

variable {os ps : List Occurrence} {c m o : Occurrence} {S : Symbol}

/-- A node that declares no member of a type adds none to it. -/
theorem membersAmong_append_of_not (h : c.declares m = false) :
    membersAmong (os ++ [m]) c = membersAmong os c := by
  rw [membersAmong, List.filter_append, List.filter_cons_of_neg (by simp [h]), List.filter_nil,
    List.append_nil, membersAmong]

/-- A node that declares a member of a type adds it at the end. -/
theorem membersAmong_append (h : c.declares m = true) (hS : m.outlinedSymbol? = some S) :
    membersAmong (os ++ [m]) c = membersAmong os c ++ [S] := by
  rw [membersAmong, List.filter_append, List.filter_cons_of_pos h, List.filter_nil,
    List.filterMap_append, List.filterMap_cons_some hS, List.filterMap_nil, membersAmong]

/-- Groups are the same when no member is added to them. -/
theorem filterMap_groupAmong_append (h : ∀ c ∈ ps, c.declares m = false) :
    ps.filterMap (groupAmong (os ++ [m])) = ps.filterMap (groupAmong os) := by
  apply List.filterMap_congr
  intro c hc
  rw [groupAmong, membersAmong_append_of_not (h c hc), groupAmong]

/-- A node that declares no member is declared in no type. -/
theorem declares_eq_false (h : m.kind.declaresMember = false) : c.declares m = false := by
  rw [declares, h, Bool.false_and]

/-- The name of a group that a node heads is that of the class that the node defines. -/
theorem className_of_groupAmong {g : OutlineGroup} (h : groupAmong os o = some g) :
    g.className = o.className? := by
  unfold groupAmong at h
  split at h
  · cases h
  · obtain ⟨S, -, rfl⟩ := Option.map_eq_some_iff.mp h
    rfl

/-- A node that defines a type heads a group with its name. -/
theorem filterMap_groupAmong_type {before after : List Occurrence} (hk : c.kind = .typeDefinition) :
    (before ++ c :: after).filterMap (groupAmong os) = before.filterMap (groupAmong os) ++
      typeGroup c (membersAmong os c) :: after.filterMap (groupAmong os) := by
  have hgroup : groupAmong os c = some (typeGroup c (membersAmong os c)) := by
    rw [groupAmong, outlinedSymbol?, className?, hk]
    rfl
  rw [List.filterMap_append, List.filterMap_cons_some hgroup]

/-- A node that declares a member heads no group. -/
theorem groupsAmong_append_member (hk : m.kind.declaresMember = true) :
    groupsAmong (os ++ [m]) = os.filterMap (groupAmong (os ++ [m])) := by
  have hgroup : groupAmong (os ++ [m]) m = none := if_pos hk
  rw [groupsAmong, List.filterMap_append, List.filterMap_cons_none hgroup, List.filterMap_nil,
    List.append_nil]

theorem className?_eq_some {name : String} :
    o.className? = some name ↔
      o.kind = .typeDefinition ∧ Text.foldCase (o.textIn .name) = name := by
  unfold className?
  split
  · next hk => simp [hk]
  · next hk => simp [hk]

/-- The class that a symbol of an outline is has the name of the type that the node defines. -/
theorem className?_of_outlined (h : o.outlinedSymbol? = some S) : S.className? = o.className? := by
  have hclass := isClass_of_outlined h
  rw [Symbol.className?, className?]
  by_cases hk : o.kind = .typeDefinition
  · rw [if_pos (hclass.mpr hk), if_pos hk, name_of_outlined_type hk h]
    rfl
  · rw [if_neg (mt hclass.mp hk), if_neg hk]

/-- What a node contributes to an outline can be put into it. -/
theorem outlinable_of_outlined (h : o.outlinedSymbol? = some S) : S.Outlinable := by
  constructor
  · intro hk
    exact ⟨_, name_of_outlined_type ((isClass_of_outlined h).mp hk) h⟩
  · intro hmember m hm
    obtain ⟨S', m', hS', -, hm', howner⟩ :=
      outlined_of_declaresMember ((isMember_of_outlined h).symm.trans hmember)
    obtain rfl : S = S' := Option.some_inj.mp (h.symm.trans hS')
    obtain rfl : m = m' := Option.some_inj.mp (hm.symm.trans hm')
    exact ⟨_, howner⟩

end Occurrence

/-! ## One more node -/

/-- Scripts in which classes can be told by their names: the innermost type around each member
has a name, and a type inside another has a name of its own, up to case. -/
structure Script.TellsClasses (s : Script) : Prop where
  named : ∀ m ∈ s.nodes, m.kind.declaresMember = true →
    ∃ c, m.typeAround? = some c ∧ c.textIn .name ≠ ""
  apart : ∀ c ∈ s.nodes, ∀ d ∈ c.ancestors, c.kind = .typeDefinition → d.kind = .typeDefinition →
    Text.foldCase (c.textIn .name) ≠ Text.foldCase (d.textIn .name)

namespace Script

open Occurrence OutlineGroup

variable {s : Script} {seen rest : List Occurrence} {o c d m : Occurrence} {S : Symbol}

/-- The innermost type around a node of a script is a type definition above the node. -/
theorem of_typeAround? (hm : m ∈ s.nodes) (h : m.typeAround? = some c) :
    c ∈ s.nodes ∧ c ∈ m.ancestors ∧ c.kind = .typeDefinition ∧ c.index < m.index := by
  obtain ⟨habove, hk⟩ := mem_ancestors_of_typeAround? h
  rw [s.nodes_eq] at hm ⊢
  exact ⟨mem_preorder_of_ancestor hm habove, habove, hk,
    index_lt_of_mem_ancestors hm (fun a ha => absurd ha List.not_mem_nil) c habove⟩

/-- A type of a script declares the members of which it is the innermost type around. -/
theorem declares_iff (hc : c ∈ s.nodes) (hm : m ∈ s.nodes) :
    c.declares m = true ↔ m.kind.declaresMember = true ∧ m.typeAround? = some c := by
  rw [declares, Bool.and_eq_true]
  refine and_congr_right fun _ => ⟨fun h => ?_, fun h => ?_⟩
  · obtain ⟨a, ha, hindex⟩ := (Option.any_eq_true _ _).mp h
    have hamem := (of_typeAround? hm ha).1
    rw [s.nodes_eq] at hamem hc
    rw [ha, eq_of_index_eq hamem hc (beq_iff_eq.mp hindex)]
  · rw [h]
    exact beq_self_eq_true c.index

/-- A type does not declare a member of which another type is the innermost around. -/
theorem declares_eq_false_of_ne (hd : d ∈ s.nodes) (hm : m ∈ s.nodes)
    (hc : m.typeAround? = some c) (hne : d.index ≠ c.index) : d.declares m = false := by
  rw [← Bool.not_eq_true, declares_iff hd hm, hc]
  rintro ⟨-, hdc⟩
  exact hne (congrArg index (Option.some.inj hdc).symm)

/-- No node declares a member of a type that comes later. -/
theorem membersAmong_seen (h : s.nodes = seen ++ o :: rest) : membersAmong seen o = [] := by
  have hnone : ∀ m ∈ seen, ¬ o.declares m = true := by
    intro m hm hdeclares
    have hmem : m ∈ s.nodes := h ▸ List.mem_append_left _ hm
    have ho : o ∈ s.nodes := h ▸ List.mem_append_right _ List.mem_cons_self
    obtain ⟨-, -, -, habove⟩ := of_typeAround? hmem ((declares_iff ho hmem).mp hdeclares).2
    exact Nat.lt_asymm habove ((index_lt_of_split h).1 m hm)
  rw [membersAmong, List.filter_eq_nil_iff.mpr hnone, List.filterMap_nil]

/-- A node that declares no member heads a group at the end, if it contributes a symbol. -/
theorem foldlM_add_plain (h : s.nodes = seen ++ o :: rest) (hk : o.kind.declaresMember = false) :
    o.outlinedSymbol?.toList.foldlM add (groupsAmong seen) = .ok (groupsAmong (seen ++ [o])) := by
  have hgroups : groupsAmong (seen ++ [o]) = groupsAmong seen ++ (groupAmong seen o).toList := by
    rw [groupsAmong, filterMap_groupAmong_append fun c _ => declares_eq_false hk,
      List.filterMap_append, groupsAmong]
    cases hg : groupAmong seen o with
    | none => rw [List.filterMap_cons_none hg, List.filterMap_nil, Option.toList_none]
    | some g => rw [List.filterMap_cons_some hg, List.filterMap_nil, Option.toList_some]
  -- a type that is met has no members yet
  rw [hgroups, groupAmong, hk, if_neg Bool.false_ne_true, membersAmong_seen h]
  cases hS : o.outlinedSymbol? with
  | none => exact congrArg Except.ok (List.append_nil _).symm
  | some S =>
    have hplain : S.kind.isMember = false := (isMember_of_outlined hS).trans hk
    rw [Option.toList_some, List.foldlM_cons, (outlinable_of_outlined hS).add_eq,
      Symbol.ownerName?_of_not_isMember hplain, className?_of_outlined hS]
    rfl

/-- Between a class and a member of it no other class has its name. -/
theorem className?_ne_of_between (ht : s.TellsClasses) (hm : m ∈ s.nodes)
    (hc : m.typeAround? = some c) (hd : d ∈ s.nodes) (hcd : c.index < d.index)
    (hdm : d.index < m.index) : d.className? ≠ some (Text.foldCase (c.textIn .name)) := by
  obtain ⟨-, habove, hkc, -⟩ := of_typeAround? hm hc
  intro hname
  obtain ⟨hkd, hfold⟩ := className?_eq_some.mp hname
  have hdeep : c ∈ d.ancestors :=
    mem_ancestors_of_between (s.nodes_eq ▸ hm) (s.nodes_eq ▸ hd) habove hcd hdm
  exact ht.apart d hd c hdeep hkd hkc hfold

/-- The nodes before a member are split at the type around it.  None of the others declares
the member, and none of those behind the type is a class of the same name. -/
theorem exists_split (ht : s.TellsClasses) (h : s.nodes = seen ++ m :: rest)
    (haround : m.typeAround? = some c) :
    ∃ before after, seen = before ++ c :: after ∧ (∀ d ∈ before, d.declares m = false) ∧
      ∀ d ∈ after, d.declares m = false ∧
        d.className? ≠ some (Text.foldCase (c.textIn .name)) := by
  have hm : m ∈ s.nodes := h ▸ List.mem_append_right _ List.mem_cons_self
  obtain ⟨hc, -, -, hlt⟩ := of_typeAround? hm haround
  obtain ⟨before, after, hseen⟩ := List.append_of_mem (mem_of_index_lt h hc hlt)
  have hsplit : s.nodes = before ++ c :: (after ++ m :: rest) := by
    rw [h, hseen, List.append_assoc, List.cons_append]
  refine ⟨before, after, hseen, ?_, ?_⟩
  · intro d hd
    have hdc := (index_lt_of_split hsplit).1 d hd
    exact declares_eq_false_of_ne (hsplit ▸ List.mem_append_left _ hd) hm haround
      (Nat.ne_of_lt hdc)
  · intro d hd
    have hdseen : d ∈ seen := hseen ▸ List.mem_append_right _ (List.mem_cons_of_mem c hd)
    have hdmem : d ∈ s.nodes := h ▸ List.mem_append_left _ hdseen
    have hcd := (index_lt_of_split hsplit).2 d (List.mem_append_left _ hd)
    have hdm := (index_lt_of_split h).1 d hdseen
    exact ⟨declares_eq_false_of_ne hdmem hm haround (Nat.ne_of_gt hcd),
      className?_ne_of_between ht hm haround hdmem hcd hdm⟩

/-- A node that declares a member adds it to the group of the type around it. -/
theorem foldlM_add_member (ht : s.TellsClasses) (h : s.nodes = seen ++ m :: rest)
    (hk : m.kind.declaresMember = true) :
    m.outlinedSymbol?.toList.foldlM add (groupsAmong seen) = .ok (groupsAmong (seen ++ [m])) := by
  have hm : m ∈ s.nodes := h ▸ List.mem_append_right _ List.mem_cons_self
  obtain ⟨c, haround, hname⟩ := ht.named m hm hk
  obtain ⟨hc, -, hkc, -⟩ := of_typeAround? hm haround
  obtain ⟨S, member, hS, hmember, hpart, howner⟩ := outlined_of_declaresMember hk
  have howner : member.owner = .str (c.textIn .name) := by
    rw [howner, typeNameAround, haround, nameOr]
    exact congrArg Value.str (if_neg hname)
  -- the group of the type is the last one with its name, and the only one that changes
  obtain ⟨before, after, hseen, hbefore, hafter⟩ := exists_split ht h haround
  have hgroups : groupsAmong seen = before.filterMap (groupAmong seen) ++
      typeGroup c (membersAmong seen c) :: after.filterMap (groupAmong seen) := by
    rw [groupsAmong, ← filterMap_groupAmong_type hkc, ← hseen]
  have hgroups' : groupsAmong (seen ++ [m]) = before.filterMap (groupAmong seen) ++
      typeGroup c (membersAmong seen c ++ [S]) :: after.filterMap (groupAmong seen) := by
    rw [groupsAmong_append_member hk, hseen, filterMap_groupAmong_type hkc, ← hseen,
      membersAmong_append ((declares_iff hc hm).mpr ⟨hk, haround⟩) hS,
      filterMap_groupAmong_append hbefore,
      filterMap_groupAmong_append fun d hd => (hafter d hd).1]
  have hlast : ∀ g ∈ after.filterMap (groupAmong seen),
      g.className ≠ some (Text.foldCase (c.textIn .name)) := by
    intro g hg
    obtain ⟨d, hd, hdg⟩ := List.mem_filterMap.mp hg
    rw [className_of_groupAmong hdg]
    exact (hafter d hd).2
  have hname : S.ownerName? = some (Text.foldCase (c.textIn .name)) :=
    Symbol.ownerName?_eq_some_iff.mpr ⟨hmember, member, hpart, _, howner, rfl⟩
  rw [hS, Option.toList_some, List.foldlM_cons, hgroups, hgroups',
    (outlinable_of_outlined hS).add_eq, hname, Option.bind_some, attach_append rfl hlast]
  rfl

/-- What one more node adds. -/
theorem foldlM_add_node (ht : s.TellsClasses) (h : s.nodes = seen ++ o :: rest) :
    o.outlinedSymbol?.toList.foldlM add (groupsAmong seen) = .ok (groupsAmong (seen ++ [o])) := by
  cases hk : o.kind.declaresMember with
  | false => exact foldlM_add_plain h hk
  | true => exact foldlM_add_member ht h hk

/-- What the rest of the nodes adds. -/
theorem foldlM_add_nodes (ht : s.TellsClasses) (h : s.nodes = seen ++ rest) :
    (rest.filterMap outlinedSymbol?).foldlM add (groupsAmong seen) =
      .ok (groupsAmong (seen ++ rest)) := by
  induction rest generalizing seen with
  | nil =>
    rw [List.append_nil]
    rfl
  | cons o rest ih =>
    have hcons : (o :: rest).filterMap outlinedSymbol? =
        o.outlinedSymbol?.toList ++ rest.filterMap outlinedSymbol? := by
      rw [List.filterMap_eq_flatMap_toList, List.flatMap_cons, List.filterMap_eq_flatMap_toList]
    have hsplit : s.nodes = (seen ++ [o]) ++ rest := by
      rw [h, List.append_assoc, List.singleton_append]
    rw [hcons, List.foldlM_append, foldlM_add_node ht h, Result.ok_bind, ih hsplit, ← hsplit, ← h]

/-- The outline of a script makes the groups that its nodes say. -/
theorem ofSymbols_outlined (ht : s.TellsClasses) :
    OutlineGroup.ofSymbols (s.nodes.filterMap outlinedSymbol?) = .ok (groupsAmong s.nodes) :=
  foldlM_add_nodes ht (show s.nodes = [] ++ s.nodes from rfl)

/-- The record of a node in the outline of a script as a tree: that of the symbol which the node
contributes, and for a class it lists those of the members declared in it.  A node that declares
a member has no record of its own. -/
def outlineRecord? (s : Script) (o : Occurrence) : Option Datum :=
  if o.kind.declaresMember then none
  else o.outlinedSymbol?.map fun S =>
    .object (S.recordMembers ++
      (if o.kind = .typeDefinition then
        [("children", .array ((membersAmong s.nodes o).map Symbol.record))]
      else []))

theorem record_groupAmong (s : Script) (o : Occurrence) :
    (groupAmong s.nodes o).map OutlineGroup.record = s.outlineRecord? o := by
  rw [groupAmong, outlineRecord?]
  split
  · rfl
  · cases hS : o.outlinedSymbol? with
    | none => rfl
    | some S =>
      rw [Option.map_some, Option.map_some, Option.map_some, OutlineGroup.record]
      simp only [isClass_of_outlined hS]

/-- The outline as a tree has one record for each node that contributes a symbol and declares no
member, in document order.  The record of a class lists those of the members declared in it, in
document order: the nodes that declare a member and have this class as the innermost type around
them. -/
theorem outline_children_of_class (hs : s.WellTyped) (ht : s.TellsClasses) (infer : Inferer) :
    (Query.mk s infer false).outline = .ok (s.nodes.filterMap outlinedSymbol?) ∧
      recordOfOutline (s.nodes.filterMap outlinedSymbol?) =
        .ok (.array (s.nodes.filterMap s.outlineRecord?)) ∧
      ∀ c ∈ s.nodes, ∀ m ∈ s.nodes,
        (c.declares m = true ↔ m.kind.declaresMember = true ∧ m.typeAround? = some c) := by
  refine ⟨Query.outline_eq hs infer, ?_, fun c hc m hm => declares_iff hc hm⟩
  rw [recordOfOutline, ofSymbols_outlined ht, Result.ok_bind, groupsAmong, List.map_filterMap,
    Result.pure_eq]
  simp only [record_groupAmong]

theorem outline_children_of_class_nested :
    (Nested.script "B").TellsClasses ∧
      recordOfOutline ((Nested.script "B").nodes.filterMap outlinedSymbol?) =
        .ok (.array ((Nested.script "B").nodes.filterMap (Nested.script "B").outlineRecord?)) := by
  have htypes : (Nested.script "B").WellTyped := by decide +kernel
  have hnamed : ∀ m ∈ (Nested.script "B").nodes, m.kind.declaresMember = true →
      (m.typeAround?.any fun c => c.textIn .name != "") = true := by decide +kernel
  have hclasses : (Nested.script "B").TellsClasses := by
    refine ⟨fun m hm hk => ?_, by decide +kernel⟩
    obtain ⟨c, hc, hname⟩ := (Option.any_eq_true _ _).mp (hnamed m hm hk)
    exact ⟨c, hc, bne_iff_ne.mp hname⟩
  exact ⟨hclasses, (outline_children_of_class htypes hclasses Inferer.wildcard).2.1⟩

/-- A member of a class without a name stays at the top, even inside a class with one. -/
theorem member_of_unnamed_class_on_top :
    (Nested.script "").WellTyped ∧
      (∀ m ∈ (Nested.script "").nodes, m.kind.declaresMember = true →
        ∃ c ∈ m.ancestors, c.kind = .typeDefinition ∧ c.textIn .name ≠ "") ∧
      (∀ c ∈ (Nested.script "").nodes, ∀ d ∈ c.ancestors, c.kind = .typeDefinition →
        d.kind = .typeDefinition →
          Text.foldCase (c.textIn .name) ≠ Text.foldCase (d.textIn .name)) ∧
      recordOfOutline ((Nested.script "").nodes.filterMap outlinedSymbol?) ≠
        .ok (.array ((Nested.script "").nodes.filterMap (Nested.script "").outlineRecord?)) := by
  refine ⟨by decide +kernel, by decide +kernel, by decide +kernel, fun h => ?_⟩
  have hentries := congrArg (fun record => (record >>= Value.length).toOption) h
  exact absurd hentries (by decide +kernel)

end Script

end ScriptNavigation
