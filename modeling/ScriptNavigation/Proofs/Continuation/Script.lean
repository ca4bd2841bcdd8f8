/-
# Answers while a script is typed

Typing more statements at the end of a script does not change what the queries answer about
the part that was there before, as long as the statements declare no members of types and do
not start before anything else.  The one thing that may go wrong is a list of references to
a key: it cannot be made once the script has a hashtable with a key that starts behind the
end of its value.

Main facts:

* `Script.Admits`: which statements a script may be continued by.
* `Script.exists_frame`: the last block of a well-typed script is that of a frame.
* `Frame.continues`: the continued script continues the script.
* `Query.answersOn_continued`: all queries go on answering, and no type changes.
* `BackwardKey.references_fail`: references to a key may be lost.
-/
import ScriptNavigation.Proofs.Continuation.Occurrence
import ScriptNavigation.Proofs.Continuation.Query
import ScriptNavigation.Proofs.Mirror.Typed

namespace ScriptNavigation

open Occurrence

/-- The statements that a script may be continued by: they are well typed, declare no members
of types, and none of their nodes starts before a node of the script. -/
structure Script.Admits (s : Script) (extra : List Node) : Prop where
  isTyped : ∀ n ∈ extra, ∀ o ∈ (Occurrence.root n).preorder, o.node.isTyped = true
  noMembers : ∀ n ∈ extra, ∀ o ∈ (Occurrence.root n).preorder,
    o.kind ≠ .functionMember ∧ o.kind ≠ .propertyMember
  behind : ∀ n ∈ extra, ∀ o ∈ (Occurrence.root n).preorder, ∀ p ∈ s.nodes,
    p.extent.start ≤ o.extent.start

namespace Node

namespace Frame

variable {F : Frame} {s : Script} {extra : List Node} {o : Occurrence}

/-! ## Further nodes -/

/-- Each added node is one of a further statement. -/
theorem exists_of_mem_added (ho : o ∈ F.added extra) :
    ∃ n ∈ extra, ∃ p ∈ (Occurrence.root n).preorder, p.node = o.node := by
  obtain ⟨c, hc, ho⟩ := List.mem_flatMap.mp ho
  refine ⟨c.node, ?_, ?_⟩
  · rw [← F.map_node_further extra]
    exact List.mem_map_of_mem hc
  · have hnode : o.node ∈ c.preorder.map Occurrence.node := List.mem_map_of_mem ho
    rw [map_node_preorder] at hnode
    exact List.mem_map.mp hnode

section

variable (hF : s.root = F.root)
include hF

theorem top_eq : s.top = F.top := congrArg Occurrence.root hF

theorem mem_preorder_top (ho : o.StandsIn s) : o ∈ F.top.preorder := top_eq hF ▸ ho.mem

theorem top_continued (source : String) : (s.continued extra source).top = (F.add extra).top := by
  rw [Script.top, Script.continued, hF, continued_root]
  rfl

/-- The nodes of the continued script are those carried over and behind them the added ones. -/
theorem preorder_continued (source : String) : (s.continued extra source).top.preorder =
    s.top.preorder.map (carried extra F.blockIndex) ++ F.added extra := by
  rw [top_continued hF, top_eq hF, preorder_top_add]

/-! ## Types of nodes -/

/-- A node that is carried over stays well typed. -/
theorem isTyped_carried (ho : o.StandsIn s) :
    (carried extra F.blockIndex o).node.isTyped = true := by
  by_cases hne : o = F.last
  · rw [hne, carried_last]
    rw [hne] at ho
    exact F.isTyped_block_add extra ho.isTyped
  · exact (F.readsLike_carried extra (mem_preorder_top hF ho) hne).isTyped (kind_carried o)
      ho.isTyped (Or.inr fun c _ => kind_carried c)

variable (hs : s.WellTyped) (h : s.Admits extra) (source : String)
include hs h

/-- A well-typed script stays well typed when it is continued. -/
theorem wellTyped_continued : (s.continued extra source).WellTyped := by
  intro o' ho'
  rw [preorder_continued hF, List.mem_append] at ho'
  rcases ho' with hcarried | hadded
  · obtain ⟨o, ho, rfl⟩ := List.mem_map.mp hcarried
    exact isTyped_carried hF ⟨hs, ho⟩
  · obtain ⟨n, hn, p, hp, hnode⟩ := exists_of_mem_added hadded
    exact hnode ▸ h.isTyped n hn p hp

theorem standsIn_carried (ho : o.StandsIn s) :
    (carried extra F.blockIndex o).StandsIn (s.continued extra source) := by
  refine ⟨wellTyped_continued hF hs h source, ?_⟩
  rw [preorder_continued hF]
  exact List.mem_append_left _ (List.mem_map_of_mem ho.mem)

/-! ## The continued script -/

/-- The continued script mirrors the script. -/
theorem mirrors : Mirrors s (s.continued extra source) (carried extra F.blockIndex) where
  standsIn ho := standsIn_carried hF hs h source ho
  kind {o} _ := kind_carried o
  extent {o} _ := extent_carried o
  textIn {o} ho f := by
    by_cases hne : o = F.last
    · rw [hne, carried_last]
      -- a list of statements is neither a text nor a flag
      by_cases hf : f = .statements
      · rw [hf]
        rfl
      · exact (F.holdsLike_last extra hf).textIn
    · exact ((F.readsLike_carried extra (mem_preorder_top hF ho) hne).holdsLike f).textIn
  flagIn {o} ho f := by
    by_cases hne : o = F.last
    · rw [hne, carried_last]
      by_cases hf : f = .statements
      · rw [hf]
        rfl
      · exact (F.holdsLike_last extra hf).flagIn
    · exact ((F.readsLike_carried extra (mem_preorder_top hF ho) hne).holdsLike f).flagIn
  childIn? {o} ho f hf := (F.holdsLike_carried extra (mem_preorder_top hF ho) hf).childIn?
  childrenIn {o} ho f hf := (F.holdsLike_carried extra (mem_preorder_top hF ho) hf).childrenIn
  pairsIn {o} ho f hf := (F.holdsLike_carried extra (mem_preorder_top hF ho) hf).pairsIn
  typeAround? {o} _ := by
    rw [typeAround?, typeAround?, ancestors_carried, List.find?_map]
    simp only [Function.comp_def, kind_carried]
  callableAround? {o} _ := by
    rw [callableAround?, callableAround?, ancestors_carried, List.find?_map]
    simp only [Function.comp_def, kind_carried]
  inMethod {o} _ := by
    rw [parent?_carried, Option.map_map]
    simp only [Function.comp_def, kind_carried]
  index {o a} _ _ := by rw [index_carried, index_carried]
  around {o a} _ _ := by
    rw [ancestors_carried, List.any_map]
    simp only [Function.comp_def, index_carried]

/-- The continued script continues the script. -/
theorem continues :
    Continues s (s.continued extra source) (carried extra F.blockIndex) (F.added extra) where
  toMirrors := mirrors hF hs h source
  wellTyped := hs
  nodes := by rw [Script.nodes_eq, Script.nodes_eq, preorder_continued hF]
  depth {o} _ := by rw [ancestors_carried, List.length_map]
  noMembers b hb := by
    obtain ⟨n, hn, p, hp, hnode⟩ := exists_of_mem_added hb
    rw [Occurrence.kind, ← hnode]
    exact h.noMembers n hn p hp
  behind b hb := by
    obtain ⟨n, hn, p, hp, hnode⟩ := exists_of_mem_added hb
    rw [Occurrence.extent, ← hnode]
    exact h.behind n hn p hp

end

end Frame

end Node

/-! ## The last block -/

/-- The last block of a well-typed script is that of a frame. -/
theorem Script.exists_frame {s : Script} {block : Occurrence} (hs : s.WellTyped)
    (hroot : s.root.kind = .scriptBlock)
    (hblock : (s.top.childrenIn .blocks).getLast? = some block) :
    ∃ F : Node.Frame, s.root = F.root ∧ block = F.last := by
  obtain ⟨paramBlock, blocks, hfields, hblocks⟩ :=
    Node.exists_blocks hroot (hs s.top s.top.self_mem_preorder)
  have hne : blocks ≠ [] := by
    rintro rfl
    have hnil : s.top.childrenIn .blocks = [] := by
      rw [Script.top, hfields]
      rfl
    rw [hnil] at hblock
    cases hblock
  have htyped : ∀ c ∈ s.root.children, c.isTyped = true := by
    intro c hc
    have hchild : c ∈ s.top.children.map node := by
      rw [map_node_children]
      exact hc
    obtain ⟨o, ho, rfl⟩ := List.mem_map.mp hchild
    exact hs o (mem_preorder_of_child s.top.self_mem_preorder ho)
  obtain ⟨F, hF⟩ := Node.exists_frame hfields hblocks hne htyped
  rw [Node.Frame.top_eq hF, F.childrenIn_blocks, List.getLast?_append, List.getLast?_singleton,
    Option.some_or, Option.some_inj] at hblock
  exact ⟨F, hF, hblock.symm⟩

/-! ## All answers -/

namespace Greeter

/-- The assignment of the variable of the greeter script to another one, behind the script. -/
def copying : Node :=
  .inLine .assignment 82 "$h = $g"
    [(.left, .node (.inLine .variableExpression 82 "$h"
        [(.name, .str "h"), (.splatted, .bool false)])),
      (.operator, .str "="),
      (.right, .node (.inLine .variableExpression 87 "$g"
        [(.name, .str "g"), (.splatted, .bool false)]))]

end Greeter

namespace Query

/-- When a well-typed script is continued by statements behind those of its last block, all
queries go on answering, and no type of a node changes. -/
theorem answersOn_continued (kind : StandardInferer) {s : Script} {block : Occurrence}
    {extra : List Node} (hs : s.WellTyped) (hroot : s.root.kind = .scriptBlock)
    (hblock : (s.top.childrenIn .blocks).getLast? = some block) (h : s.Admits extra)
    (source : String) :
    ((carried extra block.index block).childrenIn .statements).map node =
        (block.childrenIn .statements).map node ++ extra ∧
      AnswersOn (kind.query (s.continued extra source)) (kind.query s) ∧
      ∀ o ∈ s.nodes,
        carried extra block.index o ∈ (s.continued extra source).nodes ∧
          (carried extra block.index o).index = o.index ∧
          kind.inferer (s.continued extra source) (.node (carried extra block.index o)) =
            kind.inferer s (.node o) := by
  obtain ⟨F, hF, rfl⟩ := Script.exists_frame hs hroot hblock
  have hcontinues := Node.Frame.continues hF hs h source
  refine ⟨F.map_statements_carried extra, hcontinues.answersOn kind, ?_⟩
  intro o ho
  have hin := StandsIn.of_mem_nodes hs ho
  exact ⟨(hcontinues.standsIn hin).mem_nodes, index_carried o,
    hcontinues.inferAlike kind o hin⟩

/-- The greeter script goes on with the assignment of its variable to another one: the
reference there comes behind the one that was found before. -/
theorem answersOn_continued_greeter :
    ∃ refs more,
      (StandardInferer.syntactic.query Greeter.script).references (some Greeter.holder) none =
        .ok refs ∧
      (StandardInferer.syntactic.query (Greeter.script.continued [Greeter.copying]
        (Greeter.source ++ "; $h = $g"))).references (some Greeter.holder) none =
          .ok (refs ++ more) ∧
      refs.length = 1 ∧ more.length = 1 := by
  have hadmits : Greeter.script.Admits [Greeter.copying] :=
    ⟨by decide +kernel, by decide +kernel, by decide +kernel⟩
  have hlast : (Greeter.script.top.childrenIn .blocks).getLast? =
      some (.inside Greeter.script.top 1 Greeter.block) := rfl
  have h := (answersOn_continued .syntactic Greeter.wellTyped_script rfl hlast hadmits
    (Greeter.source ++ "; $h = $g")).2.1
  obtain ⟨refs, more, hrefs, hmore⟩ :=
    h.referencesListed Greeter.holder ⟨⟨_, rfl⟩, nofun⟩ (by decide) none
  have hcount : ((StandardInferer.syntactic.query Greeter.script).references
      (some Greeter.holder) none).toOption.map List.length = some 1 := by decide +kernel
  have hcounts : ((StandardInferer.syntactic.query (Greeter.script.continued [Greeter.copying]
      (Greeter.source ++ "; $h = $g"))).references (some Greeter.holder) none).toOption.map
        List.length = some 2 := by decide +kernel
  rw [hrefs] at hcount
  rw [hmore] at hcounts
  have hone : refs.length = 1 := Option.some_inj.mp hcount
  have htwo : (refs ++ more).length = 2 := Option.some_inj.mp hcounts
  rw [List.length_append] at htwo
  exact ⟨refs, more, hrefs, hmore, hone, by omega⟩

end Query

/-! ## A key behind its value -/

namespace BackwardKey

/-- A hashtable of one key and its value, which are given with their offsets. -/
def table (offset : Nat) (text : String) (key : Nat × String) (value : Nat × String) : Node :=
  .inLine .hashtable offset text
    [(.pairs, .array [.array
      [.node (.word (.inLine key.1 key.2) key.2),
        .node (.word (.inLine value.1 value.2) value.2)]])]

/-- The text of the script. -/
def source : String := "@\x7b a = x \x7d"

/-- A script with a hashtable. -/
def script : Script :=
  .ofRoot (.inLine .scriptBlock 0 source
    [(.paramBlock, .null), (.blocks, .array [.node (.inLine .namedBlock 0 source
      [(.blockKind, .str "end"),
        (.statements, .array [.node (table 0 source (3, "a") (7, "x"))])])])]) (some source) none

/-- A hashtable with its key behind the value. -/
def backward : Node := table 12 "@\x7b y = b \x7d" (19, "b") (15, "y")

/-- The script with the second hashtable. -/
def longer : Script := script.continued [backward] (source ++ "; @\x7b y = b \x7d")

/-- The key of the hashtable, as it may be asked for from outside of the script. -/
def key : Symbol := ⟨.hashtableKey, .str "a", Extent.nowhere.withText .null, none⟩

/-- The references to the key of a hashtable are listed, but not any more when a hashtable
follows in which the key starts behind the end of its value. -/
theorem references_fail :
    script.WellTyped ∧ script.root.kind = .scriptBlock ∧
      (∃ block, (script.top.childrenIn .blocks).getLast? = some block) ∧
      script.Admits [backward] ∧
      (∃ R, (Query.on script).references (some key) none = .ok [R]) ∧
      (Query.on longer).references (some key) none =
        .error (.rejected (.extentReversed ⟨1, 20⟩ ⟨1, 17⟩)) := by
  have hcount : ((Query.on script).references (some key) none).toOption.any
      (fun refs => refs.length == 1) = true := by decide +kernel
  have hfailure : (match (Query.on longer).references (some key) none with
      | .ok _ => none
      | .error e => some e) = some (.rejected (.extentReversed ⟨1, 20⟩ ⟨1, 17⟩)) := by
    decide +kernel
  refine ⟨by decide +kernel, rfl, ⟨_, rfl⟩,
    ⟨by decide +kernel, by decide +kernel, by decide +kernel⟩, ?_, ?_⟩
  · obtain ⟨refs, hrefs, hone⟩ := Result.exists_of_toOption_any hcount
    obtain ⟨R, rfl⟩ := List.length_eq_one_iff.mp (eq_of_beq hone)
    exact ⟨R, hrefs⟩
  · cases hrefs : (Query.on longer).references (some key) none with
    | error e =>
      rw [hrefs] at hfailure
      rw [Option.some_inj.mp hfailure]
    | ok refs =>
      rw [hrefs] at hfailure
      cases hfailure

end BackwardKey

end ScriptNavigation
