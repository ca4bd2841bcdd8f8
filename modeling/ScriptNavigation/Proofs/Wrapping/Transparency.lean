/-
# Nodes of no known kind are transparent

A query asks nothing of a node of no known kind and goes on into the nodes that it nests.  So
when a statement is wrapped into such a node, all queries answer as they did before, in the
same order and with the same failures, and every node has the type that it had.  The outline
alone is affected, and only in its variables: a wrapped assignment may stand too deep to be
part of the outermost block.

Main facts:

* `firstAnswer_wrapped`, `gathered_wrapped`: a wrapper at which nothing is answered does not
  change the answers.
* `IsStatementOf.inferer_twin`: a node and its twin have the same type.
* `IsStatementOf.symbolUnder_wrapped` and its companions: each query answers as before.
* `Query.answersLike_wrapped`: wrapping a statement changes no answer.
-/
import ScriptNavigation.Proofs.Mirror.Guess
import ScriptNavigation.Proofs.Mirror.Query
import ScriptNavigation.Proofs.Navigation.Catalogue
import ScriptNavigation.Proofs.Wrapping.Mirror

namespace ScriptNavigation

namespace Query

open Occurrence

section

variable {α : Type} {extent : Extent String} {originalKind : String} {j : Nat}
variable {os : List Occurrence}

/-! ## Answers that do not come from the wrapper -/

/-- If nothing is answered at wrappers and twins answer like the nodes, the first answer stays
the same. -/
theorem firstAnswer_wrapped {ask' ask : Occurrence → Result (Option α)}
    (hwrapper : ∀ w, w.kind = .generic → ask' w = .ok none)
    (htwin : ∀ o ∈ os, ask' (twin extent originalKind j o) = ask o) :
    firstAnswer ask' (os.flatMap (wrappedAndTwin extent originalKind j)) = firstAnswer ask os := by
  induction os with
  | nil => rfl
  | cons o os ih =>
    have hrest := ih fun p hp => htwin p (List.mem_cons_of_mem o hp)
    -- behind the wrapper, if there is one, the twin answers like the node
    have hafter : firstAnswer ask' (twin extent originalKind j o ::
        os.flatMap (wrappedAndTwin extent originalKind j)) = firstAnswer ask (o :: os) := by
      rw [firstAnswer, firstAnswer, htwin o List.mem_cons_self, hrest]
    rw [List.flatMap_cons, wrappedAndTwin, List.append_assoc, List.singleton_append]
    cases hw : wrapping? extent originalKind j o with
    | none => exact hafter
    | some w =>
      rw [Option.toList_some, List.singleton_append, firstAnswer,
        hwrapper w (kind_of_wrapping? hw), Result.ok_bind]
      exact hafter

/-- If nothing is listed at wrappers and twins list like the nodes what is kept, then what is
kept stays the same. -/
theorem gathered_wrapped {ask' ask : Occurrence → Result (List α)} (keep : α → Bool)
    (hwrapper : ∀ w, w.kind = .generic → ask' w = .ok [])
    (htwin : ∀ o ∈ os, (ask' (twin extent originalKind j o)).map (List.filter keep) =
      (ask o).map (List.filter keep)) :
    (((os.flatMap (wrappedAndTwin extent originalKind j)).mapM ask').map List.flatten).map
        (List.filter keep) =
      ((os.mapM ask).map List.flatten).map (List.filter keep) := by
  induction os with
  | nil => rfl
  | cons o os ih =>
    have hrest := ih fun p hp => htwin p (List.mem_cons_of_mem o hp)
    have hafter : (((twin extent originalKind j o ::
        os.flatMap (wrappedAndTwin extent originalKind j)).mapM ask').map List.flatten).map
          (List.filter keep) =
        (((o :: os).mapM ask).map List.flatten).map (List.filter keep) := by
      rw [Result.map_flatten_mapM_cons, Result.map_flatten_mapM_cons, Result.map_filter_append,
        Result.map_filter_append, htwin o List.mem_cons_self, hrest]
    rw [List.flatMap_cons, wrappedAndTwin, List.append_assoc, List.singleton_append]
    cases hw : wrapping? extent originalKind j o with
    | none => exact hafter
    | some w =>
      have hskip : ∀ x : Result (List α), x.map (fun rest => [] ++ rest) = x := by
        intro x
        cases x <;> rfl
      rw [Option.toList_some, List.singleton_append, Result.map_flatten_mapM_cons,
        hwrapper w (kind_of_wrapping? hw), Result.ok_bind, hskip]
      exact hafter

end

/-! ## Two scripts with the same answers -/

/-- The queries about two scripts have the same answers and the same failures, but for the
variables in the outline. -/
structure AnswersLike (q' q : Query) : Prop where
  symbolUnder : ∀ p whole, q'.symbolUnder p whole = q.symbolUnder p whole
  commandUnder : ∀ p, q'.commandUnder p = q.commandUnder p
  declaration : ∀ S, q'.declaration S = q.declaration S
  references : ∀ S table, q'.references S table = q.references S table
  keys : q'.keys = q.keys
  includedFiles : q'.includedFiles = q.includedFiles
  outline : q'.outline.map (List.filter fun S => S.kind != .variableName) =
    q.outline.map (List.filter fun S => S.kind != .variableName)

end Query

namespace Occurrence

namespace IsStatementOf

open Query

variable {s : Script} {statement block o : Occurrence} (h : statement.IsStatementOf block s)
variable (extent : Extent String) (originalKind : String) (kind : StandardInferer)
include h

/-! ## Types -/

/-- What is collected from the nodes by their kinds and is not a wrapper is collected from the
twins. -/
theorem filter_nodes_wrapped (test : NodeKind → Bool) (htest : test .generic = false) :
    ((s.wrapped statement.index extent originalKind).nodes.filter fun o => test o.kind) =
      (s.nodes.filter fun o => test o.kind).map
        (twin extent originalKind statement.index) := by
  rw [h.nodes_wrapped]
  induction s.nodes with
  | nil => rfl
  | cons o os ih =>
    have hskip : (wrapping? extent originalKind statement.index o).toList.filter
        (fun w => test w.kind) = [] := by
      rw [List.filter_eq_nil_iff]
      intro w hw
      rw [kind_of_wrapping? (Option.mem_toList.mp hw), htest]
      exact Bool.false_ne_true
    rw [List.flatMap_cons, List.filter_append, ih, wrappedAndTwin, List.filter_append, hskip,
      List.nil_append, List.filter_cons, List.filter_cons, List.filter_nil, kind_twin]
    cases test o.kind <;> rfl

/-- The guess is the same for a node and its twin. -/
theorem guess_twin (ho : o.StandsIn s) :
    kind.guess (s.wrapped statement.index extent originalKind)
        (twin extent originalKind statement.index o) = kind.guess s o := by
  cases kind with
  | wildcard => rfl
  | syntactic =>
    exact (h.mirrors extent originalKind).scriptGuess
      (h.filter_nodes_wrapped extent originalKind (fun k => k == .assignment) rfl)
      (h.filter_nodes_wrapped extent originalKind
        (fun k => k == .functionMember || k == .propertyMember) rfl) ho

/-- A node and its twin have the same type. -/
theorem inferer_twin :
    InferAlike s (twin extent originalKind statement.index)
      (kind.inferer (s.wrapped statement.index extent originalKind)) (kind.inferer s) := by
  intro o ho
  rw [kind.infer_eq _ _ (h.standsIn_twin extent originalKind ho), kind.infer_eq s o ho,
    h.guess_twin extent originalKind kind ho]

/-! ## Answers -/

/-- The first answer is the same if nothing is answered at wrappers and twins answer like the
nodes. -/
theorem first_wrapped {α : Type} {probes' probes : Probes (Option α)} (infer' infer : Inferer)
    (hwrapper : ∀ w, w.kind = .generic → askAt probes' w = .ok none)
    (htwin : ∀ o, o.StandsIn s →
      askAt probes' (twin extent originalKind statement.index o) = askAt probes o) :
    (Query.mk (s.wrapped statement.index extent originalKind) infer' false).first probes' =
      (Query.mk s infer false).first probes := by
  rw [first_eq, first_eq, h.nodes_wrapped]
  exact firstAnswer_wrapped hwrapper fun o ho => htwin o (.of_mem_nodes h.standsIn.wellTyped ho)

/-- All answers are the same if nothing is listed at wrappers and twins list like the nodes. -/
theorem gather_wrapped {α : Type} {probes' probes : Probes (List α)} (infer' infer : Inferer)
    (hwrapper : ∀ w, w.kind = .generic → listAt probes' w = .ok [])
    (htwin : ∀ o, o.StandsIn s →
      listAt probes' (twin extent originalKind statement.index o) = listAt probes o) :
    (Query.mk (s.wrapped statement.index extent originalKind) infer' false).gather probes' =
      (Query.mk s infer false).gather probes := by
  have hsame : ∀ o ∈ s.nodes,
      (listAt probes' (twin extent originalKind statement.index o)).map
          (List.filter fun _ => true) = (listAt probes o).map (List.filter fun _ => true) := by
    intro o ho
    rw [htwin o (.of_mem_nodes h.standsIn.wellTyped ho)]
  have hall := gathered_wrapped (fun _ => true) hwrapper hsame
  -- everything is kept
  have hid : ∀ x : Result (List α), x.map (List.filter fun _ => true) = x := by
    intro x
    cases x with
    | error e => rfl
    | ok as => exact congrArg Except.ok (List.filter_true as)
  rw [hid, hid] at hall
  rw [gather_eq, gather_eq, h.nodes_wrapped]
  exact hall

/-! ## The queries -/

theorem symbolUnder_wrapped (p : Position) (whole : Bool) :
    (kind.query (s.wrapped statement.index extent originalKind)).symbolUnder p whole =
      (kind.query s).symbolUnder p whole := by
  rw [symbolUnder, symbolUnder]
  refine congrArg (requirePosition p >>= ·) (funext fun _ => ?_)
  apply h.first_wrapped extent originalKind
  · intro w hw
    rw [askAt, hw]
    rfl
  · intro o ho
    exact (h.mirrors extent originalKind).askAt_locateProbes
      (h.inferer_twin extent originalKind kind) whole ho

theorem commandUnder_wrapped (p : Position) :
    (kind.query (s.wrapped statement.index extent originalKind)).commandUnder p =
      (kind.query s).commandUnder p := by
  rw [commandUnder, commandUnder]
  refine congrArg (requirePosition p >>= ·) (funext fun _ => ?_)
  apply h.first_wrapped extent originalKind
  · intro w hw
    rw [askAt, hw]
    rfl
  · intro o ho
    exact (h.mirrors extent originalKind).askAt_commandIn rfl ho

theorem declaration_wrapped (S : Option Symbol) :
    (kind.query (s.wrapped statement.index extent originalKind)).declaration S =
      (kind.query s).declaration S := by
  cases S with
  | none => rfl
  | some S =>
    rw [declaration, declaration]
    by_cases hempty : (declarations S.kind.family).isEmpty = true
    · rw [if_pos hempty, if_pos hempty]
    · rw [if_neg hempty, if_neg hempty]
      apply h.first_wrapped extent originalKind
      · intro w hw
        have hsilent : askAt (declarations S.kind.family) w = .ok none := by
          rw [askAt, hw]
          cases S.kind.family <;> rfl
        rw [askAt_map_matching, matching, hsilent]
        rfl
      · intro o ho
        exact (h.mirrors extent originalKind).askAt_matching S ho

theorem references_wrapped (S : Option Symbol) (table : Option AliasTable) :
    (kind.query (s.wrapped statement.index extent originalKind)).references S table =
      (kind.query s).references S table := by
  cases S with
  | none => rfl
  | some S =>
    rw [StandardInferer.query, StandardInferer.query, references_eq_gather, references_eq_gather]
    apply h.gather_wrapped extent originalKind
    · intro w hw
      apply listAt_referenceProbes_of_ne
      rw [hw]
      exact (Option.some_ne_none _).symm
    · intro o ho
      exact (h.mirrors extent originalKind).listAt_referenceProbes
        (h.inferer_twin extent originalKind kind) S table ho

theorem keys_wrapped :
    (kind.query (s.wrapped statement.index extent originalKind)).keys = (kind.query s).keys := by
  apply h.gather_wrapped extent originalKind
  · intro w hw
    rw [listAt, hw]
    rfl
  · intro o ho
    exact (h.mirrors extent originalKind).listAt_keys ho

theorem includedFiles_wrapped :
    (kind.query (s.wrapped statement.index extent originalKind)).includedFiles =
      (kind.query s).includedFiles := by
  apply h.gather_wrapped extent originalKind
  · intro w hw
    rw [listAt, hw]
    rfl
  · intro o ho
    exact (h.mirrors extent originalKind).listAt_includedFile ho

omit h in
/-- An assignment adds nothing but variables to an outline. -/
theorem listAt_outline_assignment (ho : o.StandsIn s) (hk : o.kind = .assignment) :
    (listAt outlineProbes o).map (List.filter fun S => S.kind != .variableName) = .ok [] := by
  have hprobe : listAt outlineProbes o = outlineVariable o := by
    rw [listAt, hk]
    rfl
  rw [hprobe, ho.outlineVariable_eq hk]
  cases o.target? <;> cases isTopLevel o <;> rfl

/-- The outline is the same but for the variables. -/
theorem outline_wrapped :
    (kind.query (s.wrapped statement.index extent originalKind)).outline.map
        (List.filter fun S => S.kind != .variableName) =
      (kind.query s).outline.map (List.filter fun S => S.kind != .variableName) := by
  rw [outline, outline, StandardInferer.query, StandardInferer.query, gather_eq, gather_eq,
    h.nodes_wrapped]
  apply gathered_wrapped
  · intro w hw
    rw [listAt, hw]
    rfl
  · intro o ho
    have hin := StandsIn.of_mem_nodes h.standsIn.wellTyped ho
    by_cases hk : o.kind = .assignment
    · rw [listAt_outline_assignment hin hk,
        listAt_outline_assignment (h.standsIn_twin extent originalKind hin)
          ((kind_twin o).trans hk)]
    · rw [(h.mirrors extent originalKind).listAt_outlineProbes hin hk]

end IsStatementOf

end Occurrence

/-! ## All answers -/

namespace Query

open Occurrence

/-- Wrapping a statement of a block changes no answer of a query and no type of a node. -/
theorem answersLike_wrapped (kind : StandardInferer) {s : Script} {block statement : Occurrence}
    (hs : s.WellTyped) (hblock : block ∈ s.nodes)
    (hkind : block.kind = .namedBlock ∨ block.kind = .statementBlock)
    (hstatement : statement ∈ block.childrenIn .statements)
    (extent : Extent String) (originalKind : String) :
    ((twin extent originalKind statement.index block).childrenIn .statements).map node =
        ((block.childrenIn .statements).map fun c =>
          if c.index = statement.index then Node.wrapper extent originalKind c.node
          else c.node) ∧
      AnswersLike (kind.query (s.wrapped statement.index extent originalKind)) (kind.query s) ∧
      ∀ o ∈ s.nodes,
        twin extent originalKind statement.index o ∈
            (s.wrapped statement.index extent originalKind).nodes ∧
          kind.inferer (s.wrapped statement.index extent originalKind)
            (.node (twin extent originalKind statement.index o)) = kind.inferer s (.node o) := by
  have h : statement.IsStatementOf block s := ⟨.of_mem_nodes hs hblock, hkind, hstatement⟩
  refine ⟨h.statements_twin extent originalKind, ?_, ?_⟩
  · exact
      { symbolUnder := h.symbolUnder_wrapped extent originalKind kind
        commandUnder := h.commandUnder_wrapped extent originalKind kind
        declaration := h.declaration_wrapped extent originalKind kind
        references := h.references_wrapped extent originalKind kind
        keys := h.keys_wrapped extent originalKind kind
        includedFiles := h.includedFiles_wrapped extent originalKind kind
        outline := h.outline_wrapped extent originalKind kind }
  · intro o ho
    have hin := StandsIn.of_mem_nodes hs ho
    exact ⟨(h.standsIn_twin extent originalKind hin).mem_nodes,
      h.inferer_twin extent originalKind kind o hin⟩

/-- Wrapping the assignment of the greeter script into a trap changes nothing. -/
theorem answersLike_wrapped_greeter :
    ∃ block ∈ Greeter.script.nodes, ∃ statement ∈ block.childrenIn .statements,
      statement.kind = .assignment ∧
        (StandardInferer.syntactic.query
            (Greeter.script.wrapped statement.index Extent.nowhere "TrapStatement")).symbolUnder
              ⟨1, 60⟩ false =
          (StandardInferer.syntactic.query Greeter.script).symbolUnder ⟨1, 60⟩ false := by
  have hblock : (Occurrence.inside Greeter.script.top 1 Greeter.block).StandsIn Greeter.script :=
    StandsIn.child ⟨Greeter.wellTyped_script, self_mem_preorder _⟩ (List.mem_singleton_self _)
  have hstatement : Occurrence.inside (.inside Greeter.script.top 1 Greeter.block) 7
      Greeter.creation ∈
        (Occurrence.inside Greeter.script.top 1 Greeter.block).childrenIn .statements :=
    List.mem_of_getElem? (i := 2) rfl
  have h := answersLike_wrapped .syntactic Greeter.wellTyped_script hblock.mem_nodes (Or.inl rfl)
    hstatement Extent.nowhere "TrapStatement"
  exact ⟨_, hblock.mem_nodes, _, hstatement, rfl, h.2.1.symbolUnder ⟨1, 60⟩ false⟩

end Query

end ScriptNavigation
