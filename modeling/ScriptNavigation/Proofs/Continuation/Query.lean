/-
# Answers in a script that is continued

The nodes of a script come first in a script that continues it, and each of them is answered
like its twin.  So what is found stays found, and what is listed stays at the front of the
list, with what the further nodes add behind it.  Only the keys of hashtables can keep a list
from being made: where the keys of the further hashtables cannot be built, the continued
script has no list of references to a key at all.

Main facts:

* `Continues.first_of_found`: what is found stays found.
* `Continues.gather_eq_append`: what is listed stays at the front.
* `Query.AnswersOn`, `Continues.answersOn`: all queries go on answering.
-/
import ScriptNavigation.Proofs.Continuation.Guess
import ScriptNavigation.Proofs.Mirror.Query
import ScriptNavigation.Proofs.Navigation.Totality

namespace ScriptNavigation

/-! ## Queries that go on answering -/

/-- A query finds what another one finds, and lists what the other one lists, possibly with
more behind it.  The references to keys are listed if the keys of all hashtables can be
built. -/
structure Query.AnswersOn (q' q : Query) : Prop where
  symbolUnder : ∀ p whole S, q.symbolUnder p whole = .ok (some S) →
    q'.symbolUnder p whole = .ok (some S)
  declaration : ∀ S D, q.declaration (some S) = .ok (some D) →
    q'.declaration (some S) = .ok (some D)
  references : ∀ S table refs refs', q.references (some S) table = .ok refs →
    q'.references (some S) table = .ok refs' → refs <+: refs'
  referencesListed : ∀ S : Symbol, S.HasTexts → S.kind ≠ .hashtableKey → ∀ table,
    ∃ refs more, q.references (some S) table = .ok refs ∧
      q'.references (some S) table = .ok (refs ++ more)
  keysListed : (∀ o ∈ q'.script.nodes, o.kind = .hashtable →
      ∃ keys, Symbol.ofHashtable o = .ok keys) →
    ∀ S : Symbol, S.HasTexts → ∀ table,
      ∃ refs more, q.references (some S) table = .ok refs ∧
        q'.references (some S) table = .ok (refs ++ more)
  outline : ∃ symbols more, q.outline = .ok symbols ∧ q'.outline = .ok (symbols ++ more)
  includedFiles : ∃ files more, q.includedFiles = .ok files ∧
    q'.includedFiles = .ok (files ++ more)

namespace Continues

open Occurrence Query

variable {s s' : Script} {twin : Occurrence → Occurrence} {added : List Occurrence}
variable (h : Continues s s' twin added) {o : Occurrence} {infer infer' : Inferer} {α : Type}
include h

/-! ## First answers -/

/-- What is found stays found, if twins answer like the nodes. -/
theorem first_of_found {probes' probes : Probes (Option α)} {a : α}
    (htwin : ∀ o, o.StandsIn s → askAt probes' (twin o) = askAt probes o)
    (hfound : (Query.mk s infer false).first probes = .ok (some a)) :
    (Query.mk s' infer' false).first probes' = .ok (some a) := by
  rw [first_eq] at hfound
  rw [first_eq, h.nodes]
  apply firstAnswer_append_of_some
  rw [firstAnswer_map fun o ho => htwin o (h.standsIn_of_mem_nodes ho)]
  exact hfound

theorem symbolUnder_of_found (hinfer : InferAlike s twin infer' infer) {p : Position}
    {whole : Bool} {S : Symbol}
    (hfound : (Query.mk s infer false).symbolUnder p whole = .ok (some S)) :
    (Query.mk s' infer' false).symbolUnder p whole = .ok (some S) := by
  obtain ⟨_, hposition, hfirst⟩ := Result.bind_eq_ok.mp hfound
  rw [symbolUnder, hposition, Result.ok_bind]
  exact h.first_of_found (fun o ho => h.askAt_locateProbes hinfer whole ho) hfirst

theorem declaration_of_found {S D : Symbol}
    (hfound : (Query.mk s infer false).declaration (some S) = .ok (some D)) :
    (Query.mk s' infer' false).declaration (some S) = .ok (some D) := by
  rw [declaration] at hfound ⊢
  by_cases hempty : (declarations S.kind.family).isEmpty = true
  · rw [if_pos hempty] at hfound
    cases hfound
  · rw [if_neg hempty] at hfound ⊢
    exact h.first_of_found (fun o ho => h.askAt_matching S ho) hfound

/-! ## Lists -/

/-- What is listed stays at the front, if twins list like the nodes. -/
theorem gather_eq_append (infer infer' : Inferer) {probes' probes : Probes (List α)}
    (htwin : ∀ o, o.StandsIn s → listAt probes' (twin o) = listAt probes o) :
    (Query.mk s' infer' false).gather probes' = do
      let listed ← (Query.mk s infer false).gather probes
      let more ← (added.mapM (listAt probes')).map List.flatten
      return listed ++ more := by
  have hfront : (s.nodes.map twin).mapM (listAt probes') = s.nodes.mapM (listAt probes) := by
    rw [List.mapM_map]
    exact Result.mapM_congr fun o ho => htwin o (h.standsIn_of_mem_nodes ho)
  rw [gather_eq, gather_eq, h.nodes, List.mapM_append, hfront]
  cases s.nodes.mapM (listAt probes) with
  | error e => rfl
  | ok lists =>
    cases added.mapM (listAt probes') with
    | error e => rfl
    | ok more => exact congrArg Except.ok List.flatten_append

/-- A list that is made for the continued script is that for the script, with more behind it. -/
theorem exists_append_of_gather (infer infer' : Inferer) {probes' probes : Probes (List α)}
    (htwin : ∀ o, o.StandsIn s → listAt probes' (twin o) = listAt probes o)
    (hlisted' : ∃ listed', (Query.mk s' infer' false).gather probes' = .ok listed') :
    ∃ listed more, (Query.mk s infer false).gather probes = .ok listed ∧
      (Query.mk s' infer' false).gather probes' = .ok (listed ++ more) := by
  obtain ⟨listed', hlisted'⟩ := hlisted'
  have hmore := hlisted'
  rw [h.gather_eq_append infer infer' htwin, Result.bind_eq_ok] at hmore
  obtain ⟨listed, hlisted, hmore⟩ := hmore
  obtain ⟨more, -, heq⟩ := Result.bind_eq_ok.mp hmore
  exact ⟨listed, more, hlisted, hlisted'.trans heq.symm⟩

/-- Of two lists that are both made the first one stands at the front of the second one. -/
theorem prefix_of_gather {probes' probes : Probes (List α)} {listed listed' : List α}
    (htwin : ∀ o, o.StandsIn s → listAt probes' (twin o) = listAt probes o)
    (hlisted : (Query.mk s infer false).gather probes = .ok listed)
    (hlisted' : (Query.mk s' infer' false).gather probes' = .ok listed') :
    listed <+: listed' := by
  obtain ⟨front, more, hfront, happend⟩ :=
    h.exists_append_of_gather infer infer' htwin ⟨listed', hlisted'⟩
  obtain rfl : listed = front := Except.ok.inj (hlisted.symm.trans hfront)
  exact ⟨more, Except.ok.inj (happend.symm.trans hlisted')⟩

/-- The outline is listed alike at a node and at its twin. -/
theorem listAt_outline (ho : o.StandsIn s) :
    listAt outlineProbes (twin o) = listAt outlineProbes o := by
  by_cases hk : o.kind = .assignment
  · -- an assignment stands in the outermost block where its twin does
    have hprobe : ∀ {p : Occurrence}, p.kind = .assignment →
        listAt outlineProbes p = outlineVariable p := by
      intro p hp
      rw [listAt, hp]
      rfl
    rw [hprobe ((h.kind ho).trans hk), hprobe hk,
      (h.standsIn ho).outlineVariable_eq ((h.kind ho).trans hk), ho.outlineVariable_eq hk,
      isTopLevel, isTopLevel, h.depth ho, h.map_ofVariable_target? ho]
  · exact h.listAt_outlineProbes ho hk

/-! ## All answers -/

/-- A query with an inferer of the library goes on answering when a script is continued. -/
theorem answersOn (kind : StandardInferer) : (kind.query s').AnswersOn (kind.query s) := by
  have hinfer := h.inferAlike kind
  have hs' := h.wellTyped_continued
  have htwin : ∀ (S : Symbol) (table : Option AliasTable), ∀ o, o.StandsIn s →
      listAt ((kind.query s').referenceProbes S table) (twin o) =
        listAt ((kind.query s).referenceProbes S table) o :=
    fun S table o ho => h.listAt_referenceProbes hinfer S table ho
  have hreferences : ∀ (s : Script) (S : Symbol) (table : Option AliasTable),
      (kind.query s).references (some S) table =
        (kind.query s).gather ((kind.query s).referenceProbes S table) :=
    fun s S table => references_eq_gather s (kind.inferer s) S table
  refine
    { symbolUnder := fun p whole S hfound => h.symbolUnder_of_found hinfer hfound
      declaration := fun S D hfound => h.declaration_of_found hfound
      references := ?_
      referencesListed := ?_
      keysListed := ?_
      outline := h.exists_append_of_gather _ _ (fun o ho => h.listAt_outline ho) (outline_total hs')
      includedFiles := h.exists_append_of_gather _ _ (fun o ho => h.listAt_includedFile ho)
        (includedFiles_total hs') }
  · intro S table refs refs' hrefs hrefs'
    rw [hreferences] at hrefs hrefs'
    exact h.prefix_of_gather (htwin S table) hrefs hrefs'
  · intro S hS hkey table
    have htotal := references_total hs' (kind.namesTypes hs') hS hkey table
    rw [references_eq_gather] at htotal
    rw [hreferences, hreferences]
    exact h.exists_append_of_gather _ _ (htwin S table) htotal
  · intro hkeys S hS table
    have htotal := references_total_of_keys hs' (kind.namesTypes hs') hS hkeys table
    rw [references_eq_gather] at htotal
    rw [hreferences, hreferences]
    exact h.exists_append_of_gather _ _ (htwin S table) htotal

end Continues

end ScriptNavigation
