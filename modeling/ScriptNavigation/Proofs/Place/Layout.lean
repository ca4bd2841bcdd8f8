/-
# How the nodes of a script lie in its source

In a script that is laid out each node lies within its parent, and the children of a node lie
one behind the other.  So of two nodes, the later one in document order either is below the
earlier one or starts behind its end.  The extent of a name that is found in the text of a node
starts within the node, although it is counted in columns from the start, as if there were no
line feeds.

Main facts:

* `Position.column_le_after`: counted in columns, a text does not get ahead of itself.
* `Extent.spans_ofName`, `Occurrence.spans_propertyExtent`: the extents of names.
* `LaidOut.pairwise_nodes`: where the later one of two nodes lies.
-/
import ScriptNavigation.Proofs.Place.Lines
import ScriptNavigation.Proofs.Reading.Symbol
import ScriptNavigation.Proofs.Tree.Numbering

namespace ScriptNavigation

/-! ## Positions within an extent -/

instance Position.transLe : Trans (α := Position) (· ≤ ·) (· ≤ ·) (· ≤ ·) := ⟨Position.le_trans⟩

/-- Some columns behind a position are not behind a text that starts there and is as long. -/
theorem Position.column_le_after (p : Position) {cs : List Char} {n : Nat} (h : n ≤ cs.length) :
    (⟨p.line, p.column + n⟩ : Position) ≤ p.after cs := by
  induction cs generalizing p n with
  | nil =>
    obtain rfl : n = 0 := Nat.le_zero.mp h
    rw [after_nil, le_def]
    dsimp only
    omega
  | cons c cs ih =>
    cases n with
    | zero => simpa using le_after p (c :: cs)
    | succ n =>
      rw [after_cons, step]
      split
      · -- the line ends here, so that all of it is before the rest of the text
        have hrest := le_after ⟨p.line + 1, 1⟩ cs
        rw [le_def] at hrest ⊢
        dsimp only at hrest ⊢
        omega
      · have hrest := ih ⟨p.line, p.column + 1⟩ (Nat.le_of_succ_le_succ h)
        rw [le_def] at hrest ⊢
        dsimp only at hrest ⊢
        omega

/-- A text that is found in another one ends within it. -/
theorem Text.le_of_indexOf? {pattern cs : List Char} {i : Nat}
    (h : Text.indexOf? pattern cs = some i) : i + pattern.length ≤ cs.length := by
  obtain ⟨before, after, rfl, rfl⟩ := Text.indexOf?_eq_some h
  simp only [List.length_append]
  omega

namespace Extent

variable {τ σ : Type} {e : Extent String} {source : String} {start stop : Int}
variable {file : Option String}

/-- A position is neither before the start of an extent nor behind its end. -/
def Spans (e : Extent τ) (p : Position) : Prop := e.start ≤ p ∧ p ≤ e.stop

theorem spans_start (e : Extent τ) : e.Spans e.start := ⟨Position.le_refl _, e.start_le_stop⟩

/-- The extent of a span ends where its text ends. -/
theorem stop_of_ofSpan (h : ofSpan source start stop file = .ok e) :
    e.stop = e.start.after e.text.toList := by
  obtain ⟨length, -, hstart, hstop, htext⟩ := of_ofSpan h
  rw [hstop, hstart, Position.ofOffset_add, htext]

/-- A piece that starts in the text of an extent starts within the extent. -/
theorem spans_piece (h : ofSpan source start stop file = .ok e) {offset : Nat}
    (hle : offset ≤ e.text.toList.length) (length : Nat) (text : σ) :
    e.Spans (e.piece offset length text).start := by
  refine ⟨Or.inr ⟨rfl, Int.le_add_of_nonneg_right (Int.natCast_nonneg offset)⟩, ?_⟩
  rw [stop_of_ofSpan h]
  exact Position.column_le_after e.start hle

/-- The extent of a name starts within the extent around it. -/
theorem spans_ofName (h : ofSpan source start stop file = .ok e) (name : String) :
    e.Spans (e.ofName false name).start := by
  change e.Spans ((e.named? name).getD e).start
  cases hname : e.named? name with
  | none => exact e.spans_start
  | some piece =>
    unfold named? at hname
    split at hname
    · cases hname
    · obtain ⟨i, hi, rfl⟩ := Option.map_eq_some_iff.mp hname
      have hle := Text.le_of_indexOf? hi
      exact spans_piece h (by omega) _ name

end Extent

namespace Occurrence

/-- The extent of the name of a property starts within the declaration. -/
theorem spans_propertyExtent {o : Occurrence} {source : String} {start stop : Int}
    {file : Option String} (h : Extent.ofSpan source start stop file = .ok o.extent) :
    o.extent.Spans o.propertyExtent.start := by
  rw [propertyExtent]
  cases hf : o.extent.findAfterSigil? (o.textIn .name) with
  | none => exact Extent.spans_ofName h _
  | some e =>
    obtain ⟨i, hi, rfl⟩ := Option.map_eq_some_iff.mp hf
    have hle := Text.le_of_indexOf? hi
    rw [List.length_cons] at hle
    exact Extent.spans_piece h (by omega) (o.textIn .name).toList.length ()

/-! ## Children in order -/

namespace StandsIn

variable {s : Script} {o : Occurrence}

/-- The receiver of an access is its first child, and then comes the member. -/
theorem exists_children_access (ho : o.StandsIn s) (hacc : o.kind.isMemberAccess = true) :
    ∃ rest, o.children =
      (o.childIn? .expression).toList ++ ((o.childIn? .member).toList ++ rest) := by
  rw [ho.children_eq]
  rcases NodeKind.eq_of_isMemberAccess hacc with hk | hk
  · rw [hk, ← ho.childrenIn_of_child (f := .expression) hk rfl,
      ← ho.childrenIn_of_child (f := .member) hk rfl]
    exact ⟨_, rfl⟩
  · rw [hk, ← ho.childrenIn_of_child (f := .expression) hk rfl,
      ← ho.childrenIn_of_child (f := .member) hk rfl]
    exact ⟨_, rfl⟩

/-- There is nothing below a type constraint. -/
theorem children_typeConstraint (ho : o.StandsIn s) (hk : o.kind = .typeConstraint) :
    o.children = [] := by
  rw [ho.children_eq, hk]
  exact (List.append_nil _).trans (ho.childrenIn_of_text (f := .typeName) hk rfl)

end StandsIn

end Occurrence

/-! ## Scripts that are laid out -/

namespace Script

open Occurrence

/-- Each node lies within its parent, and no child starts before the one in front of it ends. -/
structure LaidOut (s : Script) : Prop where
  within : ∀ o ∈ s.nodes, ∀ c ∈ o.children,
    o.extent.start ≤ c.extent.start ∧ c.extent.stop ≤ o.extent.stop
  behind : ∀ o ∈ s.nodes, o.children.IsChain fun c d => c.extent.stop ≤ d.extent.start

namespace LaidOut

variable {s : Script} {o d : Occurrence}

/-- Each child of a node ends before all later ones start. -/
theorem pairwise_children (h : s.LaidOut) (ho : o ∈ s.nodes) :
    o.children.Pairwise fun c d => c.extent.stop ≤ d.extent.start := by
  have : Trans (fun c d : Occurrence => c.extent.stop ≤ d.extent.start)
      (fun c d : Occurrence => c.extent.stop ≤ d.extent.start)
      (fun c d : Occurrence => c.extent.stop ≤ d.extent.start) :=
    ⟨fun {_ c _} hac hcd => Position.le_trans hac (Position.le_trans c.extent.start_le_stop hcd)⟩
  exact (h.behind o ho).pairwise

/-- What is below a node lies within it. -/
theorem within_preorder (h : s.LaidOut) (ho : o ∈ s.nodes) (hd : d ∈ o.preorder) :
    o.extent.start ≤ d.extent.start ∧ d.extent.stop ≤ o.extent.stop := by
  induction o using childInduction with
  | step o ih =>
    rcases mem_preorder_iff.mp hd with rfl | ⟨c, hc, hdc⟩
    · exact ⟨Position.le_refl _, Position.le_refl _⟩
    · have hcs : c ∈ s.nodes := by
        rw [s.nodes_eq] at ho ⊢
        exact mem_preorder_of_child ho hc
      obtain ⟨hstart, hstop⟩ := h.within o ho c hc
      obtain ⟨hstart', hstop'⟩ := ih c hc hcs hdc
      exact ⟨Position.le_trans hstart hstart', Position.le_trans hstop' hstop⟩

/-- In a part of the tree, the later one of two nodes is below the other or behind it. -/
theorem pairwise_preorder (h : s.LaidOut) (ho : o ∈ s.nodes) :
    o.preorder.Pairwise fun a d =>
      (∃ c ∈ a.children, d ∈ c.preorder) ∨ a.extent.stop ≤ d.extent.start := by
  induction o using childInduction with
  | step o ih =>
    have hmem : ∀ c ∈ o.children, c ∈ s.nodes := by
      intro c hc
      rw [s.nodes_eq] at ho ⊢
      exact mem_preorder_of_child ho hc
    rw [preorder_eq, List.pairwise_cons, List.pairwise_flatMap]
    -- all nodes are below the first one; of two children, the first one ends all that is below it
    -- before the second one starts
    refine ⟨?_, fun c hc => ih c hc (hmem c hc), ?_⟩
    · intro d hd
      obtain ⟨c, hc, hdc⟩ := List.mem_flatMap.mp hd
      exact Or.inl ⟨c, hc, hdc⟩
    · refine (h.pairwise_children ho).imp_of_mem ?_
      intro b c hb hc hbc a ha d hd
      right
      calc a.extent.stop
        _ ≤ b.extent.stop := (h.within_preorder (hmem b hb) ha).2
        _ ≤ c.extent.start := hbc
        _ ≤ d.extent.start := (h.within_preorder (hmem c hc) hd).1

/-- The later one of two nodes is below the other or behind it. -/
theorem pairwise_nodes (h : s.LaidOut) :
    s.nodes.Pairwise fun a d =>
      (∃ c ∈ a.children, d ∈ c.preorder) ∨ a.extent.stop ≤ d.extent.start := by
  have htop : s.top ∈ s.nodes := by
    rw [s.nodes_eq]
    exact s.top.self_mem_preorder
  have hpairwise := h.pairwise_preorder htop
  rwa [← s.nodes_eq] at hpairwise

end LaidOut

end Script

end ScriptNavigation
