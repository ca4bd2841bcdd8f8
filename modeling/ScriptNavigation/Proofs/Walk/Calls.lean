/-
# The calls that a walk makes

A walk takes its nodes from a stack, but it visits them in document order: it is a walk along
the list of all nodes.  Along such a list the handlers are called one after the other.  Each
call has an answer and leaves a state to the next one.  The calls and the states are defined
here as if no answer ever ended the walk; where a walk does end, it has made the first of
these calls.

A handler is often run inside another one that keeps a record beside its state.  What is called
and answered does not change by that.

Main facts:

* `run_eq_along`: a walk with a stack is a walk along the list of nodes in document order.
* `map_fst_calls`: handlers are called at the nodes of their kinds, in order.
* `all_or_reaches`: all answers pass a test, or there is a first one that does not.
* `Wraps.calls`, `Wraps.after`: handlers inside others are called alike and leave like states.
* `after_noted`: a record of the calls lists the nodes that have a handler.
-/
import ScriptNavigation.Proofs.Result
import ScriptNavigation.Tree.Walk

namespace ScriptNavigation

/-- What is looked up does not depend on whether it is changed before or after. -/
theorem lookup_map_snd {κ γ δ : Type} [BEq κ] (g : γ → δ) (entries : List (κ × γ)) (k : κ) :
    (entries.map fun e => (e.1, g e.2)).lookup k = (entries.lookup k).map g := by
  induction entries with
  | nil => rfl
  | cons e rest ih =>
    obtain ⟨k', c⟩ := e
    rw [List.map_cons, List.lookup_cons, List.lookup_cons]
    cases k == k' with
    | true => rfl
    | false => exact ih

namespace Walk

variable {σ τ α β γ : Type}

/-! ## Walks along a list -/

/-- Walks along a list of nodes, after some visits, without looking below them. -/
def along (cancelled : σ → Bool) (outside : Nat → Bool) (handlers : Handlers σ Action)
    (visited : Nat) : List Occurrence → σ → Result Bool × σ
  | [], s => (.ok false, s)
  | o :: os, s =>
    if cancelled s || outside visited then (.error (.cancelled visited), s)
    else
      match visit handlers o s with
      | (.error e, s') => (.error e, s')
      | (.ok .stop, s') => (.ok true, s')
      | (.ok .descend, s') => along cancelled outside handlers (visited + 1) os s'

/-- A walk over the trees on a stack is a walk along all their nodes in document order. -/
theorem run_eq_along (cancelled : σ → Bool) (outside : Nat → Bool)
    (handlers : Handlers σ Action) (visited : Nat) (stack : List Occurrence) (s : σ) :
    run cancelled outside handlers visited stack s =
      along cancelled outside handlers visited (order stack) s := by
  -- the walk and the order of nodes take nodes from the stack in the same way
  fun_induction order stack generalizing visited s with
  | case1 => rw [run, along]
  | case2 o rest ih =>
    rw [run, along]
    by_cases hstop : (cancelled s || outside visited) = true
    · rw [if_pos hstop, if_pos hstop]
    · rw [if_neg hstop, if_neg hstop]
      obtain ⟨answer, s'⟩ := visit handlers o s
      cases answer with
      | error e => rfl
      | ok action =>
        cases action with
        | descend => exact ih (visited + 1) s'
        | stop => rfl

/-- A walk over one tree is a walk along its nodes in document order. -/
theorem walk_eq_along (cancelled : σ → Bool) (outside : Nat → Bool)
    (handlers : Handlers σ Action) (o : Occurrence) (s : σ) :
    walk cancelled handlers (some o) s outside =
      along cancelled outside handlers 0 o.preorder s := by
  rw [walk, run_eq_along, order_eq_preorder]

/-! ## Calls and states -/

/-- Whether a table has a handler for a node. -/
def handles (handlers : Handlers σ α) (o : Occurrence) : Bool := (handlers.lookup o.kind).isSome

/-- The answer of the handler for a node, if there is one, and the state after that. -/
def call (handlers : Handlers σ α) (o : Occurrence) (s : σ) : Option (Result α) × σ :=
  match handlers.lookup o.kind with
  | some handle => (some (handle o s).1, (handle o s).2)
  | none => (none, s)

/-- The calls of handlers at some nodes, one after the other, each with its answer.  An answer
does not keep the next node from being visited. -/
def calls (handlers : Handlers σ α) : List Occurrence → σ → List (Occurrence × Result α)
  | [], _ => []
  | o :: os, s =>
    (call handlers o s).1.toList.map (fun r => (o, r)) ++ calls handlers os (call handlers o s).2

/-- The state after these calls. -/
def after (handlers : Handlers σ α) : List Occurrence → σ → σ
  | [], s => s
  | o :: os, s => after handlers os (call handlers o s).2

@[simp] theorem calls_nil (handlers : Handlers σ α) (s : σ) : calls handlers [] s = [] := rfl

@[simp] theorem after_nil (handlers : Handlers σ α) (s : σ) : after handlers [] s = s := rfl

theorem after_cons (handlers : Handlers σ α) (o : Occurrence) (os : List Occurrence) (s : σ) :
    after handlers (o :: os) s = after handlers os (call handlers o s).2 := rfl

theorem calls_cons_of_none {handlers : Handlers σ α} {o : Occurrence} {s : σ}
    (h : (call handlers o s).1 = none) (os : List Occurrence) :
    calls handlers (o :: os) s = calls handlers os (call handlers o s).2 := by
  rw [calls, h]
  rfl

theorem calls_cons_of_some {handlers : Handlers σ α} {o : Occurrence} {s : σ} {r : Result α}
    (h : (call handlers o s).1 = some r) (os : List Occurrence) :
    calls handlers (o :: os) s = (o, r) :: calls handlers os (call handlers o s).2 := by
  rw [calls, h]
  rfl

/-- A node is visited by calling its handler; without one the walk goes on. -/
theorem visit_eq (handlers : Handlers σ Action) (o : Occurrence) (s : σ) :
    visit handlers o s = ((call handlers o s).1.getD (.ok .descend), (call handlers o s).2) := by
  rw [visit, call]
  cases handlers.lookup o.kind <;> rfl

/-- A handler is called at a node exactly when the table has one for it. -/
theorem isSome_call (handlers : Handlers σ α) (o : Occurrence) (s : σ) :
    (call handlers o s).1.isSome = handles handlers o := by
  rw [call, handles]
  cases handlers.lookup o.kind <;> rfl

/-- Handlers are called at the nodes of their kinds, in order. -/
theorem map_fst_calls (handlers : Handlers σ α) (os : List Occurrence) (s : σ) :
    (calls handlers os s).map Prod.fst = os.filter (handles handlers) := by
  induction os generalizing s with
  | nil => rfl
  | cons o os ih =>
    rw [List.filter_cons, ← isSome_call handlers o s]
    cases h : (call handlers o s).1 with
    | none => rw [calls_cons_of_none h, ih, if_neg (by simp)]
    | some r => rw [calls_cons_of_some h, List.map_cons, ih, if_pos (by simp)]

theorem calls_append (handlers : Handlers σ α) (os ps : List Occurrence) (s : σ) :
    calls handlers (os ++ ps) s =
      calls handlers os s ++ calls handlers ps (after handlers os s) := by
  induction os generalizing s with
  | nil => rfl
  | cons o os ih => rw [List.cons_append, calls, calls, ih, List.append_assoc, after_cons]

theorem after_append (handlers : Handlers σ α) (os ps : List Occurrence) (s : σ) :
    after handlers (os ++ ps) s = after handlers ps (after handlers os s) := by
  induction os generalizing s with
  | nil => rfl
  | cons o os ih => rw [List.cons_append, after_cons, ih, after_cons]

/-! ## The first answer that does not pass -/

/-- The answers at some first nodes of a list pass a test, and at the next node the answer `r` is
given. -/
structure Reaches (passes : Result α → Prop) (handlers : Handlers σ α) (os : List Occurrence)
    (s : σ) (before : List Occurrence) (o : Occurrence) (r : Result α) : Prop where
  split : ∃ rest, os = before ++ o :: rest
  passed : ∀ c ∈ calls handlers before s, passes c.2
  answered : (call handlers o (after handlers before s)).1 = some r

/-- The same answer is reached in a longer list. -/
theorem Reaches.of_prefix {passes : Result α → Prop} {handlers : Handlers σ α}
    {os before : List Occurrence} {s : σ} {o : Occurrence} {r : Result α}
    (h : Reaches passes handlers os s before o r) (more : List Occurrence) :
    Reaches passes handlers (os ++ more) s before o r := by
  obtain ⟨rest, rfl⟩ := h.split
  exact ⟨⟨rest ++ more, by simp⟩, h.passed, h.answered⟩

/-- An answer is reached before the list ends. -/
theorem Reaches.length_lt {passes : Result α → Prop} {handlers : Handlers σ α}
    {os before : List Occurrence} {s : σ} {o : Occurrence} {r : Result α}
    (h : Reaches passes handlers os s before o r) : before.length < os.length := by
  obtain ⟨rest, rfl⟩ := h.split
  simp

/-- All answers pass a test, or there is a first one that does not. -/
theorem all_or_reaches (passes : Result α → Prop) (handlers : Handlers σ α)
    (os : List Occurrence) (s : σ) :
    (∀ c ∈ calls handlers os s, passes c.2) ∨
      ∃ before o r, Reaches passes handlers os s before o r ∧ ¬ passes r := by
  induction os generalizing s with
  | nil => exact Or.inl (by simp)
  | cons o os ih =>
    -- what comes first at the other nodes comes first here, if the answer at this node passes
    have hrest : (∀ c ∈ calls handlers [o] s, passes c.2) →
        (∃ before p r, Reaches passes handlers os (call handlers o s).2 before p r ∧ ¬ passes r) →
        ∃ before p r, Reaches passes handlers (o :: os) s before p r ∧ ¬ passes r := by
      rintro hone ⟨before, p, r, ⟨⟨rest, rfl⟩, hpassed, hanswered⟩, hr⟩
      refine ⟨o :: before, p, r, ⟨⟨rest, rfl⟩, ?_, hanswered⟩, hr⟩
      rw [← List.singleton_append, calls_append]
      intro c hc
      rcases List.mem_append.mp hc with hc | hc
      · exact hone c hc
      · exact hpassed c hc
    cases ho : (call handlers o s).1 with
    | none =>
      rw [calls_cons_of_none ho]
      refine (ih (call handlers o s).2).imp id (hrest ?_)
      rw [calls_cons_of_none ho]
      simp
    | some r =>
      by_cases hr : passes r
      · rw [calls_cons_of_some ho]
        refine (ih (call handlers o s).2).imp ?_ (hrest ?_)
        · intro hall c hc
          rcases List.mem_cons.mp hc with rfl | hc
          · exact hr
          · exact hall c hc
        · rw [calls_cons_of_some ho]
          simpa using hr
      · exact Or.inr ⟨[], o, r, ⟨⟨os, rfl⟩, by simp, ho⟩, hr⟩

/-! ## Handlers inside others -/

/-- Handlers are turned into others that work on a larger state: the smaller state moves as
before, and each answer is changed in a fixed way. -/
structure Wraps (view : τ → σ) (wrap : Handler σ α → Handler τ γ) (change : Result α → Result γ) :
    Prop where
  answer : ∀ handle o t, (wrap handle o t).1 = change (handle o (view t)).1
  state : ∀ handle o t, view (wrap handle o t).2 = (handle o (view t)).2

/-- A table with each of its handlers inside another one. -/
def wrapped (wrap : Handler σ α → Handler τ γ) (handlers : Handlers σ α) : Handlers τ γ :=
  handlers.map fun h => (h.1, wrap h.2)

namespace Wraps

variable {view : τ → σ} {wrap : Handler σ α → Handler τ γ} {change : Result α → Result γ}

theorem call (h : Wraps view wrap change) (handlers : Handlers σ α) (o : Occurrence) (t : τ) :
    (Walk.call (wrapped wrap handlers) o t).1 =
        (Walk.call handlers o (view t)).1.map change ∧
      view (Walk.call (wrapped wrap handlers) o t).2 = (Walk.call handlers o (view t)).2 := by
  rw [Walk.call, Walk.call, wrapped, lookup_map_snd]
  cases handlers.lookup o.kind with
  | none => exact ⟨rfl, rfl⟩
  | some handle => exact ⟨congrArg some (h.answer handle o t), h.state handle o t⟩

/-- Handlers inside others are called at the same nodes and give the changed answers. -/
theorem calls (h : Wraps view wrap change) (handlers : Handlers σ α) (os : List Occurrence)
    (t : τ) :
    Walk.calls (wrapped wrap handlers) os t =
      (Walk.calls handlers os (view t)).map fun c => (c.1, change c.2) := by
  induction os generalizing t with
  | nil => rfl
  | cons o os ih =>
    obtain ⟨hanswer, hstate⟩ := h.call handlers o t
    rw [Walk.calls, Walk.calls, ih, hstate, hanswer, List.map_append]
    cases (Walk.call handlers o (view t)).1 <;> rfl

/-- Handlers inside others leave the same state. -/
theorem after (h : Wraps view wrap change) (handlers : Handlers σ α) (os : List Occurrence)
    (t : τ) : view (Walk.after (wrapped wrap handlers) os t) = Walk.after handlers os (view t) := by
  induction os generalizing t with
  | nil => rfl
  | cons o os ih => rw [after_cons, after_cons, ih, (h.call handlers o t).2]

variable {passes : Result α → Prop} {passes' : Result γ → Prop} {handlers : Handlers σ α}
  {os before : List Occurrence} {o : Occurrence} {r : Result α} {t : τ}

/-- If the changed answers pass when the answers do, they pass at the same nodes. -/
theorem passed_iff (h : Wraps view wrap change) (hpass : ∀ r, passes' (change r) ↔ passes r) :
    (∀ c ∈ Walk.calls (wrapped wrap handlers) os t, passes' c.2) ↔
      ∀ c ∈ Walk.calls handlers os (view t), passes c.2 := by
  rw [h.calls, List.forall_mem_map]
  exact forall₂_congr fun c _ => hpass c.2

/-- If the changed answers pass when the answers do, the first other one is at the same node. -/
theorem reaches (h : Wraps view wrap change) (hpass : ∀ r, passes' (change r) ↔ passes r)
    (hr : Reaches passes handlers os (view t) before o r) :
    Reaches passes' (wrapped wrap handlers) os t before o (change r) where
  split := hr.split
  passed := (h.passed_iff hpass).mpr hr.passed
  answered := by rw [(h.call handlers o _).1, h.after, hr.answered, Option.map_some]

end Wraps

/-! ## Recording calls -/

/-- A handler that also notes the nodes at which it is called. -/
def noting (handle : Handler σ α) : Handler (σ × List Occurrence) α :=
  fun o (s, seen) => ((handle o s).1, ((handle o s).2, seen ++ [o]))

/-- A table whose handlers also note the nodes at which they are called. -/
def noted (handlers : Handlers σ α) : Handlers (σ × List Occurrence) α :=
  wrapped noting handlers

/-- Noting the calls does not change them. -/
theorem Wraps.noting : Wraps Prod.fst (noting : Handler σ α → Handler _ α) id where
  answer := fun _ _ _ => rfl
  state := fun _ _ _ => rfl

/-- The nodes noted are those of the calls. -/
theorem after_noted (handlers : Handlers σ α) (os : List Occurrence) (s : σ)
    (seen : List Occurrence) :
    after (noted handlers) os (s, seen) =
      (after handlers os s, seen ++ os.filter (handles handlers)) := by
  induction os generalizing s seen with
  | nil => simp
  | cons o os ih =>
    rw [after_cons, after_cons, List.filter_cons, handles, noted, wrapped, call, call,
      lookup_map_snd]
    cases handlers.lookup o.kind with
    | none => exact ih s seen
    | some handle =>
      refine (ih (handle o s).2 (seen ++ [o])).trans ?_
      simp

end Walk

end ScriptNavigation
