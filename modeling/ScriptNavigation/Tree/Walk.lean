/-
# Walks over a tree

A walk visits the nodes of a tree, each before its children, and asks the handler for the
kind of each node what to do next.  A kind without a handler is walked through.  Before
each visit the walk looks whether it has been cancelled.

Handlers work on a state: it may hold what has been seen so far, and it is what tells
whether the walk is cancelled, so a handler may cancel the walk it is part of.  Others may
cancel the walk as well while it goes on; when they do is told by the number of visits made
by then.

Two further ways to walk are built on this one: `first` stops at the first result, and
`gather` keeps the results of all visits.

Main facts:

* `order_eq_preorder`: a walk visits an occurrence before its children, and the children in
  order with all that is below them.
-/
import ScriptNavigation.Failure
import ScriptNavigation.Tree.Occurrence

namespace ScriptNavigation

/-- What a visit tells the walk to do next. -/
inductive Action where
  /-- Go on, into the children first. -/
  | descend
  /-- End the whole walk. -/
  | stop
  deriving DecidableEq, Repr

/-- What is done at a node, in a state of type `σ` and with an answer of type `α`. -/
abbrev Handler (σ α : Type) := Occurrence → σ → Result α × σ

/-- The handlers of a walk by the kind of node that each one is for. -/
abbrev Handlers (σ α : Type) := List (NodeKind × Handler σ α)

namespace Walk

variable {σ α : Type}

/-! ## Plain walks -/

/-- Visits a node: its handler is run, if there is one. -/
def visit (handlers : Handlers σ Action) (o : Occurrence) (s : σ) : Result Action × σ :=
  match handlers.lookup o.kind with
  | some handle => handle o s
  | none => (.ok .descend, s)

/-- Walks over the trees of the occurrences that wait on a stack, after some visits.  The
answer is whether a handler ended the walk. -/
def run (cancelled : σ → Bool) (outside : Nat → Bool) (handlers : Handlers σ Action)
    (visited : Nat) (stack : List Occurrence) (s : σ) : Result Bool × σ :=
  match stack with
  | [] => (.ok false, s)
  | o :: rest =>
    if cancelled s || outside visited then (.error (.cancelled visited), s)
    else
      match visit handlers o s with
      | (.error e, s') => (.error e, s')
      | (.ok .stop, s') => (.ok true, s')
      | (.ok .descend, s') =>
        run cancelled outside handlers (visited + 1) (o.children ++ rest) s'
termination_by Occurrence.totalSize stack
decreasing_by
  have := Occurrence.totalSize_children o
  simp only [Occurrence.totalSize_append, Occurrence.totalSize_cons]
  omega

/-- Walks over the tree below a root, if there is one. -/
def walk (cancelled : σ → Bool) (handlers : Handlers σ Action) (root : Option Occurrence)
    (s : σ) (outside : Nat → Bool := fun _ => false) : Result Bool × σ :=
  match root with
  | some o => run cancelled outside handlers 0 [o] s
  | none => (.error (.rejected (.missing .walkRoot)), s)

/-! ## The first result -/

/-- A handler that ends the walk with its result, if it has one, and keeps the result. -/
def stopAtResult (handle : Handler σ (Option α)) : Handler (σ × Option α) Action :=
  fun o (s, found) =>
    match handle o s with
    | (.ok none, s') => (.ok .descend, (s', found))
    | (.ok (some a), s') => (.ok .stop, (s', some a))
    | (.error e, s') => (.error e, (s', found))

/-- The first result of a handler in document order. -/
def first (cancelled : σ → Bool) (handlers : Handlers σ (Option α))
    (root : Option Occurrence) (s : σ) (outside : Nat → Bool := fun _ => false) :
    Result (Option α) × σ :=
  let (ended, s', found) :=
    walk (fun t => cancelled t.1) (handlers.map fun h => (h.1, stopAtResult h.2)) root (s, none)
      outside
  (ended.map fun _ => found, s')

/-! ## All results -/

/-- A handler that adds its results to those kept so far. -/
def keepResults (handle : Handler σ (List α)) : Handler (σ × List α) Action :=
  fun o (s, kept) =>
    match handle o s with
    | (.ok as, s') => (.ok .descend, (s', kept ++ as))
    | (.error e, s') => (.error e, (s', kept))

/-- All results of the handlers in document order. -/
def gather (cancelled : σ → Bool) (handlers : Handlers σ (List α))
    (root : Option Occurrence) (s : σ) (outside : Nat → Bool := fun _ => false) :
    Result (List α) × σ :=
  let (ended, s', kept) :=
    walk (fun t => cancelled t.1) (handlers.map fun h => (h.1, keepResults h.2)) root (s, [])
      outside
  (ended.map fun _ => kept, s')

/-! ## The nodes of a tree -/

/-- The occurrences visited by a walk over the trees on a stack. -/
def order (stack : List Occurrence) : List Occurrence :=
  match stack with
  | [] => []
  | o :: rest => o :: order (o.children ++ rest)
termination_by Occurrence.totalSize stack
decreasing_by
  have := Occurrence.totalSize_children o
  simp only [Occurrence.totalSize_append, Occurrence.totalSize_cons]
  omega

/-- The trees on a stack are visited one after the other. -/
theorem order_eq_flatMap (stack : List Occurrence) :
    order stack = stack.flatMap Occurrence.preorder := by
  fun_induction order stack with
  | case1 => rfl
  | case2 o rest ih =>
    rw [ih, List.flatMap_append, List.flatMap_cons, Occurrence.preorder_eq]
    simp

/-- A walk over one tree visits it in document order. -/
theorem order_eq_preorder (o : Occurrence) : order [o] = o.preorder := by
  rw [order_eq_flatMap]
  simp

end Walk

end ScriptNavigation
