/-
# The answers of a query

A query that is not cancelled asks its probes at every node in document order.  Either it
takes the first answer, or it lists all of them; the walk with its stack, its state and its
handlers does not show any more.

Main facts:

* `calls_handler`: a walk with probes asks them at each node by itself.
* `gather_eq`: all answers are the answers node by node, put together in order.
* `gather_eq_ok_iff`: when a query lists something, and what.
* `first_eq`: the first answer is the first one that a node gives.
* `first_eq_ok_iff`: when a query finds something, or nothing.
* `gather_total`, `first_total`: a query whose probes fail at no node does not fail.
* `firstAnswer_eq_some_iff`, `firstAnswer_eq_none_iff`: before the first answer there are none.
* `mem_of_gather`, `exists_of_first`: what an answer says about the nodes.
-/
import ScriptNavigation.Navigation.Query
import ScriptNavigation.Proofs.Walk.Order

namespace ScriptNavigation

namespace Query

variable {α β : Type}

/-! ## Probes at a node -/

/-- What probes list at a node: nothing, if none of them is for its kind. -/
def listAt (probes : Probes (List α)) : Probe (List α) := fun o =>
  match probes.lookup o.kind with
  | some probe => probe o
  | none => .ok []

/-- What probes answer at a node: nothing, if none of them is for its kind. -/
def askAt (probes : Probes (Option α)) : Probe (Option α) := fun o =>
  match probes.lookup o.kind with
  | some probe => probe o
  | none => .ok none

/-- A node has an answer exactly if the probe for its kind has one. -/
theorem askAt_eq_some_iff {probes : Probes (Option α)} {o : Occurrence} {a : α} :
    askAt probes o = .ok (some a) ↔
      ∃ probe, probes.lookup o.kind = some probe ∧ probe o = .ok (some a) := by
  rw [askAt]
  cases probes.lookup o.kind with
  | none => simp
  | some probe => simp

/-- A probe has no state, so the probes are called at each node alike. -/
theorem calls_handler (probes : Probes α) (os : List Occurrence) :
    Walk.calls (probes.map fun p => (p.1, handler p.2)) os () =
      os.filterMap fun o => (probes.lookup o.kind).map fun probe => (o, probe o) := by
  induction os with
  | nil => rfl
  | cons o os ih =>
    rw [Walk.calls, Walk.call, lookup_map_snd, List.filterMap_cons]
    cases probes.lookup o.kind with
    | none => exact ih
    | some probe => exact congrArg (List.cons (o, probe o)) ih

/-! ## All answers -/

/-- The lists of all calls are those of all nodes; a node without a probe lists nothing. -/
theorem mapM_calls_handler (probes : Probes (List α)) (os : List Occurrence) :
    ((Walk.calls (probes.map fun p => (p.1, handler p.2)) os ()).mapM Prod.snd).map List.flatten =
      (os.mapM (listAt probes)).map List.flatten := by
  rw [calls_handler]
  induction os with
  | nil => rfl
  | cons o os ih =>
    rw [Result.map_flatten_mapM_cons, List.filterMap_cons, listAt, ← ih]
    cases probes.lookup o.kind with
    | none =>
      dsimp only [Option.map_none]
      rw [Result.ok_bind]
      exact (congrFun Except.map_id _).symm
    | some probe => exact Result.map_flatten_mapM_cons Prod.snd (o, probe o) _

/-- All answers are the answers node by node, put together in order. -/
theorem gather_eq (s : Script) (infer : Inferer) (probes : Probes (List α)) :
    (Query.mk s infer false).gather probes =
      (s.nodes.mapM (listAt probes)).map List.flatten := by
  rw [gather, Walk.fst_gather, mapM_calls_handler, s.nodes_eq]

/-- What a cancelled query lists. -/
theorem gather_cancelled (s : Script) (infer : Inferer) (probes : Probes (List α)) :
    (Query.mk s infer true).gather probes = .error (.cancelled 0) := by
  rw [gather, Walk.gather, Walk.walk, Walk.run]
  rfl

/-- A query lists something exactly if it is not cancelled and no probe fails; then it lists what
the nodes list, one after the other. -/
theorem gather_eq_ok_iff {q : Query} {probes : Probes (List α)} {as : List α} :
    q.gather probes = .ok as ↔
      q.cancelled = false ∧
        ∃ lists, q.script.nodes.mapM (listAt probes) = .ok lists ∧ lists.flatten = as := by
  obtain ⟨s, infer, cancelled⟩ := q
  cases cancelled with
  | true =>
    rw [gather_cancelled]
    refine iff_of_false ?_ fun h => Bool.noConfusion h.1
    intro h
    cases h
  | false =>
    rw [gather_eq, Result.map_eq_ok]
    exact (and_iff_right rfl).symm

/-! ## The first answer -/

/-- The first call that ends a search is at the first node that has an answer. -/
theorem find?_calls_handler (probes : Probes (Option α)) (os : List Occurrence) :
    (((Walk.calls (probes.map fun p => (p.1, handler p.2)) os ()).map Prod.snd).find?
        Walk.endsSearch).getD (.ok none) = firstAnswer (askAt probes) os := by
  rw [calls_handler]
  induction os with
  | nil => rfl
  | cons o os ih =>
    rw [firstAnswer, askAt, List.filterMap_cons]
    cases probes.lookup o.kind with
    | none => exact ih
    | some probe =>
      dsimp only [Option.map_some]
      rw [List.map_cons]
      cases probe o with
      | error e => rfl
      | ok found =>
        cases found with
        | none => exact ih
        | some a => rfl

/-- The first answer is the first one that a node gives. -/
theorem first_eq (s : Script) (infer : Inferer) (probes : Probes (Option α)) :
    (Query.mk s infer false).first probes = firstAnswer (askAt probes) s.nodes := by
  rw [first, Walk.fst_first, find?_calls_handler, s.nodes_eq]

/-- What a cancelled query finds. -/
theorem first_cancelled (s : Script) (infer : Inferer) (probes : Probes (Option α)) :
    (Query.mk s infer true).first probes = .error (.cancelled 0) := by
  rw [first, Walk.first, Walk.walk, Walk.run]
  rfl

/-- A query finds something, or nothing, exactly if it is not cancelled and the nodes say so. -/
theorem first_eq_ok_iff {q : Query} {probes : Probes (Option α)} {found : Option α} :
    q.first probes = .ok found ↔
      q.cancelled = false ∧ firstAnswer (askAt probes) q.script.nodes = .ok found := by
  obtain ⟨s, infer, cancelled⟩ := q
  cases cancelled with
  | true =>
    rw [first_cancelled]
    refine iff_of_false ?_ fun h => Bool.noConfusion h.1
    intro h
    cases h
  | false =>
    rw [first_eq]
    exact (and_iff_right rfl).symm

/-! ## Queries that do not fail -/

/-- Questions that can all be answered have a first answer, or none. -/
theorem firstAnswer_total {ask : α → Result (Option β)} {as : List α}
    (h : ∀ a ∈ as, ∃ b, ask a = .ok b) : ∃ b, firstAnswer ask as = .ok b := by
  induction as with
  | nil => exact ⟨none, rfl⟩
  | cons a as ih =>
    obtain ⟨found, hfound⟩ := h a List.mem_cons_self
    rw [firstAnswer, hfound, Result.ok_bind]
    cases found with
    | some b => exact ⟨some b, rfl⟩
    | none => exact ih fun c hc => h c (List.mem_cons_of_mem _ hc)

/-- A query whose probes fail at no node has a first answer, or none. -/
theorem first_total {s : Script} {infer : Inferer} {probes : Probes (Option α)}
    (h : ∀ o ∈ s.nodes, ∃ found, askAt probes o = .ok found) :
    ∃ found, (Query.mk s infer false).first probes = .ok found := by
  rw [first_eq]
  exact firstAnswer_total h

/-- A query whose probes fail at no node lists its answers. -/
theorem gather_total {s : Script} {infer : Inferer} {probes : Probes (List α)}
    (h : ∀ o ∈ s.nodes, ∃ found, listAt probes o = .ok found) :
    ∃ found, (Query.mk s infer false).gather probes = .ok found := by
  rw [gather_eq]
  exact Result.map_total _ (Result.mapM_total h)

/-! ## Before the first answer -/

/-- The first answer is that of the first one who has an answer: all those before it were asked
and had none. -/
theorem firstAnswer_eq_some_iff {ask : α → Result (Option β)} {as : List α} {b : β} :
    firstAnswer ask as = .ok (some b) ↔
      ∃ before a after, as = before ++ a :: after ∧ ask a = .ok (some b) ∧
        ∀ c ∈ before, ask c = .ok none := by
  induction as with
  | nil =>
    constructor
    · intro h
      cases h
    · rintro ⟨before, a, after, hsplit, -⟩
      exact absurd hsplit (by simp)
  | cons d as ih =>
    rw [firstAnswer, Result.bind_eq_ok]
    constructor
    · rintro ⟨found, hfound, h⟩
      cases found with
      | some c => exact ⟨[], d, as, rfl, hfound.trans h, by simp⟩
      | none =>
        obtain ⟨before, a, after, rfl, ha, hbefore⟩ := ih.mp h
        refine ⟨d :: before, a, after, rfl, ha, ?_⟩
        intro c hc
        rcases List.mem_cons.mp hc with rfl | hc
        · exact hfound
        · exact hbefore c hc
    · rintro ⟨before, a, after, hsplit, ha, hbefore⟩
      cases before with
      | nil =>
        obtain ⟨rfl, rfl⟩ := List.cons_eq_cons.mp hsplit
        exact ⟨some b, ha, rfl⟩
      | cons c before =>
        obtain ⟨rfl, rfl⟩ := List.cons_eq_cons.mp hsplit
        refine ⟨none, hbefore d List.mem_cons_self, ?_⟩
        exact ih.mpr ⟨before, a, after, rfl, ha, fun e he => hbefore e (List.mem_cons_of_mem d he)⟩

/-- There is no answer exactly if all were asked and had none. -/
theorem firstAnswer_eq_none_iff {ask : α → Result (Option β)} {as : List α} :
    firstAnswer ask as = .ok none ↔ ∀ a ∈ as, ask a = .ok none := by
  induction as with
  | nil => exact iff_of_true rfl fun a ha => absurd ha List.not_mem_nil
  | cons a as ih =>
    rw [firstAnswer, Result.bind_eq_ok, List.forall_mem_cons, ← ih]
    constructor
    · rintro ⟨found, hfound, h⟩
      cases found with
      | none => exact ⟨hfound, h⟩
      | some b => cases h
    · rintro ⟨ha, h⟩
      exact ⟨none, ha, h⟩

/-! ## Longer lists -/

/-- Answers to further questions do not come first where there is an answer already. -/
theorem firstAnswer_append_of_some {ask : α → Result (Option β)} {as : List α} {b : β}
    (h : firstAnswer ask as = .ok (some b)) (bs : List α) :
    firstAnswer ask (as ++ bs) = .ok (some b) := by
  obtain ⟨before, a, after, rfl, ha, hbefore⟩ := firstAnswer_eq_some_iff.mp h
  rw [List.append_assoc, List.cons_append]
  exact firstAnswer_eq_some_iff.mpr ⟨before, a, after ++ bs, rfl, ha, hbefore⟩

/-- The first answer is the same where each question is answered alike. -/
theorem firstAnswer_map {γ : Type} {ask' : γ → Result (Option β)} {ask : α → Result (Option β)}
    {g : α → γ} {as : List α} (h : ∀ a ∈ as, ask' (g a) = ask a) :
    firstAnswer ask' (as.map g) = firstAnswer ask as := by
  induction as with
  | nil => rfl
  | cons a as ih =>
    rw [List.map_cons, firstAnswer, firstAnswer, h a List.mem_cons_self,
      ih fun b hb => h b (List.mem_cons_of_mem a hb)]

/-! ## What answers say -/

/-- The first answer to a question is the answer to it for one of those asked. -/
theorem exists_of_firstAnswer {ask : α → Result (Option β)} {as : List α} {b : β}
    (h : firstAnswer ask as = .ok (some b)) : ∃ a ∈ as, ask a = .ok (some b) := by
  obtain ⟨before, a, after, rfl, ha, -⟩ := firstAnswer_eq_some_iff.mp h
  exact ⟨a, List.mem_append_right before List.mem_cons_self, ha⟩

/-- If one of those asked has an answer and none of them fails, there is a first answer. -/
theorem firstAnswer_of_mem {ask : α → Result (Option β)} {as : List α} {a : α} {b : β}
    {found : Option β} (h : firstAnswer ask as = .ok found) (ha : a ∈ as)
    (hask : ask a = .ok (some b)) : ∃ c, found = some c := by
  induction as with
  | nil => cases ha
  | cons d as ih =>
    rw [firstAnswer, Result.bind_eq_ok] at h
    obtain ⟨first, hfirst, h⟩ := h
    cases first with
    | some c =>
      cases h
      exact ⟨c, rfl⟩
    | none =>
      rcases List.mem_cons.mp ha with rfl | ha
      · rw [hask] at hfirst
        cases hfirst
      · exact ih h ha

/-- What a query finds is the answer of a probe at a node of the kind it is for. -/
theorem exists_of_first {q : Query} {probes : Probes (Option α)} {a : α}
    (h : q.first probes = .ok (some a)) :
    ∃ o ∈ q.script.nodes, ∃ probe, probes.lookup o.kind = some probe ∧
      probe o = .ok (some a) := by
  obtain ⟨o, ho, hask⟩ := exists_of_firstAnswer (first_eq_ok_iff.mp h).2
  exact ⟨o, ho, askAt_eq_some_iff.mp hask⟩

/-- What a query lists is what its probes list at some node. -/
theorem mem_of_gather {q : Query} {probes : Probes (List α)} {as : List α} {a : α}
    (h : q.gather probes = .ok as) :
    a ∈ as ↔ ∃ o ∈ q.script.nodes, ∃ found, listAt probes o = .ok found ∧ a ∈ found := by
  obtain ⟨-, lists, hlists, rfl⟩ := gather_eq_ok_iff.mp h
  rw [List.mem_flatten]
  constructor
  · rintro ⟨found, hfound, ha⟩
    obtain ⟨o, ho, hlist⟩ := (Result.mem_iff_of_mapM_eq_ok hlists).mp hfound
    exact ⟨o, ho, found, hlist, ha⟩
  · rintro ⟨o, ho, found, hlist, ha⟩
    exact ⟨found, (Result.mem_iff_of_mapM_eq_ok hlists).mpr ⟨o, ho, hlist⟩, ha⟩

/-- Where a query lists anything at all, its probes fail at no node. -/
theorem exists_of_gather {q : Query} {probes : Probes (List α)} {as : List α} {o : Occurrence}
    (h : q.gather probes = .ok as) (ho : o ∈ q.script.nodes) :
    ∃ found, listAt probes o = .ok found := by
  obtain ⟨-, lists, hlists, -⟩ := gather_eq_ok_iff.mp h
  obtain ⟨found, -, hfound⟩ := Result.exists_of_mapM_eq_ok hlists ho
  exact ⟨found, hfound⟩

end Query

end ScriptNavigation
