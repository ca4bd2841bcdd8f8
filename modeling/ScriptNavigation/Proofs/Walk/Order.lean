/-
# Walks in document order

A walk with a stack visits the nodes of a tree in document order, and so do the two ways to
walk that are built on it.  A walk that nobody cancels ends at the first answer that ends it.
The first result is the first answer that is one, and the handlers are called at no later node.
All results are the answers one after the other.  So the first result is the head of the list
of all results.

Main facts:

* `along_append`: a walk along a list goes through the nodes whose answers let it go on.
* `along_of_reaches`, `along_of_all`: where a walk ends, and in which state.
* `first_of_reaches`, `first_of_all`: what the search for the first result finds.
* `fst_gather`: all results are the answers put together.
* `walks_in_document_order`: the three ways to walk, seen along the list of nodes.
-/
import ScriptNavigation.Proofs.Reading.Field
import ScriptNavigation.Proofs.Tree.Numbering
import ScriptNavigation.Proofs.Walk.Calls

namespace ScriptNavigation

namespace Walk

variable {σ α β : Type}

/-! ## Going along a list -/

/-- An answer that lets a walk go on. -/
def Descends (r : Result Action) : Prop := r = .ok .descend

section Along

variable {cancelled : σ → Bool} {outside : Nat → Bool} {handlers : Handlers σ Action}
  {visited : Nat} {os before : List Occurrence} {o : Occurrence} {s : σ} {r : Result Action}

/-- The first node is visited, if the walk is not cancelled before. -/
theorem along_cons (h : (cancelled s || outside visited) = false) :
    along cancelled outside handlers visited (o :: os) s =
      match (call handlers o s).1.getD (.ok .descend) with
      | .error e => (.error e, (call handlers o s).2)
      | .ok .stop => (.ok true, (call handlers o s).2)
      | .ok .descend =>
        along cancelled outside handlers (visited + 1) os (call handlers o s).2 := by
  rw [along, h, if_neg Bool.false_ne_true, visit_eq]
  cases (call handlers o s).1.getD (.ok .descend) with
  | error e => rfl
  | ok action => cases action <;> rfl

/-- A walk goes through the nodes whose answers let it go on, as long as it is not cancelled. -/
theorem along_append (hpass : ∀ c ∈ calls handlers before s, Descends c.2)
    (hclear : ∀ j < before.length,
      (cancelled (after handlers (before.take j) s) || outside (visited + j)) = false)
    (os : List Occurrence) :
    along cancelled outside handlers visited (before ++ os) s =
      along cancelled outside handlers (visited + before.length) os (after handlers before s) := by
  induction before generalizing visited s with
  | nil => rfl
  | cons o before ih =>
    have hanswer : (call handlers o s).1.getD (.ok .descend) = .ok .descend := by
      cases ho : (call handlers o s).1 with
      | none => rfl
      | some r =>
        rw [calls_cons_of_some ho] at hpass
        exact hpass (o, r) List.mem_cons_self
    have hnow : (cancelled s || outside visited) = false := hclear 0 (Nat.succ_pos _)
    have hlater : ∀ j < before.length,
        (cancelled (after handlers (before.take j) (call handlers o s).2) ||
          outside (visited + 1 + j)) = false := by
      intro j hj
      have hstep := hclear (j + 1) (Nat.succ_lt_succ hj)
      rwa [List.take_succ_cons, after_cons, Nat.add_comm j 1, ← Nat.add_assoc] at hstep
    rw [List.cons_append, along_cons hnow, hanswer]
    refine (ih (fun c hc => hpass c (List.mem_append_right _ hc)) hlater).trans ?_
    rw [List.length_cons, after_cons, Nat.add_assoc, Nat.add_comm 1]

/-- A walk ends at the first answer that does not let it go on. -/
theorem along_of_reaches (h : Reaches Descends handlers os s before o r) (hr : ¬ Descends r)
    (hclear : ∀ j ≤ before.length,
      (cancelled (after handlers (os.take j) s) || outside (visited + j)) = false) :
    along cancelled outside handlers visited os s =
      (r.map fun _ => true, after handlers (before ++ [o]) s) := by
  obtain ⟨⟨rest, rfl⟩, hpassed, hanswered⟩ := h
  have hbefore : ∀ j < before.length,
      (cancelled (after handlers (before.take j) s) || outside (visited + j)) = false := by
    intro j hj
    have hlook := hclear j (Nat.le_of_lt hj)
    rwa [List.take_append_of_le_length (Nat.le_of_lt hj)] at hlook
  have hlast := hclear before.length (Nat.le_refl _)
  rw [List.take_left] at hlast
  rw [along_append hpassed hbefore, along_cons hlast, hanswered, after_append]
  cases r with
  | error e => rfl
  | ok action =>
    cases action with
    | descend => exact absurd rfl hr
    | stop => rfl

/-- A walk that every answer lets go on comes to the end of the list. -/
theorem along_of_all (hpass : ∀ c ∈ calls handlers os s, Descends c.2)
    (hclear : ∀ j < os.length,
      (cancelled (after handlers (os.take j) s) || outside (visited + j)) = false) :
    along cancelled outside handlers visited os s = (.ok false, after handlers os s) := by
  have hwhole := along_append hpass hclear []
  rwa [List.append_nil] at hwhole

end Along

/-- A walk that nobody cancels says that it was ended exactly when an answer ends it. -/
theorem fst_walk_eq_true_iff (handlers : Handlers σ Action) (o : Occurrence) (s : σ) :
    (walk (fun _ => false) handlers (some o) s).1 = .ok true ↔
      ∃ before p, Reaches Descends handlers o.preorder s before p (.ok .stop) := by
  rw [walk_eq_along]
  constructor
  · intro h
    rcases all_or_reaches Descends handlers o.preorder s with hall | ⟨before, p, r, hreach, hr⟩
    · rw [along_of_all hall fun _ _ => rfl] at h
      cases h
    · rw [along_of_reaches hreach hr fun _ _ => rfl] at h
      cases r with
      | error e => cases h
      | ok action =>
        cases action with
        | descend => exact absurd rfl hr
        | stop => exact ⟨before, p, hreach⟩
  · rintro ⟨before, p, hreach⟩
    have hstop : ¬ Descends (.ok .stop) := fun h => nomatch h
    rw [along_of_reaches hreach hstop fun _ _ => rfl]
    rfl

/-! ## The first result -/

/-- What is left of a walk that keeps something beside its state: what it has kept, and the
state. -/
def outcome (r : Result Bool × (σ × β)) : Result β × σ := (r.1.map fun _ => r.2.2, r.2.1)

/-- The first result is searched for along the nodes in document order. -/
theorem first_eq_along (cancelled : σ → Bool) (outside : Nat → Bool)
    (handlers : Handlers σ (Option α)) (o : Occurrence) (s : σ) :
    first cancelled handlers (some o) s outside =
      outcome (along (fun t => cancelled t.1) outside (wrapped stopAtResult handlers) 0 o.preorder
        (s, none)) := by
  rw [← walk_eq_along]
  rfl

/-- An answer that is no result. -/
def IsNothing (r : Result (Option α)) : Prop := r = .ok none

/-- What the search for the first result tells the walk at an answer. -/
def stopping (r : Result (Option α)) : Result Action :=
  r.map fun found => if found.isSome then .stop else .descend

theorem descends_stopping (r : Result (Option α)) : Descends (stopping r) ↔ IsNothing r := by
  cases r with
  | error e => simp [Descends, IsNothing, stopping]
  | ok found => cases found <;> simp [Descends, IsNothing, stopping]

theorem wraps_stopAtResult :
    Wraps Prod.fst (stopAtResult : Handler σ (Option α) → Handler _ Action) stopping where
  answer := by
    rintro handle o ⟨s, found⟩
    simp only [stopAtResult]
    rcases handle o s with ⟨_ | _ | _, s'⟩ <;> rfl
  state := by
    rintro handle o ⟨s, found⟩
    simp only [stopAtResult]
    rcases handle o s with ⟨_ | _ | _, s'⟩ <;> rfl

section First

variable {handlers : Handlers σ (Option α)} {os before : List Occurrence} {o p : Occurrence}
  {s : σ} {r : Result (Option α)}

/-- A call keeps its result, and keeps what there was if it has none. -/
theorem call_stopAtResult (handlers : Handlers σ (Option α)) (o : Occurrence) (s : σ)
    (found : Option α) :
    (call (wrapped stopAtResult handlers) o (s, found)).2 =
      ((call handlers o s).2, ((call handlers o s).1.bind Except.toOption).join.or found) := by
  rw [call, call, wrapped, lookup_map_snd]
  cases handlers.lookup o.kind with
  | none => rfl
  | some handle =>
    simp only [Option.map_some, stopAtResult]
    rcases handle o s with ⟨_ | _ | _, s'⟩ <;> rfl

/-- As long as no answer is a result, nothing is kept. -/
theorem after_stopAtResult (hpass : ∀ c ∈ calls handlers os s, IsNothing c.2) :
    after (wrapped stopAtResult handlers) os (s, none) = (after handlers os s, none) := by
  induction os generalizing s with
  | nil => rfl
  | cons o os ih =>
    have hkept : ((call handlers o s).1.bind Except.toOption).join = none := by
      cases ho : (call handlers o s).1 with
      | none => rfl
      | some r =>
        rw [calls_cons_of_some ho] at hpass
        obtain rfl : r = .ok none := hpass (o, r) List.mem_cons_self
        rfl
    rw [after_cons, after_cons, call_stopAtResult, hkept, Option.none_or]
    exact ih fun c hc => hpass c (List.mem_append_right _ hc)

/-- The search for the first result ends at the first answer that is one or a failure. -/
theorem first_of_reaches (h : Reaches IsNothing handlers o.preorder s before p r)
    (hr : ¬ IsNothing r) :
    first (fun _ => false) handlers (some o) s = (r, after handlers (before ++ [p]) s) := by
  have hstop : Reaches Descends (wrapped stopAtResult handlers) o.preorder (s, none) before p
      (stopping r) := wraps_stopAtResult.reaches descends_stopping h
  have hend : ¬ Descends (stopping r) := fun hd => hr ((descends_stopping r).mp hd)
  rw [first_eq_along, along_of_reaches hstop hend fun _ _ => rfl, after_append,
    after_stopAtResult h.passed, after_cons, call_stopAtResult, h.answered, after_append,
    after_cons]
  rcases r with e | _ | a
  · rfl
  · exact absurd rfl hr
  · rfl

/-- Without a result the search comes to the end. -/
theorem first_of_all (hpass : ∀ c ∈ calls handlers o.preorder s, IsNothing c.2) :
    first (fun _ => false) handlers (some o) s = (.ok none, after handlers o.preorder s) := by
  have hdescend : ∀ c ∈ calls (wrapped stopAtResult handlers) o.preorder (s, none),
      Descends c.2 := (wraps_stopAtResult.passed_iff descends_stopping).mpr hpass
  rw [first_eq_along, along_of_all hdescend fun _ _ => rfl, after_stopAtResult hpass]
  rfl

/-- Whether an answer ends the search for the first result: it is one, or a failure. -/
def endsSearch : Result (Option α) → Bool
  | .ok none => false
  | _ => true

theorem endsSearch_eq_false (r : Result (Option α)) : endsSearch r = false ↔ IsNothing r := by
  rcases r with e | _ | a <;> simp [endsSearch, IsNothing]

/-- The search for the first result gives the first answer that is one or a failure. -/
theorem fst_first (handlers : Handlers σ (Option α)) (o : Occurrence) (s : σ) :
    (first (fun _ => false) handlers (some o) s).1 =
      (((calls handlers o.preorder s).map Prod.snd).find? endsSearch).getD (.ok none) := by
  have hpasses : ∀ os, (∀ c ∈ calls handlers os s, IsNothing c.2) →
      ((calls handlers os s).map Prod.snd).find? endsSearch = none := by
    intro os hpass
    rw [List.find?_eq_none, List.forall_mem_map]
    intro c hc
    rw [(endsSearch_eq_false c.2).mpr (hpass c hc)]
    exact Bool.false_ne_true
  rcases all_or_reaches IsNothing handlers o.preorder s with hall | ⟨before, p, r, hreach, hr⟩
  · rw [first_of_all hall, hpasses o.preorder hall]
    rfl
  · have hends : endsSearch r = true := by
      rw [← Bool.not_eq_false, endsSearch_eq_false]
      exact hr
    obtain ⟨rest, hsplit⟩ := hreach.split
    rw [first_of_reaches hreach hr, hsplit, calls_append, calls_cons_of_some hreach.answered,
      List.map_append, List.find?_append, hpasses before hreach.passed, List.map_cons,
      List.find?_cons_of_pos hends]
    rfl

end First

/-! ## All results -/

/-- All results are gathered along the nodes in document order. -/
theorem gather_eq_along (cancelled : σ → Bool) (outside : Nat → Bool)
    (handlers : Handlers σ (List α)) (o : Occurrence) (s : σ) :
    gather cancelled handlers (some o) s outside =
      outcome (along (fun t => cancelled t.1) outside (wrapped keepResults handlers) 0 o.preorder
        (s, [])) := by
  rw [← walk_eq_along]
  rfl

/-- An answer that is no failure. -/
def Succeeds (r : Result α) : Prop := ∃ a, r = .ok a

/-- What the gathering of all results tells the walk at an answer. -/
def keeping (r : Result (List α)) : Result Action := r.map fun _ => .descend

theorem descends_keeping (r : Result (List α)) : Descends (keeping r) ↔ Succeeds r := by
  cases r <;> simp [Descends, Succeeds, keeping]

theorem wraps_keepResults :
    Wraps Prod.fst (keepResults : Handler σ (List α) → Handler _ Action) keeping where
  answer := by
    rintro handle o ⟨s, kept⟩
    simp only [keepResults]
    rcases handle o s with ⟨_ | _, s'⟩ <;> rfl
  state := by
    rintro handle o ⟨s, kept⟩
    simp only [keepResults]
    rcases handle o s with ⟨_ | _, s'⟩ <;> rfl

section Gather

variable {handlers : Handlers σ (List α)} {os before : List Occurrence} {o p : Occurrence} {s : σ}
  {lists : List (List α)}

/-- A call adds its results to those kept. -/
theorem call_keepResults (handlers : Handlers σ (List α)) (o : Occurrence) (s : σ)
    (kept : List α) :
    (call (wrapped keepResults handlers) o (s, kept)).2 =
      ((call handlers o s).2, kept ++ ((call handlers o s).1.bind Except.toOption).getD []) := by
  rw [call, call, wrapped, lookup_map_snd]
  cases handlers.lookup o.kind with
  | none => simp
  | some handle =>
    simp only [Option.map_some, keepResults]
    rcases handle o s with ⟨_ | _, s'⟩ <;> simp [Except.toOption]

/-- Calls that succeed add their results in order. -/
theorem after_keepResults (h : (calls handlers os s).mapM Prod.snd = .ok lists) (kept : List α) :
    after (wrapped keepResults handlers) os (s, kept) =
      (after handlers os s, kept ++ lists.flatten) := by
  induction os generalizing s kept lists with
  | nil =>
    cases h
    simp
  | cons o os ih =>
    rw [after_cons, after_cons, call_keepResults]
    cases ho : (call handlers o s).1 with
    | none =>
      rw [calls_cons_of_none ho] at h
      simpa using ih h kept
    | some r =>
      rw [calls_cons_of_some ho] at h
      obtain ⟨found, others, rfl, hothers, rfl⟩ := Result.mapM_cons_eq_ok.mp h
      simpa [Except.toOption] using ih hothers (kept ++ found)

/-- All results are those of the calls put together, or there is the first failure of a call. -/
theorem fst_gather (handlers : Handlers σ (List α)) (o : Occurrence) (s : σ) :
    (gather (fun _ => false) handlers (some o) s).1 =
      ((calls handlers o.preorder s).mapM Prod.snd).map List.flatten := by
  rw [gather_eq_along]
  rcases all_or_reaches Succeeds handlers o.preorder s with hall | ⟨before, p, r, hreach, hr⟩
  · obtain ⟨lists, hlists⟩ := Result.mapM_total hall
    have hdescend : ∀ c ∈ calls (wrapped keepResults handlers) o.preorder (s, []),
        Descends c.2 := (wraps_keepResults.passed_iff descends_keeping).mpr hall
    rw [along_of_all hdescend fun _ _ => rfl, after_keepResults hlists, hlists]
    rfl
  · cases r with
    | ok found => exact absurd ⟨found, rfl⟩ hr
    | error e =>
      have hstop : Reaches Descends (wrapped keepResults handlers) o.preorder (s, []) before p
          (keeping (.error e)) := wraps_keepResults.reaches descends_keeping hreach
      have hend : ¬ Descends (keeping (.error e : Result (List α))) := fun hd => nomatch hd
      obtain ⟨rest, hsplit⟩ := hreach.split
      obtain ⟨lists, hlists⟩ := Result.mapM_total hreach.passed
      rw [along_of_reaches hstop hend fun _ _ => rfl, hsplit, calls_append,
        calls_cons_of_some hreach.answered, List.mapM_append, hlists, List.mapM_cons]
      rfl

end Gather

/-! ## The first of all results -/

/-- A handler that lists its result, if there is one. -/
def listing (handle : Handler σ (Option α)) : Handler σ (List α) :=
  fun o s => ((handle o s).1.map Option.toList, (handle o s).2)

theorem wraps_listing :
    Wraps id (listing : Handler σ (Option α) → Handler σ (List α)) (Except.map Option.toList) where
  answer := fun _ _ _ => rfl
  state := fun _ _ _ => rfl

/-- The first answer that is a result is the head of the list of all results. -/
theorem find?_eq_head? {cs : List (Occurrence × Result (Option α))} {lists : List (List α)}
    (h : (cs.map fun c => (c.1, c.2.map Option.toList)).mapM Prod.snd = .ok lists) :
    ((cs.map Prod.snd).find? endsSearch).getD (.ok none) = .ok lists.flatten.head? := by
  induction cs generalizing lists with
  | nil =>
    cases h
    rfl
  | cons c cs ih =>
    obtain ⟨o, r⟩ := c
    rw [List.map_cons] at h
    obtain ⟨found, others, hfound, hothers, rfl⟩ := Result.mapM_cons_eq_ok.mp h
    rw [List.map_cons]
    rcases r with e | _ | a
    · cases hfound
    · cases hfound
      rw [List.find?_cons_of_neg Bool.false_ne_true, ih hothers]
      rfl
    · cases hfound
      rfl

/-- The first result is the head of the list of all results, if that list can be made. -/
theorem fst_first_eq_head? {handlers : Handlers σ (Option α)} {o : Occurrence} {s : σ}
    {as : List α} (h : (gather (fun _ => false) (wrapped listing handlers) (some o) s).1 = .ok as) :
    (first (fun _ => false) handlers (some o) s).1 = .ok as.head? := by
  rw [fst_gather, wraps_listing.calls, Result.map_eq_ok] at h
  obtain ⟨lists, hlists, rfl⟩ := h
  rw [fst_first]
  exact find?_eq_head? hlists

/-! ## The three ways to walk -/

/-- The nodes of a script stand in document order: a node comes before the trees of its
children.  Calls at the nodes in that order are calls at those that have a handler.  All results
are the answers of these calls put together.  The first result is the first answer that is one,
whatever the handlers do at later nodes: they are not called there.  It is the head of the list
of all results.  A plain walk says that it was ended exactly when an answer ends it. -/
theorem walks_in_document_order (script : Script) (o : Occurrence) (s : σ) :
    script.nodes = script.top.preorder ∧
      o.preorder = o :: o.children.flatMap Occurrence.preorder ∧
      (∀ handlers : Handlers σ (List α),
        (calls handlers o.preorder s).map Prod.fst = o.preorder.filter (handles handlers) ∧
          (gather (fun _ => false) handlers (some o) s).1 =
            ((calls handlers o.preorder s).mapM Prod.snd).map List.flatten) ∧
      (∀ handlers : Handlers σ (Option α),
        (calls handlers o.preorder s).map Prod.fst = o.preorder.filter (handles handlers) ∧
          (first (fun _ => false) handlers (some o) s).1 =
            (((calls handlers o.preorder s).map Prod.snd).find? endsSearch).getD (.ok none) ∧
          (∀ before p a, Reaches IsNothing handlers o.preorder s before p (.ok (some a)) →
            (first (fun _ => false) handlers (some o) s).1 = .ok (some a) ∧
              (first (fun _ => false) (noted handlers) (some o) (s, [])).2.2 =
                (before ++ [p]).filter (handles handlers)) ∧
          ∀ as, (gather (fun _ => false) (wrapped listing handlers) (some o) s).1 = .ok as →
            (first (fun _ => false) handlers (some o) s).1 = .ok as.head?) ∧
      ∀ handlers : Handlers σ Action,
        (walk (fun _ => false) handlers (some o) s).1 = .ok true ↔
          ∃ before p, Reaches Descends handlers o.preorder s before p (.ok .stop) := by
  refine ⟨script.nodes_eq, o.preorder_eq,
    fun handlers => ⟨map_fst_calls handlers o.preorder s, fst_gather handlers o s⟩, ?_,
    fun handlers => fst_walk_eq_true_iff handlers o s⟩
  intro handlers
  refine ⟨map_fst_calls handlers o.preorder s, fst_first handlers o s, ?_,
    fun as h => fst_first_eq_head? h⟩
  intro before p a h
  have hresult : ¬ IsNothing (.ok (some a)) := fun hn => nomatch hn
  -- noting the calls leaves the answers as they are
  have hnoted : Reaches IsNothing (noted handlers) o.preorder (s, []) before p (.ok (some a)) :=
    Wraps.noting.reaches (fun _ => Iff.rfl) h
  constructor
  · rw [first_of_reaches h hresult]
  · rw [first_of_reaches hnoted hresult, after_noted, List.nil_append]

/-- A search for the command of a script that counts members of classes on its way. -/
def commandSearch : Handlers Nat (Option Nat) :=
  [(.functionMember, fun _ n => (.ok none, n + 1)), (.command, fun o n => (.ok (some o.index), n))]

/-- The search for the command, but it would fail at a hashtable. -/
def fragileSearch : Handlers Nat (Option Nat) :=
  commandSearch ++ [(.hashtable, fun _ n => (.error .fileNotFound, n))]

theorem walks_in_document_order_greeter :
    (first (fun _ => false) fragileSearch (some Greeter.script.top) 0).1 = .ok (some 5) ∧
      (first (fun _ => false) (noted fragileSearch) (some Greeter.script.top) (0, [])).2.2.map
        Occurrence.index = [3, 5] ∧
      (first (fun _ => false) commandSearch (some Greeter.script.top) 0).1 = .ok (some 5) := by
  obtain ⟨-, -, -, hfirst, -⟩ :=
    walks_in_document_order (α := Nat) Greeter.script Greeter.script.top 0
  have hpassed : (calls fragileSearch (Greeter.script.top.preorder.take 5) 0).all
      (fun c => !endsSearch c.2) = true := by decide +kernel
  have hanswer : (Greeter.script.top.preorder[5]?.bind fun p => (call fragileSearch p
      (after fragileSearch (Greeter.script.top.preorder.take 5) 0)).1.bind Except.toOption) =
        some (some 5) := by decide +kernel
  obtain ⟨p, hp, hr⟩ := Option.bind_eq_some_iff.mp hanswer
  obtain ⟨r, hr, hok⟩ := Option.bind_eq_some_iff.mp hr
  obtain rfl := Result.eq_ok_of_toOption hok
  have hsplit : Greeter.script.top.preorder =
      Greeter.script.top.preorder.take 5 ++ p :: Greeter.script.top.preorder.drop 6 := by
    obtain ⟨hlt, rfl⟩ := List.getElem?_eq_some_iff.mp hp
    rw [← List.drop_eq_getElem_cons hlt, List.take_append_drop]
  have hreach : Reaches IsNothing fragileSearch Greeter.script.top.preorder 0
      (Greeter.script.top.preorder.take 5) p (.ok (some 5)) :=
    ⟨⟨_, hsplit⟩, fun c hc => (endsSearch_eq_false c.2).mp
      (by simpa using List.all_eq_true.mp hpassed c hc), hr⟩
  have hlist : (gather (fun _ => false) (wrapped listing commandSearch)
      (some Greeter.script.top) 0).1 = .ok [5] := Result.eq_ok_of_toOption (by decide +kernel)
  obtain ⟨hfound, hcalled⟩ := (hfirst fragileSearch).2.2.1 _ _ _ hreach
  refine ⟨hfound, ?_, (hfirst commandSearch).2.2.2 _ hlist⟩
  have hbegin : Greeter.script.top.preorder.take 5 ++ [p] = Greeter.script.top.preorder.take 6 := by
    rw [List.take_add_one (i := 5), hp, Option.toList_some]
  rw [hcalled, hbegin]
  decide +kernel

end Walk

end ScriptNavigation
