/-
# Cancelled walks

A walk looks before each visit whether it has been cancelled.  If that happens during the
`k`-th visit, then the next look finds it, unless there is none: no node may be left, or an
answer may have ended the walk by then.  So the walk fails with a count of `k` visits, or it
gives what it would have given anyway, and it never gives a part of it.  Either way the
handlers have been called at the first `k` nodes.

Main facts:

* `along_of_unfinished`, `along_of_finished`: the two ways in which a cancelled walk ends.
* `snd_along`: the handlers have been called at the nodes of the first visits.
* `cancellation_exact`: what cancellation does to the three ways to walk.
-/
import ScriptNavigation.Proofs.Walk.Order

namespace ScriptNavigation

namespace Walk

variable {σ τ α β γ ρ : Type}

/-! ## The visit of the cancellation -/

/-- Calls at some nodes are cancelled during the `k`-th visit: from then on, and not before, the
state says so or others have done it.  For `k = 0` that is before the first visit. -/
structure CancelledDuring (cancelled : σ → Bool) (outside : Nat → Bool) (handlers : Handlers σ α)
    (os : List Occurrence) (s : σ) (k : Nat) : Prop where
  clear : ∀ j < k, (cancelled (after handlers (os.take j) s) || outside j) = false
  raised : (cancelled (after handlers (os.take k) s) || outside k) = true

/-- Handlers inside others are cancelled during the same visit. -/
theorem Wraps.cancelledDuring {view : τ → σ} {wrap : Handler σ α → Handler τ γ}
    {change : Result α → Result γ} (h : Wraps view wrap change) {cancelled : σ → Bool}
    {outside : Nat → Bool} {handlers : Handlers σ α} {os : List Occurrence} {t : τ} {k : Nat}
    (hc : CancelledDuring cancelled outside handlers os (view t) k) :
    CancelledDuring (fun t => cancelled (view t)) outside (wrapped wrap handlers) os t k where
  clear := by
    intro j hj
    rw [h.after]
    exact hc.clear j hj
  raised := by
    rw [h.after]
    exact hc.raised

/-- After `k` visits there are nodes left, and all answers have let the walk go on. -/
def Unfinished (passes : Result α → Prop) (handlers : Handlers σ α) (os : List Occurrence) (s : σ)
    (k : Nat) : Prop :=
  k < os.length ∧ ∀ c ∈ calls handlers (os.take k) s, passes c.2

/-- Handlers inside others are unfinished after the same visits. -/
theorem Wraps.unfinished_iff {view : τ → σ} {wrap : Handler σ α → Handler τ γ}
    {change : Result α → Result γ} (h : Wraps view wrap change) {passes : Result α → Prop}
    {passes' : Result γ → Prop} (hpass : ∀ r, passes' (change r) ↔ passes r)
    {handlers : Handlers σ α} {os : List Occurrence} {t : τ} {k : Nat} :
    Unfinished passes' (wrapped wrap handlers) os t k ↔
      Unfinished passes handlers os (view t) k :=
  and_congr_right fun _ => h.passed_iff hpass

/-- An answer that is reached at the first `k` nodes, but not at those before the last of them, is
reached at the last. -/
theorem Reaches.take_eq_concat {passes : Result α → Prop} {handlers : Handlers σ α}
    {os before : List Occurrence} {s : σ} {k : Nat} {o : Occurrence} {r : Result α}
    (h : Reaches passes handlers (os.take k) s before o r) (hr : ¬ passes r)
    (hvisit : ∀ c ∈ calls handlers (os.take (k - 1)) s, passes c.2) :
    os.take k = before ++ [o] := by
  obtain ⟨rest, hsplit⟩ := h.split
  cases rest with
  | nil => exact hsplit
  | cons p rest =>
    -- then the answer is one of those before the last node
    have hlength : before.length + (rest.length + 2) ≤ k := by
      have hle := List.length_take_le k os
      rw [hsplit, List.length_append] at hle
      simpa using hle
    obtain ⟨m, hm⟩ : ∃ m, k - 1 - before.length = m + 1 := ⟨k - 2 - before.length, by omega⟩
    have htake : os.take (k - 1) = before ++ o :: (p :: rest).take m := by
      have hshorter : (os.take k).take (k - 1) = os.take (k - 1) := by
        rw [List.take_take, Nat.min_eq_left (Nat.sub_le k 1)]
      rw [← hshorter, hsplit, List.take_append, List.take_of_length_le (by omega), hm,
        List.take_succ_cons]
    have hmem : (o, r) ∈ calls handlers (os.take (k - 1)) s := by
      rw [htake, calls_append, calls_cons_of_some h.answered]
      exact List.mem_append_right _ List.mem_cons_self
    exact absurd (hvisit (o, r) hmem) hr

/-! ## The end of a cancelled walk -/

section Along

variable {cancelled : σ → Bool} {outside : Nat → Bool} {handlers : Handlers σ Action}
  {os : List Occurrence} {s : σ} {k : Nat}

/-- A walk that is not finished when it is cancelled fails. -/
theorem along_of_unfinished (hc : CancelledDuring cancelled outside handlers os s k)
    (hopen : Unfinished Descends handlers os s k) :
    along cancelled outside handlers 0 os s =
      (.error (.cancelled k), after handlers (os.take k) s) := by
  obtain ⟨hk, hpass⟩ := hopen
  have hlength : (os.take k).length = k := List.length_take_of_le (Nat.le_of_lt hk)
  have hclear : ∀ j < (os.take k).length,
      (cancelled (after handlers ((os.take k).take j) s) || outside (0 + j)) = false := by
    intro j hj
    rw [hlength] at hj
    rw [List.take_take, Nat.min_eq_left (Nat.le_of_lt hj), Nat.zero_add]
    exact hc.clear j hj
  conv_lhs => rw [← List.take_append_drop k os]
  rw [along_append hpass hclear, hlength, Nat.zero_add, List.drop_eq_getElem_cons hk, along,
    if_pos hc.raised]

/-- A walk that is finished when it is cancelled has gone to the end of the list, or it has been
ended by an answer before. -/
theorem along_of_finished (hc : CancelledDuring cancelled outside handlers os s k)
    (hdone : ¬ Unfinished Descends handlers os s k) :
    along cancelled outside handlers 0 os s =
        along (fun _ => false) (fun _ => false) handlers 0 os s ∧
      ((os.length ≤ k ∧
          along cancelled outside handlers 0 os s = (.ok false, after handlers os s)) ∨
        ∃ before o r, Reaches Descends handlers (os.take k) s before o r ∧ ¬ Descends r ∧
          along cancelled outside handlers 0 os s =
            (r.map fun _ => true, after handlers (before ++ [o]) s)) := by
  rcases all_or_reaches Descends handlers (os.take k) s with hall | ⟨before, o, r, hreach, hr⟩
  · have hk : os.length ≤ k := Nat.le_of_not_lt fun hk => hdone ⟨hk, hall⟩
    rw [List.take_of_length_le hk] at hall
    have hclear : ∀ j < os.length,
        (cancelled (after handlers (os.take j) s) || outside (0 + j)) = false := by
      intro j hj
      rw [Nat.zero_add]
      exact hc.clear j (Nat.lt_of_lt_of_le hj hk)
    rw [along_of_all hall hclear, along_of_all hall fun _ _ => rfl]
    exact ⟨rfl, Or.inl ⟨hk, rfl⟩⟩
  · have hlt : before.length < k :=
      Nat.lt_of_lt_of_le hreach.length_lt (List.length_take_le k os)
    have hwhole : Reaches Descends handlers os s before o r := by
      have hlonger := hreach.of_prefix (os.drop k)
      rwa [List.take_append_drop] at hlonger
    have hclear : ∀ j ≤ before.length,
        (cancelled (after handlers (os.take j) s) || outside (0 + j)) = false := by
      intro j hj
      rw [Nat.zero_add]
      exact hc.clear j (Nat.lt_of_le_of_lt hj hlt)
    rw [along_of_reaches hwhole hr hclear, along_of_reaches hwhole hr fun _ _ => rfl]
    exact ⟨rfl, Or.inr ⟨before, o, r, hreach, hr, rfl⟩⟩

/-- A walk that is finished when it is cancelled fails only with an answer that it got. -/
theorem mem_calls_of_finished (hc : CancelledDuring cancelled outside handlers os s k)
    (hdone : ¬ Unfinished Descends handlers os s k) {e : Failure}
    (he : (along cancelled outside handlers 0 os s).1 = .error e) :
    ∃ c ∈ calls handlers (os.take k) s, c.2 = .error e := by
  rcases (along_of_finished hc hdone).2 with ⟨-, hend⟩ | ⟨before, o, r, hreach, -, hend⟩
  · rw [hend] at he
    cases he
  · rw [hend] at he
    cases r with
    | ok action => cases he
    | error e' =>
      cases he
      obtain ⟨rest, hsplit⟩ := hreach.split
      refine ⟨(o, .error e), ?_, rfl⟩
      rw [hsplit, calls_append, calls_cons_of_some hreach.answered]
      exact List.mem_append_right _ List.mem_cons_self

/-- If the `k`-th node is visited, handlers have been called at the first `k` nodes. -/
theorem snd_along (hc : CancelledDuring cancelled outside handlers os s k)
    (hvisit : ∀ c ∈ calls handlers (os.take (k - 1)) s, Descends c.2) :
    (along cancelled outside handlers 0 os s).2 = after handlers (os.take k) s := by
  by_cases hopen : Unfinished Descends handlers os s k
  · rw [along_of_unfinished hc hopen]
  · rcases (along_of_finished hc hopen).2 with ⟨hk, hend⟩ | ⟨before, o, r, hreach, hr, hend⟩
    · rw [hend, List.take_of_length_le hk]
    · rw [hend, hreach.take_eq_concat hr hvisit]

end Along

/-! ## The three ways to walk -/

/-- What becomes of a way to walk that is cancelled during the `k`-th visit.  With nodes left and
no answer that ends it, it fails and counts the visits.  Otherwise it gives the usual result; so
the count is its failure only then, unless a handler itself fails like that.  If the `k`-th node
is visited at all, handlers are called exactly at the first `k` nodes that have one. -/
structure CancelsAt (passes : Result α → Prop) (handlers : Handlers σ α) (os : List Occurrence)
    (s : σ) (k : Nat) (answer usual : Result ρ × σ) (seen : List Occurrence) : Prop where
  fails : Unfinished passes handlers os s k →
    answer = (.error (.cancelled k), after handlers (os.take k) s)
  finishes : ¬ Unfinished passes handlers os s k → answer = usual
  fails_iff : (∀ c ∈ calls handlers (os.take k) s, c.2 ≠ .error (.cancelled k)) →
    (answer.1 = .error (.cancelled k) ↔ Unfinished passes handlers os s k)
  called : (∀ c ∈ calls handlers (os.take (k - 1)) s, passes c.2) →
    seen = (os.take k).filter (handles handlers)

section Cancelled

variable {cancelled : σ → Bool} {outside : Nat → Bool} {os : List Occurrence} {s : σ} {k : Nat}

/-- A plain walk along a list that is cancelled during a visit. -/
theorem cancelsAt_along {handlers : Handlers σ Action}
    (hc : CancelledDuring cancelled outside handlers os s k) :
    CancelsAt Descends handlers os s k (along cancelled outside handlers 0 os s)
      (along (fun _ => false) (fun _ => false) handlers 0 os s)
      (along (fun t => cancelled t.1) outside (noted handlers) 0 os (s, [])).2.2 where
  fails := along_of_unfinished hc
  finishes := fun hdone => (along_of_finished hc hdone).1
  fails_iff := by
    intro hown
    constructor
    · intro he
      by_contra hdone
      obtain ⟨c, hmem, hce⟩ := mem_calls_of_finished hc hdone he
      exact hown c hmem hce
    · intro hopen
      rw [along_of_unfinished hc hopen]
  called := by
    intro hvisit
    have hnoted : CancelledDuring (fun t => cancelled t.1) outside (noted handlers) os (s, []) k :=
      Wraps.noting.cancelledDuring hc
    rw [snd_along hnoted ((Wraps.noting.passed_iff fun _ => Iff.rfl).mpr hvisit), after_noted,
      List.nil_append]

/-- A walk along a list that keeps something beside its state and is cancelled during a visit. -/
theorem cancelsAt_outcome {handlers : Handlers σ α} {passes : Result α → Prop}
    {wrap : {υ : Type} → Handler υ α → Handler (υ × β) Action} {f : α → Action}
    (hwrap : ∀ {υ : Type}, Wraps Prod.fst (wrap : Handler υ α → _) (Except.map f))
    (hpass : ∀ r : Result α, Descends (r.map f) ↔ passes r)
    (hc : CancelledDuring cancelled outside handlers os s k) (b : β) :
    CancelsAt passes handlers os s k
      (outcome (along (fun t => cancelled t.1) outside (wrapped wrap handlers) 0 os (s, b)))
      (outcome (along (fun _ => false) (fun _ => false) (wrapped wrap handlers) 0 os (s, b)))
      (outcome (along (fun t => cancelled t.1.1) outside (wrapped wrap (noted handlers)) 0 os
        ((s, []), b))).2.2 := by
  have hbeside : CancelledDuring (fun t => cancelled t.1) outside (wrapped wrap handlers) os
      (s, b) k := hwrap.cancelledDuring hc
  have hplain := cancelsAt_along hbeside
  have hsame : Unfinished Descends (wrapped wrap handlers) os (s, b) k ↔
      Unfinished passes handlers os s k := hwrap.unfinished_iff hpass
  have hfail : ∀ {x : Result Bool × (σ × β)},
      (outcome x).1 = .error (.cancelled k) ↔ x.1 = .error (.cancelled k) := by
    rintro ⟨_ | _, _⟩ <;> simp [outcome]
  constructor
  · intro hopen
    rw [hplain.fails (hsame.mpr hopen), outcome, hwrap.after]
    rfl
  · intro hdone
    rw [hplain.finishes (mt hsame.mp hdone)]
  · intro hown
    have hkeep : ∀ r : Result α,
        r.map f ≠ .error (.cancelled k) ↔ r ≠ .error (.cancelled k) := by
      rintro (_ | _) <;> simp [Except.map]
    have hkept : ∀ c ∈ calls (wrapped wrap handlers) (os.take k) (s, b),
        c.2 ≠ .error (.cancelled k) := by
      rw [hwrap.calls, List.forall_mem_map]
      exact fun c hc => (hkeep c.2).mpr (hown c hc)
    rw [hfail, hplain.fails_iff hkept, hsame]
  · intro hvisit
    have hnoted : CancelledDuring (fun t => cancelled t.1) outside (noted handlers) os (s, []) k :=
      Wraps.noting.cancelledDuring hc
    have hdescend : ∀ c ∈ calls (wrapped wrap (noted handlers)) (os.take (k - 1)) ((s, []), b),
        Descends c.2 :=
      (hwrap.passed_iff hpass).mpr ((Wraps.noting.passed_iff fun _ => Iff.rfl).mpr hvisit)
    rw [outcome, snd_along (hwrap.cancelledDuring hnoted) hdescend, hwrap.after, after_noted,
      List.nil_append]

/-- A walk over a tree that is cancelled during a visit. -/
theorem cancelsAt_walk {handlers : Handlers σ Action} {o : Occurrence}
    (hc : CancelledDuring cancelled outside handlers o.preorder s k) :
    CancelsAt Descends handlers o.preorder s k (walk cancelled handlers (some o) s outside)
      (walk (fun _ => false) handlers (some o) s)
      (walk (fun t => cancelled t.1) (noted handlers) (some o) (s, []) outside).2.2 := by
  rw [walk_eq_along, walk_eq_along, walk_eq_along]
  exact cancelsAt_along hc

/-- A search for the first result that is cancelled during a visit. -/
theorem cancelsAt_first {handlers : Handlers σ (Option α)} {o : Occurrence}
    (hc : CancelledDuring cancelled outside handlers o.preorder s k) :
    CancelsAt IsNothing handlers o.preorder s k (first cancelled handlers (some o) s outside)
      (first (fun _ => false) handlers (some o) s)
      (first (fun t => cancelled t.1) (noted handlers) (some o) (s, []) outside).2.2 := by
  rw [first_eq_along, first_eq_along, first_eq_along]
  exact cancelsAt_outcome wraps_stopAtResult descends_stopping hc none

/-- A gathering of all results that is cancelled during a visit. -/
theorem cancelsAt_gather {handlers : Handlers σ (List α)} {o : Occurrence}
    (hc : CancelledDuring cancelled outside handlers o.preorder s k) :
    CancelsAt Succeeds handlers o.preorder s k (gather cancelled handlers (some o) s outside)
      (gather (fun _ => false) handlers (some o) s)
      (gather (fun t => cancelled t.1) (noted handlers) (some o) (s, []) outside).2.2 := by
  rw [gather_eq_along, gather_eq_along, gather_eq_along]
  exact cancelsAt_outcome wraps_keepResults descends_keeping hc []

end Cancelled

/-- Cancellation is exact in the three ways to walk: a walk that is cancelled during the `k`-th
visit fails and counts `k` visits, or it is finished by then and gives its usual result. -/
theorem cancellation_exact (cancelled : σ → Bool) (outside : Nat → Bool) (o : Occurrence) (s : σ)
    (k : Nat) :
    o.preorder.length = o.size ∧
      (Failure.cancelled k).message = "Query cancelled after visiting " ++ toString k ++ " nodes" ∧
      (∀ handlers : Handlers σ Action,
        CancelledDuring cancelled outside handlers o.preorder s k →
          CancelsAt Descends handlers o.preorder s k (walk cancelled handlers (some o) s outside)
            (walk (fun _ => false) handlers (some o) s)
            (walk (fun t => cancelled t.1) (noted handlers) (some o) (s, []) outside).2.2) ∧
      (∀ handlers : Handlers σ (Option α),
        CancelledDuring cancelled outside handlers o.preorder s k →
          CancelsAt IsNothing handlers o.preorder s k
            (first cancelled handlers (some o) s outside)
            (first (fun _ => false) handlers (some o) s)
            (first (fun t => cancelled t.1) (noted handlers) (some o) (s, []) outside).2.2) ∧
      ∀ handlers : Handlers σ (List α),
        CancelledDuring cancelled outside handlers o.preorder s k →
          CancelsAt Succeeds handlers o.preorder s k
            (gather cancelled handlers (some o) s outside)
            (gather (fun _ => false) handlers (some o) s)
            (gather (fun t => cancelled t.1) (noted handlers) (some o) (s, []) outside).2.2 := by
  exact ⟨o.length_preorder, rfl, fun _ => cancelsAt_walk, fun _ => cancelsAt_first,
    fun _ => cancelsAt_gather⟩

/-- A handler for commands that cancels the walk it is part of. -/
def cancelAtCommand (answer : Occurrence → Result α) : Handlers Bool α :=
  [(.command, fun o _ => (answer o, true))]

theorem cancellation_exact_greeter :
    (gather id (cancelAtCommand fun o => .ok [o.index]) (some Greeter.script.top) false).1 =
        .error (.cancelled 6) ∧
      (first id (cancelAtCommand fun o => .ok (some o.index)) (some Greeter.script.top) false).1 =
        .ok (some 5) := by
  obtain ⟨-, -, -, hfirst, hgather⟩ :=
    cancellation_exact (α := Nat) id (fun _ => false) Greeter.script.top false 6
  constructor
  · have hc : CancelledDuring id (fun _ => false) (cancelAtCommand fun o => .ok [o.index])
        Greeter.script.top.preorder false 6 := ⟨by decide +kernel, by decide +kernel⟩
    have hlist : (calls (cancelAtCommand fun o => .ok [o.index])
        (Greeter.script.top.preorder.take 6) false).all (fun c => c.2.toBool) = true := by
      decide +kernel
    have hopen : Unfinished Succeeds (cancelAtCommand fun o => .ok [o.index])
        Greeter.script.top.preorder false 6 := by
      refine ⟨by decide +kernel, ?_⟩
      rintro ⟨o, _ | found⟩ hmem
      · exact absurd (List.all_eq_true.mp hlist _ hmem) Bool.false_ne_true
      · exact ⟨found, rfl⟩
    rw [(hgather _ hc).fails hopen]
  · have hc : CancelledDuring id (fun _ => false) (cancelAtCommand fun o => .ok (some o.index))
        Greeter.script.top.preorder false 6 := ⟨by decide +kernel, by decide +kernel⟩
    have hlist : (calls (cancelAtCommand fun o => .ok (some o.index))
        (Greeter.script.top.preorder.take 6) false).any (fun c => endsSearch c.2) = true := by
      decide +kernel
    have hdone : ¬ Unfinished IsNothing (cancelAtCommand fun o => .ok (some o.index))
        Greeter.script.top.preorder false 6 := by
      rintro ⟨-, hall⟩
      obtain ⟨c, hmem, hends⟩ := List.any_eq_true.mp hlist
      rw [(endsSearch_eq_false c.2).mpr (hall c hmem)] at hends
      exact absurd hends Bool.false_ne_true
    rw [(hfirst _ hc).finishes hdone]
    exact Result.eq_ok_of_toOption (by decide +kernel)

end Walk

end ScriptNavigation
