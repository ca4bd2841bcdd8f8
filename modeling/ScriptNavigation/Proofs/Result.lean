/-
# Computations that succeed

A computation that may fail is opened step by step: a step that succeeds hands its answer
on.  A list of steps that all succeed has the list of their answers as its answer.

Main facts:

* `mapM_eq_ok`: a list of steps that succeed has the list of their answers.
* `mapM_cons_eq_ok`, `mapM_eq_error`: when a list of steps succeeds, and as what it fails.
* `mem_iff_of_mapM_eq_ok`: the answers of a list of steps are those of its steps.
* `filterM_cons`, `filterM_append`: a filter whose test may fail goes through the list in order.
* `Alike.both`, `Alike.bind`: computations that are alike step by step are alike.
-/
import Mathlib.Data.List.Forall2
import ScriptNavigation.Failure

namespace ScriptNavigation

namespace Result

variable {α β γ : Type}

/-! ## Single steps -/

@[simp] theorem ok_bind (a : α) (f : α → Result β) :
    ((Except.ok a : Result α) >>= f) = f a := rfl

@[simp] theorem error_bind (e : Failure) (f : α → Result β) :
    ((Except.error e : Result α) >>= f) = Except.error e := rfl

@[simp] theorem pure_eq (a : α) : (pure a : Result α) = Except.ok a := rfl

@[simp] theorem map_ok (f : α → β) (a : α) :
    Except.map f (Except.ok a : Result α) = Except.ok (f a) := rfl

@[simp] theorem map_error (f : α → β) (e : Failure) :
    Except.map f (Except.error e : Result α) = Except.error e := rfl

/-- A computation of two steps succeeds exactly when both of them do. -/
theorem bind_eq_ok {x : Result α} {f : α → Result β} {b : β} :
    (x >>= f) = .ok b ↔ ∃ a, x = .ok a ∧ f a = .ok b := by
  cases x with
  | ok a => simp
  | error e => simp

/-- A computation whose answer is changed succeeds exactly when it does. -/
theorem map_eq_ok {x : Result α} {f : α → β} {b : β} :
    x.map f = .ok b ↔ ∃ a, x = .ok a ∧ f a = b := by
  cases x with
  | ok a => simp
  | error e => simp

/-- The answer of a computation, where there is one, is the answer that it succeeds with. -/
theorem eq_ok_of_toOption {x : Result α} {a : α} (h : x.toOption = some a) : x = .ok a := by
  cases x with
  | ok b => exact congrArg Except.ok (Option.some_inj.mp h)
  | error e => cases h

/-- How a computation fails, if it does. -/
def failure? : Result α → Option Failure
  | .ok _ => none
  | .error e => some e

theorem eq_error_of_failure? {x : Result α} {e : Failure} (h : failure? x = some e) :
    x = .error e := by
  cases x with
  | ok a => cases h
  | error e' => exact congrArg Except.error (Option.some_inj.mp h)

/-- A computation does not fail otherwise when its answer is changed. -/
theorem failure?_map (f : α → β) (x : Result α) : failure? (x.map f) = failure? x := by
  cases x <;> rfl

/-- Two computations, one after the other, fail like the first one that fails. -/
theorem failure?_both (x : Result α) (y : Result β) (f : α → β → γ) :
    failure? (x >>= fun a => y >>= fun b => .ok (f a b)) = (failure? x).or (failure? y) := by
  cases x with
  | error e => rfl
  | ok a => cases y <;> rfl

/-- A computation whose answer passes a test succeeds with an answer that does. -/
theorem exists_of_toOption_any {x : Result α} {p : α → Bool} (h : x.toOption.any p = true) :
    ∃ a, x = .ok a ∧ p a = true := by
  obtain ⟨a, ha, hp⟩ := (Option.any_eq_true _ _).mp h
  exact ⟨a, eq_ok_of_toOption ha, hp⟩

/-- A computation that succeeds also does when its answer is changed. -/
theorem map_total {x : Result α} (f : α → β) (h : ∃ a, x = .ok a) : ∃ b, x.map f = .ok b := by
  obtain ⟨a, rfl⟩ := h
  exact ⟨f a, rfl⟩

/-! ## Lists of steps -/

/-- A list of steps that succeed has the list of their answers. -/
theorem mapM_eq_ok {f : α → Result β} {g : α → β} {as : List α}
    (h : ∀ a ∈ as, f a = .ok (g a)) : as.mapM f = .ok (as.map g) := by
  induction as with
  | nil => rfl
  | cons a as ih =>
    rw [List.mapM_cons, h a List.mem_cons_self, ih fun b hb => h b (List.mem_cons_of_mem _ hb)]
    rfl

/-- Steps that are the same one by one are the same as a list. -/
theorem mapM_congr {f g : α → Result β} {as : List α} (h : ∀ a ∈ as, f a = g a) :
    as.mapM f = as.mapM g := by
  induction as with
  | nil => rfl
  | cons a as ih =>
    rw [List.mapM_cons, List.mapM_cons, h a List.mem_cons_self,
      ih fun b hb => h b (List.mem_cons_of_mem _ hb)]

/-- The steps of a longer list succeed exactly if the first step and the others do. -/
theorem mapM_cons_eq_ok {f : α → Result β} {a : α} {as : List α} {bs : List β} :
    (a :: as).mapM f = .ok bs ↔
      ∃ b rest, f a = .ok b ∧ as.mapM f = .ok rest ∧ b :: rest = bs := by
  rw [List.mapM_cons, bind_eq_ok]
  constructor
  · rintro ⟨b, hb, h⟩
    obtain ⟨rest, hrest, h⟩ := bind_eq_ok.mp h
    exact ⟨b, rest, hb, hrest, Except.ok.inj h⟩
  · rintro ⟨b, rest, hb, hrest, rfl⟩
    exact ⟨b, hb, bind_eq_ok.mpr ⟨rest, hrest, rfl⟩⟩

/-- If a list of steps succeeds, its answers are those of the single steps. -/
theorem mem_iff_of_mapM_eq_ok {f : α → Result β} {as : List α} {bs : List β} {b : β}
    (h : as.mapM f = .ok bs) : b ∈ bs ↔ ∃ a ∈ as, f a = .ok b := by
  induction as generalizing bs with
  | nil =>
    cases h
    simp
  | cons a as ih =>
    obtain ⟨c, rest, hc, hrest, rfl⟩ := mapM_cons_eq_ok.mp h
    rw [List.mem_cons, ih hrest]
    constructor
    · rintro (rfl | ⟨d, hd, hb⟩)
      · exact ⟨a, List.mem_cons_self, hc⟩
      · exact ⟨d, List.mem_cons_of_mem _ hd, hb⟩
    · rintro ⟨d, hd, hb⟩
      rcases List.mem_cons.mp hd with rfl | hd
      · exact Or.inl (Except.ok.inj (hb.symm.trans hc))
      · exact Or.inr ⟨d, hd, hb⟩

/-- If a list of steps succeeds, its answers are the answers that its steps have. -/
theorem eq_filterMap_of_mapM_eq_ok {f : α → Result β} {as : List α} {bs : List β}
    (h : as.mapM f = .ok bs) : bs = as.filterMap fun a => (f a).toOption := by
  induction as generalizing bs with
  | nil =>
    cases h
    rfl
  | cons a as ih =>
    obtain ⟨b, rest, hb, hrest, rfl⟩ := mapM_cons_eq_ok.mp h
    rw [List.filterMap_cons, hb, ih hrest]
    rfl

/-- The steps for a part of a list have a part of the answers, each as often. -/
theorem mapM_subperm {f : α → Result β} {as as' : List α} {bs bs' : List β}
    (h : as.Subperm as') (hbs : as.mapM f = .ok bs) (hbs' : as'.mapM f = .ok bs') :
    bs.Subperm bs' := by
  obtain ⟨part, hperm, hpart⟩ := h
  rw [eq_filterMap_of_mapM_eq_ok hbs, eq_filterMap_of_mapM_eq_ok hbs']
  exact ⟨part.filterMap fun a => (f a).toOption, hperm.filterMap _, hpart.filterMap _⟩

/-- If a list of steps succeeds, each step does. -/
theorem exists_of_mapM_eq_ok {f : α → Result β} {as : List α} {bs : List β} {a : α}
    (h : as.mapM f = .ok bs) (ha : a ∈ as) : ∃ b ∈ bs, f a = .ok b := by
  induction as generalizing bs with
  | nil => simp at ha
  | cons c as ih =>
    obtain ⟨b, rest, hb, hrest, rfl⟩ := mapM_cons_eq_ok.mp h
    rcases List.mem_cons.mp ha with rfl | ha
    · exact ⟨b, List.mem_cons_self, hb⟩
    · obtain ⟨b', hb', hf⟩ := ih hrest ha
      exact ⟨b', List.mem_cons_of_mem _ hb', hf⟩

/-- A list of steps that all succeed succeeds. -/
theorem mapM_total {f : α → Result β} {as : List α} (h : ∀ a ∈ as, ∃ b, f a = .ok b) :
    ∃ bs, as.mapM f = .ok bs := by
  induction as with
  | nil => exact ⟨[], rfl⟩
  | cons a as ih =>
    obtain ⟨b, hb⟩ := h a List.mem_cons_self
    obtain ⟨bs, hbs⟩ := ih fun c hc => h c (List.mem_cons_of_mem _ hc)
    exact ⟨b :: bs, by rw [List.mapM_cons, hb, hbs]; rfl⟩

/-- A list of steps succeeds exactly if each step does. -/
theorem mapM_ok_iff {f : α → Result β} {as : List α} :
    (∃ bs, as.mapM f = .ok bs) ↔ ∀ a ∈ as, ∃ b, f a = .ok b := by
  constructor
  · rintro ⟨bs, h⟩ a ha
    obtain ⟨b, -, hb⟩ := exists_of_mapM_eq_ok h ha
    exact ⟨b, hb⟩
  · exact mapM_total

/-- A list of steps fails as the first step does that fails. -/
theorem mapM_eq_error {f : α → Result β} {before after : List α} {a : α} {e : Failure}
    (hbefore : ∀ b ∈ before, ∃ c, f b = .ok c) (ha : f a = .error e) :
    (before ++ a :: after).mapM f = .error e := by
  obtain ⟨cs, hcs⟩ := mapM_total hbefore
  rw [List.mapM_append, hcs, List.mapM_cons, ha]
  rfl

/-- The answers of a list of steps belong to its steps one by one. -/
theorem forall₂_of_mapM_eq_ok {f : α → Result β} {as : List α} {bs : List β}
    (h : as.mapM f = .ok bs) : List.Forall₂ (fun a b => f a = .ok b) as bs := by
  induction as generalizing bs with
  | nil =>
    cases h
    exact .nil
  | cons a as ih =>
    obtain ⟨b, rest, hb, hrest, rfl⟩ := mapM_cons_eq_ok.mp h
    exact .cons hb (ih hrest)

/-- The lists that the steps for several values give, put together. -/
theorem map_flatten_mapM_cons (f : α → Result (List β)) (a : α) (as : List α) :
    ((a :: as).mapM f).map List.flatten =
      f a >>= fun bs => ((as.mapM f).map List.flatten).map fun rest => bs ++ rest := by
  rw [List.mapM_cons]
  cases f a with
  | error e => rfl
  | ok bs => cases as.mapM f <;> rfl

/-- What is kept of the lists of two steps is kept of each of them. -/
theorem map_filter_append (keep : β → Bool) (x y : Result (List β)) :
    (x >>= fun bs => y.map fun rest => bs ++ rest).map (List.filter keep) =
      x.map (List.filter keep) >>= fun bs =>
        (y.map (List.filter keep)).map fun rest => bs ++ rest := by
  cases x with
  | error e => rfl
  | ok bs =>
    cases y with
    | error e => rfl
    | ok rest => exact congrArg Except.ok (List.filter_append bs rest)

/-! ## Filters whose test may fail -/

theorem filterAuxM_eq (p : α → Result Bool) (as kept : List α) :
    List.filterAuxM p as kept = (List.filterAuxM p as []).map (· ++ kept) := by
  induction as generalizing kept with
  | nil => rfl
  | cons a as ih =>
    rw [List.filterAuxM, List.filterAuxM]
    cases p a with
    | error e => rfl
    | ok b =>
      rw [ok_bind, ok_bind, ih, ih (cond b [a] [])]
      cases List.filterAuxM p as [] with
      | error e => rfl
      | ok l => cases b <;> simp

@[simp] theorem filterM_nil (p : α → Result Bool) : [].filterM p = .ok [] := rfl

/-- The first item of a list is tested first. -/
theorem filterM_cons (p : α → Result Bool) (a : α) (as : List α) :
    (a :: as).filterM p = do
      let keep ← p a
      let rest ← as.filterM p
      return if keep then a :: rest else rest := by
  rw [List.filterM, List.filterM, List.filterAuxM]
  cases p a with
  | error e => rfl
  | ok b =>
    rw [ok_bind, ok_bind, filterAuxM_eq]
    cases List.filterAuxM p as [] with
    | error e => rfl
    | ok l => cases b <;> simp

/-- The first of two lists is filtered before the second. -/
theorem filterM_append (p : α → Result Bool) (as bs : List α) :
    (as ++ bs).filterM p = do
      let l ← as.filterM p
      let r ← bs.filterM p
      return l ++ r := by
  induction as with
  | nil =>
    rw [List.nil_append, filterM_nil, ok_bind]
    cases bs.filterM p <;> rfl
  | cons a as ih =>
    rw [List.cons_append, filterM_cons, filterM_cons, ih]
    cases p a with
    | error e => rfl
    | ok b =>
      cases as.filterM p with
      | error e => rfl
      | ok l =>
        cases bs.filterM p with
        | error e => rfl
        | ok r => cases b <;> rfl

/-- What a filter keeps is what passes its test. -/
theorem mem_of_filterM_eq_ok {p : α → Result Bool} {as bs : List α} {b : α}
    (h : as.filterM p = .ok bs) : b ∈ bs ↔ b ∈ as ∧ p b = .ok true := by
  induction as generalizing bs with
  | nil =>
    cases h
    simp
  | cons a as ih =>
    rw [filterM_cons, bind_eq_ok] at h
    obtain ⟨keep, hkeep, h⟩ := h
    obtain ⟨rest, hrest, h⟩ := bind_eq_ok.mp h
    cases keep with
    | true =>
      obtain rfl : a :: rest = bs := Except.ok.inj h
      rw [List.mem_cons, List.mem_cons, ih hrest]
      constructor
      · rintro (rfl | ⟨hb, hp⟩)
        · exact ⟨Or.inl rfl, hkeep⟩
        · exact ⟨Or.inr hb, hp⟩
      · rintro ⟨rfl | hb, hp⟩
        · exact Or.inl rfl
        · exact Or.inr ⟨hb, hp⟩
    | false =>
      obtain rfl : rest = bs := Except.ok.inj h
      rw [List.mem_cons, ih hrest]
      constructor
      · rintro ⟨hb, hp⟩
        exact ⟨Or.inr hb, hp⟩
      · rintro ⟨rfl | hb, hp⟩
        · exact absurd (Except.ok.inj (hkeep.symm.trans hp)) Bool.false_ne_true
        · exact ⟨hb, hp⟩

/-- A filter whose test fails nowhere keeps what passes the test. -/
theorem filterM_eq_ok {p : α → Result Bool} {q : α → Bool} {as : List α}
    (h : ∀ a ∈ as, p a = .ok (q a)) : as.filterM p = .ok (as.filter q) := by
  induction as with
  | nil => rfl
  | cons a as ih =>
    rw [filterM_cons, h a List.mem_cons_self, ih fun b hb => h b (List.mem_cons_of_mem _ hb),
      ok_bind, ok_bind, List.filter_cons, pure_eq]

/-- A filter whose test fails nowhere succeeds. -/
theorem filterM_total {p : α → Result Bool} {as : List α} (h : ∀ a ∈ as, ∃ b, p a = .ok b) :
    ∃ bs, as.filterM p = .ok bs := by
  induction as with
  | nil => exact ⟨[], rfl⟩
  | cons a as ih =>
    obtain ⟨b, hb⟩ := h a List.mem_cons_self
    obtain ⟨bs, hbs⟩ := ih fun c hc => h c (List.mem_cons_of_mem _ hc)
    exact ⟨_, by rw [filterM_cons, hb, hbs]; rfl⟩

/-- If a filter fails nowhere, neither does a narrower one, and it keeps a part of what the first
one keeps, in order. -/
theorem filterM_sublist {p p' : α → Result Bool} {as kept : List α}
    (hnarrow : ∀ a b, p a = .ok b → ∃ b', p' a = .ok b' ∧ (b' = true → b = true))
    (h : as.filterM p = .ok kept) : ∃ kept', as.filterM p' = .ok kept' ∧ kept'.Sublist kept := by
  induction as generalizing kept with
  | nil =>
    cases h
    exact ⟨[], rfl, .slnil⟩
  | cons a as ih =>
    rw [filterM_cons, bind_eq_ok] at h
    obtain ⟨b, hb, h⟩ := h
    obtain ⟨rest, hrest, h⟩ := bind_eq_ok.mp h
    obtain rfl : (if b then a :: rest else rest) = kept := Except.ok.inj h
    obtain ⟨b', hb', himp⟩ := hnarrow a b hb
    obtain ⟨rest', hrest', hsub⟩ := ih hrest
    refine ⟨if b' then a :: rest' else rest', by rw [filterM_cons, hb', hrest']; rfl, ?_⟩
    cases b' with
    | true =>
      rw [himp rfl]
      exact hsub.cons_cons a
    | false =>
      cases b with
      | true => exact hsub.cons a
      | false => exact hsub

/-- If steps that list something fail nowhere, neither do steps that list a part of it, and the
lists put together are a part of the others, in order. -/
theorem mapM_flatten_sublist {f f' : α → Result (List β)} {as : List α} {lists : List (List β)}
    (hpart : ∀ a ∈ as, ∀ l, f a = .ok l → ∃ l', f' a = .ok l' ∧ l'.Sublist l)
    (h : as.mapM f = .ok lists) :
    ∃ lists', as.mapM f' = .ok lists' ∧ lists'.flatten.Sublist lists.flatten := by
  induction as generalizing lists with
  | nil =>
    cases h
    exact ⟨[], rfl, .slnil⟩
  | cons a as ih =>
    obtain ⟨l, rest, hl, hrest, rfl⟩ := mapM_cons_eq_ok.mp h
    obtain ⟨l', hl', hsub⟩ := hpart a List.mem_cons_self l hl
    obtain ⟨rest', hrest', hsubs⟩ := ih (fun b hb => hpart b (List.mem_cons_of_mem a hb)) hrest
    exact ⟨l' :: rest', by rw [List.mapM_cons, hl', hrest']; rfl, hsub.append hsubs⟩

/-- Lists that steps give are sorted when put together, if each list is and if what an earlier step
lists comes before what a later one does. -/
theorem pairwise_flatten {f : α → Result (List β)} {r : β → β → Prop} {as : List α}
    {lists : List (List β)} (h : as.mapM f = .ok lists)
    (hone : ∀ a ∈ as, ∀ l, f a = .ok l → l.Pairwise r)
    (htwo : as.Pairwise fun a a' => ∀ l l', f a = .ok l → f a' = .ok l' →
      ∀ b ∈ l, ∀ b' ∈ l', r b b') : lists.flatten.Pairwise r := by
  induction as generalizing lists with
  | nil =>
    cases h
    exact .nil
  | cons a as ih =>
    obtain ⟨l, rest, hl, hrest, rfl⟩ := mapM_cons_eq_ok.mp h
    obtain ⟨hfirst, hlater⟩ := List.pairwise_cons.mp htwo
    rw [List.flatten_cons, List.pairwise_append]
    refine ⟨hone a List.mem_cons_self l hl,
      ih hrest (fun b hb => hone b (List.mem_cons_of_mem a hb)) hlater, ?_⟩
    intro b hb b' hb'
    obtain ⟨l', hl', hb'⟩ := List.mem_flatten.mp hb'
    obtain ⟨a', ha', hfa'⟩ := (mem_iff_of_mapM_eq_ok hrest).mp hl'
    exact hfirst a' ha' l l' hl hfa' b hb b' hb'

/-! ## Computations side by side -/

/-- Two computations fail alike, or both of them succeed with answers that are related. -/
def Alike {α' : Type} (r : α → α' → Prop) : Result α → Result α' → Prop
  | .ok a, .ok a' => r a a'
  | .error e, .error e' => e = e'
  | _, _ => False

namespace Alike

variable {α' β' : Type} {r : α → α' → Prop} {p : β → β' → Prop}

/-- A computation is like itself, if its answer is related to itself. -/
theorem refl {r : α → α → Prop} (h : ∀ a, r a a) (x : Result α) : Alike r x x := by
  cases x with
  | ok a => exact h a
  | error e => exact rfl

/-- Computations that choose between two others by the same test are alike if those are. -/
theorem ite {c : Prop} [Decidable c] {x y : Result α} {x' y' : Result α'}
    (hpos : c → Alike r x x') (hneg : ¬ c → Alike r y y') :
    Alike r (if c then x else y) (if c then x' else y') := by
  by_cases h : c
  · rw [if_pos h, if_pos h]
    exact hpos h
  · rw [if_neg h, if_neg h]
    exact hneg h

/-- Computations that start with the same step are alike if they go on alike. -/
theorem bind_same {x : Result γ} {f : γ → Result α} {f' : γ → Result α'}
    (hf : ∀ c, Alike r (f c) (f' c)) : Alike r (x >>= f) (x >>= f') := by
  cases x with
  | ok c => exact hf c
  | error e => exact rfl

/-- Of two computations that are alike both fail in the same way or both succeed. -/
theorem both {x : Result α} {x' : Result α'} (h : Alike r x x') :
    (∃ e, x = .error e ∧ x' = .error e) ∨ ∃ a a', x = .ok a ∧ x' = .ok a' ∧ r a a' := by
  cases x with
  | ok a =>
    cases x' with
    | ok a' => exact Or.inr ⟨a, a', rfl, rfl, h⟩
    | error e' => exact h.elim
  | error e =>
    cases x' with
    | ok a' => exact h.elim
    | error e' => exact Or.inl ⟨e, rfl, congrArg Except.error (Eq.symm h)⟩

/-- Computations of two steps are alike if both steps are. -/
theorem bind {x : Result α} {x' : Result α'} {f : α → Result β} {f' : α' → Result β'}
    (h : Alike r x x') (hf : ∀ a a', r a a' → Alike p (f a) (f' a')) :
    Alike p (x >>= f) (x' >>= f') := by
  rcases h.both with ⟨e, rfl, rfl⟩ | ⟨a, a', rfl, rfl, ha⟩
  · exact rfl
  · exact hf a a' ha

/-- Computations whose answers are changed alike stay alike. -/
theorem map {x : Result α} {x' : Result α'} {f : α → β} {f' : α' → β'} (h : Alike r x x')
    (hf : ∀ a a', r a a' → p (f a) (f' a')) : Alike p (x.map f) (x'.map f') := by
  rcases h.both with ⟨e, rfl, rfl⟩ | ⟨a, a', rfl, rfl, ha⟩
  · exact rfl
  · exact hf a a' ha

/-- Computations that are alike are alike in any weaker sense. -/
theorem imp {r' : α → α' → Prop} {x : Result α} {x' : Result α'} (h : Alike r x x')
    (hr : ∀ a a', r a a' → r' a a') : Alike r' x x' := by
  rcases h.both with ⟨e, rfl, rfl⟩ | ⟨a, a', rfl, rfl, ha⟩
  · exact rfl
  · exact hr a a' ha

/-- The answers of computations that are alike are those that they succeed with. -/
theorem with_answers {x : Result α} {x' : Result α'} (h : Alike r x x') :
    Alike (fun a a' => x = .ok a ∧ x' = .ok a' ∧ r a a') x x' := by
  rcases h.both with ⟨e, rfl, rfl⟩ | ⟨a, a', rfl, rfl, ha⟩
  · exact rfl
  · exact ⟨rfl, rfl, ha⟩

/-- Where one of two computations that are alike succeeds, the other one does. -/
theorem exists_ok {x : Result α} {x' : Result α'} {a' : α'} (h : Alike r x x')
    (hx' : x' = .ok a') : ∃ a, x = .ok a ∧ r a a' := by
  subst hx'
  rcases h.both with ⟨e, -, he⟩ | ⟨a, b, hx, hb, ha⟩
  · cases he
  · cases hb
    exact ⟨a, hx, ha⟩

end Alike

end Result

end ScriptNavigation
