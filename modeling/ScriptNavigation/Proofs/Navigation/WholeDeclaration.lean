/-
# Searching over whole declarations

A declaration that was placed by a span contains whatever its name contains: the name is looked
for in the text of the declaration and counted in columns from its start, so that it ends on the
first line, where the declaration ends behind it or does not end at all.  So a search that tests
declarations over their whole extents finds something wherever a search at their names does.  It
may be another symbol, that of a declaration around the first one.  Bodies of methods do not count
for a search over whole declarations, so names must not reach into them.

Main facts:

* `Extent.contains_of_ofName`, `Occurrence.contains_of_propertyExtent`: a declaration contains
  what its name contains.
* `AnswersToo.firstAnswer`: a search that answers at each node where another one does.
* `answersToo_symbolUnder`: the two searches at a position.
* `symbolUnder_whole_of_name`: a symbol is found over whole declarations where one is at a name.
-/
import ScriptNavigation.Proofs.Navigation.UnderCursor
import ScriptNavigation.Proofs.Place.Layout

namespace ScriptNavigation

/-! ## Names lie within declarations -/

namespace Extent

variable {τ : Type} {source : String} {start stop : Int} {file : Option String}
variable {e : Extent String} {p : Position}

/-- An extent of a span contains what a piece of its text contains. -/
theorem contains_of_piece (h : ofSpan source start stop file = .ok e) {offset length : Nat}
    (hle : offset + length ≤ e.text.toList.length) {text : τ}
    (hp : (e.piece offset length text).contains p = true) : e.contains p = true := by
  have hstop := Position.column_le_after e.start hle
  rw [← stop_of_ofSpan h, Position.le_def] at hstop
  rw [contains_iff] at hp ⊢
  simp only [piece] at hp hstop
  omega

/-- A declaration contains what its name contains. -/
theorem contains_of_ofName (h : ofSpan source start stop file = .ok e) {name : String}
    (hp : (e.ofName false name).contains p = true) : e.contains p = true := by
  have hp : ((e.named? name).getD e).contains p = true := hp
  cases hname : e.named? name with
  | none =>
    rw [hname] at hp
    exact hp
  | some piece =>
    rw [hname] at hp
    unfold named? at hname
    split at hname
    · cases hname
    · obtain ⟨i, hi, rfl⟩ := Option.map_eq_some_iff.mp hname
      exact contains_of_piece h (Text.le_of_indexOf? hi) hp

/-- An extent within one line has no position in common with one that starts behind it. -/
theorem not_contains_both {σ : Type} {f : Extent σ} {d : Extent τ}
    (hline : d.stop.line = d.start.line) (hbehind : d.stop.column < f.start.column) :
    ¬ (d.contains p = true ∧ f.contains p = true) := by
  rw [contains_iff, contains_iff]
  omega

end Extent

/-- The declaration of a property contains what its name contains. -/
theorem Occurrence.contains_of_propertyExtent {o : Occurrence} {source : String}
    {start stop : Int} {file : Option String} {p : Position}
    (h : Extent.ofSpan source start stop file = .ok o.extent)
    (hp : o.propertyExtent.contains p = true) : o.extent.contains p = true := by
  rw [propertyExtent] at hp
  cases hf : o.extent.findAfterSigil? (o.textIn .name) with
  | none =>
    rw [hf] at hp
    exact Extent.contains_of_ofName h hp
  | some e =>
    rw [hf] at hp
    obtain ⟨i, hi, rfl⟩ := Option.map_eq_some_iff.mp hf
    have hfound := Text.le_of_indexOf? hi
    rw [List.length_cons] at hfound
    have hle : i + 1 + (o.textIn .name).toList.length ≤ o.extent.text.toList.length := by omega
    exact Extent.contains_of_piece h hle hp

namespace Query

open Occurrence

/-! ## Searches that answer wherever others do -/

section AnswersToo

variable {α β : Type}

/-- Where the first of two questions can be asked so can the second one, and it has an answer if
the first one has. -/
def AnswersToo (x x' : Result (Option α)) : Prop :=
  ∀ found, x = .ok found → ∃ found', x' = .ok found' ∧ (found' = none → found = none)

theorem AnswersToo.refl (x : Result (Option α)) : AnswersToo x x :=
  fun found h => ⟨found, h, id⟩

theorem answersToo_ok_iff {found found' : Option α} :
    AnswersToo (.ok found) (.ok found') ↔ (found' = none → found = none) := by
  constructor
  · intro h
    obtain ⟨_, hfound', hnone⟩ := h found rfl
    rwa [Except.ok.inj hfound']
  · intro h
    rintro _ ⟨⟩
    exact ⟨found', rfl, h⟩

/-- A search that answers at each node where another one does, answers where the other one does. -/
theorem AnswersToo.firstAnswer {ask ask' : α → Result (Option β)} {as : List α}
    (h : ∀ a ∈ as, AnswersToo (ask a) (ask' a)) :
    AnswersToo (ScriptNavigation.firstAnswer ask as) (ScriptNavigation.firstAnswer ask' as) := by
  induction as with
  | nil => exact .refl _
  | cons a as ih =>
    intro found hfound
    rw [ScriptNavigation.firstAnswer, Result.bind_eq_ok] at hfound
    obtain ⟨first, hfirst, hrest⟩ := hfound
    obtain ⟨first', hfirst', hnone⟩ := h a List.mem_cons_self first hfirst
    rw [ScriptNavigation.firstAnswer, hfirst', Result.ok_bind]
    cases first' with
    | some b => exact ⟨some b, rfl, fun h => absurd h (Option.some_ne_none b)⟩
    | none =>
      rw [hnone rfl] at hrest
      exact ih (fun c hc => h c (List.mem_cons_of_mem a hc)) found hrest

end AnswersToo

/-! ## The two searches at a node -/

variable {q : Query} {p : Position} {o : Occurrence} {C D S : Symbol}

/-- A symbol that contains what another one contains is hit where that one is. -/
theorem answersToo_hit (h : C.extent.contains p = true → D.extent.contains p = true) :
    AnswersToo (.ok (hit p C)) (.ok (hit p D)) := by
  rw [answersToo_ok_iff, hit_eq_none_iff, hit_eq_none_iff, ← Bool.not_eq_true, ← Bool.not_eq_true]
  exact mt h

theorem answersToo_hitOf {build build' : Occurrence → Result Symbol} (hC : build o = .ok C)
    (hD : build' o = .ok D) (h : C.extent.contains p = true → D.extent.contains p = true) :
    AnswersToo (hitOf p build o) (hitOf p build' o) := by
  rw [hitOf, hitOf, hC, hD]
  exact answersToo_hit h

/-- A method that is hit at its name is hit as a whole, if its body does not count there. -/
theorem answersToo_hitMethod (ho : o.StandsIn q.script) (hk : o.kind = .functionMember)
    (hname : (o.methodSymbol false).extent.contains p = true →
      (o.methodSymbol true).extent.contains p = true)
    (hbody : ∀ body, o.childIn? .body = some body →
      ¬ ((o.methodSymbol false).extent.contains p = true ∧ body.extent.contains p = true)) :
    AnswersToo (hitMethod p false o) (hitMethod p true o) := by
  rw [ho.hitMethod_eq hk, ho.hitMethod_eq hk, methodHit?, methodHit?, Bool.false_and,
    if_neg Bool.false_ne_true, Bool.true_and]
  split
  · rename_i h
    obtain ⟨body, hchild, hcontains⟩ := (Option.any_eq_true _ _).mp h
    rw [answersToo_ok_iff, hit_eq_none_iff, ← Bool.not_eq_true]
    exact fun _ hhit => hbody body hchild ⟨hhit, hcontains⟩
  · exact answersToo_hit hname

end Query

namespace Script

/-- What a script declares was placed by spans of one source. -/
def PlacesDeclarations (s : Script) (source : String) : Prop :=
  ∀ o ∈ s.nodes, o.kind.declaresName = true →
    ∃ start stop file, Extent.ofSpan source start stop file = .ok o.extent

/-- No position is both in the name of a method and in its body. -/
def SeparatesBodies (s : Script) : Prop :=
  ∀ o ∈ s.nodes, o.kind = .functionMember → ∀ body, o.childIn? .body = some body → ∀ p,
    ¬ ((o.extent.ofName false (o.textIn .name)).contains p = true ∧
      body.extent.contains p = true)

end Script

namespace Query

open Occurrence

variable {q : Query} {p : Position} {o : Occurrence} {S : Symbol} {source : String}

/-- A node that answers a search at its name answers a search over whole declarations. -/
theorem answersToo_askAt (ho : o.StandsIn q.script)
    (hplaced : q.script.PlacesDeclarations source) (hapart : q.script.SeparatesBodies) :
    AnswersToo (askAt (q.locateProbes p false) o) (askAt (q.locateProbes p true) o) := by
  have hspan := hplaced o ho.mem_nodes
  have hbody := hapart o ho.mem_nodes
  rw [askAt, askAt]
  cases hk : o.kind
  all_goals rw [hk] at hspan
  case functionDefinition =>
    obtain ⟨start, stop, file, hspan⟩ := hspan rfl
    exact answersToo_hitOf (ho.ofFunction_eq hk false) (ho.ofFunction_eq hk true)
      (Extent.contains_of_ofName hspan)
  case configurationDefinition =>
    obtain ⟨start, stop, file, hspan⟩ := hspan rfl
    exact answersToo_hitOf (ho.ofConfiguration_eq hk false) (ho.ofConfiguration_eq hk true)
      (Extent.contains_of_ofName hspan)
  case typeDefinition =>
    obtain ⟨start, stop, file, hspan⟩ := hspan rfl
    exact answersToo_hitOf (ho.ofType_eq hk false) (ho.ofType_eq hk true)
      (Extent.contains_of_ofName hspan)
  case propertyMember =>
    obtain ⟨start, stop, file, hspan⟩ := hspan rfl
    exact answersToo_hitOf (ho.ofProperty_eq hk false) (ho.ofProperty_eq hk true)
      (contains_of_propertyExtent hspan)
  case functionMember =>
    obtain ⟨start, stop, file, hspan⟩ := hspan rfl
    exact answersToo_hitMethod ho hk (Extent.contains_of_ofName hspan)
      fun body hchild => hbody hk body hchild p
  -- all other nodes are tested alike
  all_goals exact .refl _

/-! ## Searching -/

/-- A search over whole declarations succeeds where a search at names does, and finds something
where that one does. -/
theorem answersToo_symbolUnder (hs : q.script.WellTyped)
    (hplaced : q.script.PlacesDeclarations source) (hapart : q.script.SeparatesBodies)
    (p : Position) : AnswersToo (q.symbolUnder p false) (q.symbolUnder p true) := by
  intro found h
  obtain ⟨u, hu, h⟩ := Result.bind_eq_ok.mp h
  obtain ⟨hlive, hfirst⟩ := first_eq_ok_iff.mp h
  have hsearch : AnswersToo (firstAnswer (askAt (q.locateProbes p false)) q.script.nodes)
      (firstAnswer (askAt (q.locateProbes p true)) q.script.nodes) :=
    AnswersToo.firstAnswer fun o ho =>
      answersToo_askAt (.of_mem_nodes hs ho) hplaced hapart
  obtain ⟨found', hfound', hnone⟩ := hsearch found hfirst
  exact ⟨found', Result.bind_eq_ok.mpr ⟨u, hu, first_eq_ok_iff.mpr ⟨hlive, hfound'⟩⟩, hnone⟩

/-- Where a symbol is found at a name, one is found over whole declarations, if the declarations
were placed by spans of one source and the names of methods do not reach into their bodies. -/
theorem symbolUnder_whole_of_name (hs : q.script.WellTyped)
    (hplaced : q.script.PlacesDeclarations source) (hapart : q.script.SeparatesBodies)
    (h : q.symbolUnder p false = .ok (some S)) :
    ∃ T, q.symbolUnder p true = .ok (some T) := by
  obtain ⟨found, hfound, hnone⟩ := answersToo_symbolUnder hs hplaced hapart p (some S) h
  cases found with
  | none => exact nomatch hnone rfl
  | some T => exact ⟨T, hfound⟩

end Query

/-! ## A class and its constructor on one line -/

namespace ClassOnOneLine

/-- The text of the script. -/
def source : String := "class A \x7b A() \x7b \x7d \x7d"

/-- A script that declares a class with a constructor. -/
def script : Script :=
  .inSource source [.classType (.inSource source 0 19) "A"
    [.inSource source .functionMember 10 17
      [(.name, .str "A"), (.isStatic, .bool false), (.isConstructor, .bool true),
        (.returnType, .null), (.parameters, .array []),
        (.body, .node (.inSource source .scriptBlock 14 17
          [(.paramBlock, .null), (.blocks, .array [])]))]]]

end ClassOnOneLine

/-- At the name of the constructor a search over whole declarations finds the class around it. -/
theorem Query.symbolUnder_whole_of_name_class :
    ∃ S T, (Query.on ClassOnOneLine.script).symbolUnder ⟨1, 11⟩ false = .ok (some S) ∧
      S.kind = .constructor ∧
      (Query.on ClassOnOneLine.script).symbolUnder ⟨1, 11⟩ true = .ok (some T) ∧
      T.kind = .classType := by
  have hs : ClassOnOneLine.script.WellTyped := by decide +kernel
  have hspan : ∀ o ∈ ClassOnOneLine.script.nodes, (Extent.ofSpan ClassOnOneLine.source
      (o.extent.start.column - 1) (o.extent.stop.column - 1) none).toOption =
        some o.extent := by decide +kernel
  have hbody : ∀ o ∈ ClassOnOneLine.script.nodes, o.kind = .functionMember →
      (o.childIn? .body).all (fun body =>
        let name := o.extent.ofName false (o.textIn .name)
        decide (name.stop.line = name.start.line ∧ name.stop.column < body.extent.start.column)) =
          true := by decide +kernel
  have hplaced : ClassOnOneLine.script.PlacesDeclarations ClassOnOneLine.source :=
    fun o ho _ => ⟨_, _, _, Result.eq_ok_of_toOption (hspan o ho)⟩
  have hapart : ClassOnOneLine.script.SeparatesBodies := by
    intro o ho hk body hchild p
    have happly := hbody o ho hk
    rw [hchild, Option.all_some] at happly
    obtain ⟨hline, hbehind⟩ := of_decide_eq_true happly
    exact Extent.not_contains_both hline hbehind
  have hname : ((Query.on ClassOnOneLine.script).symbolUnder ⟨1, 11⟩ false).toOption.any
      (fun found => found.any fun S => S.kind == .constructor) = true := by decide +kernel
  have hwhole : ((Query.on ClassOnOneLine.script).symbolUnder ⟨1, 11⟩ true).toOption.all
      (fun found => found.all fun T => T.kind == .classType) = true := by decide +kernel
  obtain ⟨found, hfound, hsome⟩ := Result.exists_of_toOption_any hname
  obtain ⟨S, rfl, hS⟩ := (Option.any_eq_true _ _).mp hsome
  obtain ⟨T, hT⟩ :=
    symbolUnder_whole_of_name (q := .on ClassOnOneLine.script) hs hplaced hapart hfound
  rw [hT] at hwhole
  exact ⟨S, T, hfound, eq_of_beq hS, hT, eq_of_beq hwhole⟩

end ScriptNavigation
