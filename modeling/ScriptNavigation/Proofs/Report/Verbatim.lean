/-
# Reports that show locations and names as they stand

A report on a symbol shows its signature and its location.  The signature is protected, so that it
is shown as it stands even with tags in it.  The location is not: it is shown as it stands if it has
no tags, and only then.  A bracket in the path of a file can start a tag.

Main facts:

* `shows_kindLine`, `shows_listLine`: the lines that show a signature.
* `printLine_location_iff`: when the line for a location shows it as it stands.
* `reports_show_verbatim`: reports show signatures, and locations without tags.
* `location_tag_lost`: of a location with a tag only the rest is shown.
-/
import ScriptNavigation.Proofs.Report.Markup

namespace ScriptNavigation

/-- A printed text shows a part of it character for character. -/
def Shows (printed : Result String) (part : String) : Prop :=
  ∃ text, printed = .ok text ∧ part.toList <:+: text.toList

namespace Printout

variable {p : Printout}

/-- A report whose blocks can all be printed is printed as a whole. -/
theorem whole_eq_ok (hp : ∀ block ∈ p, ∃ text, block = .ok text) : p.whole = .ok p.text := by
  have hfailure : p.failure? = none := by
    induction p with
    | nil => rfl
    | cons block p ih =>
      obtain ⟨⟨front, rfl⟩, hrest⟩ := List.forall_mem_cons.mp hp
      exact ih hrest
  rw [whole, hfailure]

/-- The text of a block stands in the text of such a report. -/
theorem infix_text (hp : ∀ block ∈ p, ∃ text, block = .ok text) {part : String}
    (hpart : .ok part ∈ p) : part.toList <:+: p.text.toList := by
  induction p with
  | nil => cases hpart
  | cons block p ih =>
    obtain ⟨⟨front, rfl⟩, hrest⟩ := List.forall_mem_cons.mp hp
    rw [Printout.text, String.toList_append]
    rcases List.mem_cons.mp hpart with heq | hpart
    · cases heq
      exact (List.prefix_append _ _).isInfix
    · exact (ih hrest hpart).trans (List.suffix_append _ _).isInfix

/-- What a block of a report shows is shown by the report if no block fails. -/
theorem shows_whole (hp : ∀ block ∈ p, ∃ text, block = .ok text) {block : Result String}
    (hblock : block ∈ p) {part : String} (h : Shows block part) : Shows p.whole part := by
  obtain ⟨text, rfl, hpart⟩ := h
  exact ⟨p.text, whole_eq_ok hp, hpart.trans (infix_text hp hblock)⟩

/-- What the first block shows is printed, also if another block fails. -/
theorem infix_text_of_head {block : Result String} {part : String} (h : Shows block part) :
    part.toList <:+: (text (block :: p)).toList := by
  obtain ⟨front, rfl, hpart⟩ := h
  rw [Printout.text, String.toList_append]
  exact hpart.trans (List.prefix_append _ _).isInfix

end Printout

namespace Markup

variable {markup part signature : String} {ds : List Char}

/-! ## Lines -/

/-- A line without tabs shows what its pieces show. -/
theorem shows_printLine (h : showPieces [] (pieces markup.toList) = .ok ds) (htab : '\t' ∉ ds)
    (hpart : part.toList <:+: ds) : Shows (printLine markup) part := by
  refine ⟨String.ofList ds ++ "\n", by rw [printLine, shown_eq_ok h htab, Result.map_ok], ?_⟩
  rw [String.toList_append, String.toList_ofList]
  exact hpart.trans (List.prefix_append _ _).isInfix

theorem tagPair_bold : TagPair "bold".toList "/bold".toList :=
  ⟨by decide, by decide, "bold", Result.eq_ok_of_toOption (by decide +kernel),
    Result.eq_ok_of_toOption (by decide +kernel)⟩

theorem tagPair_cyan : TagPair "cyan".toList "/cyan".toList :=
  ⟨by decide, by decide, "cyan", Result.eq_ok_of_toOption (by decide +kernel),
    Result.eq_ok_of_toOption (by decide +kernel)⟩

theorem heading_blank : Heading " ".toList :=
  heading_of_plain (by decide) (by decide) (fun _ => rfl) (by decide)

theorem heading_colon : Heading ": ".toList :=
  heading_of_plain (by decide) (by decide) (fun _ => rfl) (by decide)

theorem heading_location : Heading "  Location: ".toList :=
  heading_of_plain (by decide) (by decide) (fun _ => rfl) (by decide)

theorem heading_owner (m : Member) :
    Heading ("  Owner: " ++ if m.isStatic.truthy then "static " else "").toList := by
  split
  · exact heading_of_plain (by decide) (by decide) (fun _ => rfl) (by decide)
  · exact heading_of_plain (by decide) (by decide) (fun _ => rfl) (by decide)

/-- The name of a kind has no tags, also filled up with blanks, and no tabs. -/
theorem untagged_kindName (k : SymbolKind) :
    Untagged k.name ∧ '\t' ∉ shownPlain k.name.toList ∧
      Untagged (padRight 12 k.name) ∧ '\t' ∉ shownPlain (padRight 12 k.name).toList := by
  cases k <;> decide +kernel

theorem kindName_ne_empty (k : SymbolKind) : k.name ≠ "" ∧ padRight 12 k.name ≠ "" := by
  cases k <;> decide +kernel

/-- Behind a label between two tags a protected text is shown as it stands. -/
theorem exists_showPieces_label {opening closing xs cs : List Char} {label : String}
    (hpair : TagPair opening closing) (hne : label ≠ "") (hlabel : Untagged label)
    (htab : '\t' ∉ shownPlain label.toList) (hxs : Heading xs) (h : Steady cs) :
    ∃ ds, showPieces [] (pieces (bracketed opening ++ (label.toList ++ (bracketed closing ++
        (xs ++ escapeChars cs))))) = .ok ds ∧ '\t' ∉ ds ∧ cs <:+: ds := by
  obtain ⟨n, hn⟩ := h.showPieces_escapeChars
  refine ⟨shownPlain label.toList ++ (xs ++ (cs ++ List.replicate n '\\')), ?_, ?_, ?_⟩
  · rw [hpair.showPieces_append hne hlabel, hxs.showPieces_append, hn, Result.map_ok,
      Result.map_ok]
  · exact List.not_mem_append htab <|
      List.not_mem_append hxs.no_tab (h.append_backslashes n).no_tab
  · exact ⟨shownPlain label.toList ++ xs, List.replicate n '\\', by simp⟩

/-- The line for the kind and the signature of a symbol shows the signature. -/
theorem shows_kindLine (k : SymbolKind) (h : Steady signature.toList) :
    Shows (printLine ("[bold]" ++ k.name ++ "[/bold]: " ++ escape signature)) signature := by
  obtain ⟨hkind, htab, -, -⟩ := untagged_kindName k
  obtain ⟨ds, hshown, hnotab, hsignature⟩ :=
    exists_showPieces_label tagPair_bold (kindName_ne_empty k).1 hkind htab heading_colon h
  have hline : ("[bold]" ++ k.name ++ "[/bold]: " ++ escape signature).toList =
      bracketed "bold".toList ++ (k.name.toList ++ (bracketed "/bold".toList ++
        (": ".toList ++ escapeChars signature.toList))) := by
    simp only [String.toList_append, escape, String.toList_ofList, List.append_assoc]
    rfl
  rw [← hline] at hshown
  exact shows_printLine hshown hnotab hsignature

/-- The line for a location shows it as it stands if it has no tags, and only then. -/
theorem printLine_location_iff {location : String} (h : Steady location.toList) :
    printLine ("  Location: " ++ location) = .ok ("  Location: " ++ location ++ "\n") ↔
      Tagless location.toList := by
  rw [← heading_location.shown_eq_self_iff h, printLine, Result.map_eq_ok]
  constructor
  · rintro ⟨line, hline, heq⟩
    rw [hline, (String.append_left_inj "\n").mp heq]
  · intro hline
    exact ⟨_, hline, rfl⟩

/-- The line for the owner of a member can be printed, whatever the owner is called. -/
theorem exists_ownerLine (m : Member) (owner : String) :
    ∃ text, printLine (("  Owner: " ++ if m.isStatic.truthy then "static " else "") ++
      escape owner) = .ok text := by
  obtain ⟨ds, hds⟩ := exists_showPieces_escapeChars [] owner.toList
  rw [printLine, shown, showChars_eq_showPieces, String.toList_append, escape,
    String.toList_ofList, (heading_owner m).showPieces_append, hds]
  exact ⟨_, rfl⟩

/-- The line for a location, a kind and a signature shows the location, if that has no tags, and
the signature. -/
theorem shows_listLine {location : String} (k : SymbolKind) (hlocation : Steady location.toList)
    (htags : Tagless location.toList) (h : Steady signature.toList) :
    Shows (printLine (location ++ " [cyan]" ++ padRight 12 k.name ++ "[/cyan] " ++
        escape signature)) signature ∧
      Shows (printLine (location ++ " [cyan]" ++ padRight 12 k.name ++ "[/cyan] " ++
        escape signature)) location := by
  obtain ⟨-, -, hkind, htab⟩ := untagged_kindName k
  obtain ⟨ds, hbehind, hnotab, hsignature⟩ :=
    exists_showPieces_label tagPair_cyan (kindName_ne_empty k).2 hkind htab heading_blank h
  -- the blank behind the location belongs to its piece
  have hfront : Steady (location.toList ++ [' ']) := hlocation.concat (by decide) (by decide)
  have hfrontTags : Tagless (location.toList ++ [' ']) := htags.concat (by decide) (by decide)
  have hline : (location ++ " [cyan]" ++ padRight 12 k.name ++ "[/cyan] " ++
      escape signature).toList =
      (location.toList ++ [' ']) ++ (bracketed "cyan".toList ++ ((padRight 12 k.name).toList ++
        (bracketed "/cyan".toList ++ (" ".toList ++ escapeChars signature.toList)))) := by
    simp only [String.toList_append, escape, String.toList_ofList, List.append_assoc]
    rfl
  have hshown : showPieces [] (pieces
      (location ++ " [cyan]" ++ padRight 12 k.name ++ "[/cyan] " ++ escape signature).toList) =
      .ok ((location.toList ++ [' ']) ++ ds) := by
    rw [hline, hfront.showPieces_append hfrontTags (by simp) tagPair_cyan.opening_tag, hbehind,
      Result.map_ok]
  have hnotab := List.not_mem_append hfront.no_tab hnotab
  constructor
  · exact shows_printLine hshown hnotab (hsignature.trans (List.suffix_append _ _).isInfix)
  · exact shows_printLine hshown hnotab ⟨[], [' '] ++ ds, by simp⟩

end Markup

namespace Symbol

/-- The texts of a symbol are texts: its name, and what a member says of its owner and of its
parameters. -/
structure Textual (s : Symbol) : Prop where
  name : ∃ name, s.name = .str name
  member : ∀ m ∈ s.member, (∃ owner, m.owner = .str owner) ∧
    ∀ type ∈ m.parameterTypes, ∃ text, type = .str text

/-- The console changes nothing in the texts of a symbol besides tags. -/
structure Legible (s : Symbol) : Prop where
  textual : s.Textual
  signature_steady : ∀ text, s.signature = .ok (.str text) → Markup.Steady text.toList
  location_steady : Markup.Steady s.extent.location.toList

/-- A symbol of texts has a signature that is a text. -/
theorem Textual.exists_signature {s : Symbol} (h : s.Textual) :
    ∃ signature, s.signature = .ok (.str signature) := by
  obtain ⟨name, hname⟩ := h.name
  cases hmember : s.member with
  | none => exact ⟨name, by rw [signature, hmember, hname]⟩
  | some m =>
    obtain ⟨-, htypes⟩ := h.member m hmember
    obtain ⟨texts, htexts⟩ : ∃ texts, m.parameterTypes.mapM Value.asText = .ok texts := by
      apply Result.mapM_total
      intro type htype
      obtain ⟨text, rfl⟩ := htypes type htype
      exact ⟨text, rfl⟩
    rw [signature, hmember]
    dsimp only
    split
    · rw [joinTexts, htexts]
      exact ⟨_, rfl⟩
    · exact ⟨name, by rw [hname]⟩

end Symbol

/-! ## Reports -/

variable {s : Symbol} {signature : String}

/-- The lines of a report on a symbol. -/
theorem reportSymbol_eq (hs : s.Textual) (hsignature : s.signature = .ok (.str signature)) :
    ∃ ownerLines : Printout, (∀ line ∈ ownerLines, ∃ text, line = .ok text) ∧
      reportSymbol s =
        printLine ("[bold]" ++ s.kind.name ++ "[/bold]: " ++ Markup.escape signature) ::
          printLine ("  Location: " ++ s.extent.location) :: ownerLines := by
  unfold reportSymbol
  rw [hsignature]
  cases hmember : s.member with
  | none => exact ⟨[], nofun, rfl⟩
  | some m =>
    obtain ⟨⟨owner, howner⟩, -⟩ := hs.member m hmember
    refine ⟨[printLine (("  Owner: " ++ if m.isStatic.truthy then "static " else "") ++
      Markup.escape owner)], ?_, ?_⟩
    · rw [List.forall_mem_singleton]
      exact Markup.exists_ownerLine m owner
    · dsimp only
      rw [howner]
      rfl

/-- The line for a symbol of a list. -/
theorem symbolLine_eq (hsignature : s.signature = .ok (.str signature)) :
    symbolLine s = printLine (s.extent.location ++ " [cyan]" ++ padRight 12 s.kind.name ++
      "[/cyan] " ++ Markup.escape signature) := by
  rw [symbolLine, hsignature]
  rfl

theorem tagPair_dim : Markup.TagPair "dim".toList "/dim".toList :=
  ⟨by decide, by decide, "dim", Result.eq_ok_of_toOption (by decide +kernel),
    Result.eq_ok_of_toOption (by decide +kernel)⟩

/-- The line for the number of the symbols of a list can be printed. -/
theorem exists_countLine (n : Nat) :
    ∃ text, printLine ("[dim]" ++ toString n ++ " result(s)[/dim]") = .ok text := by
  have hcount : Markup.Untagged (toString n ++ " result(s)") :=
    (Markup.untagged_nat n).append (by decide)
  have hne : toString n ++ " result(s)" ≠ "" := by
    intro h
    have := congrArg (fun s => s.toList.length) h
    simp at this
  have hline : "[dim]" ++ toString n ++ " result(s)[/dim]" =
      "[dim]" ++ (toString n ++ " result(s)") ++ "[/dim]" := by
    simp only [← String.toList_inj, String.toList_append, List.append_assoc]
    rfl
  rw [hline, printLine, tagPair_dim.shown_between rfl rfl hne hcount]
  exact ⟨_, rfl⟩

/-- The report on a symbol shows its signature.  It shows the location on a line of its own as it
stands if the location has no tags, and only then. -/
theorem reportSymbol_shows (hs : s.Legible) :
    ∃ signature, s.signature = .ok (.str signature) ∧
      signature.toList <:+: (reportSymbol s).text.toList ∧
      ((reportSymbol s)[1]? = some (.ok ("  Location: " ++ s.extent.location ++ "\n")) ↔
        Markup.Tagless s.extent.location.toList) ∧
      (Markup.Tagless s.extent.location.toList →
        Shows (reportSymbol s).whole signature ∧
          Shows (reportSymbol s).whole s.extent.location) := by
  obtain ⟨signature, hsignature⟩ := hs.textual.exists_signature
  obtain ⟨ownerLines, howner, hreport⟩ := reportSymbol_eq hs.textual hsignature
  have hkind := Markup.shows_kindLine s.kind (hs.signature_steady signature hsignature)
  have hiff := Markup.printLine_location_iff hs.location_steady
  refine ⟨signature, hsignature, ?_, ?_, ?_⟩
  · rw [hreport]
    exact Printout.infix_text_of_head hkind
  · rw [hreport, ← hiff]
    exact Option.some_inj
  · intro htags
    have hprinted := hiff.mpr htags
    have hlocation : Shows (printLine ("  Location: " ++ s.extent.location)) s.extent.location := by
      refine ⟨_, hprinted, "  Location: ".toList, "\n".toList, ?_⟩
      rw [String.toList_append, String.toList_append]
    have hlines : ∀ line ∈ reportSymbol s, ∃ text, line = .ok text := by
      obtain ⟨text, htext, -⟩ := hkind
      rw [hreport, List.forall_mem_cons, List.forall_mem_cons]
      exact ⟨⟨text, htext⟩, ⟨_, hprinted⟩, howner⟩
    constructor
    · refine Printout.shows_whole hlines ?_ hkind
      rw [hreport]
      exact List.mem_cons_self
    · refine Printout.shows_whole hlines ?_ hlocation
      rw [hreport]
      exact List.mem_cons_of_mem _ List.mem_cons_self

/-- The line for a symbol of a list shows its location, if that has no tags, and its
signature. -/
theorem symbolLine_shows (hs : s.Legible) (htags : Markup.Tagless s.extent.location.toList) :
    ∃ signature, s.signature = .ok (.str signature) ∧
      Shows (symbolLine s) signature ∧ Shows (symbolLine s) s.extent.location := by
  obtain ⟨signature, hsignature⟩ := hs.textual.exists_signature
  rw [symbolLine_eq hsignature]
  exact ⟨signature, hsignature, Markup.shows_listLine s.kind hs.location_steady htags
    (hs.signature_steady signature hsignature)⟩

/-- The report on a list of symbols shows what the lines for the symbols show. -/
theorem reportSymbols_shows {symbols : List Symbol} {whenEmpty part : String}
    (hlines : ∀ s ∈ symbols, ∃ text, symbolLine s = .ok text) (hs : s ∈ symbols)
    (hpart : Shows (symbolLine s) part) : Shows (reportSymbols symbols whenEmpty).whole part := by
  have hnonempty : symbols.isEmpty = false := by
    rw [List.isEmpty_eq_false_iff]
    exact List.ne_nil_of_mem hs
  rw [reportSymbols, hnonempty, if_neg Bool.false_ne_true]
  refine Printout.shows_whole ?_ (List.mem_append_left _ (List.mem_map_of_mem hs)) hpart
  rw [List.forall_mem_append, List.forall_mem_map, List.forall_mem_singleton]
  exact ⟨hlines, exists_countLine symbols.length⟩

/-- A report on a symbol shows its signature, even with tags in it.  It shows the location on a
line of its own as it stands if the location has no tags, and only then; in that case the whole
report is printed.  The report on a list of symbols with such locations shows the signatures and
the locations of all of them. -/
theorem reports_show_verbatim (hs : s.Legible) (symbols : List Symbol) (whenEmpty : String)
    (hsymbols : ∀ t ∈ symbols, t.Legible ∧ Markup.Tagless t.extent.location.toList) :
    ∃ signature, s.signature = .ok (.str signature) ∧
      signature.toList <:+: (reportSymbol s).text.toList ∧
      ((reportSymbol s)[1]? = some (.ok ("  Location: " ++ s.extent.location ++ "\n")) ↔
        Markup.Tagless s.extent.location.toList) ∧
      (Markup.Tagless s.extent.location.toList →
        Shows (reportSymbol s).whole signature ∧
          Shows (reportSymbol s).whole s.extent.location) ∧
      (s ∈ symbols →
        Shows (reportSymbols symbols whenEmpty).whole signature ∧
          Shows (reportSymbols symbols whenEmpty).whole s.extent.location) := by
  obtain ⟨signature, hsignature, htext, hline, hwhole⟩ := reportSymbol_shows hs
  refine ⟨signature, hsignature, htext, hline, hwhole, ?_⟩
  intro hmem
  have hlines : ∀ t ∈ symbols, ∃ text, symbolLine t = .ok text := by
    intro t ht
    obtain ⟨_, -, ⟨text, hprinted, -⟩, -⟩ := symbolLine_shows (hsymbols t ht).1 (hsymbols t ht).2
    exact ⟨text, hprinted⟩
  obtain ⟨_, hsame, hshown, hlocation⟩ := symbolLine_shows hs (hsymbols s hmem).2
  rw [hsignature] at hsame
  cases hsame
  exact ⟨reportSymbols_shows hlines hmem hshown, reportSymbols_shows hlines hmem hlocation⟩

/-- A method that is found in a given file. -/
def methodIn (file : String) : Symbol where
  kind := .method
  name := .str "Add"
  extent := ⟨⟨3, 5⟩, ⟨3, 8⟩, .str "Add", some file, by decide⟩
  member := some { owner := .str "Store[T]", parameterTypes := [.str "string[]", .str "List[int]"] }

theorem signature_methodIn (file : String) :
    (methodIn file).signature = .ok (.str "Add(string[], List[int])") := by
  rfl

/-- The console changes nothing in the texts of the method if it changes nothing in its place. -/
theorem legible_methodIn {file : String}
    (h : Markup.Steady (methodIn file).extent.location.toList) : (methodIn file).Legible := by
  refine ⟨⟨⟨_, rfl⟩, ?_⟩, ?_, h⟩
  · rintro m ⟨⟩
    refine ⟨⟨_, rfl⟩, ?_⟩
    intro type htype
    rcases List.mem_pair.mp htype with rfl | rfl
    · exact ⟨_, rfl⟩
    · exact ⟨_, rfl⟩
  · intro text htext
    rw [signature_methodIn] at htext
    cases htext
    decide +kernel

/-- Brackets that start no tag in the path of a file, and tags in a signature. -/
theorem reports_show_verbatim_brackets :
    Shows (reportSymbol (methodIn "lib[1].ps1")).whole "Add(string[], List[int])" ∧
      Shows (reportSymbols [methodIn "lib[1].ps1"] "").whole "lib[1].ps1:3:5" := by
  have hlegible : (methodIn "lib[1].ps1").Legible := legible_methodIn (by decide +kernel)
  have htags : Markup.Tagless (methodIn "lib[1].ps1").extent.location.toList := by decide +kernel
  obtain ⟨signature, hsignature, -, -, hshown, hlisted⟩ :=
    reports_show_verbatim hlegible [methodIn "lib[1].ps1"] ""
      (List.forall_mem_singleton.mpr ⟨hlegible, htags⟩)
  rw [signature_methodIn] at hsignature
  cases hsignature
  exact ⟨(hshown htags).1, (hlisted List.mem_cons_self).2⟩

/-- Of the location of a symbol in a file with a tag in its path only the rest is shown. -/
theorem location_tag_lost :
    (methodIn "a[b].ps1").Legible ∧ (methodIn "a[b].ps1").extent.location = "a[b].ps1:3:5" ∧
      ¬ Shows (reportSymbol (methodIn "a[b].ps1")).whole "a[b].ps1:3:5" ∧
      ¬ Shows (reportSymbols [methodIn "a[b].ps1"] "").whole "a[b].ps1:3:5" := by
  have hreport : (reportSymbol (methodIn "a[b].ps1")).whole =
      .ok ("Method: Add(string[], List[int])\n  Location: a.ps1:3:5\n  Owner: Store[T]\n") :=
    Result.eq_ok_of_toOption (by decide +kernel)
  have hlist : (reportSymbols [methodIn "a[b].ps1"] "").whole =
      .ok "a.ps1:3:5 Method       Add(string[], List[int])\n1 result(s)\n" :=
    Result.eq_ok_of_toOption (by decide +kernel)
  refine ⟨legible_methodIn (by decide +kernel), by decide +kernel, ?_, ?_⟩
  · rw [hreport]
    rintro ⟨_, ⟨⟩, h⟩
    exact absurd h (by decide +kernel)
  · rw [hlist]
    rintro ⟨_, ⟨⟩, h⟩
    exact absurd h (by decide +kernel)

end ScriptNavigation
