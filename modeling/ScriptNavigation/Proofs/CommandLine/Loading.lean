/-
# Files that cannot be loaded

A tree file or an alias file that cannot be loaded is refused: a message is printed, and the exit
code is one.  The message names the path of the file and says what is wrong with it, and it is
taken for markup, so the path must open no tag.

For a tree file this needs room for its nesting and spans that can be used, since neither want of
room nor misused values are reported.  For an alias file it needs texts: bytes in a string that are
not those of a text are not reported.

Main facts:

* `obtainScript_of_file`: a tree file is loaded or refused, if there is room for its nesting and its
  spans can be used.
* `obtainScript_of_misused`, `obtainScript_of_tooDeep`: a misused span and want of room escape.
* `obtainAliases_of_file`: an alias file is loaded or refused, unless a string in it is no text.
-/
import ScriptNavigation.CommandLine.Session
import ScriptNavigation.Proofs.CommandLine.Paths
import ScriptNavigation.Proofs.Document.Placement
import ScriptNavigation.Proofs.Document.Reading

namespace ScriptNavigation.CommandLine

open Markup

/-! ## Messages -/

/-- The outcome of refusing a request with a message that is printed as it stands. -/
def Outcome.refused (message : String) : Outcome := ⟨plainly message ++ "\n", .refusal⟩

/-- A request that is refused with a message without tags prints the message. -/
theorem refusing_untagged {message : String} (hne : message ≠ "") (h : Untagged message) :
    Outcome.refusing message = .refused message := by
  unfold Outcome.refusing Outcome.printing printLine
  rw [shown_red hne h]
  simp [Printout.failure?, Printout.text, Outcome.refused]

/-- What is said about a file that cannot be loaded is printed, if neither its path nor what is
wrong with it has tags. -/
theorem refusing_file {heading path why : String} (hheading : Untagged heading)
    (hne : heading ≠ "") (hpath : OpensNoTag path) (hwhy : Untagged why) :
    Outcome.refusing (heading ++ path ++ ": " ++ why) =
      .refused (heading ++ path ++ ": " ++ why) := by
  have hcolon : Untagged ": " := by decide
  have hplace : Untagged (path ++ (": " ++ why)) :=
    hpath.append (hcolon.append hwhy) (StartsPlainly.append (by decide) why)
  have hmessage := hheading.append hplace
  rw [← String.append_assoc, ← String.append_assoc] at hmessage
  refine refusing_untagged ?_ hmessage
  intro hempty
  rw [String.append_assoc, String.append_assoc, String.append_eq_empty_iff] at hempty
  exact hne hempty.1

/-! ## Tree files -/

/-- An explained failure of a document is reported. -/
theorem isReportedForTrees_of_isExplained {e : Failure} (h : e.IsExplained) :
    isReportedForTrees e = true ∧ Untagged e.message := by
  cases h with
  | @unreadable why hroom h =>
    refine ⟨?_, h⟩
    cases why with
    | tooDeep => exact absurd rfl hroom
    | _ => rfl
  | rejected h => exact ⟨rfl, h⟩

/-- If there is room for the nesting of a tree file and its spans can be used, its failure to load
is explained. -/
theorem isExplained_of_readScript {directory : String} {path : Resolved} {bytes : Json.Bytes}
    {room : Nat} {e : Failure} (hroom : Document.ofBytes bytes room ≠ .error (.unreadable .tooDeep))
    (hnesting : ∀ d, Document.ofBytes bytes room = .ok d → d.nesting ≤ room)
    (hspans : ∀ d, Document.ofBytes bytes room = .ok d → d.SpansUsable)
    (he : readScript directory path bytes room = .error e) : e.IsExplained := by
  unfold readScript at he
  cases hd : Document.ofBytes bytes room with
  | ok d =>
    -- the nodes cannot be built
    rw [hd, Result.ok_bind] at he
    exact Document.isExplained_of_script (hnesting d hd) (hspans d hd) he
  | error e' =>
    -- the bytes cannot be read
    rw [hd] at he hroom
    cases he
    unfold Document.ofBytes at hd
    split at hd
    · cases hd
    · rename_i why hwhy
      cases hd
      refine .unreadable ?_ (Json.untagged_of_decode (by decide) hwhy)
      rintro rfl
      exact hroom rfl

/-- A tree file is loaded, or the request is refused: take any bytes and any room for nesting in
which the bytes can be read to their end or to their first fault.  If they are those of a document,
let there be room for all levels of arrays and objects in its root, and let the span of each object
reached from there be one that can be used wherever it counts.  Then the script that the session
keeps or that the bytes describe is obtained; or a message is printed that names the path and says
why the document was not loaded, and the run ends in a refusal. -/
theorem obtainScript_of_file {fs : Files} {session : Session} {path : String}
    {bytes : Json.Bytes} {room : Nat} (hfile : fs.entry (.ofPath path) = .file bytes)
    (hpath : OpensNoTag path) (hroom : Document.ofBytes bytes room ≠ .error (.unreadable .tooDeep))
    (hnesting : ∀ d, Document.ofBytes bytes room = .ok d → d.nesting ≤ room)
    (hspans : ∀ d, Document.ofBytes bytes room = .ok d → d.SpansUsable) :
    (∃ s session', (session.loaded.lookup (.ofPath path) = some s ∨
          readScript session.directory (.ofPath path) bytes room = .ok s) ∧
        obtainScript fs session path room = .ok (s, session')) ∨
      ∃ e, readScript session.directory (.ofPath path) bytes room = .error e ∧
        obtainScript fs session path room =
          .error (.refused ("Error: Invalid tree file " ++ path ++ ": " ++ e.message)) := by
  unfold obtainScript
  dsimp only
  cases session.loaded.lookup (.ofPath path) with
  | some s => exact Or.inl ⟨s, session, Or.inl rfl, rfl⟩
  | none =>
    -- a path that has not been loaded yet, so the bytes count
    rw [hfile]
    dsimp only
    cases hread : readScript session.directory (.ofPath path) bytes room with
    | ok s => exact Or.inl ⟨s, _, Or.inr rfl, rfl⟩
    | error e =>
      right
      obtain ⟨hreported, hmessage⟩ :=
        isReportedForTrees_of_isExplained (isExplained_of_readScript hroom hnesting hspans hread)
      refine ⟨e, rfl, ?_⟩
      dsimp only
      rw [if_pos hreported, refusing_file (by decide) (by decide) hpath hmessage]

/-- A document whose only object has a span behind the end of its source. -/
def spanBehindEnd : Json.Bytes :=
  "\x7b\"source\": \"ab\", \"root\": \x7b\"span\": [0, 3]\x7d\x7d".toList.map Json.byte

/-- A span behind the end of the source is reported. -/
theorem obtainScript_of_file_behind_end :
    obtainScript (.single "t.json" spanBehindEnd) ⟨"/home", []⟩ "t.json" =
      .error ⟨"Error: Invalid tree file t.json: Invalid span [0, 3] for source of length 2\n",
        .refusal⟩ := by
  have hname : IsName "t.json" := ⟨by decide, by decide, by decide, by decide⟩
  have hspans : ∀ d, Document.ofBytes spanBehindEnd = .ok d → d.SpansUsable := by
    have hroot : (Document.ofBytes spanBehindEnd).toOption.all (fun d =>
        (Document.childObjects d.root).isEmpty && (valueUnder d.root "span").isUsableSpan) =
          true := by decide +kernel
    intro d hd ms hms _
    rw [hd] at hroot
    obtain ⟨hempty, husable⟩ := (Bool.and_eq_true _ _).mp hroot
    rw [Document.reachable_eq, List.isEmpty_iff.mp hempty, List.flatMap_nil] at hms
    rw [List.mem_singleton.mp hms]
    exact husable
  have hnesting : ∀ d, Document.ofBytes spanBehindEnd = .ok d → d.nesting ≤ Document.usualRoom := by
    have hroot : (Document.ofBytes spanBehindEnd).toOption.all (fun d =>
        decide (d.nesting ≤ Document.usualRoom)) = true := by decide +kernel
    intro d hd
    rw [hd] at hroot
    exact of_decide_eq_true hroot
  have hroom : Document.ofBytes spanBehindEnd ≠ .error (.unreadable .tooDeep) := by
    have hdecoded : (Document.ofBytes spanBehindEnd).isOk = true := by decide +kernel
    intro h
    rw [h] at hdecoded
    cases hdecoded
  have hread : readScript "/home" (.ofPath "t.json") spanBehindEnd =
      .error (.rejected (.spanOutside "0" "3" 2)) :=
    Result.eq_error_of_failure? (by decide +kernel)
  have hloaded := @obtainScript_of_file (.single "t.json" spanBehindEnd) ⟨"/home", []⟩ "t.json"
    spanBehindEnd Document.usualRoom hname.entry (by decide) hroom hnesting hspans
  rcases hloaded with ⟨s, _, hkept | hs, _⟩ | ⟨e, he, h⟩
  · cases hkept
  · rw [hread] at hs
    cases hs
  · rw [hread] at he
    cases he
    rw [h]
    exact congrArg (fun printed => Except.error (Outcome.mk printed .refusal)) (by decide +kernel)

/-- A failure that is not reported escapes, and nothing is printed. -/
theorem obtainScript_of_unreported {fs : Files} {session : Session} {path : String}
    {bytes : Json.Bytes} {room : Nat} {e : Failure} (hfile : fs.entry (.ofPath path) = .file bytes)
    (hnew : session.loaded.lookup (.ofPath path) = none)
    (hread : readScript session.directory (.ofPath path) bytes room = .error e)
    (he : isReportedForTrees e = false) :
    obtainScript fs session path room = .error ⟨"", .escape e⟩ := by
  rw [obtainScript, hnew]
  dsimp only
  rw [hfile]
  dsimp only
  rw [hread]
  dsimp only
  rw [if_neg (Bool.not_eq_true _ ▸ he)]

/-- If a span is misused at the first object that cannot be placed, the failure escapes. -/
theorem obtainScript_of_misused {fs : Files} {session : Session} {path : String}
    {bytes : Json.Bytes} {room : Nat} {d : Document} {how : Misuse}
    (hfile : fs.entry (.ofPath path) = .file bytes)
    (hnew : session.loaded.lookup (.ofPath path) = none) (hd : Document.ofBytes bytes room = .ok d)
    (hnesting : d.nesting ≤ room)
    (hfirst : (Document.reachable d.root).findSome? (ExtentSource.placeFailure?
      ⟨d.source, d.fileName (some ((Resolved.ofPath path).text session.directory))⟩) =
        some (.misused how)) :
    obtainScript fs session path room = .error ⟨"", .escape (.misused how)⟩ := by
  refine obtainScript_of_unreported hfile hnew ?_ rfl
  rw [← Document.failure?_script hnesting] at hfirst
  rw [readScript, hd, Result.ok_bind]
  exact Result.eq_error_of_failure? hfirst

/-- If there is no room to read a file, or none to build the nodes of a document in which objects
are nested too deep, this failure escapes, too. -/
theorem obtainScript_of_tooDeep {fs : Files} {session : Session} {path : String}
    {bytes : Json.Bytes} {room : Nat} (hfile : fs.entry (.ofPath path) = .file bytes)
    (hnew : session.loaded.lookup (.ofPath path) = none)
    (hdeep : Document.ofBytes bytes room = .error (.unreadable .tooDeep) ∨
      ∃ d others, Document.ofBytes bytes room = .ok d ∧ d.root = Node.wrapped others ∧
        room ≤ others) :
    obtainScript fs session path room = .error ⟨"", .escape (.unreadable .tooDeep)⟩ := by
  refine obtainScript_of_unreported hfile hnew ?_ rfl
  rcases hdeep with hunread | ⟨d, others, hd, hroot, hroom⟩
  · rw [readScript, hunread]
    rfl
  · rw [readScript, hd, Result.ok_bind, Document.script, hroot, Node.ofObject_wrapped _ hroom]
    rfl

/-- A document whose only object has a number as its span. -/
def spanOfOneNumber : Json.Bytes :=
  "\x7b\"source\": \"ab\", \"root\": \x7b\"span\": 7\x7d\x7d".toList.map Json.byte

/-- A span that is a number escapes from a document that could be read. -/
theorem span_of_one_number_escapes :
    (∃ d, Document.ofBytes spanOfOneNumber = .ok d) ∧
      obtainScript (.single "t.json" spanOfOneNumber) ⟨"/home", []⟩ "t.json" =
        .error ⟨"", .escape (.misused .wrongType)⟩ := by
  have hname : IsName "t.json" := ⟨by decide, by decide, by decide, by decide⟩
  have hread : readScript "/home" (.ofPath "t.json") spanOfOneNumber =
      .error (.misused .wrongType) := Result.eq_error_of_failure? (by decide +kernel)
  constructor
  · have hsome : (Document.ofBytes spanOfOneNumber).toOption.any (fun _ => true) = true := by
      decide +kernel
    obtain ⟨d, hd, -⟩ := Result.exists_of_toOption_any hsome
    exact ⟨d, hd⟩
  · exact obtainScript_of_unreported hname.entry rfl hread rfl

/-! ## Alias files -/

/-- What is said about an alias file that cannot be read has no tags, and it is said unless a
string is no text. -/
theorem isReportedForAliases_of_ofBytes {bytes : Json.Bytes} {e : Failure}
    (he : AliasTable.ofBytes bytes = .error e) :
    Untagged e.message ∧ (isReportedForAliases e = true ↔ e ≠ .unreadable .invalidText) := by
  unfold AliasTable.ofBytes at he
  split at he
  · cases he
  · rename_i why hwhy
    cases he
    refine ⟨Json.untagged_of_decode (by decide) hwhy, ?_⟩
    cases why with
    | invalidText => exact ⟨nofun, fun h => absurd rfl h⟩
    | tooDeep => exact absurd rfl (Json.ne_tooDeep_of_decode (by decide) hwhy)
    | _ => exact ⟨fun _ => nofun, fun _ => rfl⟩

/-- No fault is found with the bytes of an alias file that is a text. -/
theorem ofBytes_ne_invalidText {bytes : Json.Bytes} (h : Json.IsText bytes) :
    AliasTable.ofBytes bytes ≠ .error (.unreadable .invalidText) := by
  unfold AliasTable.ofBytes
  intro he
  split at he
  · cases he
  · rename_i why hwhy
    cases he
    exact Json.ne_invalidText_of_decode (by decide) h hwhy rfl

/-- An alias file is loaded, or the request is refused with a message that names the path and says
why the table was not read, exactly if no string in the file is found to be no text; and that is
so whenever the bytes of the file are those of a text. -/
theorem obtainAliases_of_file {fs : Files} {path : String} {bytes : Json.Bytes}
    (hfile : fs.entryAlong path = .file bytes) (hpath : OpensNoTag (plainPath path)) :
    (((∃ t, AliasTable.ofBytes bytes = .ok t ∧ obtainAliases fs (some path) = .ok (some t)) ∨
        ∃ e, AliasTable.ofBytes bytes = .error e ∧
          obtainAliases fs (some path) =
            .error (.refused
              ("Error: Invalid alias file " ++ plainPath path ++ ": " ++ e.message))) ↔
      AliasTable.ofBytes bytes ≠ .error (.unreadable .invalidText)) ∧
    (Json.IsText bytes → AliasTable.ofBytes bytes ≠ .error (.unreadable .invalidText)) := by
  refine ⟨?_, ofBytes_ne_invalidText⟩
  unfold obtainAliases
  dsimp only
  rw [hfile]
  dsimp only
  cases hread : AliasTable.ofBytes bytes with
  | ok t => exact ⟨fun _ => nofun, fun _ => Or.inl ⟨t, rfl, rfl⟩⟩
  | error e =>
    obtain ⟨hmessage, hreported⟩ := isReportedForAliases_of_ofBytes hread
    dsimp only
    constructor
    · intro h hinvalid
      rw [if_neg fun hyes => (hreported.mp hyes) (Except.error.inj hinvalid)] at h
      rcases h with ⟨t, ht, -⟩ | ⟨e', -, he⟩
      · cases ht
      · have hending : Ending.escape e = .refusal :=
          congrArg Outcome.ending (Except.error.inj he)
        cases hending
    · intro hne
      right
      have htext : e ≠ .unreadable .invalidText := fun h => hne (h ▸ rfl)
      refine ⟨e, rfl, ?_⟩
      rw [if_pos (hreported.mpr htext), refusing_file (by decide) (by decide) hpath hmessage]

/-- A document of aliases with a number in place of the aliases of commands. -/
def aliasesOfOneNumber : Json.Bytes := "\x7b\"aliases_of\": 1\x7d".toList.map Json.byte

/-- A number in place of the aliases of commands is reported. -/
theorem obtainAliases_of_file_number :
    obtainAliases (.single "a.json" aliasesOfOneNumber) (some "a.json") =
      .error ⟨"Error: Invalid alias file a.json: " ++
        "Expected `object`, got `int` - at `$.aliases_of`\n", .refusal⟩ := by
  have hname : IsName "a.json" := ⟨by decide, by decide, by decide, by decide⟩
  have hpath : OpensNoTag (plainPath "a.json") := by
    rw [hname.plainPath]
    decide
  have hread : AliasTable.ofBytes aliasesOfOneNumber =
      .error (.unreadable (.mismatch (.wrongType "object" "int" [.field "aliases_of"]))) :=
    Result.eq_error_of_failure? (by decide +kernel)
  have hne : AliasTable.ofBytes aliasesOfOneNumber ≠ .error (.unreadable .invalidText) := by
    rw [hread]
    exact nofun
  rcases (obtainAliases_of_file hname.entryAlong hpath).1.mpr hne with ⟨t, ht, -⟩ | ⟨e, he, h⟩
  · rw [hread] at ht
    cases ht
  · rw [hread] at he
    cases he
    rw [h, hname.plainPath]
    exact congrArg (fun printed => Except.error (Outcome.mk printed .refusal)) (by decide +kernel)

/-- A document of aliases with a byte in a string that is no text. -/
def brokenString : Json.Bytes :=
  "\x7b\"canonical_of\": \x7b\"gci\": \"".toList.map Json.byte ++ [0xFF] ++
    "\"\x7d\x7d".toList.map Json.byte

/-- A string that is no text escapes.  So does the failure to print the message about a file
whose name holds a tag that is no style. -/
theorem broken_string_escapes :
    obtainAliases (.single "a.json" brokenString) (some "a.json") =
        .error ⟨"", .escape (.unreadable .invalidText)⟩ ∧
      obtainAliases (.single "[rgb(1,,2)].json" [Json.byte '\x7b']) (some "[rgb(1,,2)].json") =
        .error ⟨"", .escape (.rejected .numberWithoutDigits)⟩ := by
  have hname : IsName "a.json" := ⟨by decide, by decide, by decide, by decide⟩
  have htag : IsName "[rgb(1,,2)].json" := ⟨by decide, by decide, by decide, by decide⟩
  have hread : AliasTable.ofBytes brokenString = .error (.unreadable .invalidText) :=
    Result.eq_error_of_failure? (by decide +kernel)
  have htruncated : AliasTable.ofBytes [Json.byte '\x7b'] = .error (.unreadable .truncated) :=
    Result.eq_error_of_failure? (by decide +kernel)
  have hshown : shown ("[red]" ++ ("Error: Invalid alias file " ++ "[rgb(1,,2)].json" ++ ": " ++
      (Failure.unreadable .truncated).message) ++ "[/red]") =
        .error (.rejected .numberWithoutDigits) := Result.eq_error_of_failure? (by decide +kernel)
  constructor
  · rw [obtainAliases, hname.entryAlong]
    dsimp only
    rw [hread]
    rfl
  · rw [obtainAliases, htag.entryAlong]
    dsimp only
    rw [htruncated, htag.plainPath]
    dsimp only
    have hreported : isReportedForAliases (.unreadable .truncated) = true := rfl
    rw [if_pos hreported, Outcome.refusing, printLine, hshown]
    rfl

end ScriptNavigation.CommandLine
