/-
# Sessions of the command line

Each run of the command line loads a script, asks one thing of it, and prints a report.  A
session keeps the scripts that have been loaded, by path, so a file is read once even if it
changes or disappears later.

A run ends with an exit code: zero when there is an answer, one when there is none or the
request is refused with a message, and two when the arguments cannot be understood.  A
failure that is not foreseen escapes, after whatever has been printed before.
-/
import ScriptNavigation.CommandLine.Arguments
import ScriptNavigation.CommandLine.Files
import ScriptNavigation.Navigation.Outline
import ScriptNavigation.Navigation.Cursor
import ScriptNavigation.Navigation.References
import ScriptNavigation.Report.Console
import ScriptNavigation.Document.Script

namespace ScriptNavigation.CommandLine

/-! ## Outcomes -/

/-- How a run ends. -/
inductive Ending where
  | success
  /-- There is no answer, or the request is refused with a message. -/
  | refusal
  | usage (error : UsageError)
  | escape (failure : Failure)
  deriving DecidableEq

namespace Ending

/-- The exit code of a run. -/
def exitCode : Ending → Nat
  | success => 0
  | refusal => 1
  | usage _ => 2
  | escape _ => 1

/-- What is said on the error stream when a run ends. -/
def complaint : Ending → String
  | success | refusal => ""
  | usage error => "Error: " ++ error.message ++ "\n"
  | escape failure => "Error: " ++ failure.message ++ "\n"

end Ending

/-- What a run prints and how it ends. -/
structure Outcome where
  printed : String
  ending : Ending

namespace Outcome

/-- The outcome of printing a report and then ending as given, if all of it can be printed. -/
def printing (report : Printout) (ending : Ending) : Outcome :=
  match report.failure? with
  | none => ⟨report.text, ending⟩
  | some e => ⟨report.text, .escape e⟩

/-- The outcome of refusing a request with a message. -/
def refusing (message : String) : Outcome :=
  printing [printLine ("[red]" ++ message ++ "[/red]")] .refusal

/-- The outcome of printing a record. -/
def printingRecord (record : Result Datum) (ending : Ending) : Outcome :=
  printing [record >>= printRecord] ending

end Outcome

/-- A result, or the outcome with which the run ends instead. -/
abbrev Attempt := Except Outcome

/-- A result whose failure escapes. -/
def orEscape {α : Type} : Result α → Attempt α
  | .ok a => .ok a
  | .error e => .error ⟨"", .escape e⟩

/-- A result whose failure is reported, when it is a rejection. -/
def orReject {α : Type} : Result α → Attempt α
  | .ok a => .ok a
  | .error (.rejected why) => .error (.refusing ("Error: " ++ why.message))
  | .error e => .error ⟨"", .escape e⟩

/-! ## Loading -/

/-- The state of a session: the working directory and the scripts that have been loaded. -/
structure Session where
  directory : String
  loaded : List (Resolved × Script)

/-- Whether a failure to load a script is reported: the document is unreadable, though not
for want of room, or some part of it is rejected. -/
def isReportedForTrees : Failure → Bool
  | .unreadable .tooDeep => false
  | .unreadable _ | .rejected _ => true
  | _ => false

/-- Whether a failure to load an alias table is reported. -/
def isReportedForAliases : Failure → Bool
  | .unreadable .invalidText | .unreadable .tooDeep => false
  | .unreadable _ => true
  | _ => false

/-- The script of a document that stands at a path. -/
def readScript (directory : String) (path : Resolved) (bytes : Json.Bytes)
    (room : Nat := Document.usualRoom) : Result Script := do
  (← Document.ofBytes bytes room).script (some (path.text directory)) room

/-- The script of a tree file, and the session with the script in it; the path is resolved
first, so parts of it that a double dot leaves again need not exist. -/
def obtainScript (fs : Files) (session : Session) (path : String)
    (room : Nat := Document.usualRoom) : Attempt (Script × Session) :=
  let resolved := Resolved.ofPath path
  match session.loaded.lookup resolved with
  | some s => .ok (s, session)
  | none =>
    match fs.entry resolved with
    | .nothing => .error (.refusing ("Error: Tree file not found: " ++ path))
    | .directory => .error ⟨"", .escape .isDirectory⟩
    | .file bytes =>
      match readScript session.directory resolved bytes room with
      | .ok s => .ok (s, { session with loaded := session.loaded ++ [(resolved, s)] })
      | .error e =>
        if isReportedForTrees e then
          .error (.refusing ("Error: Invalid tree file " ++ path ++ ": " ++ e.message))
        else .error ⟨"", .escape e⟩

/-- The alias table of a file, if a file is given; its path is followed part by part. -/
def obtainAliases (fs : Files) (path : Option String) : Attempt (Option AliasTable) :=
  match path with
  | none => .ok none
  | some path =>
    match fs.entryAlong path with
    | .nothing => .error (.refusing ("Error: Alias file not found: " ++ plainPath path))
    | .directory => .error ⟨"", .escape .isDirectory⟩
    | .file bytes =>
      match AliasTable.ofBytes bytes with
      | .ok t => .ok (some t)
      | .error e =>
        if isReportedForAliases e then
          .error (.refusing ("Error: Invalid alias file " ++ plainPath path ++ ": " ++ e.message))
        else .error ⟨"", .escape e⟩

/-! ## Commands -/

namespace Invocation

/-- The position that a command asks about. -/
def position (i : Invocation) : Position := ⟨i.line, i.column⟩

/-- The members of a record that says what was asked. -/
def queryMembers (i : Invocation) : List (String × Datum) :=
  [("line", .int i.line), ("column", .int i.column)]

/-- The outcome when there is no answer. -/
def noAnswer (i : Invocation) (message : String) (query : List (String × Datum)) : Outcome :=
  if i.json then
    .printingRecord (.ok (.object [("error", .str message), ("query", .object query)])) .refusal
  else .refusing message

/-- The position as a message says it. -/
def place (i : Invocation) : String := toString i.line ++ ":" ++ toString i.column

/-- A symbol, or the outcome that there is none at the position. -/
def orNoAnswer (i : Invocation) (what : String) : Option Symbol → Attempt Symbol
  | some s => .ok s
  | none => .error (i.noAnswer ("No " ++ what ++ " at " ++ i.place) i.queryMembers)

/-- The symbol at the position of a command. -/
def symbolAsked (i : Invocation) (q : Query) (whole : Bool) : Attempt Symbol := do
  i.orNoAnswer "symbol" (← orReject (q.symbolUnder i.position whole))

/-- The outcome of showing a symbol. -/
def showSymbol (i : Invocation) (s : Symbol) : Outcome :=
  if i.json then .printingRecord (.ok s.record) .success
  else .printing (reportSymbol s) .success

/-- The outcome of showing a list of symbols. -/
def showSymbols (i : Invocation) (symbols : List Symbol) (whenEmpty : String)
    (query : Datum) (heading : Printout) : Outcome :=
  if i.json then .printingRecord (.ok (recordOfSymbols symbols query)) .success
  else .printing (heading ++ reportSymbols symbols whenEmpty) .success

/-- Runs the command that finds the symbol at a position. -/
def runLocate (i : Invocation) (q : Query) : Attempt Outcome := do
  return i.showSymbol (← i.symbolAsked q i.full)

/-- Runs the command that finds the command at a position. -/
def runCommand (i : Invocation) (q : Query) : Attempt Outcome := do
  let found ← orReject (q.commandUnder i.position)
  return i.showSymbol (← i.orNoAnswer "command" found)

/-- Runs the command that finds where a symbol is declared. -/
def runDefinition (i : Invocation) (q : Query) : Attempt Outcome := do
  let s ← i.symbolAsked q false
  match ← orEscape (q.declaration (some s)) with
  | some d => return i.showSymbol d
  | none =>
    let message := "No declaration found for " ++ s.kind.name ++ " " ++ s.name.display
    throw (i.noAnswer message (i.queryMembers ++ [("symbol", s.name)]))

/-- Runs the command that finds the references to a symbol. -/
def runReferences (i : Invocation) (q : Query) (table : Option AliasTable) : Attempt Outcome := do
  let s ← i.symbolAsked q false
  let found ← orEscape (q.references (some s) table)
  let heading :=
    printLine ("[bold]References to " ++ s.kind.name ++ " " ++ s.name.display ++ ":[/bold]")
  return i.showSymbols found "No references found"
    (.object (i.queryMembers ++ [("symbol", s.name)])) [heading]

/-- Runs the command that shows the details of a symbol. -/
def runDetails (i : Invocation) (q : Query) : Attempt Outcome := do
  let s ← i.symbolAsked q false
  let details ← orEscape (detailsOf (some s))
  if i.json then return .printingRecord (.ok details.record) .success
  return .printing (reportDetails details) .success

/-- Runs the command that lists the symbols of the outline. -/
def runSymbols (i : Invocation) (q : Query) : Attempt Outcome := do
  let found ← orEscape q.outline
  if i.treeView then
    if i.json then return .printingRecord (recordOfOutline found) .success
    let title := match q.script.file with
      | some file => if file = "" then i.tree else file
      | none => i.tree
    return .printing (reportOutline found title) .success
  return i.showSymbols found "No symbols found" .null []

/-- Runs the command that lists the keys of hashtables. -/
def runKeys (i : Invocation) (q : Query) : Attempt Outcome := do
  let found ← orEscape q.keys
  let heading := if Query.isPureData q.script then [printLine "[dim]Data file[/dim]"] else []
  return i.showSymbols found "No hashtable keys found" .null heading

/-- Runs the command that lists the included files. -/
def runIncludes (i : Invocation) (q : Query) : Attempt Outcome := do
  let paths ← orEscape q.includedFiles
  if i.json then return .printingRecord (.ok (recordOfPaths paths)) .success
  return .printing (reportPaths paths) .success

/-- Runs a command on a script; `table` is only asked for when it is needed. -/
def runOn (i : Invocation) (q : Query) (table : Attempt (Option AliasTable)) : Attempt Outcome :=
  match i.verb with
  | .locate => i.runLocate q
  | .command => i.runCommand q
  | .definition => i.runDefinition q
  | .references => do i.runReferences q (← table)
  | .details => i.runDetails q
  | .symbols => i.runSymbols q
  | .keys => i.runKeys q
  | .includes => i.runIncludes q

end Invocation

/-! ## Runs -/

/-- The outcome that an attempt ends with. -/
def Attempt.outcome : Attempt Outcome → Outcome
  | .ok o => o
  | .error o => o

/-- Runs the command line with some arguments, and returns the session afterwards. -/
def run (fs : Files) (session : Session) (arguments : List String)
    (room : Nat := Document.usualRoom) : Outcome × Session :=
  match requestOf arguments with
  | .error e => (⟨"", .usage e⟩, session)
  | .ok .help => (⟨usage, .success⟩, session)
  | .ok (.invoke i) =>
    match obtainScript fs session i.tree room with
    | .error o => (o, session)
    | .ok (script, session') =>
      (Attempt.outcome (i.runOn (Query.on script) (obtainAliases fs i.aliases)), session')

end ScriptNavigation.CommandLine
