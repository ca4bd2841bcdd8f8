/-
# Reports for the console

What is printed for a symbol, a list of symbols, details, paths and an outline.  A report is
a list of blocks that are printed one after the other; a block may fail, and then what was
printed before it stays.
-/
import ScriptNavigation.Report.Markup
import ScriptNavigation.Report.OutlineTree

namespace ScriptNavigation

/-! ## Printouts -/

/-- The blocks of a report in the order in which they are printed. -/
abbrev Printout := List (Result String)

namespace Printout

/-- What is printed: all blocks before the first one that fails. -/
def text : Printout → String
  | .ok s :: rest => s ++ text rest
  | _ => ""

/-- The failure of the first block that fails. -/
def failure? : Printout → Option Failure
  | [] => none
  | .ok _ :: rest => failure? rest
  | .error e :: _ => some e

/-- The whole text of a report, if no block fails. -/
def whole (p : Printout) : Result String :=
  match p.failure? with
  | some e => .error e
  | none => .ok p.text

end Printout

/-- A marked-up line as it is printed. -/
def printLine (markup : String) : Result String :=
  (Markup.shown markup).map (· ++ "\n")

/-- A text with its tags protected, for a value that is a text. -/
def escapeDatum (d : Datum) : Result String :=
  d.asText.map Markup.escape

/-! ## Symbols -/

/-- The report on one symbol: kind and signature, location, and the owner of a member. -/
def reportSymbol (s : Symbol) : Printout :=
  [ do printLine ("[bold]" ++ s.kind.name ++ "[/bold]: " ++ (← escapeDatum (← s.signature))),
    printLine ("  Location: " ++ s.extent.location) ] ++
  (match s.member with
    | none => []
    | some m =>
      [do
        let modifier := if m.isStatic.truthy then "static " else ""
        printLine ("  Owner: " ++ modifier ++ (← escapeDatum m.owner))])

/-- A text filled up with blanks to a given width. -/
def padRight (width : Nat) (s : String) : String :=
  s ++ String.ofList (List.replicate (width - s.length) ' ')

/-- The line for one symbol of a list: location, kind and signature. -/
def symbolLine (s : Symbol) : Result String := do
  printLine (s.extent.location ++ " [cyan]" ++ padRight 12 s.kind.name ++ "[/cyan] " ++
    (← escapeDatum (← s.signature)))

/-- The report on a list of symbols, with another message when there are none. -/
def reportSymbols (symbols : List Symbol) (whenEmpty : String) : Printout :=
  if symbols.isEmpty then [printLine ("[dim]" ++ whenEmpty ++ "[/dim]")]
  else
    symbols.map symbolLine ++ [printLine ("[dim]" ++ toString symbols.length ++ " result(s)[/dim]")]

/-! ## Details and paths -/

/-- The report on details: the description, or that there is none. -/
def reportDetails (d : Details) : Printout :=
  [do
    if d.description.isNull then
      printLine ("[dim]No details for " ++ d.symbol.kind.name ++ " " ++
        (← escapeDatum d.symbol.name) ++ "[/dim]")
    else printLine ("[bold]" ++ (← escapeDatum d.description) ++ "[/bold]")]

/-- The report on the files that a script includes. -/
def reportPaths (paths : List Datum) : Printout :=
  if paths.isEmpty then [printLine "[dim]No dot-sourced files[/dim]"]
  else paths.map fun path => do printLine (← escapeDatum path)

/-! ## Outlines -/

/-- The lines of a shown text. -/
def shownLines (s : String) : List String := s.splitOn "\n"

/-- A label in a drawn tree: its first line after a fork, and the further lines under it. -/
def drawLabel (guide fork below : String) (label : String) : String :=
  match shownLines label with
  | [] => ""
  | line :: rest =>
    guide ++ fork ++ line ++ "\n" ++ String.join (rest.map fun l => guide ++ below ++ l ++ "\n")

/-- The fork in front of a branch, and the guide for the lines below it. -/
def branchGuides (isLast : Bool) : String × String :=
  if isLast then ("└── ", "    ") else ("├── ", "│   ")

/-- The labels of a level of a drawn tree, each with what is drawn below it. -/
def drawBranches (guide : String) : List (String × (String → String)) → String
  | [] => ""
  | (label, inner) :: rest =>
    let (fork, below) := branchGuides rest.isEmpty
    drawLabel guide fork below label ++ inner (guide ++ below) ++ drawBranches guide rest

/-- A label of an outline: the kind, a text and the line of a symbol. -/
def outlineLabel (s : Symbol) (text : Datum) : Result String := do
  Markup.shown ("[cyan]" ++ s.kind.name ++ "[/cyan] " ++ (← escapeDatum text) ++
    " [dim](line " ++ toString s.extent.start.line ++ ")[/dim]")

/-- A group of an outline as a branch of a drawn tree. -/
def outlineBranch (g : OutlineGroup) : Result (String × (String → String)) := do
  let label ← outlineLabel g.head g.head.name
  let members ← g.members.mapM fun m => do outlineLabel m (← m.display)
  return (label, fun guide => drawBranches guide (members.map fun l => (l, fun _ => "")))

/-- The report on an outline: a tree under a title. -/
def reportOutline (symbols : List Symbol) (title : String) : Printout :=
  [do
    let groups ← OutlineGroup.ofSymbols symbols
    let branches ← groups.mapM outlineBranch
    let heading ← Markup.shown ("[bold]" ++ Markup.escape title ++ "[/bold]")
    return drawLabel "" "" "" heading ++ drawBranches "" branches]

end ScriptNavigation
