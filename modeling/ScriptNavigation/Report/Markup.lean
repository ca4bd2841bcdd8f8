/-
# Console markup

A line for the console is written with markup: a tag in square brackets opens a style, a
tag with a slash closes one, and the tags themselves are not shown.  A tag starts with a
small letter or one of `#`, `/` and `@`, and holds no opening bracket.  A backslash in front
of a tag takes away its meaning, and two backslashes stand for one.  Names between colons
are replaced by pictures, and tabs by blanks.  Of the pictures only the two are here whose
names are numbers, as numbers stand between colons in the place of a symbol.

`escape` protects a text, so that it is shown as it is.
-/
import ScriptNavigation.Report.Style

namespace ScriptNavigation.Markup

/-! ## Tags -/

/-- Whether a tag may start with a character. -/
def startsTag (c : Char) : Bool :=
  ('a' ≤ c && c ≤ 'z') || c == '#' || c == '/' || c == '@'

/-- What stands between the brackets of a tag, given the text after the opening bracket. -/
def tagBody? (cs : List Char) : Option (List Char) :=
  let body := cs.takeWhile fun c => c != ']' && c != '['
  if (body.head?.map startsTag).getD false && (cs.drop body.length).head? == some ']' then
    some body
  else none

/-- A piece of a marked-up text: plain text, or a tag with the number of backslashes that
stand in front of it. -/
inductive Piece where
  | plain (text : List Char)
  | tag (backslashes : Nat) (body : List Char)
  deriving DecidableEq, Repr

/-- Puts a plain text in front of some pieces, as one piece with the plain text there. -/
def addPlain (text : List Char) : List Piece → List Piece
  | .plain rest :: ps => .plain (text ++ rest) :: ps
  | ps => if text.isEmpty then ps else .plain text :: ps

/-- The pieces of a text after some backslashes; `skip` characters belong to a tag that has
been found. -/
def split (backslashes skip : Nat) : List Char → List Piece
  | [] => addPlain (List.replicate backslashes '\\') []
  | c :: cs =>
    match skip with
    | skip + 1 => split 0 skip cs
    | 0 =>
      if c = '\\' then split (backslashes + 1) 0 cs
      else
        match if c = '[' then tagBody? cs else none with
        | some body => .tag backslashes body :: split 0 (body.length + 1) cs
        | none => addPlain (List.replicate backslashes '\\' ++ [c]) (split 0 0 cs)

/-- The pieces of a marked-up text. -/
def pieces (cs : List Char) : List Piece := split 0 0 cs

/-! ## Protecting a text -/

/-- A tag with its brackets. -/
def bracketed (body : List Char) : List Char := '[' :: body ++ [']']

/-- A piece that is to be shown as it is. -/
def Piece.escaped : Piece → List Char
  | plain text => text
  | tag n body => List.replicate (2 * n + 1) '\\' ++ bracketed body

/-- Whether a text ends in exactly one backslash. -/
def endsInOneBackslash (cs : List Char) : Bool :=
  (cs.reverse.takeWhile (· == '\\')).length == 1

/-- A text with its tags protected; a single backslash at the end is doubled. -/
def escapeChars (cs : List Char) : List Char :=
  let protectedText := (pieces cs).flatMap Piece.escaped
  if endsInOneBackslash protectedText then protectedText ++ ['\\'] else protectedText

/-- A text with its tags protected. -/
def escape (s : String) : String := String.ofList (escapeChars s.toList)

/-! ## Pictures -/

/-- The picture for a number between colons.  The pictures whose names have letters or signs
in them are left out, so a text with such a name may be shown otherwise than here. -/
def picture? (name : List Char) : Option Char :=
  if name = "100".toList then some '💯'
  else if name = "1234".toList then some '🔢'
  else none

/-- The name between a colon and the next one, given the text after the first; it holds no
blanks. -/
def colonName? (cs : List Char) : Option (List Char) :=
  let name := cs.takeWhile fun c => c != ':' && !Text.isBlank c
  if (cs.drop name.length).head? == some ':' then some name else none

/-- Replaces the names between colons that have a picture; `skip` characters belong to a
name that has been dealt with. -/
def putPictures (skip : Nat) : List Char → List Char
  | [] => []
  | c :: cs =>
    match skip with
    | skip + 1 => putPictures skip cs
    | 0 =>
      match if c = ':' then colonName? cs else none with
      | some name =>
        match picture? name with
        | some p => p :: putPictures (name.length + 1) cs
        | none => c :: name ++ ':' :: putPictures (name.length + 1) cs
      | none => c :: putPictures 0 cs

/-! ## Showing a text -/

/-- The characters that the console swallows. -/
def isSwallowed (c : Char) : Bool :=
  [0x07, 0x08, 0x0B, 0x0C, 0x0D].contains c.toNat

/-- A plain text without the backslashes in front of opening brackets. -/
def dropBracketEscapes : List Char → List Char
  | '\\' :: '[' :: cs => '[' :: dropBracketEscapes cs
  | c :: cs => c :: dropBracketEscapes cs
  | [] => []

/-- A plain text as it is shown. -/
def shownPlain (cs : List Char) : List Char :=
  (putPictures 0 (dropBracketEscapes cs)).filter fun c => !isSwallowed c

/-- Closes the style of a given name that was opened last, if there is one. -/
def closeStyle (name : String) : List String → Option (List String)
  | [] => none
  | s :: rest => if s = name then some rest else (closeStyle name rest).map (s :: ·)

/-- The open styles after a tag; what follows an equals sign in a tag does not matter. -/
def applyTag (opened : List String) (body : List Char) : Result (List String) := do
  match body.takeWhile (· != '=') with
  | '/' :: closed =>
    let description := String.ofList (Text.trimBlanks closed)
    let remaining ←
      if description = "" then pure opened.tail?
      else do pure (closeStyle (← Style.usualName description) opened)
    match remaining with
    | some rest => return rest
    | none => throw .unbalancedMarkup
  | name => return (← Style.usualName (String.ofList name)) :: opened

/-- Some pieces as they are shown while some styles are open, the last one first. -/
def showPieces (opened : List String) : List Piece → Result (List Char)
  | [] => .ok []
  | .plain text :: ps => do
    return shownPlain text ++ (← showPieces opened ps)
  | .tag n body :: ps => do
    let slashes := List.replicate (n / 2) '\\'
    if n % 2 = 1 then
      return slashes ++ shownPlain (bracketed body) ++ (← showPieces opened ps)
    else
      return slashes ++ (← showPieces (← applyTag opened body) ps)

/-- A marked-up text as it is shown; without a bracket only pictures are put in. -/
def showChars (cs : List Char) : Result (List Char) :=
  if cs.contains '[' then showPieces [] (pieces cs)
  else .ok ((putPictures 0 cs).filter fun c => !isSwallowed c)

/-- A marked-up line as it is shown on the console. -/
def shown (markup : String) : Result String :=
  (showChars markup.toList).map fun cs => String.ofList (Text.tabbed cs)

end ScriptNavigation.Markup
