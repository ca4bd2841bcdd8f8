/-
# Styles

A style is described by words: emphases, each by its name or its letters and each perhaps
after `not`; a colour; a colour after `on`, for the background; and an address after `link`.
Of two words that say the same thing the last one counts.  A colour is a name, a number or an
amount of red, green and blue.

A style has one usual name, however it is described.  The usual name of a description that
describes no style is the description in lower case.
-/
import ScriptNavigation.Failure
import ScriptNavigation.Report.ColourNames
import ScriptNavigation.Text.Blank
import ScriptNavigation.Text.Digit
import ScriptNavigation.Text.LowerCase

namespace ScriptNavigation

/-! ## Emphases -/

/-- A way in which a style can set letters off. -/
inductive Emphasis where
  | bold
  | dim
  | italic
  | underline
  | blink
  | fastBlink
  | reverse
  | conceal
  | strike
  | doubleUnderline
  | frame
  | encircle
  | overline
  deriving DecidableEq, Repr

namespace Emphasis

/-- Every emphasis, in the order in which a usual name lists them. -/
def all : List Emphasis :=
  [bold, dim, italic, underline, blink, fastBlink, reverse, conceal, strike, doubleUnderline,
    frame, encircle, overline]

/-- The name of an emphasis. -/
def name : Emphasis → String
  | bold => "bold"
  | dim => "dim"
  | italic => "italic"
  | underline => "underline"
  | blink => "blink"
  | fastBlink => "blink2"
  | reverse => "reverse"
  | conceal => "conceal"
  | strike => "strike"
  | doubleUnderline => "underline2"
  | frame => "frame"
  | encircle => "encircle"
  | overline => "overline"

/-- The letters that stand for an emphasis, for those that have some. -/
def letters? : Emphasis → Option String
  | bold => some "b"
  | dim => some "d"
  | italic => some "i"
  | underline => some "u"
  | reverse => some "r"
  | conceal => some "c"
  | strike => some "s"
  | doubleUnderline => some "uu"
  | overline => some "o"
  | _ => none

/-- The emphasis that a word means. -/
def ofWord? (word : String) : Option Emphasis :=
  all.find? fun e => e.name == word || e.letters? == some word

end Emphasis

/-! ## Colours -/

/-- What stands between a given start and a given end of a text. -/
def between? (start stop : List Char) (cs : List Char) : Option (List Char) :=
  if start.isPrefixOf cs && stop.isSuffixOf cs && start.length + stop.length ≤ cs.length then
    some ((cs.drop start.length).take (cs.length - start.length - stop.length))
  else none

/-- The number that a list of digits of any script is. -/
def amountOf (ds : List Char) : Nat :=
  ds.foldl (fun n d => 10 * n + (Text.digitValue? d).getD 0) 0

/-- Whether a text is six hexadecimal digits. -/
def isHexTriple (ds : List Char) : Bool :=
  ds.length == 6 && ds.all fun c => c.isDigit || ('a' ≤ c && c ≤ 'f')

/-- Whether a text is the number of a colour. -/
def isColourNumber (ds : List Char) : Bool :=
  1 ≤ ds.length && ds.length ≤ 3 && ds.all Char.isDigit && amountOf ds ≤ 255

/-- Whether a text is three amounts of colour between commas.  It is no colour when there are
more or fewer amounts, and an error when one of three is left out. -/
def isColourTriple (cs : List Char) : Result Bool :=
  if cs.isEmpty || cs.any fun c => c != ',' && (Text.digitValue? c).isNone then .ok false
  else
    let amounts := cs.splitOnP (· == ',')
    if amounts.length ≠ 3 then .ok false
    else if amounts.any List.isEmpty then .error (.rejected .numberWithoutDigits)
    else .ok (amounts.all fun ds => amountOf ds ≤ 255)

/-- Whether a word in lower case means a colour. -/
def isColour (word : String) : Result Bool :=
  let cs := word.toList
  if word = "default" ∨ colourNames.contains word then .ok true
  else
    match between? ['#'] [] cs, between? "color(".toList [')'] cs,
      between? "rgb(".toList [')'] cs with
    | some ds, _, _ => .ok (isHexTriple ds)
    | _, some ds, _ => .ok (isColourNumber ds)
    | _, _, some amounts => isColourTriple amounts
    | none, none, none => .ok false

/-! ## Styles -/

/-- A style: the emphases that are switched on or off, the latest one first, the colours, and
the address of a link. -/
structure Style where
  emphases : List (Emphasis × Bool) := []
  colour : Option String := none
  background : Option String := none
  link : Option String := none

namespace Style

/-- The style with an emphasis switched on or off. -/
def switch (s : Style) (e : Emphasis) (on : Bool) : Style :=
  { s with emphases := (e, on) :: s.emphases }

/-- The usual name of a style. -/
def name (s : Style) : String :=
  let switched := Emphasis.all.filterMap fun e =>
    (s.emphases.lookup e).map fun on => if on then e.name else "not " ++ e.name
  let words := switched ++ s.colour.toList ++ (s.background.map ("on " ++ ·)).toList ++
    (s.link.map ("link " ++ ·)).toList
  if words.isEmpty then "none" else " ".intercalate words

/-- The style that words describe after those that describe `s`, if they describe one. -/
def ofWords? (s : Style) : List String → Result (Option Style)
  | [] => .ok (some s)
  | w :: ws =>
    let word := Text.lowerCase w
    if word = "on" then
      match ws with
      | [] => .ok none
      | c :: rest => do
        let colour := Text.lowerCase c
        if ← isColour colour then ofWords? { s with background := some colour } rest
        else return none
    else if word = "not" then
      match ws with
      | [] => .ok none
      | e :: rest =>
        match Emphasis.ofWord? e with
        | some e => ofWords? (s.switch e false) rest
        | none => .ok none
    else if word = "link" then
      match ws with
      | [] => .ok none
      | address :: rest => ofWords? { s with link := some address } rest
    else
      match Emphasis.ofWord? word with
      | some e => ofWords? (s.switch e true) ws
      | none => do
        if ← isColour word then ofWords? { s with colour := some word } ws
        else return none

/-- The usual name of what a description describes. -/
def usualName (description : String) : Result String := do
  let cs := Text.trimBlanks description.toList
  if String.ofList cs = "none" then return name {}
  match ← ofWords? {} ((Text.words cs).map String.ofList) with
  | some s => return s.name
  | none => return Text.lowerCase (String.ofList cs)

end Style

end ScriptNavigation
