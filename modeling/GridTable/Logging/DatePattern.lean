import GridTable.Logging.Moment
import GridTable.Text.Capital

/-! Patterns of dates.
A percent sign and a letter stand for a part of a moment. Between the two, flags say how the
part is padded and whether its letters are changed, and a width says how long it is at least.
-/

namespace GridTable.DatePattern

/-- How a part is filled up to its width. -/
inductive Padding where
  | usual
  | zeros
  | spaces
  /-- No filling but that of an explicit width. -/
  | none
  deriving Repr, DecidableEq

/-- What stands between a percent sign and its letter. -/
structure Directive where
  padding : Padding
  /-- Whether the letters become capitals. -/
  raised : Bool
  /-- Whether the letters change from their usual form. -/
  swapped : Bool
  width : Nat
  /-- A letter that asks for another calendar or other digits, of which there are none. -/
  modifier : Option Char

def Directive.plain : Directive :=
  ⟨.usual, false, false, 0, none⟩

/-- Reads the flags; of several paddings the last one counts. -/
def withFlags (directive : Directive) : List Char → Directive × List Char
  | '_' :: rest => withFlags { directive with padding := .spaces } rest
  | '-' :: rest => withFlags { directive with padding := .none } rest
  | '0' :: rest => withFlags { directive with padding := .zeros } rest
  | '^' :: rest => withFlags { directive with raised := true } rest
  | '#' :: rest => withFlags { directive with swapped := true } rest
  | rest => (directive, rest)

/-- Reads the width. -/
def withWidth (directive : Directive) : List Char → Directive × List Char
  | c :: rest =>
      if c.isDigit then
        withWidth { directive with width := 10 * directive.width + (c.toNat - '0'.toNat) } rest
      else (directive, c :: rest)
  | [] => (directive, [])

def withModifier (directive : Directive) : List Char → Directive × List Char
  | 'E' :: rest => ({ directive with modifier := some 'E' }, rest)
  | 'O' :: rest => ({ directive with modifier := some 'O' }, rest)
  | rest => (directive, rest)

/-- What becomes of the letters of a word whose usual form is not wanted. -/
inductive LetterChange where
  | toCapitals
  | toSmall
  /-- Flags change nothing. -/
  | kept
  deriving Repr, DecidableEq

/-- What a letter stands for. -/
inductive Part where
  /-- A number with at least so many digits. -/
  | number (digits value : Nat)
  /-- A number that is filled with spaces unless the flags say otherwise. -/
  | spaced (digits value : Nat)
  | word (text : String) (change : LetterChange)
  | mark (c : Char)
  /-- A date in a pattern of its own. -/
  | date (pattern : String)
  /-- A sign and a number with at least so many digits. -/
  | signed (value : Int) (digits : Nat)

def dayNames : List String :=
  ["Sunday", "Monday", "Tuesday", "Wednesday", "Thursday", "Friday", "Saturday"]

def monthNames : List String :=
  [
    "January", "February", "March", "April", "May", "June", "July", "August", "September",
    "October", "November", "December"
  ]

def short (name : String) : String :=
  String.ofList (name.toList.take 3)

def dayName (moment : Moment) : String :=
  dayNames.getD moment.dayOfWeek "?"

def monthName (moment : Moment) : String :=
  monthNames.getD (moment.month - 1) "?"

def halfName (moment : Moment) : String :=
  if moment.hour < 12 then "AM" else "PM"

/-- How far a zone is ahead, in hours and minutes written as one number. -/
def zoneNumber (offset : Int) : Int :=
  let minutes := offset.natAbs / 60
  let number : Int := (minutes / 60 * 100 + minutes % 60 : Nat)
  if offset < 0 then -number else number

/-- Whether a letter may not stand behind a modifier. -/
def refuses (modifier letter : Char) : Bool :=
  let letters := if modifier = 'E' then "%aAbBdDeFgGhHIjklmMSUVwW" else "%aAcDFxXY"
  letters.toList.contains letter

/-- What a letter stands for at a moment. -/
def part? (moment : Moment) : Char → Option Part
  | '%' => some (.mark '%')
  | 'n' => some (.mark '\n')
  | 't' => some (.mark '\t')
  | 'a' => some (.word (short (dayName moment)) .toCapitals)
  | 'A' => some (.word (dayName moment) .toCapitals)
  | 'b' | 'h' => some (.word (short (monthName moment)) .toCapitals)
  | 'B' => some (.word (monthName moment) .toCapitals)
  | 'p' => some (.word (halfName moment) .toSmall)
  | 'P' => some (.word (String.ofList ((halfName moment).toList.map Char.toLower)) .kept)
  | 'Z' => some (.word moment.zone .toSmall)
  | 'z' => some (.signed (zoneNumber moment.offset) 4)
  | 'Y' => some (.number 1 moment.year)
  | 'C' => some (.number 2 (moment.year / 100))
  | 'y' => some (.number 2 (moment.year % 100))
  | 'G' => some (.number 1 moment.week.1)
  | 'g' => some (.number 2 (moment.week.1 % 100))
  | 'V' => some (.number 2 moment.week.2)
  | 'U' => some (.number 2 (moment.weeksBegun 0))
  | 'W' => some (.number 2 (moment.weeksBegun 1))
  | 'm' => some (.number 2 moment.month)
  | 'd' => some (.number 2 moment.day)
  | 'e' => some (.spaced 2 moment.day)
  | 'j' => some (.number 3 (moment.dayOfYear + 1))
  | 'u' => some (.number 1 ((moment.dayOfWeek + 6) % 7 + 1))
  | 'w' => some (.number 1 moment.dayOfWeek)
  | 'H' => some (.number 2 moment.hour)
  | 'k' => some (.spaced 2 moment.hour)
  | 'I' => some (.number 2 moment.clockHour)
  | 'l' => some (.spaced 2 moment.clockHour)
  | 'M' => some (.number 2 moment.minute)
  | 'S' => some (.number 2 moment.second)
  | 's' => some (.word (toString moment.sinceEpoch) .kept)
  | 'c' => some (.date "%a %b %e %H:%M:%S %Y")
  | 'D' | 'x' => some (.date "%m/%d/%y")
  | 'F' => some (.date "%Y-%m-%d")
  | 'r' => some (.date "%I:%M:%S %p")
  | 'R' => some (.date "%H:%M")
  | 'T' | 'X' => some (.date "%H:%M:%S")
  | _ => none

/-- A text behind as many copies of a character as a width asks for. -/
def filled (width : Nat) (filler : Char) (text : List Char) : List Char :=
  List.replicate (width - text.length) filler ++ text

namespace Directive

/-- A text up to the explicit width. -/
def widened (directive : Directive) (text : List Char) : List Char :=
  filled directive.width (if directive.padding = .zeros then '0' else ' ') text

/-- A number up to its width and to the digits that it has at least. -/
def numeral (directive : Directive) (usualFiller : Char) (digits value : Nat) : List Char :=
  let text := Nat.toDigits 10 value
  let least := max digits directive.width
  match directive.padding with
  | .usual => filled least usualFiller text
  | .zeros => filled least '0' text
  | .spaces => filled least ' ' text
  | .none => filled directive.width ' ' text

/-- A word in the letters that the flags ask for. -/
def worded (directive : Directive) (change : LetterChange) (text : List Char) : List Char :=
  match change with
  | .kept => text
  | .toCapitals =>
      if directive.raised || directive.swapped then text.map Text.capital else text
  | .toSmall =>
      if directive.swapped then text.map Char.toLower
      else if directive.raised then text.map Text.capital
      else text

/-- The text of a part; `dates` writes a date in a pattern of its own. -/
def text (directive : Directive) (dates : List Char → List Char) : Part → List Char
  | .number digits value => directive.numeral '0' digits value
  | .spaced digits value => directive.numeral ' ' digits value
  | .word text change => directive.widened (directive.worded change text.toList)
  | .mark c => directive.widened [c]
  | .date pattern =>
      let text := dates pattern.toList
      directive.widened (if directive.raised then text.map Text.capital else text)
  | .signed value digits =>
      directive.widened [if value < 0 then '-' else '+']
        ++ directive.numeral '0' digits value.natAbs

end Directive

/-- The directive behind a percent sign, before its letter, and the rest of the pattern. No width
is greater than `room`.
-/
def directiveAt (room : Nat) (text : List Char) : Directive × List Char :=
  let (directive, text) := withFlags .plain text
  let (directive, text) := withWidth directive text
  withModifier { directive with width := min directive.width room } text

/-- What stands for nothing stays as it is, from its last percent sign on. -/
def unchanged (directive : Directive) (text : List Char) (letter : Option Char) : List Char :=
  let isMonth := letter == some 'b' || letter == some 'h'
  let shown := if letter == some '%' then ['%'] else '%' :: text
  directive.widened
    (if directive.raised || (directive.swapped && isMonth) then shown.map Text.capital
      else shown)

/-- A pattern with the parts of a moment put in. Each step uses up a character of `fuel`. -/
def filledInWith (dates : List Char → List Char) (moment : Moment) (room : Nat)
    : Nat → List Char → List Char
  | fuel + 1, '%' :: text =>
      let (directive, rest) := directiveAt room text
      let letter := rest.head?
      let after := rest.drop 1
      let isRefused :=
        match directive.modifier, letter with
        | some modifier, some letter => refuses modifier letter
        | _, _ => false
      let shown :=
        match if isRefused then none else letter.bind (part? moment) with
        | some part => directive.text dates part
        | none => unchanged directive (text.take (text.length - after.length)) letter
      shown ++ filledInWith dates moment room fuel after
  | fuel + 1, c :: rest => c :: filledInWith dates moment room fuel rest
  | _, _ => []

/-- A pattern with the parts of a moment put in. The patterns of whole dates hold no such
patterns themselves.
-/
def filledIn (moment : Moment) (room : Nat) (pattern : List Char) : List Char :=
  let plainDates (date : List Char) := filledInWith (fun _ => []) moment room date.length date
  filledInWith plainDates moment room pattern.length pattern

/-- How long the text of a pattern may grow: the least power of two from 1024 on that leaves
256 characters for each one of the pattern.
-/
def roomFor (length : Nat) : Nat :=
  1024 * ((length + 3) / 4).nextPowerOfTwo

end GridTable.DatePattern

namespace GridTable.Moment

/-- The text of a moment. A pattern may not hold the character zero, and a text that outgrows its
pattern is dropped.
-/
def text? (moment : Moment) (pattern : String) : Option String :=
  let characters := pattern.toList
  let room := DatePattern.roomFor characters.length
  let text := DatePattern.filledIn moment room characters
  if characters.contains '\x00' then none
  else if text.length < room then some (String.ofList text)
  else some ""

end GridTable.Moment
