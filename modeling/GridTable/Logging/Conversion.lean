import GridTable.Decimal.Style
import GridTable.Logging.Slot
import GridTable.Text.Quoted

/-! Values written as a slot asks for it.
The letter of a conversion chooses between texts, whole numbers, doubles and single characters;
flags, width and precision then lay out what is written.
-/

namespace GridTable

/-- What a field holds. -/
inductive FieldValue where
  | text (content : String)
  | number (value : Int)
  /-- A value of any other sort, written out. -/
  | shown (content : String)

namespace FieldValue

/-- A value as plain text: a text stands for itself. -/
def plain : FieldValue → String
  | text content => content
  | number value => toString value
  | shown content => content

/-- A value as messages show it. -/
def quoted : FieldValue → String
  | text content => Text.quoted content
  | number value => toString value
  | shown content => content

end FieldValue

namespace Slot

/-- How a value is laid out. -/
structure Layout where
  flags : List Char
  width : Nat
  precision : Option Nat

/-- From this count on a width or a precision is too large. -/
def countLimit : Nat :=
  Nat.pow 2 31 - 1

/-- The number of a width or precision. An asterisk is none, nor are digits of other scripts. -/
def count? (text : List Char) : Option Nat :=
  let count := text.foldl (fun value c => 10 * value + (c.toNat - '0'.toNat)) 0
  if text.all Char.isDigit && count ≤ countLimit then some count else none

def layout? (slot : Slot) : Option Layout := do
  let width ← count? slot.width
  let precision ← slot.precision.elim (some none) fun text => (count? text).map some
  some ⟨slot.flags, width, precision⟩

namespace Layout

/-- A text with blanks up to the width: behind it if the flags ask for it, or else before it. -/
def widened (layout : Layout) (text : List Char) : List Char :=
  let blanks := List.replicate (layout.width - text.length) ' '
  if layout.flags.contains '-' then text ++ blanks else blanks ++ text

/-- A text cut off after as many characters as the precision says. -/
def cut (layout : Layout) (text : List Char) : List Char :=
  layout.widened (layout.precision.elim text text.take)

def sign (layout : Layout) (negative : Bool) : List Char :=
  if negative then ['-']
  else if layout.flags.contains '+' then ['+']
  else if layout.flags.contains ' ' then [' ']
  else []

/-- A number with its sign and a mark of its base. Zeros fill the width if the flags ask for
it.
-/
def numeral (layout : Layout) (negative : Bool) (mark digits : List Char) : List Char :=
  let sign := layout.sign negative
  if layout.flags.contains '0' && !layout.flags.contains '-' then
    let filled := sign.length + mark.length + digits.length
    sign ++ mark ++ List.replicate (layout.width - filled) '0' ++ digits
  else layout.widened (sign ++ mark ++ digits)

/-- A whole number to a base; the precision is the least number of digits. `mark` is the letter
of the base, which is shown where the flags ask for a mark.
-/
def whole (layout : Layout) (base : Nat) (mark : Option Char) (value : Int) : List Char :=
  let digits := Nat.toDigits base value.natAbs
  let padded := List.replicate (layout.precision.getD 1 - digits.length) '0' ++ digits
  let shownMark := mark.filter fun _ => layout.flags.contains '#'
  layout.numeral (value < 0) (shownMark.elim [] fun letter => ['0', letter]) padded

/-- A whole number as the double next to it; none if there is no such double. -/
def real? (layout : Layout) (style : Decimal.Style) (value : Int) : Option (List Char) := do
  let nearest ← Decimal.ofInt? value
  match Decimal.parts nearest with
  | .finite negative m q =>
      some
        (layout.numeral negative []
          (style.magnitude (layout.precision.getD 6) (layout.flags.contains '#') m q))
  | _ => none

end Layout

/-- A text in which characters other than those of ASCII are spelled out. -/
def plainText (text : List Char) : List Char :=
  text.flatMap fun c => if c.toNat < 128 then [c] else Text.spelledOut c

/-- The character that a value is: a text of one, or the number of one. -/
def character? : FieldValue → Option Char
  | .text content =>
      match content.toList with
      | [c] => some c
      | _ => none
  | .number value =>
      if 0 ≤ value && value.toNat.isValidChar then some (Char.ofNat value.toNat) else none
  | .shown _ => none

/-- The style of the letters for doubles. -/
def style? : Char → Option Decimal.Style
  | 'f' => some .fixed
  | 'e' => some .exponential
  | 'g' => some .general
  | _ => none

/-- A number as the letter of a conversion asks for it. A capital letter makes capitals. -/
def numberText? (layout : Layout) (value : Int) : Char → Option (List Char)
  | 'd' | 'i' | 'u' => some (layout.whole 10 none value)
  | 'x' => some (layout.whole 16 (some 'x') value)
  | 'X' => some ((layout.whole 16 (some 'x') value).map Char.toUpper)
  | 'o' => some (layout.whole 8 (some 'o') value)
  | letter =>
      match style? letter, style? letter.toLower with
      | some style, _ => layout.real? style value
      | none, some style => (layout.real? style value).map (·.map Char.toUpper)
      | none, none => none

/-- The text of a slot. Not every value can be written in every way. -/
def text? (slot : Slot) (value : FieldValue) : Option (List Char) := do
  let layout ← slot.layout?
  match slot.conversion, value with
  | 's', _ => some (layout.cut value.plain.toList)
  | 'r', _ => some (layout.cut value.quoted.toList)
  | 'a', _ => some (layout.cut (plainText value.quoted.toList))
  | 'c', _ => (character? value).map fun c => layout.widened [c]
  | letter, .number value => numberText? layout value letter
  | _, _ => none

end Slot

end GridTable
