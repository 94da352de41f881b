import GridTable.Text.DecimalDigit
import GridTable.Text.WordCharacter

/-! Slots of patterns.
A slot begins with a percent sign and ends with the letter of a conversion. In between it may
name a field in parentheses and hold flags, a width, a precision and a letter for a length.
-/

namespace GridTable

structure Slot where
  /-- The name of the field, where there are parentheses. -/
  field : Option (List Char)
  flags : List Char
  /-- The text of the least width, which may be empty. -/
  width : List Char
  /-- The text after the point, if there is a point. -/
  precision : Option (List Char)
  hasLength : Bool
  conversion : Char

namespace Slot

def isFlag (c : Char) : Bool :=
  "#0- +".toList.contains c

def isLength (c : Char) : Bool :=
  "hlL".toList.contains c

/-- A width or precision at the start of a text: an asterisk, or digits. -/
def countAt (text : List Char) : List Char × List Char :=
  match text with
  | '*' :: rest => (['*'], rest)
  | _ => text.span fun c => (Text.digitValue? c).isSome

/-- The slot whose field has been read. -/
def afterField? (field : Option (List Char)) (text : List Char) : Option (Slot × List Char) :=
  let (flags, text) := text.span isFlag
  let (width, text) := countAt text
  let (precision, text) :=
    match text with
    | '.' :: text =>
        let (count, text) := countAt text
        (some count, text)
    | text => (none, text)
  let hasLength := text.head?.any isLength
  match if hasLength then text.drop 1 else text with
  | [] => none
  | conversion :: rest =>
      some (⟨field, flags, width, precision, hasLength, conversion⟩, rest)

/-- The name up to the parenthesis that closes it; `depth` others are open. -/
def nameAt? (depth : Nat) : List Char → Option (List Char × List Char)
  | [] => none
  | ')' :: rest =>
      match depth with
      | 0 => some ([], rest)
      | depth + 1 => (nameAt? depth rest).map fun (name, rest) => (')' :: name, rest)
  | '(' :: rest => (nameAt? (depth + 1) rest).map fun (name, rest) => ('(' :: name, rest)
  | c :: rest => (nameAt? depth rest).map fun (name, rest) => (c :: name, rest)

/-- The slot that follows a percent sign. -/
def at? : List Char → Option (Slot × List Char)
  | '(' :: text => do
      let (name, rest) ← nameAt? 0 text
      afterField? (some name) rest
  | text => afterField? none text

/-- The small letter of a letter in any form. -/
def small (c : Char) : Char :=
  if c = 'ı' || c = 'İ' then 'i' else if c = 'ſ' then 's' else c.toLower

/-- Whether a slot has a field, a precision if it has a point, and a letter of a conversion. -/
def isRegular (slot : Slot) : Bool :=
  slot.field.any (fun name => !name.isEmpty && name.all Text.isWordCharacter)
  && slot.precision.all (!·.isEmpty)
  && !slot.hasLength
  && "diouxefgcrsa%".toList.contains (small slot.conversion)

end Slot

/-- A character of a pattern that stands for itself, or a slot. -/
inductive Piece where
  | plain (c : Char)
  | slot (content : Slot)

namespace Piece

/-- The pieces of a pattern, found in at most `fuel` steps. Two percent signs stand for one. -/
def listWithin : Nat → List Char → Option (List Piece)
  | _, [] => some []
  | 0, _ :: _ => none
  | fuel + 1, '%' :: '%' :: rest => (listWithin fuel rest).map (.plain '%' :: ·)
  | fuel + 1, '%' :: rest => do
      let (found, rest) ← Slot.at? rest
      let more ← listWithin fuel rest
      some (.slot found :: more)
  | fuel + 1, c :: rest => (listWithin fuel rest).map (.plain c :: ·)

/-- The pieces of a pattern, unless a slot is left open. Each step uses up a character. -/
def list? (pattern : List Char) : Option (List Piece) :=
  listWithin pattern.length pattern

end Piece

end GridTable
