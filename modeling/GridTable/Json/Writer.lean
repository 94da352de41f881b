import GridTable.Decimal.Layout
import GridTable.Json.Value
import GridTable.Text.Fields
import GridTable.Text.Quoted

/-! Writing JSON texts.
All characters outside the printable ones of ASCII are escaped. The wide form puts each part
on a line of its own, two spaces deeper than the whole.
-/

namespace GridTable.Json

/-- The escape of one 16-bit unit. -/
def unitEscape (unit : Nat) : List Char :=
  '\\' :: 'u' :: Text.hexDigits 4 unit

def writtenChar (c : Char) : List Char :=
  let n := c.toNat
  if c = '"' || c = '\\' then ['\\', c]
  else if c = '\n' then ['\\', 'n']
  else if c = '\r' then ['\\', 'r']
  else if c = '\t' then ['\\', 't']
  else if n = 0x08 then ['\\', 'b']
  else if n = 0x0c then ['\\', 'f']
  else if 0x20 ≤ n && n ≤ 0x7e then [c]
  else if n < 0x10000 then unitEscape n
  else unitEscape (0xd800 + (n - 0x10000) / 0x400) ++ unitEscape (0xdc00 + (n - 0x10000) % 0x400)

def writtenText (text : String) : String :=
  String.ofList ('"' :: text.toList.flatMap writtenChar ++ ['"'])

def writtenFloat (x : Float) : String :=
  match Decimal.parts x with
  | .notANumber => "NaN"
  | .infinite negative => if negative then "-Infinity" else "Infinity"
  | .finite .. => Decimal.exactText x

/-- The parts of a list or object between its brackets, each on its own line at `depth`. -/
def wideBlock (opening closing : String) (depth : Nat) (written : List String) : String :=
  let margin := "\n" ++ String.ofList (List.replicate (2 * depth) ' ')
  match written with
  | [] => opening ++ closing
  | _ => opening ++ margin ++ "  " ++ String.intercalate ("," ++ margin ++ "  ") written ++ margin
      ++ closing

mutual

/-- The wide form of a value that stands at `depth`. -/
def wideAt (depth : Nat) : Json → String
  | null => "null"
  | bool value => if value then "true" else "false"
  | int value => toString value
  | float value => writtenFloat value
  | str text => writtenText text
  | arr items => wideBlock "[" "]" depth (wideItems (depth + 1) items)
  | obj members => wideBlock "\x7b" "\x7d" depth (wideMembers (depth + 1) members)

def wideItems (depth : Nat) : List Json → List String
  | [] => []
  | item :: rest => wideAt depth item :: wideItems depth rest

def wideMembers (depth : Nat) : List (String × Json) → List String
  | [] => []
  | (name, value) :: rest =>
      (writtenText name ++ ": " ++ wideAt depth value) :: wideMembers depth rest

end

/-- The wide form of a value. -/
def wide (value : Json) : String :=
  wideAt 0 value

end GridTable.Json
