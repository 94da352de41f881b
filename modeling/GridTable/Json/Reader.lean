import GridTable.Decimal.Numeral
import GridTable.Json.Value
import GridTable.Keyed

/-! Reading JSON texts.
Besides the standard grammar the words `NaN`, `Infinity` and `-Infinity` are numbers. The
last of several members of one name counts.
-/

namespace GridTable.Json

/-- Why a text is no JSON value. An integer of too many digits is well-formed and refused, and
so are lists and objects in too many others.
-/
inductive ReadError where
  | malformed
  | tooManyDigits
  | nestedTooDeep
  deriving Repr, DecidableEq

def skipSpace : List Char → List Char
  | c :: rest =>
      if c = ' ' || c = '\t' || c = '\n' || c = '\r' then skipSpace rest else c :: rest
  | [] => []

/-- The rest of a text after the characters of `word`, if it starts with them. -/
def after? : List Char → List Char → Option (List Char)
  | [], text => some text
  | _ :: _, [] => none
  | c :: word, d :: text => if c = d then after? word text else none

def hexValue? (c : Char) : Option Nat :=
  let n := c.toNat
  if 48 ≤ n && n ≤ 57 then some (n - 48)
  else if 97 ≤ n && n ≤ 102 then some (n - 87)
  else if 65 ≤ n && n ≤ 70 then some (n - 55)
  else none

/-- Four hexadecimal digits. -/
def hexUnit? : List Char → Option (Nat × List Char)
  | a :: b :: c :: d :: rest => do
      let a ← hexValue? a
      let b ← hexValue? b
      let c ← hexValue? c
      let d ← hexValue? d
      some (((a * 16 + b) * 16 + c) * 16 + d, rest)
  | _ => none

/-- The character of a unit and, when the unit is the first half of a pair, of the second half
that follows as an escape of its own. A half without its partner is the replacement character.
-/
def pairedChar (unit : Nat) (rest : List Char) : Char × List Char :=
  let lone := (Char.ofNat (if 0xd800 ≤ unit && unit ≤ 0xdfff then 0xfffd else unit), rest)
  if 0xd800 ≤ unit && unit ≤ 0xdbff then
    match rest with
    | '\\' :: 'u' :: more =>
        match hexUnit? more with
        | some (low, rest) =>
            if 0xdc00 ≤ low && low ≤ 0xdfff
              then (Char.ofNat (0x10000 + (unit - 0xd800) * 0x400 + (low - 0xdc00)), rest)
              else lone
        | none => lone
    | _ => lone
  else lone

/-- The character that a one-letter escape stands for. -/
def escaped? (c : Char) : Option Char :=
  match c with
  | '"' => some '"'
  | '\\' => some '\\'
  | '/' => some '/'
  | 'b' => some '\x08'
  | 'f' => some '\x0c'
  | 'n' => some '\n'
  | 'r' => some '\r'
  | 't' => some '\t'
  | _ => none

/-- The characters of a text up to its closing mark, after those already `read` (last one
first). Each step uses up at least one character of `fuel`.
-/
def readText : Nat → List Char → List Char → Except ReadError (String × List Char)
  | 0, _, _ => throw .malformed
  | _, _, [] => throw .malformed
  | fuel + 1, read, c :: rest =>
      if c = '"' then pure (String.ofList read.reverse, rest)
      else if c = '\\' then
        match rest with
        | 'u' :: digits =>
            match hexUnit? digits with
            | some (unit, rest) =>
                let (c, rest) := pairedChar unit rest
                readText fuel (c :: read) rest
            | none => throw .malformed
        | letter :: rest =>
            match escaped? letter with
            | some c => readText fuel (c :: read) rest
            | none => throw .malformed
        | [] => throw .malformed
      else if c.toNat < 0x20 then throw .malformed
      else readText fuel (c :: read) rest

/-- A run of the digits 0 to 9: how many, their value, and what follows. -/
def asciiDigits (count value : Nat) : List Char → Nat × Nat × List Char
  | c :: rest =>
      if '0' ≤ c && c ≤ '9' then asciiDigits (count + 1) (10 * value + (c.toNat - 48)) rest
      else (count, value, c :: rest)
  | [] => (count, value, [])

/-- The fraction of a number: nothing is read unless a digit follows the point. -/
def readFraction (value : Nat) (text : List Char) : Option Nat × Nat × List Char :=
  match text with
  | '.' :: rest =>
      match asciiDigits 0 value rest with
      | (0, _, _) => (none, value, text)
      | (count, value, rest) => (some count, value, rest)
  | _ => (none, value, text)

/-- The exponent of a number: nothing is read unless a digit follows letter and sign. -/
def readExponent (text : List Char) : Option Int × List Char :=
  match text with
  | c :: rest =>
      if c = 'e' || c = 'E' then
        let (negative, rest) := Decimal.signed rest
        match asciiDigits 0 0 rest with
        | (0, _, _) => (none, text)
        | (_, value, rest) => (some (if negative then -(value : Int) else value), rest)
      else (none, text)
  | [] => (none, text)

/-- A number without its minus sign. A fraction or an exponent makes it a double. -/
def readNumber (negative : Bool) (text : List Char) : Except ReadError (Json × List Char) :=
  match asciiDigits 0 0 text with
  | (0, _, _) => throw .malformed
  | (count, value, rest) =>
      let (count, value, rest) :=
        match text with
        | '0' :: rest => (1, 0, rest)
        | _ => (count, value, rest)
      match readFraction value rest with
      | (places, value, rest) =>
          match places, readExponent rest with
          | none, (none, rest) =>
              if Decimal.digitLimit < count then throw .tooManyDigits
              else pure (.int (if negative then -(value : Int) else value), rest)
          | _, (exponent, rest) =>
              let size := Decimal.scaled value (exponent.getD 0 - (places.getD 0 : Nat))
              pure (.float (if negative then -size else size), rest)

/-- The words that stand for a value. -/
def constants : List (List Char × Json) :=
  [
    ("null".toList, .null), ("true".toList, .bool true), ("false".toList, .bool false),
    ("NaN".toList, .float (0.0 / 0.0)), ("Infinity".toList, .float (1.0 / 0.0)),
    ("-Infinity".toList, .float (-1.0 / 0.0))
  ]

/-- The constant that a text starts with. -/
def constant? (text : List Char) : Option (Json × List Char) :=
  constants.findSome? fun (word, value) => (after? word text).map fun rest => (value, rest)

mutual

/-- One value in which at most `levels` lists and objects stand in each other. Every step down
uses up one unit of `fuel`.
-/
def readValue : Nat → Nat → List Char → Except ReadError (Json × List Char)
  | 0, _, _ => throw .malformed
  | fuel + 1, levels, text =>
      match text with
      | '"' :: rest => do
          let (value, rest) ← readText (rest.length + 1) [] rest
          pure (.str value, rest)
      | '[' :: rest =>
          if levels = 0 then throw .nestedTooDeep
          else
            match skipSpace rest with
            | ']' :: rest => pure (.arr [], rest)
            | rest => readItems fuel (levels - 1) [] rest
      | '\x7b' :: rest =>
          if levels = 0 then throw .nestedTooDeep
          else
            match skipSpace rest with
            | '\x7d' :: rest => pure (.obj [], rest)
            | rest => readMembers fuel (levels - 1) [] rest
      | _ =>
          match constant? text with
          | some found => pure found
          | none =>
              match text with
              | '-' :: rest => readNumber true rest
              | _ => readNumber false text

/-- The items of an array from the next one on, after those `read` (last one first). -/
def readItems : Nat → Nat → List Json → List Char → Except ReadError (Json × List Char)
  | 0, _, _, _ => throw .malformed
  | fuel + 1, levels, read, text => do
      let (value, rest) ← readValue fuel levels text
      match skipSpace rest with
      | ',' :: rest => readItems fuel levels (value :: read) (skipSpace rest)
      | ']' :: rest => pure (.arr (value :: read).reverse, rest)
      | _ => throw .malformed

/-- The members of an object from the next one on, after those already `read`. -/
def readMembers
    : Nat → Nat → List (String × Json) → List Char → Except ReadError (Json × List Char)
  | 0, _, _, _ => throw .malformed
  | fuel + 1, levels, read, text =>
      match text with
      | '"' :: rest => do
          let (name, rest) ← readText (rest.length + 1) [] rest
          match skipSpace rest with
          | ':' :: rest =>
              let (value, rest) ← readValue fuel levels (skipSpace rest)
              match skipSpace rest with
              | ',' :: rest =>
                  readMembers fuel levels (Keyed.assign name value read) (skipSpace rest)
              | '\x7d' :: rest => pure (.obj (Keyed.assign name value read), rest)
              | _ => throw .malformed
          | _ => throw .malformed
      | _ => throw .malformed

end

/-- The value that a text denotes; only white space may surround it, and at most `levels` lists
and objects may stand in each other. Each step down reads at least one character, so twice the
length is more fuel than is ever used.
-/
def read (levels : Nat) (text : String) : Except ReadError Json := do
  let text := skipSpace text.toList
  let (value, rest) ← readValue (2 * text.length + 2) levels text
  if (skipSpace rest).isEmpty then pure value else throw .malformed

end GridTable.Json
