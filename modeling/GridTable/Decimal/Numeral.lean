import GridTable.Decimal.Binary
import GridTable.Text.Blank
import GridTable.Text.DecimalDigit

/-! Reading numerals.
Digits of any script count, single underscores may stand between digits, and blanks may stand
around a numeral; the separators among the controls are no such blanks.
-/

namespace GridTable.Decimal

/-- The blanks that may surround a numeral. -/
def isNumeralBlank (c : Char) : Bool :=
  Text.isBlank c && !(0x1c ≤ c.toNat && c.toNat ≤ 0x1f)

/-- The sign before a numeral: whether it is negative, and what follows. -/
def signed : List Char → Bool × List Char
  | '-' :: rest => (true, rest)
  | '+' :: rest => (false, rest)
  | rest => (false, rest)

/-- A run of digits. `count` digits with the value `value` came before; a digit must follow an
underscore. Answers the count and value of all digits and the rest of the text.
-/
def digitRun (count value : Nat) : List Char → Nat × Nat × List Char
  | [] => (count, value, [])
  | c :: rest =>
      match Text.digitValue? c with
      | some digit => digitRun (count + 1) (10 * value + digit) rest
      | none =>
          if c = '_' && count != 0 && (rest.head?.bind Text.digitValue?).isSome
            then digitRun count value rest
            else (count, value, c :: rest)

/-- The most digits that a numeral of an integer may have. -/
def digitLimit : Nat :=
  4300

/-- The integer that a text denotes. -/
def readInt? (text : List Char) : Option Int :=
  let (negative, rest) := signed (Text.trimBoth isNumeralBlank text)
  match digitRun 0 0 rest with
  | (count, value, []) =>
      if count = 0 || digitLimit < count then none
      else some (if negative then -(value : Int) else value)
  | _ => none

/-- The digits after a decimal point: `count` and `value` count on from those before it. -/
def fractionRun (count value : Nat) : List Char → Nat × Nat × List Char
  | c :: rest =>
      if (Text.digitValue? c).isSome then
        let (more, fraction, rest) := digitRun 0 0 (c :: rest)
        (count + more, value * Nat.pow 10 more + fraction, rest)
      else (count, value, c :: rest)
  | [] => (count, value, [])

/-- The exponent of a numeral: a letter, a sign and digits. No exponent is the exponent zero;
none is answered when the text is something else.
-/
def exponent? : List Char → Option Int
  | [] => some 0
  | c :: rest =>
      if c = 'e' || c = 'E' then
        let (negative, rest) := signed rest
        match digitRun 0 0 rest with
        | (count, value, []) =>
            if count = 0 then none else some (if negative then -(value : Int) else value)
        | _ => none
      else none

/-- The nonnegative double nearest to `value · 10^exponent`. A value far outside the range of
doubles is zero or infinite, so that no huge power of ten is ever computed.
-/
def scaled (value : Nat) (exponent : Int) : Float :=
  let top := ((Nat.toDigits 10 value).length : Int) + exponent
  if value = 0 || top < -400 then 0.0
  else if 400 < top then 1.0 / 0.0
  else
    match exponent with
    | .ofNat k => Float.ofScientific (value * Nat.pow 10 k) false 0
    | .negSucc k => Float.ofScientific value true (k + 1)

/-- The letters of a word, in small ones. -/
def lowered (text : List Char) : List Char :=
  text.map Char.toLower

/-- The magnitude that an unsigned text denotes. -/
def readMagnitude? (text : List Char) : Option Float :=
  if lowered text = "inf".toList || lowered text = "infinity".toList then some (1.0 / 0.0)
  else if lowered text = "nan".toList then some (0.0 / 0.0)
  else
    let (whole, value, rest) := digitRun 0 0 text
    let (count, value, rest) :=
      match rest with
      | '.' :: rest => fractionRun whole value rest
      | rest => (whole, value, rest)
    if count = 0 then none
    else (exponent? rest).map fun exponent => scaled value (exponent - (count - whole : Nat))

/-- The double that a text denotes. -/
def readFloat? (text : List Char) : Option Float :=
  let (negative, rest) := signed (Text.trimBoth isNumeralBlank text)
  (readMagnitude? rest).map fun size => if negative then -size else size

end GridTable.Decimal
