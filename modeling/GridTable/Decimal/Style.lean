import GridTable.Decimal.Layout

/-! Numbers with a chosen precision.
A style says where the point goes and what the precision counts: the digits after the point, or
all significant digits.
-/

namespace GridTable.Decimal

inductive Style where
  /-- So many digits after the point, without an exponent. -/
  | fixed
  /-- One digit before the point, so many after it, and an exponent. -/
  | exponential
  /-- At most so many significant digits, with an exponent for the very small and the large. -/
  | general
  deriving Repr, DecidableEq

/-- A number of `places` digits after the point, given as a whole number of its last unit. -/
def withPlaces (places units : Nat) : List Char :=
  let digits := Nat.toDigits 10 units
  let padded := zeros (places + 1 - digits.length) ++ digits
  let whole := padded.length - places
  match padded.drop whole with
  | [] => padded
  | rest => padded.take whole ++ '.' :: rest

/-- A text of digits with a point after the whole part, if it has none. -/
def withPoint (text : List Char) : List Char :=
  match text.span Char.isDigit with
  | (whole, '.' :: rest) => whole ++ '.' :: rest
  | (whole, rest) => whole ++ '.' :: rest

/-- Exactly `places` significant digits of a number, zeros for zero, and the place of the first. -/
def leadingDigits (places m : Nat) (q : Int) : List Char × Int :=
  if m = 0 then (zeros places, 0)
  else
    let choice := rounded places m q
    (Nat.toDigits 10 choice.digits, choice.exponent + places - 1)

/-- A magnitude in a style. `keepsPoint` asks for a point even if no digit follows it, and for
the zeros at the end of the general style.
-/
def Style.magnitude (style : Style) (precision : Nat) (keepsPoint : Bool) (m : Nat) (q : Int)
    : List Char :=
  let text :=
    match style with
    | .fixed =>
        let (num, den) := fraction m q
        withPlaces precision (nearest (num * Nat.pow 10 precision) den)
    | .exponential =>
        let (digits, place) := leadingDigits (precision + 1) m q
        scientific digits place
    | .general =>
        let places := max 1 precision
        if keepsPoint then
          let (digits, place) := leadingDigits places m q
          if -4 ≤ place && place < places then positional false digits place
          else scientific digits place
        else if m = 0 then ['0']
        else (Layout.mk (significant places) places false).magnitude m q
  if keepsPoint then withPoint text else text

end GridTable.Decimal
