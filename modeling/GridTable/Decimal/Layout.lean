import GridTable.Decimal.Digits

/-! Laying out chosen digits as text.
One record holds the decisions of a number format: which exponents are written positionally,
and whether a whole number keeps a fraction.
-/

namespace GridTable.Decimal

/-- The decisions of a number format. `positionalBelow` bounds the decimal exponents (the place
of the first digit) that are written without an exponent; none below -4 is. -/
structure Layout where
  choose : Nat → Int → Choice
  positionalBelow : Int
  keepFraction : Bool

def zeros (n : Nat) : List Char :=
  List.replicate n '0'

/-- The exponent with its sign and at least two digits. -/
def exponentText (exponent : Int) : List Char :=
  let digits := Nat.toDigits 10 exponent.natAbs
  (if exponent < 0 then '-' else '+') :: (if digits.length < 2 then '0' :: digits else digits)

/-- Digits with the point after the first one, then the exponent of that first digit. -/
def scientific (digits : List Char) (place : Int) : List Char :=
  match digits with
  | [] => []
  | [only] => only :: 'e' :: exponentText place
  | first :: rest => first :: '.' :: rest ++ 'e' :: exponentText place

/-- Digits with the point at its place; the first digit stands for `10^place`. -/
def positional (keepFraction : Bool) (digits : List Char) (place : Int) : List Char :=
  match place with
  | .negSucc k => '0' :: '.' :: zeros k ++ digits
  | .ofNat k =>
      let whole := digits.take (k + 1) ++ zeros (k + 1 - digits.length)
      match digits.drop (k + 1) with
      | [] => if keepFraction then whole ++ ['.', '0'] else whole
      | rest => whole ++ '.' :: rest

/-- The text of a positive finite double. -/
def Layout.magnitude (layout : Layout) (m : Nat) (q : Int) : List Char :=
  let choice := layout.choose m q
  let digits := Nat.toDigits 10 choice.digits
  let place := choice.exponent + digits.length - 1
  if -4 ≤ place && place < layout.positionalBelow
    then positional layout.keepFraction digits place
    else scientific digits place

/-- The text of a double. A zero keeps its sign, and what is not a number has none. -/
def Layout.render (layout : Layout) (x : Float) : String :=
  match parts x with
  | .notANumber => "nan"
  | .infinite negative => if negative then "-inf" else "inf"
  | .finite negative m q =>
      let size := if m = 0 then positional layout.keepFraction ['0'] 0 else layout.magnitude m q
      String.ofList (if negative then '-' :: size else size)

/-- Numbers that must read back: the fewest digits, positionally below `10^16`, and a whole
number shows one zero after the point.
-/
def exactLayout : Layout :=
  ⟨shortest, 16, true⟩

/-- Numbers for the eye: six significant digits, positionally below `10^6`, without zeros at
the end.
-/
def briefLayout : Layout :=
  ⟨significant 6, 6, false⟩

/-- The text of a double from which the double can be read back. -/
def exactText (x : Float) : String :=
  exactLayout.render x

/-- The text of a double to six significant digits. -/
def briefText (x : Float) : String :=
  briefLayout.render x

end GridTable.Decimal
