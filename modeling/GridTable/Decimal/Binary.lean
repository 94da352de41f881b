/-! Doubles as scaled integers.
A finite double is `±m · 2^q`; everything that is said about its decimal text is integer
arithmetic on `m` and `q`.
-/

namespace GridTable.Decimal

/-- A double taken apart. -/
inductive Parts where
  | finite (negative : Bool) (m : Nat) (q : Int)
  | infinite (negative : Bool)
  | notANumber
  deriving Repr, DecidableEq

/-- The parts of a double: 52 bits of fraction below 11 bits of exponent, with a leading one
that is not stored unless the exponent field is zero.
-/
def parts (x : Float) : Parts :=
  let bits := x.toBits.toNat
  let negative := bits / Nat.pow 2 63 == 1
  let exponent : Nat := bits / Nat.pow 2 52 % Nat.pow 2 11
  let fraction := bits % Nat.pow 2 52
  if exponent = 2047 then
    if fraction = 0 then .infinite negative else .notANumber
  else if exponent = 0 then .finite negative fraction (-1074)
  else .finite negative (Nat.pow 2 52 + fraction) ((exponent : Int) - 1075)

/-- Whether the gap below the value is half the gap above it: at the powers of two, except
where the gaps have reached their least size.
-/
def narrowBelow (m : Nat) (q : Int) : Bool :=
  m == Nat.pow 2 52 && q != -1074

/-- `m · 2^q` as a fraction with positive denominator. -/
def fraction (m : Nat) (q : Int) : Nat × Nat :=
  match q with
  | .ofNat k => (m * Nat.pow 2 k, 1)
  | .negSucc k => (m, Nat.pow 2 (k + 1))

/-- The integer part of a finite double, toward zero. -/
def truncated (negative : Bool) (m : Nat) (q : Int) : Int :=
  let (num, den) := fraction m q
  if negative then -((num / den : Nat) : Int) else ((num / den : Nat) : Int)

/-- `m · 2^q` with its sign, as a fraction with positive denominator. -/
def signedFraction (negative : Bool) (m : Nat) (q : Int) : Int × Int :=
  let (num, den) := fraction m q
  (if negative then -(num : Int) else num, den)

/-- Whether an integer is less than a double; no integer is rounded for that. -/
def isBelow (n : Int) (x : Float) : Bool :=
  match parts x with
  | .notANumber => false
  | .infinite negative => !negative
  | .finite negative m q =>
      let (num, den) := signedFraction negative m q
      n * den < num

/-- Whether an integer is greater than a double. -/
def isAbove (n : Int) (x : Float) : Bool :=
  match parts x with
  | .notANumber => false
  | .infinite negative => negative
  | .finite negative m q =>
      let (num, den) := signedFraction negative m q
      num < n * den

/-- The least natural number that no double is close to: from it on integers round past the
greatest double.
-/
def overflowBound : Nat :=
  Nat.pow 2 1024 - Nat.pow 2 970

/-- The double nearest to an integer, ties to even; none when the integer is too large. -/
def ofInt? (n : Int) : Option Float :=
  if n.natAbs < overflowBound then
    let size := Float.ofScientific n.natAbs false 0
    some (if n < 0 then -size else size)
  else none

end GridTable.Decimal
