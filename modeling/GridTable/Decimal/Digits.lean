import GridTable.Decimal.Binary

/-! Choosing decimal digits for a finite double.
Either the fewest digits that read back to the same double, or a fixed number of significant
digits; a choice is an integer and a power of ten.
-/

namespace GridTable.Decimal

/-- `digits · 10^exponent`. -/
structure Choice where
  digits : Nat
  exponent : Int
  deriving Repr, DecidableEq

/-- How many decimal digits a natural number has; zero has one. -/
def digitCount (n : Nat) : Nat :=
  (Nat.toDigits 10 n).length

/-- The least `k` with `num / den < 10^k`, for a positive fraction: the digit counts leave two
candidates.
-/
def scale (num den : Nat) : Int :=
  let guess := (digitCount num : Int) - (digitCount den : Int)
  let below : Bool :=
    match guess with
    | .ofNat k => num < den * Nat.pow 10 k
    | .negSucc k => num * Nat.pow 10 (k + 1) < den
  if below then guess else guess + 1

/-- The fraction divided by `10^exponent`. -/
def onGrid (num den : Nat) (exponent : Int) : Nat × Nat :=
  match exponent with
  | .ofNat k => (num, den * Nat.pow 10 k)
  | .negSucc k => (num * Nat.pow 10 (k + 1), den)

/-- Whether `candidate · 10^exponent` rounds to the double `m · 2^q`: it lies between the
midpoints to the neighbouring doubles, where the midpoints themselves round to the double
exactly when `m` is even. All is counted in quarters of the gap above.
-/
def readsBack (m : Nat) (q exponent : Int) (candidate : Nat) : Bool :=
  let (num, den) := fraction 1 (q - 2)
  let (num, den) := onGrid num den exponent
  let low := (4 * m - (if narrowBelow m q then 1 else 2)) * num
  let high := (4 * m + 2) * num
  let point := candidate * den
  if m % 2 = 0 then low ≤ point && point ≤ high else low < point && point < high

/-- Of the two grid points around the value the nearer one that reads back; the even one if
they are equally near.
-/
def nearestOnGrid? (m : Nat) (q exponent : Int) : Option Choice :=
  let (num, den) := fraction m q
  let (num, den) := onGrid num den exponent
  let below := num / den
  let twice := 2 * (num % den)
  let belowFirst := twice < den || (twice == den && below % 2 == 0)
  let (first, second) := if belowFirst then (below, below + 1) else (below + 1, below)
  if readsBack m q exponent first then some ⟨first, exponent⟩
  else if readsBack m q exponent second then some ⟨second, exponent⟩
  else none

/-- Tries the grids of `n + 1`, `n + 2`, … digits, `tries` of them, below `10^top`. -/
def coarsestGrid? (m : Nat) (q top : Int) : Nat → Nat → Option Choice
  | _, 0 => none
  | n, tries + 1 =>
      match nearestOnGrid? m q (top - (n + 1)) with
      | some choice => some choice
      | none => coarsestGrid? m q top (n + 1) tries

/-- Moves trailing zeros of the digits into the exponent, at most `limit` of them. -/
def dropZeros : Nat → Choice → Choice
  | 0, choice => choice
  | limit + 1, choice =>
      if choice.digits % 10 = 0 && choice.digits != 0
        then dropZeros limit ⟨choice.digits / 10, choice.exponent + 1⟩
        else choice

/-- The fewest digits that read back to the positive double `m · 2^q`. Seventeen digits always
suffice; should none be found, the exact value is taken.
-/
def shortest (m : Nat) (q : Int) : Choice :=
  let (num, den) := fraction m q
  let found := coarsestGrid? m q (scale num den) 0 17
  let exact : Choice :=
    match q with
    | .ofNat k => ⟨m * Nat.pow 2 k, 0⟩
    | .negSucc k => ⟨m * Nat.pow 5 (k + 1), -(k + 1 : Int)⟩
  let choice := found.getD exact
  dropZeros (digitCount choice.digits) choice

/-- The whole number nearest to a fraction with positive denominator, ties to even. -/
def nearest (num den : Nat) : Nat :=
  let below := num / den
  let twice := 2 * (num % den)
  if twice < den || (twice == den && below % 2 == 0) then below else below + 1

/-- The positive double `m · 2^q` to just `places` significant digits, ties to even. Where
rounding makes one digit more, the last one is a zero and goes into the exponent.
-/
def rounded (places : Nat) (m : Nat) (q : Int) : Choice :=
  let (num, den) := fraction m q
  let exponent := scale num den - places
  let (num, den) := onGrid num den exponent
  let digits := nearest num den
  if digits = Nat.pow 10 places then ⟨digits / 10, exponent + 1⟩ else ⟨digits, exponent⟩

/-- The positive double `m · 2^q` to at most `places` significant digits, ties to even. -/
def significant (places : Nat) (m : Nat) (q : Int) : Choice :=
  let choice := rounded places m q
  dropZeros (digitCount choice.digits) choice

end GridTable.Decimal
