import GridTable.Json.Coercion
import GridTable.Keyed
import GridTable.Text.Occurrence

/-! Comparing JSON values.
Numbers are equal by their value, whatever they are written as, and truth values are one and
zero. Objects are equal whatever the order of their members.
-/

namespace GridTable.Json

/-- The integer that a number is, if it has no fraction. -/
def whole? : Json → Option Int
  | bool value => some (if value then 1 else 0)
  | int value => some value
  | float value =>
      match truncate value with
      | .ok n => if Decimal.ofInt? n == some value then some n else none
      | .error _ => none
  | _ => none

mutual

def isEqual : Json → Json → Bool
  | null, other =>
      match other with
      | null => true
      | _ => false
  | bool value, other => whole? other == some (if value then 1 else 0)
  | int value, other => whole? other == some value
  | float value, other =>
      match other, whole? (float value) with
      | float same, none => value == same
      | _, none => false
      | _, some n => whole? other == some n
  | str text, other =>
      match other with
      | str same => text == same
      | _ => false
  | arr items, other =>
      match other with
      | arr others => areEqual items others
      | _ => false
  | obj members, other =>
      match other with
      | obj others => members.length == others.length && areWithin members others
      | _ => false

def areEqual : List Json → List Json → Bool
  | [], others => others.isEmpty
  | _ :: _, [] => false
  | item :: rest, other :: others => isEqual item other && areEqual rest others

/-- Whether all members are members of another object with equal values. -/
def areWithin : List (String × Json) → List (String × Json) → Bool
  | [], _ => true
  | (name, value) :: rest, others =>
      (Keyed.find? name others).any (isEqual value) && areWithin rest others

end

/-- Whether a value has another one in it: a list has its entries, an object its names, and a
text has all its parts.
-/
def contains (whole part : Json) : Except Failure Bool :=
  match whole, part with
  | str text, str part => pure (Text.occursIn part.toList text.toList)
  | arr items, part => pure (items.any (isEqual part))
  | obj members, str name => pure (Keyed.find? name members).isSome
  | obj _, arr _ | obj _, obj _ => raiseFault .badType
  | obj _, _ => pure false
  | _, _ => raiseFault .badType

/-- The greatest integer that is not above a double; what is not finite has none. -/
def floor? (x : Float) : Option Int :=
  match Decimal.parts x with
  | .finite negative m q =>
      let whole := Decimal.truncated negative m q
      some (if Decimal.ofInt? whole == some x then whole else if negative then whole - 1 else whole)
  | _ => none

/-- The integer that a number without a point is; nothing else is one. -/
def integer : Json → Except Failure Int
  | bool value => pure (if value then 1 else 0)
  | int value => pure value
  | _ => raiseFault .badType

/-- Whether a value is at most another one. Texts are compared with texts, numbers with
numbers.
-/
def isAtMost (low high : Json) : Except Failure Bool := do
  match low, high with
  | str low, str high => pure (low ≤ high)
  | float low, float high => pure (low ≤ high)
  | float low, high => do
      let high ← integer high
      pure ((floor? (-low)).elim (low < 0.0) fun bound => -bound ≤ high)
  | low, float high => do
      let low ← integer low
      pure ((floor? high).elim (0.0 < high) fun bound => low ≤ bound)
  | low, high => do
      let low ← integer low
      let high ← integer high
      pure (low ≤ high)

end GridTable.Json
