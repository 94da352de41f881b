import GridTable.Decimal.Numeral
import GridTable.Failure.Error
import GridTable.Json.Value
import GridTable.Keyed

/-! Numbers, lists and members out of JSON values.
A value is taken for a number or a list where that makes sense: truth values are one and zero,
texts are numerals or the list of their characters, and an object lists its names.
-/

namespace GridTable.Json

/-- The double that a value stands for. -/
def toFloat : Json → Except Failure Float
  | bool value => pure (if value then 1.0 else 0.0)
  | int value =>
      match Decimal.ofInt? value with
      | some x => pure x
      | none => raiseFault .overflow
  | float value => pure value
  | str text =>
      match Decimal.readFloat? text.toList with
      | some x => pure x
      | none => raiseFault .badValue
  | _ => raiseFault .badType

/-- The definition is opened without its equations: to find them the bound would be evaluated. -/
theorem toFloat_int (n : Int)
    : (int n).toFloat = (Decimal.ofInt? n).elim (raiseFault .overflow) pure := by
  delta toFloat
  dsimp only
  generalize Decimal.ofInt? n = found
  cases found with
  | none => rfl
  | some x => rfl

theorem toFloat_str (text : String)
    : (str text).toFloat
      = (Decimal.readFloat? text.toList).elim (raiseFault .badValue) pure := by
  delta toFloat
  dsimp only
  generalize Decimal.readFloat? text.toList = found
  cases found with
  | none => rfl
  | some x => rfl

/-- The integer part of a double, toward zero. -/
def truncate (x : Float) : Except Failure Int :=
  match Decimal.parts x with
  | .notANumber => raiseFault .badValue
  | .infinite _ => raiseFault .overflow
  | .finite negative m q => pure (Decimal.truncated negative m q)

/-- The integer that a value stands for; the fraction of a double is dropped. -/
def toInt : Json → Except Failure Int
  | bool value => pure (if value then 1 else 0)
  | int value => pure value
  | float value => truncate value
  | str text =>
      match Decimal.readInt? text.toList with
      | some n => pure n
      | none => raiseFault .badValue
  | _ => raiseFault .badType

/-- The parts that a value lists. -/
def items : Json → Except Failure (List Json)
  | str text => pure (text.toList.map fun c => str (String.singleton c))
  | arr entries => pure entries
  | obj members => pure (members.map fun entry => str entry.1)
  | _ => raiseFault .badType

/-- The members of an object; nothing else has any. -/
def members : Json → Except Failure (List (String × Json))
  | obj members => pure members
  | _ => raiseFault .badType

/-- The value of a name, which must be among some members. -/
def need (members : List (String × Json)) (name : String) : Except Failure Json :=
  match Keyed.find? name members with
  | some value => pure value
  | none => raiseFault .missingKey

end GridTable.Json
