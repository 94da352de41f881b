import GridTable.Decimal.Layout
import GridTable.Decimal.Numeral
import GridTable.Failure.Error
import GridTable.Json.Value
import GridTable.Text.Quoted

/-! JSON values in messages.
Texts are quoted, the three constants have names of their own, and lists and objects show
their parts in order. There is no message with an integer of too many digits, nor with lists and
objects that stand in more others than there is room for.
-/

namespace GridTable

/-- Whether an integer has no more digits than a numeral may have. -/
def Decimal.isShort (n : Int) : Bool :=
  n.natAbs < Nat.pow 10 digitLimit

/-- The digits of an integer. -/
def Decimal.integerText (n : Int) : Except Failure String :=
  if isShort n then pure (toString n) else raiseFault .badValue

namespace Json

mutual

/-- A value as a message shows it, if at most `levels` lists and objects with parts of their own
stand in each other.
-/
def shown (levels : Nat) : Json → Except Failure String
  | null => pure "None"
  | bool value => pure (if value then "True" else "False")
  | int value => Decimal.integerText value
  | float value => pure (Decimal.exactText value)
  | str text => pure (Text.quoted text)
  | arr items =>
      if levels = 0 && !items.isEmpty then raiseFault .nestedTooDeep
      else do
        let parts ← shownItems (levels - 1) items
        pure (Text.bracketed parts)
  | obj members =>
      if levels = 0 && !members.isEmpty then raiseFault .nestedTooDeep
      else do
        let parts ← shownMembers (levels - 1) members
        pure ("\x7b" ++ Text.commaList parts ++ "\x7d")

def shownItems (levels : Nat) : List Json → Except Failure (List String)
  | [] => pure []
  | item :: rest => do
      let first ← shown levels item
      let others ← shownItems levels rest
      pure (first :: others)

def shownMembers (levels : Nat) : List (String × Json) → Except Failure (List String)
  | [] => pure []
  | (name, value) :: rest => do
      let first ← shown levels value
      let others ← shownMembers levels rest
      pure ((Text.quoted name ++ ": " ++ first) :: others)

end

/-- A value as plain text: a text stands for itself. -/
def plain (levels : Nat) : Json → Except Failure String
  | str text => pure text
  | value => shown levels value

end Json

end GridTable
