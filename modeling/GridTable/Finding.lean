import GridTable.IndexSet
import GridTable.Json.Coercion

/-! Findings: what a filter found.
A finding keeps indices along one dimension, or pairs or triplets of indices along two or three
dimensions at once. Repeated pairs and triplets are kept, in order.
-/

namespace GridTable

inductive Finding where
  | single (dimension : String) (indices : IndexSet)
  | pairs (first second : String) (items : List (Int × Int))
  | triplets (first second third : String) (items : List (Int × Int × Int))
  /-- No finding at all, but a value of the given kind. -/
  | unsupported (kind : String)

namespace Finding

/-- The dimensions along which a finding keeps indices, in its own order. -/
def dimensions : Finding → List String
  | single dimension _ => [dimension]
  | pairs first second _ => [first, second]
  | triplets first second third _ => [first, second, third]
  | unsupported _ => []

/-- The number of entries, repeated ones included. -/
def size : Finding → Nat
  | single _ indices => indices.size
  | pairs _ _ items => items.length
  | triplets _ _ _ items => items.length
  | unsupported _ => 0

def isEmpty (finding : Finding) : Bool :=
  finding.size == 0

/-- A finding in one line. -/
def describe (finding : Finding) : Except Failure String :=
  match finding with
  | single dimension _ =>
      pure (toString finding.size ++ " indices for dimension '" ++ dimension ++ "'")
  | pairs first second _ =>
      pure (toString finding.size ++ " coordinate pairs for dimensions '" ++ first ++ "', '"
        ++ second ++ "'")
  | triplets first second third _ =>
      pure (toString finding.size ++ " coordinate triplets for dimensions '" ++ first ++ "', '"
        ++ second ++ "', '" ++ third ++ "'")
  | unsupported kind => raiseFault (.unsupportedFinding kind)

/-- A finding along one dimension from listed indices. -/
def readSingle (dimension : String) (indices : Json) : Except Failure Finding := do
  let entries ← indices.items
  let indices ← entries.mapM Json.toInt
  pure (.single dimension (.ofList indices))

/-- The pair of indices that a value lists. -/
def readPair (value : Json) : Except Failure (Int × Int) := do
  match ← value.items with
  | [i, j] => pure (← i.toInt, ← j.toInt)
  | _ => raiseFault .badValue

/-- The triplet of indices that a value lists. -/
def readTriplet (value : Json) : Except Failure (Int × Int × Int) := do
  match ← value.items with
  | [i, j, k] => pure (← i.toInt, ← j.toInt, ← k.toInt)
  | _ => raiseFault .badValue

def readPairs (first second : String) (listed : Json) : Except Failure Finding := do
  let entries ← listed.items
  pure (.pairs first second (← entries.mapM readPair))

def readTriplets (first second third : String) (listed : Json) : Except Failure Finding := do
  let entries ← listed.items
  pure (.triplets first second third (← entries.mapM readTriplet))

end Finding

end GridTable
