import GridTable.Filter.Compact
import GridTable.Proofs.Filter.Sense

/-! Compact filters: a line describes a filter that passes all checks, or the complaint says what
is wrong with the line.
-/

namespace GridTable.Filter

open Outcome

variable {kind : Kind} {text : String}

theorem ends_partsOf
    : Ends (fun parts => ∀ part ∈ parts, part ≠ []) IsComplaint (partsOf kind text) := by
  rw [partsOf]
  refine .ite (fun _ => ends_misconfigured _ _) fun filled => .pure ?_
  simpa using filled

theorem ends_numbersOf (what : String) (count : Option Nat) (part : List Char)
    : Ends (fun _ => True) IsComplaint (numbersOf what count part) := by
  simp only [numbersOf]
  split
  · exact ends_misconfigured _ _
  · exact .ite (fun _ => ends_misconfigured _ _) fun _ => .pure trivial

theorem ends_numberOf (what : String) (part : List Char)
    : Ends (fun _ => True) IsComplaint (numberOf what part) := by
  refine (ends_numbersOf what (some 1) part).bind fun values _ => ?_
  split
  · exact .pure trivial
  · exact ends_misconfigured _ _

/-- A line is read from left to right. The names of the dimensions are not empty, since no part of
the line and no name in a part of names is.
-/
theorem ends_ofText (kind : Kind) (text : String)
    : Ends (fun filter => filter.Passes ∧ filter.kind = kind) IsComplaint (ofText kind text) := by
  refine ends_partsOf.bind fun parts filled => ?_
  split
  · next dimension low high =>
      have named : String.ofList dimension ≠ "" := by
        simpa using filled dimension (by simp)
      refine (ends_numberOf _ low).bind fun low _ => ?_
      refine (ends_numberOf _ high).bind fun high _ => ?_
      exact ends_checkedRange named low high
  · next dimension values =>
      have named : String.ofList dimension ≠ "" := by
        simpa using filled dimension (by simp)
      refine (ends_numbersOf _ none values).bind fun values _ => ?_
      exact ends_checkedList named values 0.0
  · next names point tolerance =>
      split
      · next first second _ =>
          refine .ite (fun _ => ends_misconfigured _ _) fun filled => ?_
          have named : first ≠ "" ∧ second ≠ "" := by simpa using filled
          refine (ends_numbersOf _ _ point).bind fun point _ => ?_
          split
          · refine (ends_numberOf _ tolerance).bind fun tolerance _ => ?_
            exact ends_checkedPoint2d named _ tolerance
          · exact ends_misconfigured _ _
      · exact ends_misconfigured _ _
  · next names point tolerance =>
      split
      · next time first second _ =>
          refine .ite (fun _ => ends_misconfigured _ _) fun filled => ?_
          have named : time ≠ "" ∧ first ≠ "" ∧ second ≠ "" := by
            simpa [and_assoc] using filled
          refine (ends_numbersOf _ _ point).bind fun point _ => ?_
          split
          · refine (ends_numberOf _ tolerance).bind fun tolerance _ => ?_
            exact ends_checkedPoint3d named _ _ tolerance
          · exact ends_misconfigured _ _
      · exact ends_misconfigured _ _
  · exact ends_misconfigured _ _

end GridTable.Filter
