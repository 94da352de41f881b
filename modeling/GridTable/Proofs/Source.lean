import GridTable.Proofs.Journal
import GridTable.Source

/-! How reading from a source ends.
-/

namespace GridTable

theorem checkSupportedRank_eq_ok_iff {field : String} {rank : Nat}
    : checkSupportedRank field rank = .ok () ↔ lowestRank ≤ rank ∧ rank ≤ highestRank := by
  rw [checkSupportedRank, checkRank]
  split
  · next inside => exact iff_of_true rfl (by omega)
  · next outside => exact iff_of_false nofun (by omega)

namespace Source

@[simp] theorem outcome_readCoordinate (source : Source) (name : String)
    : (source.readCoordinate name).outcome = source.coordinate name := by
  simp [readCoordinate]

@[simp] theorem outcome_readPoints (source : Source) (field : String) (cells : List CellIndex)
    : (source.readPoints field cells).outcome = source.points field cells := by
  simp [readPoints]

end Source

end GridTable
