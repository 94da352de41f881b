import GridTable.Proofs.Extraction.Outcome

/-! Reading in batches: what is read does not depend on where the batches are cut.
-/

namespace GridTable

variable {α β : Type}

theorem ne_nil_of_mem_pieces {size : Nat} {entries piece : List α}
    (hm : piece ∈ pieces size entries)
    : piece ≠ [] := by
  fun_induction pieces size entries with
  | case1 entries stop => simp at hm
  | case2 entries more ih =>
      rcases List.mem_cons.mp hm with rfl | hm
      · simpa [List.take_eq_nil_iff] using more
      · exact ih hm

/-- Counts of batches that make a number of entries: all have one size but for the last one, which
is not empty and may be smaller.
-/
structure BatchCounts (size total : Nat) (counts : List Nat) : Prop where
  sum : counts.foldr (· + ·) 0 = total
  number : counts.length = (total + size - 1) / size
  full : ∀ count ∈ counts.dropLast, count = size
  last : ∀ count ∈ counts.getLast?, 1 ≤ count ∧ count ≤ size

/-- Pieces are counted so, by induction on the pieces. -/
theorem batchCounts_pieces {size : Nat} (positive : 1 ≤ size) (entries : List α)
    : BatchCounts size entries.length ((pieces size entries).map List.length) := by
  fun_induction pieces size entries with
  | case1 entries stop =>
      obtain rfl : entries = [] := stop.resolve_left (by omega)
      have none : (size - 1) / size = 0 := Nat.div_eq_of_lt (by omega)
      exact ⟨rfl, by simp [none], by simp, by simp⟩
  | case2 entries more ih =>
      obtain ⟨-, filled⟩ := not_or.mp more
      have some := List.length_pos_iff.mpr filled
      have sized : (entries.take size).length = min size entries.length := List.length_take
      rw [List.length_drop] at ih
      by_cases rest : entries.drop size = []
      · have few : entries.length ≤ size := List.drop_eq_nil_iff.mp rest
        have none : pieces size (entries.drop size) = [] := by
          rw [rest]
          simp [pieces]
        have one : (entries.length + size - 1) / size = 1 :=
          Nat.div_eq_of_lt_le (by omega) (by omega)
        rw [none, List.map_singleton, sized, Nat.min_eq_right few]
        exact ⟨by simp, by simp [one], by simp, by simp; omega⟩
      · have many : size < entries.length := by
          simpa [List.drop_eq_nil_iff] using rest
        have others : (pieces size (entries.drop size)).map List.length ≠ [] := by
          rw [pieces, if_neg (not_or.mpr ⟨by omega, rest⟩)]
          simp
        have next : (entries.length + size - 1) / size
            = (entries.length - size + size - 1) / size + 1 := by
          rw [← Nat.add_div_right _ (by omega)]
          congr 1
          omega
        rw [List.map_cons, sized, Nat.min_eq_left (by omega)]
        constructor
        · rw [List.foldr_cons, ih.sum]
          omega
        · rw [List.length_cons, ih.number, next]
        · rw [List.dropLast_cons_of_ne_nil others]
          exact List.forall_mem_cons.mpr ⟨rfl, ih.full⟩
        · rw [List.getLast?_cons_of_ne_nil others]
          exact ih.last

namespace Extraction

theorem batches_eq_ok_iff {size : Int} {entries : List α} {read : List (List α)}
    : batches size entries = .ok read
      ↔ (0 ≤ size ∧ size ≤ batchLimit) ∧ pieces size.toNat entries = read := by
  rw [batches]
  split
  · next usable => rw [Outcome.pure_eq_ok_iff, and_iff_right usable]
  · next unusable => simp [raiseFault, unusable]

/-- All entries are read in batches of a size, and none in batches of size zero. -/
theorem flatten_batches {size : Int} {entries : List α} {read : List (List α)}
    (h : batches size entries = .ok read)
    : read.flatten = if size = 0 then [] else entries := by
  obtain ⟨usable, rfl⟩ := batches_eq_ok_iff.mp h
  split
  · next zero => simp [zero, pieces]
  · next positive => exact flatten_pieces (by omega) entries

theorem ne_nil_of_mem_batches {size : Int} {entries : List α} {read : List (List α)}
    (h : batches size entries = .ok read) {batch : List α} (hm : batch ∈ read)
    : batch ≠ [] := by
  obtain ⟨-, rfl⟩ := batches_eq_ok_iff.mp h
  exact ne_nil_of_mem_pieces hm

/-- Entries that can all be read are read in batches of any usable size. -/
theorem flatten_mapM_of_batches {size : Int} (positive : size ≠ 0) {entries : List α}
    {read : List (List α)} (h : batches size entries = .ok read)
    {step : List α → Except Failure (List β)} {answerOf : α → β}
    (hs : ∀ batch ∈ read, step batch = .ok (batch.map answerOf))
    : List.flatten <$> read.mapM step = .ok (entries.map answerOf) := by
  rw [Outcome.mapM_eq_ok_map hs, Outcome.map_ok, ← List.map_flatten, flatten_batches h,
    if_neg positive]

end Extraction

end GridTable
