/-! Cutting a list into pieces of one length, in order; the last piece may be shorter. -/

namespace GridTable

variable {α : Type}

/-- Cuts a list into pieces of `size` entries and a shorter last one. -/
def pieces (size : Nat) (entries : List α) : List (List α) :=
  if size = 0 ∨ entries = [] then []
  else entries.take size :: pieces size (entries.drop size)
termination_by entries.length
decreasing_by
  rename_i h
  have : entries ≠ [] := fun e => h (Or.inr e)
  have := List.length_pos_iff.mpr this
  simp only [List.length_drop]
  omega

/-- The pieces put together are the list. -/
theorem flatten_pieces {size : Nat} (h : size ≠ 0) (entries : List α)
    : (pieces size entries).flatten = entries := by
  fun_induction pieces size entries with
  | case1 entries stop => simpa [h, eq_comm] using stop
  | case2 entries _ ih => simp [ih]

end GridTable
