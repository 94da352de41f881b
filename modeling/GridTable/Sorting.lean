/-! Sorting by halving.
The items of the first run stay together, and each later item is put where halving finds its
place. Items of one rank keep their order; the result is defined also for a comparison that
leaves some items without a rank.
-/

namespace GridTable.Sorting

variable {α : Type}

/-- Follows a run that falls at every step, and turns it around. `last` is its last item so far
and `before` are the earlier ones, the nearest first.
-/
def fallingRun (isBefore : α → α → Bool) (last : α) (before : List α)
    : List α → List α × List α
  | [] => (last :: before, [])
  | item :: rest =>
      if isBefore item last then fallingRun isBefore item (last :: before) rest
      else (last :: before, item :: rest)

/-- Follows a run that never falls after its item `last`. -/
def risingRun (isBefore : α → α → Bool) (last : α) : List α → List α × List α
  | [] => ([], [])
  | item :: rest =>
      if isBefore item last then ([], item :: rest)
      else
        let (run, rest) := risingRun isBefore item rest
        (item :: run, rest)

/-- The first run in ascending order, and the items after it. -/
def firstRun (isBefore : α → α → Bool) : List α → List α × List α
  | first :: second :: rest =>
      if isBefore second first then fallingRun isBefore second [first] rest
      else
        let (run, rest) := risingRun isBefore second rest
        (first :: second :: run, rest)
  | few => (few, [])

/-- Puts an item into ascending items: before the middle one or after it, and so on within that
half.
-/
def insert (isBefore : α → α → Bool) (item : α) (items : List α) : List α :=
  match _ : items.drop (items.length / 2) with
  | [] => [item]
  | middle :: upper =>
      let lower := items.take (items.length / 2)
      if isBefore item middle then insert isBefore item lower ++ middle :: upper
      else lower ++ middle :: insert isBefore item upper
termination_by items.length
decreasing_by
  all_goals
    have counted := congrArg List.length ‹_ = _›
    simp only [List.length_drop, List.length_cons, List.length_take] at counted ⊢
    omega

/-- The items in ascending order. -/
def sort (isBefore : α → α → Bool) (items : List α) : List α :=
  let (run, rest) := firstRun isBefore items
  rest.foldl (fun sorted item => insert isBefore item sorted) run

/-- Insertion keeps every item and adds the given one. -/
theorem insert_perm (isBefore : α → α → Bool) (item : α) (items : List α)
    : (insert isBefore item items).Perm (item :: items) := by
  fun_induction insert isBefore item items with
  | case1 items h =>
      have empty : items = [] := by
        have counted := congrArg List.length h
        simp only [List.length_drop, List.length_nil] at counted
        exact List.length_eq_zero_iff.1 (by omega)
      simp [empty]
  | case2 items middle upper h lower _ ih =>
      have whole : items = lower ++ middle :: upper := by
        rw [← h]; exact (List.take_append_drop _ items).symm
      rw [whole]
      exact ih.append_right _
  | case3 items middle upper h lower _ ih =>
      have whole : items = lower ++ middle :: upper := by
        rw [← h]; exact (List.take_append_drop _ items).symm
      rw [whole]
      exact ((ih.cons middle).trans (.swap item middle upper)).append_left lower |>.trans
        List.perm_middle

/-- Turning a falling run around loses nothing, by induction on what may continue it. -/
theorem fallingRun_perm (isBefore : α → α → Bool) (last : α) (before items : List α)
    : ((fallingRun isBefore last before items).1
        ++ (fallingRun isBefore last before items).2).Perm (last :: before ++ items) := by
  induction items generalizing last before with
  | nil => simp [fallingRun]
  | cons item rest ih =>
      rw [fallingRun]
      split
      · have moved : (last :: before ++ item :: rest).Perm (item :: (last :: before ++ rest)) :=
          List.perm_middle
        exact (ih item (last :: before)).trans moved.symm
      · exact .refl _

/-- A rising run is left as it is, by induction on what may continue it. -/
theorem risingRun_append (isBefore : α → α → Bool) (last : α) (items : List α)
    : (risingRun isBefore last items).1 ++ (risingRun isBefore last items).2 = items := by
  induction items generalizing last with
  | nil => rfl
  | cons item rest ih =>
      rw [risingRun]
      split
      · rfl
      · exact congrArg (item :: ·) (ih item)

theorem firstRun_perm (isBefore : α → α → Bool) (items : List α)
    : ((firstRun isBefore items).1 ++ (firstRun isBefore items).2).Perm items := by
  rcases items with _ | ⟨first, _ | ⟨second, rest⟩⟩
  · exact .refl _
  · exact .refl _
  · rw [firstRun]
    split
    · exact (fallingRun_perm isBefore second [first] rest).trans (.swap first second rest)
    · have rising := risingRun_append isBefore second rest
      exact .of_eq (congrArg (first :: second :: ·) rising)

/-- Sorting keeps every item. -/
theorem sort_perm (isBefore : α → α → Bool) (items : List α)
    : (sort isBefore items).Perm items := by
  have inserted (run rest : List α)
      : (rest.foldl (fun sorted item => insert isBefore item sorted) run).Perm (run ++ rest) := by
    induction rest generalizing run with
    | nil => simp
    | cons item rest ih =>
        refine (ih (insert isBefore item run)).trans ?_
        exact ((insert_perm isBefore item run).append_right rest).trans List.perm_middle.symm
  exact (inserted _ _).trans (firstRun_perm isBefore items)

end GridTable.Sorting
