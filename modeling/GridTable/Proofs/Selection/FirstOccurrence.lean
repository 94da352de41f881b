import GridTable.Selection

/-! Lists read by first occurrences: repeated entries count only where they come first.
Such an order survives dropping entries and is the order that is left without repeats.
-/

namespace GridTable

variable {α β : Type} [BEq α] [LawfulBEq α]

/-- Of two entries of a list the one that occurs first comes before the other one. -/
def FirstOrdered (before : α → α → Prop) (entries : List α) : Prop :=
  ∀ left ∈ entries, ∀ right ∈ entries,
    entries.idxOf left < entries.idxOf right → before left right

namespace FirstOrdered

variable {before : α → α → Prop}

/-- Two lists in order make one if what is new in the second comes after the first. -/
theorem append {first second : List α} (hf : FirstOrdered before first)
    (hs : FirstOrdered before second)
    (across : ∀ left ∈ first, ∀ right ∈ second, right ∉ first → before left right)
    : FirstOrdered before (first ++ second) := by
  intro left hl right hr hlt
  simp only [List.idxOf_append] at hlt
  by_cases hm : right ∈ first
  · have hr := List.idxOf_lt_length_of_mem hm
    by_cases hn : left ∈ first
    · exact hf left hn right hm (by simpa [hm, hn] using hlt)
    · simp only [hm, hn, if_true, if_false] at hlt
      omega
  · have hr := (List.mem_append.mp hr).resolve_left hm
    by_cases hn : left ∈ first
    · exact across left hn right hr hm
    · have hl := (List.mem_append.mp hl).resolve_left hn
      exact hs left hl right hr (by simpa [hm, hn] using hlt)

theorem flatMap {keys : List β} {block : β → List α}
    (inside : ∀ key ∈ keys, FirstOrdered before (block key))
    (across
      : keys.Pairwise fun first second =>
          ∀ left ∈ block first, ∀ right ∈ block second, before left right)
    : FirstOrdered before (keys.flatMap block) := by
  induction keys with
  | nil => intro left hl; simp at hl
  | cons key rest ih =>
      obtain ⟨hkey, hrest⟩ := List.forall_mem_cons.mp inside
      obtain ⟨hfirst, hlater⟩ := List.pairwise_cons.mp across
      refine hkey.append (ih hrest hlater) fun left hl right hr _ => ?_
      obtain ⟨other, ho, hr⟩ := List.mem_flatMap.mp hr
      exact hfirst other ho left hl right hr

/-- A list keeps its order under a map that tells its entries apart. -/
theorem map [BEq β] [LawfulBEq β] {entries : List β} {f : β → α}
    (apart : ∀ left ∈ entries, ∀ right ∈ entries, f left = f right → left = right)
    (h : FirstOrdered (fun left right => before (f left) (f right)) entries)
    : FirstOrdered before (entries.map f) := by
  have same {entry : β} (hm : entry ∈ entries) (part : List β) (hp : part.Subset entries)
      : (part.map f).idxOf (f entry) = part.idxOf entry := by
    induction part with
    | nil => rfl
    | cons head rest ih =>
        have ih := ih fun _ hm => hp (List.mem_cons_of_mem _ hm)
        have hb : (f head == f entry) = (head == entry) := by
          rw [Bool.eq_iff_iff, beq_iff_eq, beq_iff_eq]
          exact ⟨apart head (hp (by simp)) entry hm, congrArg f⟩
        rw [List.map_cons, List.idxOf_cons, List.idxOf_cons, hb, ih]
  intro left hl right hr hlt
  obtain ⟨first, hf, rfl⟩ := List.mem_map.mp hl
  obtain ⟨second, hs, rfl⟩ := List.mem_map.mp hr
  rw [same hf entries (List.Subset.refl _), same hs entries (List.Subset.refl _)] at hlt
  exact h first hf second hs hlt

/-- Dropping entries moves no first occurrence past another, by list induction. -/
theorem idxOf_filter_lt {test : α → Bool} {left right : α} (hl : test left) (hr : test right)
    (entries : List α)
    (hlt : (entries.filter test).idxOf left < (entries.filter test).idxOf right)
    : entries.idxOf left < entries.idxOf right := by
  induction entries with
  | nil => simp at hlt
  | cons entry rest ih =>
      by_cases ht : test entry
      · rw [List.filter_cons_of_pos ht, List.idxOf_cons, List.idxOf_cons] at hlt
        rw [List.idxOf_cons, List.idxOf_cons]
        by_cases he : entry == right
        · simp [he] at hlt
        · by_cases hs : entry == left
          · simp [he, hs]
          · simp only [he, hs, cond_false, Nat.add_lt_add_iff_right] at hlt ⊢
            exact ih hlt
      · have hne {other : α} (ho : test other) : (entry == other) = false := by
          refine beq_false_of_ne fun he => ht ?_
          exact he ▸ ho
        rw [List.filter_cons_of_neg ht] at hlt
        simpa only [List.idxOf_cons, hne hl, hne hr, cond_false, Nat.add_lt_add_iff_right]
          using ih hlt

theorem filter {entries : List α} (h : FirstOrdered before entries) (test : α → Bool)
    : FirstOrdered before (entries.filter test) := by
  intro left hl right hr hlt
  obtain ⟨hl, hlt'⟩ := List.mem_filter.mp hl
  obtain ⟨hr, hrt⟩ := List.mem_filter.mp hr
  exact h left hl right hr (idxOf_filter_lt hlt' hrt entries hlt)

end FirstOrdered

namespace Selection

theorem mem_distinctFrom {seen : Std.HashSet CellIndex} {cells : List CellIndex}
    {cell : CellIndex}
    : cell ∈ distinctFrom seen cells ↔ cell ∈ cells ∧ cell ∉ seen := by
  fun_induction distinctFrom seen cells with
  | case1 seen => simp
  | case2 seen first rest known ih =>
      simp only [ih, List.mem_cons]
      constructor
      · rintro ⟨hm, hn⟩
        exact ⟨Or.inr hm, hn⟩
      · rintro ⟨rfl | hm, hn⟩
        · exact absurd (Std.HashSet.mem_iff_contains.mpr known) hn
        · exact ⟨hm, hn⟩
  | case3 seen first rest fresh ih =>
      have fresh : first ∉ seen := fun hm => fresh (Std.HashSet.mem_iff_contains.mp hm)
      simp only [List.mem_cons, ih, Std.HashSet.mem_insert, beq_iff_eq, not_or]
      constructor
      · rintro (rfl | ⟨hm, -, hn⟩)
        · exact ⟨Or.inl rfl, fresh⟩
        · exact ⟨Or.inr hm, hn⟩
      · rintro ⟨rfl | hm, hn⟩
        · exact Or.inl rfl
        · by_cases he : cell = first
          · exact Or.inl he
          · exact Or.inr ⟨hm, Ne.symm he, hn⟩

/-- Cells without repeats come by their first occurrences. -/
theorem pairwise_idxOf_distinctFrom (seen : Std.HashSet CellIndex) (cells : List CellIndex)
    : (distinctFrom seen cells).Pairwise fun left right =>
        cells.idxOf left < cells.idxOf right := by
  fun_induction distinctFrom seen cells with
  | case1 seen => exact .nil
  | case2 seen first rest known ih =>
      refine ih.imp_of_mem fun {left right} hl hr hlt => ?_
      have hne {cell : CellIndex} (hm : cell ∈ distinctFrom seen rest)
          : (first == cell) = false := by
        refine beq_false_of_ne fun he => (mem_distinctFrom.mp hm).2 ?_
        exact he ▸ Std.HashSet.mem_iff_contains.mpr known
      simpa [List.idxOf_cons, hne hl, hne hr] using hlt
  | case3 seen first rest fresh ih =>
      have hne {cell : CellIndex} (hm : cell ∈ distinctFrom (seen.insert first) rest)
          : (first == cell) = false :=
        beq_false_of_ne fun he => (mem_distinctFrom.mp hm).2 (by simp [he])
      refine List.pairwise_cons.mpr ⟨fun cell hm => ?_, ?_⟩
      · simp [List.idxOf_cons, hne hm]
      · refine ih.imp_of_mem fun hl hr hlt => ?_
        simpa [List.idxOf_cons, hne hl, hne hr] using hlt

theorem nodup_distinctFrom (seen : Std.HashSet CellIndex) (cells : List CellIndex)
    : (distinctFrom seen cells).Nodup :=
  (pairwise_idxOf_distinctFrom seen cells).imp fun hlt he => by
    rw [he] at hlt
    exact Nat.lt_irrefl _ hlt

/-- Leaving out repeats turns an order by first occurrences into a strict one. -/
theorem pairwise_distinctFrom {before : CellIndex → CellIndex → Prop} {cells : List CellIndex}
    (h : FirstOrdered before cells) (seen : Std.HashSet CellIndex)
    : (distinctFrom seen cells).Pairwise before :=
  (pairwise_idxOf_distinctFrom seen cells).imp_of_mem fun hl hr hlt =>
    h _ (mem_distinctFrom.mp hl).1 _ (mem_distinctFrom.mp hr).1 hlt

theorem distinctFrom_sublist (seen : Std.HashSet CellIndex) (cells : List CellIndex)
    : (distinctFrom seen cells).Sublist cells := by
  fun_induction distinctFrom seen cells with
  | case1 seen => exact .slnil
  | case2 seen first rest _ ih => exact ih.cons first
  | case3 seen first rest _ ih => exact ih.cons_cons first

@[simp] theorem mem_keepCommon {cells known : List CellIndex} {cell : CellIndex}
    : cell ∈ keepCommon cells known ↔ cell ∈ cells ∧ cell ∈ known := by
  simp [keepCommon]

end Selection

end GridTable
