import GridTable.Text.Fields

/-! Fields of texts, and texts that are joined from fields. -/

namespace GridTable.Text

/-- The fields of a text are the parts of a list between separators, by list induction. -/
theorem fields_eq_splitOn (separator : Char) (text : List Char)
    : fields separator text = text.splitOn separator := by
  induction text with
  | nil => rfl
  | cons c rest ih =>
      have some : rest.splitOnP (· == separator) ≠ [] := List.splitOnP_ne_nil _ rest
      rw [fields, ih, List.splitOn_eq_splitOnP, List.splitOn_eq_splitOnP,
        List.splitOnP_cons_eq_if_modifyHead]
      by_cases same : c = separator
      · simp [same]
      · cases parts : rest.splitOnP (· == separator) with
        | nil => exact absurd parts some
        | cons first more => simp [same]

/-- Items without a separator are the fields of the text that joins them. -/
theorem fields_intercalate {separator : Char} {items : List (List Char)}
    (free : ∀ item ∈ items, separator ∉ item) (some : items ≠ [])
    : fields separator ([separator].intercalate items) = items := by
  rw [fields_eq_splitOn]
  exact List.splitOn_intercalate separator free some

theorem intercalate_fields (separator : Char) (text : List Char)
    : [separator].intercalate (fields separator text) = text := by
  rw [fields_eq_splitOn]
  exact List.intercalate_splitOn separator

/-- No field holds a separator, by list induction. -/
theorem separator_notMem_of_mem_fields {separator : Char} {text field : List Char}
    (hm : field ∈ fields separator text)
    : separator ∉ field := by
  induction text generalizing field with
  | nil =>
      rw [List.mem_singleton.mp hm]
      exact List.not_mem_nil
  | cons c rest ih =>
      rw [fields] at hm
      split at hm
      · rcases List.mem_cons.mp hm with rfl | hm
        · exact List.not_mem_nil
        · exact ih hm
      · next apart =>
          split at hm
          · rw [List.mem_singleton.mp hm, List.mem_singleton]
            exact fun same => apart same.symm
          · next first more parts =>
              rw [parts] at ih
              rcases List.mem_cons.mp hm with rfl | hm
              · rw [List.mem_cons, not_or]
                exact ⟨fun same => apart same.symm, ih List.mem_cons_self⟩
              · exact ih (List.mem_cons_of_mem _ hm)

theorem mem_or_of_mem_intercalate {separator c : Char} {items : List (List Char)}
    (hm : c ∈ [separator].intercalate items)
    : c = separator ∨ ∃ item ∈ items, c ∈ item := by
  induction items with
  | nil => simp at hm
  | cons item rest ih =>
      by_cases alone : rest = []
      · subst alone
        exact Or.inr ⟨item, List.mem_singleton_self _, by simpa [List.intercalate] using hm⟩
      · rw [List.intercalate_cons_of_ne_nil alone, List.mem_append, List.mem_append,
          List.mem_singleton] at hm
        rcases hm with (own | same) | later
        · exact Or.inr ⟨item, List.mem_cons_self, own⟩
        · exact Or.inl same
        · refine (ih later).imp_right fun ⟨other, hother, within⟩ => ?_
          exact ⟨other, List.mem_cons_of_mem _ hother, within⟩

theorem mem_intercalate {separator c : Char} {items : List (List Char)} {item : List Char}
    (hitem : item ∈ items) (hm : c ∈ item)
    : c ∈ [separator].intercalate items := by
  induction items with
  | nil => cases hitem
  | cons first rest ih =>
      by_cases alone : rest = []
      · subst alone
        rw [List.mem_singleton.mp hitem] at hm
        simpa [List.intercalate] using hm
      · rw [List.intercalate_cons_of_ne_nil alone, List.mem_append]
        rcases List.mem_cons.mp hitem with rfl | later
        · exact Or.inl (List.mem_append_left _ hm)
        · exact Or.inr (ih later)

end GridTable.Text
