import GridTable.Proofs.Text.Fields
import GridTable.Text.Blank
import Mathlib.Data.List.Forall2
import Mathlib.Data.List.TakeWhile

/-! Texts with blanks around them. Trimming drops just the blanks, and the fields of a text are
those of the trimmed text but for blanks around them.
-/

namespace GridTable.Text

/-- A text is another one with blanks around it. -/
def IsPadded (part whole : List Char) : Prop :=
  ∃ before after, blankText before ∧ blankText after ∧ whole = before ++ part ++ after

variable {part whole text : List Char} {separator : Char}

theorem trimBoth_append_left {p : Char → Bool} {before : List Char} (drop : ∀ c ∈ before, p c)
    (text : List Char)
    : trimBoth p (before ++ text) = trimBoth p text := by
  rw [trimBoth, List.dropWhile_append_of_pos drop]
  rfl

theorem trimBoth_append_right {p : Char → Bool} {after : List Char} (drop : ∀ c ∈ after, p c)
    (text : List Char)
    : trimBoth p (text ++ after) = trimBoth p text := by
  have behind : ∀ c ∈ after.reverse, p c := fun c hm => drop c (List.mem_reverse.mp hm)
  rw [trimBoth, trimBoth, List.dropWhile_append]
  split
  · next empty => rw [List.isEmpty_iff.mp empty, List.dropWhile_eq_nil_iff.mpr drop]
  · rw [List.reverse_append, List.dropWhile_append_of_pos behind]

/-- What is not dropped stays at the start. -/
theorem exists_trimBoth_cons {p : Char → Bool} {c : Char} (keep : ¬p c) (text : List Char)
    : ∃ rest, trimBoth p (c :: text) = c :: rest := by
  rw [trimBoth, List.dropWhile_cons_of_neg keep, List.reverse_cons, List.dropWhile_append]
  split
  · exact ⟨[], by rw [List.dropWhile_cons_of_neg keep]; rfl⟩
  · exact ⟨_, List.reverse_append⟩

/-- What is not dropped stays at the end. -/
theorem exists_trimBoth_concat {p : Char → Bool} {c : Char} (keep : ¬p c) (text : List Char)
    : ∃ rest, trimBoth p (text ++ [c]) = rest ++ [c] := by
  rw [trimBoth, List.dropWhile_append]
  split
  · exact ⟨[], by rw [List.dropWhile_cons_of_neg keep, List.reverse_singleton,
      List.dropWhile_cons_of_neg keep]; rfl⟩
  · refine ⟨text.dropWhile p, ?_⟩
    rw [List.reverse_append, List.reverse_singleton, List.singleton_append,
      List.dropWhile_cons_of_neg keep, List.reverse_cons, List.reverse_reverse]

/-- A text without anything to drop stays as it is. -/
theorem trimBoth_eq_self {p : Char → Bool} (keep : ∀ c ∈ text, ¬p c) : trimBoth p text = text := by
  have front : text.dropWhile p = text :=
    List.dropWhile_eq_self_iff.mpr fun _ => keep _ (List.getElem_mem _)
  have back : text.reverse.dropWhile p = text.reverse :=
    List.dropWhile_eq_self_iff.mpr fun _ => keep _ (List.mem_reverse.mp (List.getElem_mem _))
  rw [trimBoth, front, back, List.reverse_reverse]

/-- What is dropped from a text stands at its start and at its end. -/
theorem exists_append_trimBoth (p : Char → Bool) (text : List Char)
    : ∃ before after, before.all p ∧ after.all p ∧ text = before ++ trimBoth p text ++ after := by
  let rest := text.dropWhile p
  refine ⟨text.takeWhile p, (rest.reverse.takeWhile p).reverse, List.all_takeWhile, ?_, ?_⟩
  · rw [List.all_reverse]
    exact List.all_takeWhile
  · have parts : rest.reverse.takeWhile p ++ rest.reverse.dropWhile p = rest.reverse :=
      List.takeWhile_append_dropWhile
    rw [trimBoth, List.append_assoc, ← List.reverse_append, parts, List.reverse_reverse,
      List.takeWhile_append_dropWhile]

theorem isPadded_trim (text : List Char) : IsPadded (trim text) text :=
  exists_append_trimBoth isBlank text

namespace IsPadded

theorem trim_eq (h : IsPadded part whole) : trim whole = trim part := by
  obtain ⟨before, after, blankBefore, blankAfter, rfl⟩ := h
  rw [trim, trimBoth_append_right (List.all_eq_true.mp blankAfter),
    trimBoth_append_left (List.all_eq_true.mp blankBefore)]
  rfl

theorem blankText_eq (h : IsPadded part whole) : blankText whole = blankText part := by
  obtain ⟨before, after, blankBefore, blankAfter, rfl⟩ := h
  rw [blankText] at blankBefore blankAfter
  simp [blankText, blankBefore, blankAfter]

theorem cons (h : IsPadded part whole) {c : Char} (blank : isBlank c)
    : IsPadded part (c :: whole) := by
  obtain ⟨before, after, blankBefore, blankAfter, rfl⟩ := h
  refine ⟨c :: before, after, ?_, blankAfter, rfl⟩
  rw [blankText, List.all_cons, blank]
  exact blankBefore

end IsPadded

theorem trim_eq_nil_iff : trim text = [] ↔ blankText text := by
  constructor
  · intro empty
    rw [(isPadded_trim text).blankText_eq, empty]
    rfl
  · intro blank
    rw [trim, trimBoth, List.dropWhile_eq_nil_iff.mpr (List.all_eq_true.mp blank)]
    rfl

/-- A character that is no separator belongs to the first field. -/
theorem exists_fields_cons {c : Char} (apart : c ≠ separator) (text : List Char)
    : ∃ first more,
        fields separator text = first :: more
        ∧ fields separator (c :: text) = (c :: first) :: more := by
  have some : fields separator text ≠ [] := by
    rw [fields_eq_splitOn]
    exact List.splitOn_ne_nil _ _
  obtain ⟨first, more, parts⟩ := List.exists_cons_of_ne_nil some
  refine ⟨first, more, parts, ?_⟩
  rw [fields, if_neg apart, parts]

/-- Blanks at the end of a text belong to its last field, by list induction. -/
theorem forall₂_fields_append {after : List Char} (free : separator ∉ after) (text : List Char)
    : List.Forall₂ (fun part whole => whole = part ∨ whole = part ++ after)
        (fields separator text) (fields separator (text ++ after)) := by
  induction text with
  | nil =>
      rw [List.nil_append, fields_eq_splitOn, fields_eq_splitOn, List.splitOn_nil,
        List.splitOn_eq_singleton free]
      exact .cons (Or.inr rfl) .nil
  | cons c rest ih =>
      by_cases same : c = separator
      · rw [List.cons_append, fields, fields, if_pos same, if_pos same]
        exact .cons (Or.inl rfl) ih
      · obtain ⟨first, more, parts, longer⟩ := exists_fields_cons same rest
        obtain ⟨other, others, otherParts, otherLonger⟩ := exists_fields_cons same (rest ++ after)
        rw [parts, otherParts] at ih
        rw [List.cons_append, longer, otherLonger]
        obtain ⟨own, later⟩ := List.forall₂_cons.mp ih
        exact .cons (own.imp (congrArg (c :: ·)) (congrArg (c :: ·))) later

/-- The fields of a text with blanks around it have such blanks as well, by induction on the blanks
before it.
-/
theorem IsPadded.forall₂_fields (h : IsPadded part whole) (shown : ¬isBlank separator)
    : List.Forall₂ IsPadded (fields separator part) (fields separator whole) := by
  obtain ⟨before, after, blankBefore, blankAfter, rfl⟩ := h
  induction before with
  | nil =>
      have free : separator ∉ after := fun hm => shown (List.all_eq_true.mp blankAfter _ hm)
      rw [List.nil_append]
      refine (forall₂_fields_append free part).imp fun own other longer => ?_
      rcases longer with rfl | rfl
      · exact ⟨[], [], rfl, rfl, (List.append_nil _).symm⟩
      · exact ⟨[], after, rfl, blankAfter, rfl⟩
  | cons c rest ih =>
      obtain ⟨blank, blankRest⟩ := Bool.and_eq_true_iff.mp (List.all_cons.symm.trans blankBefore)
      have apart : c ≠ separator := fun same => shown (same ▸ blank)
      obtain ⟨other, others, parts, longer⟩ := exists_fields_cons apart (rest ++ part ++ after)
      have known := ih blankRest
      rw [parts, List.forall₂_cons_right_iff] at known
      obtain ⟨first, more, own, later, split⟩ := known
      rw [List.cons_append, List.cons_append, longer, split]
      exact .cons (own.cons blank) later

/-- Fields are trimmed alike, whether the text is trimmed before or not. -/
theorem map_trim_fields_trim (shown : ¬isBlank separator) (text : List Char)
    : (fields separator (trim text)).map trim = (fields separator text).map trim := by
  rw [← List.forall₂_eq_eq_eq, List.forall₂_map_left_iff, List.forall₂_map_right_iff]
  exact ((isPadded_trim text).forall₂_fields shown).imp fun part whole padded => padded.trim_eq.symm

end GridTable.Text
