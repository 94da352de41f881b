import GridTable.Decimal.Numeral
import GridTable.Proofs.Text.Trimming
import Mathlib.Data.List.Induction

/-! Numerals with blanks around them: the blanks that may surround a numeral do not count, and any
other blank at an end of a text keeps the text from being a numeral.
-/

namespace GridTable.Decimal

open Text

-----------------------------------------------------------------------------------------
-- Separators among the controls
-----------------------------------------------------------------------------------------

/-- The blanks that may not surround a numeral. -/
def controlSeparators : List Char :=
  ['\x1c', '\x1d', '\x1e', '\x1f']

variable {c : Char} {text : List Char}

theorem forall_mem_controlSeparators_iff {holds : Char → Prop}
    : (∀ c ∈ controlSeparators, holds c)
      ↔ holds '\x1c' ∧ holds '\x1d' ∧ holds '\x1e' ∧ holds '\x1f' := by
  simp [controlSeparators]

theorem mem_controlSeparators_iff : c ∈ controlSeparators ↔ isBlank c ∧ ¬isNumeralBlank c := by
  constructor
  · have all : ∀ c ∈ controlSeparators, isBlank c ∧ ¬isNumeralBlank c :=
      forall_mem_controlSeparators_iff.mpr (by decide)
    exact all c
  · rintro ⟨blank, misplaced⟩
    have bounds : 0x1c ≤ c.toNat ∧ c.toNat ≤ 0x1f := by
      simpa [isNumeralBlank, blank] using misplaced
    have named : c = Char.ofNat c.toNat := (Char.ofNat_toNat c).symm
    have codes : c.toNat = 0x1c ∨ c.toNat = 0x1d ∨ c.toNat = 0x1e ∨ c.toNat = 0x1f := by omega
    rw [named]
    rcases codes with code | code | code | code <;> rw [code] <;> decide

/-- A text that starts with another character has no sign. -/
theorem signed_of_ne (minus : c ≠ '-') (plus : c ≠ '+') (text : List Char)
    : signed (c :: text) = (false, c :: text) := by
  unfold signed
  split
  · next same => exact absurd (List.cons.inj same).1 minus
  · next same => exact absurd (List.cons.inj same).1 plus
  · rfl

theorem getLast?_of_cons {first : Char} (last : (first :: text).getLast? = some c)
    (apart : first ≠ c)
    : text.getLast? = some c := by
  cases text with
  | nil => exact absurd (Option.some.inj last) apart
  | cons second rest => simpa using last

section

variable (hm : c ∈ controlSeparators)

include hm

theorem digitValue?_of_mem : digitValue? c = none := by
  have all : ∀ c ∈ controlSeparators, digitValue? c = none :=
    forall_mem_controlSeparators_iff.mpr (by decide)
  exact all c hm

theorem ne_of_mem {other : Char} (apart : other ∉ controlSeparators) : other ≠ c := by
  rintro rfl
  exact apart hm

/-- A run of digits does not come to such a separator at the end of a text. -/
theorem getLast?_digitRun (last : text.getLast? = some c) (count value : Nat)
    : (digitRun count value text).2.2.getLast? = some c := by
  fun_induction digitRun count value text with
  | case1 => exact last
  | case2 count value first rest digit found ih =>
      refine ih (getLast?_of_cons last ?_)
      rintro rfl
      cases found.symm.trans (digitValue?_of_mem hm)
  | case3 count value first rest none skip ih =>
      have underscore : first = '_' := by simp_all
      exact ih (getLast?_of_cons last (underscore ▸ ne_of_mem hm (by decide)))
  | case4 => exact last

theorem getLast?_fractionRun (last : text.getLast? = some c) (count value : Nat)
    : (fractionRun count value text).2.2.getLast? = some c := by
  cases text with
  | nil => cases last
  | cons first rest =>
      rw [fractionRun]
      split
      · exact getLast?_digitRun hm last 0 0
      · exact last

theorem getLast?_signed (last : text.getLast? = some c)
    : (signed text).2.getLast? = some c := by
  fun_cases signed text with
  | case1 => exact getLast?_of_cons last (ne_of_mem hm (by decide))
  | case2 => exact getLast?_of_cons last (ne_of_mem hm (by decide))
  | case3 => exact last

theorem exponent?_eq_none (last : text.getLast? = some c) : exponent? text = none := by
  cases text with
  | nil => cases last
  | cons first rest =>
      rw [exponent?]
      split
      · next letter =>
          have apart : first ≠ c := by
            rcases (by simpa using letter : first = 'e' ∨ first = 'E') with rfl | rfl <;>
              exact ne_of_mem hm (by decide)
          have after := getLast?_signed hm (getLast?_of_cons last apart)
          have stopped := getLast?_digitRun hm after 0 0
          dsimp only
          generalize digitRun 0 0 (signed rest).2 = run at stopped ⊢
          rcases run with ⟨count, value, _ | ⟨next, more⟩⟩
          · cases stopped
          · rfl
      · rfl

theorem lowered_ne (holds : c ∈ text) {word : String}
    (free : ∀ other ∈ controlSeparators, other.toLower ∉ word.toList)
    : lowered text ≠ word.toList := by
  intro same
  have lowerHolds : c.toLower ∈ lowered text := List.mem_map_of_mem holds
  exact free c hm (same ▸ lowerHolds)

/-- A text with such a separator is none of the words. -/
theorem lowered_ne_words (holds : c ∈ text)
    : lowered text ≠ "inf".toList
      ∧ lowered text ≠ "infinity".toList
      ∧ lowered text ≠ "nan".toList := by
  refine ⟨lowered_ne hm holds ?_, lowered_ne hm holds ?_, lowered_ne hm holds ?_⟩ <;>
    exact forall_mem_controlSeparators_iff.mpr (by decide)

/-- A text that starts with such a separator denotes no magnitude. -/
theorem readMagnitude?_cons (text : List Char) : readMagnitude? (c :: text) = none := by
  obtain ⟨notInf, notInfinity, notNan⟩ := lowered_ne_words hm (List.mem_cons_self : c ∈ c :: text)
  have stopped : digitRun 0 0 (c :: text) = (0, 0, c :: text) := by
    have apart := ne_of_mem hm (show '_' ∉ controlSeparators by decide)
    simp [digitRun, digitValue?_of_mem hm, apart.symm]
  have apart := ne_of_mem hm (show '.' ∉ controlSeparators by decide)
  simp only [readMagnitude?, notInf, notInfinity, notNan, stopped, decide_false, Bool.or_self,
    Bool.false_eq_true, if_false]
  split
  · next same => exact absurd (List.cons.inj same).1.symm apart
  · rfl

/-- A text that ends with such a separator denotes no magnitude. -/
theorem readMagnitude?_of_getLast? (last : text.getLast? = some c)
    : readMagnitude? text = none := by
  obtain ⟨notInf, notInfinity, notNan⟩ := lowered_ne_words hm (List.mem_of_getLast? last)
  have behind := getLast?_digitRun hm last 0 0
  simp only [readMagnitude?, notInf, notInfinity, notNan, decide_false, Bool.or_self,
    Bool.false_eq_true, if_false]
  generalize digitRun 0 0 text = run at behind ⊢
  obtain ⟨whole, value, rest⟩ := run
  dsimp only at behind ⊢
  split
  · next rest =>
      have behindPoint := getLast?_of_cons behind (ne_of_mem hm (by decide))
      rw [exponent?_eq_none hm (getLast?_fractionRun hm behindPoint whole value)]
      simp
  · rw [exponent?_eq_none hm behind]
    simp

/-- A text that starts with such a separator is no numeral. -/
theorem readFloat?_cons_of_mem (text : List Char) : readFloat? (c :: text) = none := by
  obtain ⟨rest, same⟩ :=
    exists_trimBoth_cons (mem_controlSeparators_iff.mp hm).2 text
  have minus := ne_of_mem hm (show '-' ∉ controlSeparators by decide)
  have plus := ne_of_mem hm (show '+' ∉ controlSeparators by decide)
  rw [readFloat?, same, signed_of_ne minus.symm plus.symm]
  dsimp only
  rw [readMagnitude?_cons hm]
  rfl

/-- A text that ends with such a separator is no numeral. -/
theorem readFloat?_concat_of_mem (text : List Char) : readFloat? (text ++ [c]) = none := by
  obtain ⟨rest, same⟩ :=
    exists_trimBoth_concat (mem_controlSeparators_iff.mp hm).2 text
  have last := getLast?_signed hm (show (rest ++ [c]).getLast? = some c by simp)
  rw [readFloat?, same]
  dsimp only
  rw [readMagnitude?_of_getLast? hm last]
  rfl

end

-----------------------------------------------------------------------------------------
-- Blanks around numerals
-----------------------------------------------------------------------------------------

/-- Blanks before a numeral do not count, but for the separators among the controls. -/
theorem readFloat?_append_left {before : List Char} (blank : blankText before)
    (text : List Char)
    : readFloat? (before ++ text)
      = if before.all isNumeralBlank then readFloat? text else none := by
  induction before with
  | nil => rfl
  | cons first rest ih =>
      obtain ⟨own, later⟩ := Bool.and_eq_true_iff.mp (List.all_cons.symm.trans blank)
      by_cases fine : isNumeralBlank first
      · have drop : trimBoth isNumeralBlank ([first] ++ (rest ++ text))
            = trimBoth isNumeralBlank (rest ++ text) :=
          trimBoth_append_left (by simpa using fine) _
        rw [List.all_cons, fine, Bool.true_and, ← ih later, List.cons_append, readFloat?,
          readFloat?, ← drop]
        rfl
      · rw [List.cons_append,
          readFloat?_cons_of_mem (mem_controlSeparators_iff.mpr ⟨own, fine⟩), if_neg]
        simp [fine]

/-- Blanks after a numeral do not count, but for the separators among the controls. -/
theorem readFloat?_append_right {after : List Char} (blank : blankText after)
    (text : List Char)
    : readFloat? (text ++ after)
      = if after.all isNumeralBlank then readFloat? text else none := by
  induction after using List.reverseRecOn with
  | nil => simp
  | append_singleton rest last ih =>
      have parts : blankText rest ∧ isBlank last := by simpa [blankText] using blank
      obtain ⟨earlier, own⟩ := parts
      rw [← List.append_assoc]
      by_cases fine : isNumeralBlank last
      · have drop : trimBoth isNumeralBlank (text ++ rest ++ [last])
            = trimBoth isNumeralBlank (text ++ rest) :=
          trimBoth_append_right (by simpa using fine) _
        rw [readFloat?, drop, List.all_append, ← readFloat?, ih earlier]
        simp [fine]
      · rw [readFloat?_concat_of_mem (mem_controlSeparators_iff.mpr ⟨own, fine⟩), if_neg]
        simp [fine]

/-- The blanks at both ends of a text are such as may surround a numeral. -/
def HasPlainEnds (text : List Char) : Prop :=
  (text.takeWhile isBlank).all isNumeralBlank
  ∧ (text.reverse.takeWhile isBlank).all isNumeralBlank

instance (text : List Char) : Decidable (HasPlainEnds text) :=
  inferInstanceAs (Decidable (_ ∧ _))

/-- Blanks that may surround a numeral make no difference to it. -/
theorem HasPlainEnds.readFloat?_eq {part whole : List Char} (plain : HasPlainEnds whole)
    (padded : IsPadded part whole)
    : readFloat? whole = readFloat? part := by
  obtain ⟨before, after, blankBefore, blankAfter, rfl⟩ := padded
  obtain ⟨plainBefore, plainAfter⟩ := plain
  have behind : ∀ c ∈ after.reverse, isBlank c := fun c hm =>
    List.all_eq_true.mp blankAfter c (List.mem_reverse.mp hm)
  rw [List.append_assoc, List.takeWhile_append_of_pos (List.all_eq_true.mp blankBefore),
    List.all_append, Bool.and_eq_true] at plainBefore
  rw [List.reverse_append, List.takeWhile_append_of_pos behind, List.all_append,
    Bool.and_eq_true, List.all_reverse] at plainAfter
  rw [readFloat?_append_right blankAfter, if_pos plainAfter.1,
    readFloat?_append_left blankBefore, if_pos plainBefore.1]

theorem hasPlainEnds_of_readFloat? {number : Float} (read : readFloat? text = some number)
    : HasPlainEnds text := by
  have front : text.takeWhile isBlank ++ text.dropWhile isBlank = text :=
    List.takeWhile_append_dropWhile
  have back : (text.reverse.dropWhile isBlank).reverse ++ (text.reverse.takeWhile isBlank).reverse
      = text := by
    rw [← List.reverse_append, List.takeWhile_append_dropWhile, List.reverse_reverse]
  constructor
  · rw [← front, readFloat?_append_left List.all_takeWhile] at read
    by_contra misplaced
    rw [if_neg misplaced] at read
    cases read
  · have blank : blankText (text.reverse.takeWhile isBlank).reverse := by
      rw [blankText, List.all_reverse]
      exact List.all_takeWhile
    rw [← back, readFloat?_append_right blank, List.all_reverse] at read
    by_contra misplaced
    rw [if_neg misplaced] at read
    cases read

end GridTable.Decimal
