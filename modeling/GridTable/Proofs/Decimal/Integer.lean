import GridTable.Proofs.Decimal.Numeral
import Mathlib.Data.Nat.Digits.Defs

/-! Integers in texts, and in doubles. What is read as an integer is just what is spelled as one:
digits of any script with single underscores between them, a sign before and blanks around them.
-/

namespace GridTable.Decimal

open Text

variable {c : Char} {text : List Char} {digits : List Nat}

-----------------------------------------------------------------------------------------
-- Spelling
-----------------------------------------------------------------------------------------

/-- Further digits, each of them with an underscore before it or without one. -/
inductive SpellsMore : List Char → List Nat → Prop
  | nil : SpellsMore [] []
  | digit {c : Char} {digit : Nat} {text : List Char} {digits : List Nat}
    (found : digitValue? c = some digit) (more : SpellsMore text digits)
    : SpellsMore (c :: text) (digit :: digits)
  | apart {c : Char} {digit : Nat} {text : List Char} {digits : List Nat}
    (found : digitValue? c = some digit) (more : SpellsMore text digits)
    : SpellsMore ('_' :: c :: text) (digit :: digits)

/-- Digits, at least one of them. -/
inductive Spells : List Char → List Nat → Prop
  | intro {c : Char} {digit : Nat} {text : List Char} {digits : List Nat}
    (found : digitValue? c = some digit) (more : SpellsMore text digits)
    : Spells (c :: text) (digit :: digits)

/-- The number that digits make up, where the last digit counts once. -/
def number (digits : List Nat) : Nat :=
  Nat.ofDigits 10 digits.reverse

/-- A sign, and whether it makes a number negative. -/
inductive IsSign : List Char → Bool → Prop
  | none : IsSign [] false
  | plus : IsSign ['+'] false
  | minus : IsSign ['-'] true

/-- A text denotes an integer: a sign and digits, not too many of them, with blanks around. -/
inductive Denotes : List Char → Int → Prop
  | intro {before sign spelled after : List Char} {negative : Bool} {digits : List Nat}
    (blankBefore : before.all isNumeralBlank) (isSign : IsSign sign negative)
    (spells : Spells spelled digits) (few : digits.length ≤ digitLimit)
    (blankAfter : after.all isNumeralBlank)
    : Denotes (before ++ (sign ++ spelled) ++ after)
        (if negative then -(number digits : Int) else number digits)

-----------------------------------------------------------------------------------------
-- Characters of numerals
-----------------------------------------------------------------------------------------

/-- No digit of any script is a blank. -/
theorem not_isNumeralBlank_of_digitValue? {digit : Nat} (found : digitValue? c = some digit)
    : ¬isNumeralBlank c := by
  have apart : ∀ first ∈ zeroDigits, ∀ range ∈ blankRanges,
      range.2 < first ∨ first + 10 ≤ range.1 := by
    decide +kernel
  intro blank
  obtain ⟨first, hfirst, -⟩ := Option.map_eq_some_iff.mp found
  have inDigits : first ≤ c.toNat ∧ c.toNat < first + 10 := by
    simpa using List.find?_some hfirst
  have inBlanks : ∃ range ∈ blankRanges, range.1 ≤ c.toNat ∧ c.toNat ≤ range.2 := by
    simpa [isBlank] using (Bool.and_eq_true_iff.mp blank).1
  obtain ⟨range, hrange, low, high⟩ := inBlanks
  have := apart first (List.mem_of_find?_eq_some hfirst) range hrange
  omega

theorem SpellsMore.not_isNumeralBlank (more : SpellsMore text digits)
    : ∀ c ∈ text, ¬isNumeralBlank c := by
  induction more with
  | nil => simp
  | digit found _ ih =>
      exact List.forall_mem_cons.mpr ⟨not_isNumeralBlank_of_digitValue? found, ih⟩
  | apart found _ ih =>
      refine List.forall_mem_cons.mpr ⟨by decide, ?_⟩
      exact List.forall_mem_cons.mpr ⟨not_isNumeralBlank_of_digitValue? found, ih⟩

theorem Spells.not_isNumeralBlank (spells : Spells text digits)
    : ∀ c ∈ text, ¬isNumeralBlank c := by
  obtain ⟨found, more⟩ := spells
  exact (SpellsMore.digit found more).not_isNumeralBlank

theorem Spells.length_ne_zero (spells : Spells text digits) : digits.length ≠ 0 := by
  obtain ⟨found, more⟩ := spells
  exact Nat.succ_ne_zero _

theorem IsSign.not_isNumeralBlank {sign : List Char} {negative : Bool}
    (isSign : IsSign sign negative)
    : ∀ c ∈ sign, ¬isNumeralBlank c := by
  cases isSign with
  | none => simp
  | plus => exact List.forall_mem_singleton.mpr (by decide)
  | minus => exact List.forall_mem_singleton.mpr (by decide)

-----------------------------------------------------------------------------------------
-- Runs of digits
-----------------------------------------------------------------------------------------

/-- The number of digits after others that make up `value`. -/
def numberFrom (value : Nat) (digits : List Nat) : Nat :=
  digits.foldl (fun value digit => 10 * value + digit) value

theorem numberFrom_zero (digits : List Nat) : numberFrom 0 digits = number digits := by
  rw [number, Nat.ofDigits_eq_foldr, List.foldr_reverse, numberFrom]
  simp [Nat.add_comm]

theorem digitRun_of_digit {digit : Nat} (found : digitValue? c = some digit) (count value : Nat)
    (text : List Char)
    : digitRun count value (c :: text) = digitRun (count + 1) (10 * value + digit) text := by
  simp only [digitRun, found]

/-- An underscore between digits makes no difference. -/
theorem digitRun_of_underscore {count digit : Nat} (begun : count ≠ 0)
    (found : digitValue? c = some digit) (value : Nat) (text : List Char)
    : digitRun count value ('_' :: c :: text) = digitRun count value (c :: text) := by
  have underscore : digitValue? '_' = none := by decide
  have skipped : (decide ('_' = '_') && count != 0
      && ((c :: text).head?.bind digitValue?).isSome) = true := by
    simp [begun, found]
  rw [digitRun, underscore]
  exact if_pos skipped

/-- A run goes through all further digits, by induction on their spelling. -/
theorem digitRun_of_spellsMore (more : SpellsMore text digits) {count : Nat} (begun : count ≠ 0)
    (value : Nat)
    : digitRun count value text = (count + digits.length, numberFrom value digits, []) := by
  induction more generalizing count value with
  | nil => rfl
  | digit found _ ih =>
      rw [digitRun_of_digit found, ih (Nat.succ_ne_zero count), Nat.succ_add_eq_add_succ]
      rfl
  | apart found _ ih =>
      rw [digitRun_of_underscore begun found, digitRun_of_digit found, ih (Nat.succ_ne_zero count),
        Nat.succ_add_eq_add_succ]
      rfl

/-- A run that leaves nothing went through further digits, by induction on the run. -/
theorem exists_spellsMore_of_digitRun {count value total result : Nat} (begun : count ≠ 0)
    (whole : digitRun count value text = (total, result, []))
    : ∃ digits,
        SpellsMore text digits
        ∧ total = count + digits.length
        ∧ result = numberFrom value digits := by
  fun_induction digitRun count value text with
  | case1 count value =>
      cases whole
      exact ⟨[], .nil, rfl, rfl⟩
  | case2 count value c rest digit found ih =>
      obtain ⟨digits, more, rfl, rfl⟩ := ih (Nat.succ_ne_zero count) whole
      exact ⟨digit :: digits, .digit found more, Nat.succ_add_eq_add_succ .., rfl⟩
  | case3 count value c rest none skip ih =>
      simp only [Bool.and_eq_true, decide_eq_true_eq] at skip
      obtain ⟨⟨rfl, -⟩, followed⟩ := skip
      obtain ⟨digits, more, rfl, rfl⟩ := ih begun whole
      -- What follows an underscore starts with a digit and not with another underscore.
      cases more with
      | nil => cases followed
      | digit found more => exact ⟨_, .apart found more, rfl, rfl⟩
      | apart => exact absurd followed (by simp [none])
  | case4 => cases whole

/-- A run from the start of a text goes through the digits that are spelled there. -/
theorem digitRun_of_spells (spells : Spells text digits)
    : digitRun 0 0 text = (digits.length, number digits, []) := by
  obtain ⟨found, more⟩ := spells
  rw [digitRun_of_digit found, digitRun_of_spellsMore more (Nat.succ_ne_zero 0), ← numberFrom_zero,
    Nat.succ_add_eq_add_succ, Nat.zero_add]
  rfl

/-- A run from the start of a text that leaves nothing went through digits, unless it is empty. -/
theorem exists_spells_of_digitRun {count value : Nat} (some : count ≠ 0)
    (whole : digitRun 0 0 text = (count, value, []))
    : ∃ digits, Spells text digits ∧ count = digits.length ∧ value = number digits := by
  cases text with
  | nil =>
      cases whole
      exact absurd rfl some
  | cons c rest =>
      cases found : digitValue? c with
      | none => simp [digitRun, found] at whole
      | some digit =>
          rw [digitRun_of_digit found] at whole
          obtain ⟨digits, more, rfl, rfl⟩ :=
            exists_spellsMore_of_digitRun (Nat.succ_ne_zero 0) whole
          refine ⟨digit :: digits, .intro found more, Nat.add_comm 1 _, ?_⟩
          rw [← numberFrom_zero]
          rfl

-----------------------------------------------------------------------------------------
-- Integers
-----------------------------------------------------------------------------------------

/-- A sign before digits is taken off. -/
theorem signed_of_isSign {sign : List Char} {negative : Bool} (isSign : IsSign sign negative)
    (spells : Spells text digits)
    : signed (sign ++ text) = (negative, text) := by
  cases isSign with
  | none =>
      obtain ⟨found, more⟩ := spells
      refine signed_of_ne ?_ ?_ _ <;>
        · rintro rfl
          cases found
  | plus => rfl
  | minus => rfl

theorem exists_isSign_of_signed (text : List Char)
    : ∃ sign, IsSign sign (signed text).1 ∧ text = sign ++ (signed text).2 := by
  fun_cases signed text with
  | case1 rest => exact ⟨['-'], .minus, rfl⟩
  | case2 rest => exact ⟨['+'], .plus, rfl⟩
  | case3 => exact ⟨[], .none, rfl⟩

theorem trimBoth_padded {before sign spelled after : List Char} {negative : Bool}
    (blankBefore : before.all isNumeralBlank) (isSign : IsSign sign negative)
    (spells : Spells spelled digits) (blankAfter : after.all isNumeralBlank)
    : trimBoth isNumeralBlank (before ++ (sign ++ spelled) ++ after) = sign ++ spelled := by
  rw [trimBoth_append_right (List.all_eq_true.mp blankAfter),
    trimBoth_append_left (List.all_eq_true.mp blankBefore)]
  refine trimBoth_eq_self fun c hm => ?_
  rcases List.mem_append.mp hm with own | own
  · exact isSign.not_isNumeralBlank c own
  · exact spells.not_isNumeralBlank c own

/-- What is read as an integer is what denotes it. -/
theorem readInt?_eq_some_iff {n : Int} : readInt? text = some n ↔ Denotes text n := by
  constructor
  · intro read
    obtain ⟨before, after, blankBefore, blankAfter, padded⟩ :=
      exists_append_trimBoth isNumeralBlank text
    obtain ⟨sign, isSign, whole⟩ := exists_isSign_of_signed (trimBoth isNumeralBlank text)
    rw [padded, whole]
    rw [readInt?] at read
    generalize signed (trimBoth isNumeralBlank text) = parts at isSign read ⊢
    obtain ⟨negative, rest⟩ := parts
    generalize run : digitRun 0 0 rest = result at read
    obtain ⟨count, value, _ | ⟨c, left⟩⟩ := result
    · simp only [run] at read
      split at read
      · cases read
      · next fine =>
          have counted : count ≠ 0 ∧ count ≤ digitLimit := by simpa using fine
          obtain ⟨digits, spells, rfl, rfl⟩ := exists_spells_of_digitRun counted.1 run
          cases read
          exact .intro blankBefore isSign spells counted.2 blankAfter
    · simp [run] at read
  · rintro ⟨blankBefore, isSign, spells, few, blankAfter⟩
    rw [readInt?, trimBoth_padded blankBefore isSign spells blankAfter,
      signed_of_isSign isSign spells]
    simp [digitRun_of_spells spells, spells.length_ne_zero, few]

-----------------------------------------------------------------------------------------
-- Integer parts
-----------------------------------------------------------------------------------------

/-- A finite double has the integer that is left of it when its fraction is cut off. -/
inductive IsIntegerPart : Float → Int → Prop
  | intro {x : Float} {negative : Bool} {m : Nat} {q : Int}
    (finite : parts x = .finite negative m q)
    : IsIntegerPart x
        ((signedFraction negative m q).1.tdiv (signedFraction negative m q).2)

theorem truncated_eq_tdiv (negative : Bool) (m : Nat) (q : Int)
    : truncated negative m q
      = (signedFraction negative m q).1.tdiv (signedFraction negative m q).2 := by
  rw [truncated, signedFraction]
  obtain ⟨num, den⟩ := fraction m q
  cases negative with
  | false => rfl
  | true => exact (Int.neg_tdiv (num : Int) den).symm

end GridTable.Decimal
