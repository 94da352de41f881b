import GridTable.Proofs.Decimal.Integer
import GridTable.Proofs.Job.RowLimit

/-! The limits of a job, as a document gives them. Integers and texts that denote one are taken as
they are, and what is neither is refused, but for doubles, which are cut off to integers, and for
values that a complaint cannot show.
-/

namespace GridTable

open Outcome

-----------------------------------------------------------------------------------------
-- Integers that values stand for
-----------------------------------------------------------------------------------------

namespace Json

/-- The integer that a value is, or that it denotes as a text. -/
inductive Means : Json → Int → Prop
  | int (n : Int) : Means (.int n) n
  | text {text : String} {n : Int} (denoted : Decimal.Denotes text.toList n) : Means (.str text) n

/-- The integer that a value gives: the one that it means, or the integer part of a double. -/
inductive Yields : Json → Int → Prop
  | meant {value : Json} {n : Int} (means : Means value n) : Yields value n
  | cut {x : Float} {n : Int} (part : Decimal.IsIntegerPart x n) : Yields (.float x) n

/-- A value that is not complained about in the place of a positive integer: it is infinite, or a
double with a positive integer part, or it cannot be shown, or gives an integer that cannot.
-/
inductive IsUnrefused (levels : Nat) : Json → Prop
  | infinite {value : Json} (infinite : value.IsInfinite) : IsUnrefused levels value
  | positive {x : Float} {n : Int} (part : Decimal.IsIntegerPart x n) (positive : 0 < n)
    : IsUnrefused levels (.float x)
  | hidden {value : Json} (compound : ¬value.IsScalar) (hidden : ¬value.IsShowable levels)
    : IsUnrefused levels value
  | long {value : Json} {n : Int} (yields : value.Yields n) (low : n ≤ 0)
      (long : ¬Decimal.isShort n)
    : IsUnrefused levels value

variable {value : Json} {n : Int}

theorem truncate_eq_ok_iff {x : Float} : truncate x = .ok n ↔ Decimal.IsIntegerPart x n := by
  constructor
  · intro cut
    rw [truncate] at cut
    cases known : Decimal.parts x with
    | finite negative m q =>
        rw [known] at cut
        obtain rfl := pure_eq_ok_iff.mp cut
        rw [Decimal.truncated_eq_tdiv]
        exact .intro known
    | _ => simp [known, raiseFault] at cut
  · rintro ⟨finite⟩
    rw [truncate, finite, ← Decimal.truncated_eq_tdiv]
    rfl

/-- Truth values apart, what is taken for an integer is what gives it, by kind of value. -/
theorem toInt_eq_ok_iff (apart : ∀ truth, value ≠ .bool truth)
    : value.toInt = .ok n ↔ value.Yields n := by
  cases value with
  | bool truth => exact absurd rfl (apart truth)
  | int own =>
      rw [toInt, pure_eq_ok_iff]
      constructor
      · rintro rfl
        exact .meant (.int own)
      · rintro ⟨⟨⟩⟩
        rfl
  | float x =>
      rw [toInt, truncate_eq_ok_iff]
      constructor
      · exact .cut
      · rintro (⟨⟨⟩⟩ | part)
        exact part
  | str text =>
      have read : (str text).toInt = .ok n ↔ Decimal.readInt? text.toList = some n := by
        rw [toInt]
        cases Decimal.readInt? text.toList <;> simp [raiseFault, pure, Except.pure]
      rw [read, Decimal.readInt?_eq_some_iff]
      constructor
      · exact fun denoted => .meant (.text denoted)
      · rintro ⟨means⟩
        cases means with
        | text denoted => exact denoted
  | _ =>
      refine iff_of_false (by simp [toInt, raiseFault]) ?_
      rintro ⟨⟨⟩⟩

theorem not_yields_bool (truth : Bool) : ¬(bool truth).Yields n := by
  rintro ⟨⟨⟩⟩

theorem Yields.toInt_eq (yields : value.Yields n) : value.toInt = .ok n := by
  refine (toInt_eq_ok_iff ?_).mpr yields
  rintro truth rfl
  exact not_yields_bool truth yields

/-- A value gives one integer at most. -/
theorem Yields.unique {other : Int} (yields : value.Yields n) (again : value.Yields other)
    : n = other :=
  Except.ok.inj (yields.toInt_eq.symm.trans again.toInt_eq)

theorem Yields.not_isInfinite (yields : value.Yields n) : ¬value.IsInfinite := by
  intro infinite
  cases yields.toInt_eq.symm.trans (Job.toInt_eq_overflow_iff.mpr infinite)

theorem Yields.isScalar (yields : value.Yields n) : value.IsScalar := by
  cases yields with
  | meant means => cases means <;> trivial
  | cut => trivial

/-- What has no parts and gives no integer can be shown. -/
theorem isShowable_of_not_yields {levels : Nat} (scalar : value.IsScalar)
    (void : ∀ n, ¬value.Yields n)
    : value.IsShowable levels := by
  cases value with
  | null => exact .null
  | bool truth => exact .bool truth
  | int n => exact absurd (.meant (.int n)) (void n)
  | float x => exact .float x
  | str text => exact .str text
  | arr | obj => exact scalar.elim

/-- What means an integer goes unrefused only if that is not positive. -/
theorem IsUnrefused.le_zero {levels : Nat} (unrefused : value.IsUnrefused levels)
    (means : value.Means n)
    : n ≤ 0 := by
  cases unrefused with
  | infinite infinite => exact absurd infinite (Yields.meant means).not_isInfinite
  | positive => cases means
  | hidden compound => exact absurd (Yields.meant means).isScalar compound
  | long yields low =>
      obtain rfl := yields.unique (.meant means)
      exact low

end Json

namespace Job

variable {room : Room} {environment : Environment} {item : String} {value : Json} {n : Int}

-----------------------------------------------------------------------------------------
-- Refusals
-----------------------------------------------------------------------------------------

/-- How the reading of a limit fails: its value gives no integer, or one that is not positive, or
is infinite. A complaint shows the value or the integer, and there is a fault where it cannot.
-/
inductive LimitRefused (room : Room) (item : String) (value : Json) : Failure → Prop
  | notAnInteger {shown : String} (void : ∀ n, ¬value.Yields n) (finite : ¬value.IsInfinite)
      (showable : value.shown room.setting = .ok shown)
    : LimitRefused room item value (.error (.configuration item (.notAnInteger shown)))
  | hidden {cause : Fault} (void : ∀ n, ¬value.Yields n) (hidden : ¬value.IsShowable room.setting)
    : LimitRefused room item value (.fault cause)
  | notPositive {n : Int} (yields : value.Yields n) (low : n ≤ 0) (short : Decimal.isShort n)
    : LimitRefused room item value (.error (.configuration item (.notPositive (toString n))))
  | long {n : Int} (yields : value.Yields n) (low : n ≤ 0) (long : ¬Decimal.isShort n)
    : LimitRefused room item value (.fault .badValue)
  | infinite (infinite : value.IsInfinite) : LimitRefused room item value (.fault .overflow)

/-- A value that is complained about is refused. -/
theorem LimitRefused.not_isUnrefused {reason : Error}
    (refused : LimitRefused room item value (.error reason))
    : ¬value.IsUnrefused room.setting := by
  intro unrefused
  cases refused with
  | notAnInteger void finite showable =>
      cases unrefused with
      | infinite infinite => exact finite infinite
      | positive part => exact void _ (.cut part)
      | hidden _ hidden =>
          exact hidden ((Json.faultsUnless_shown _ value).exists_ok_iff.mp ⟨_, showable⟩)
      | long yields => exact void _ yields
  | notPositive yields low short =>
      cases unrefused with
      | infinite infinite => exact yields.not_isInfinite infinite
      | positive part positive =>
          obtain rfl := yields.unique (.cut part)
          exact absurd positive (Int.not_lt.mpr low)
      | hidden compound => exact compound yields.isScalar
      | long again _ long =>
          obtain rfl := yields.unique again
          exact long short

theorem ends_refuseInteger_yields (item : String) (void : ∀ n, ¬value.Yields n)
    (finite : ¬value.IsInfinite)
    : Ends value.Yields (LimitRefused room item value) (refuseInteger room item value) := by
  rw [refuseInteger]
  cases shown : value.shown room.setting with
  | ok text => exact .error (.notAnInteger void finite shown)
  | error failure =>
      have hidden : ¬value.IsShowable room.setting := fun showable => by
        obtain ⟨text, other⟩ := (Json.faultsUnless_shown _ value).exists_ok_iff.mpr showable
        cases shown.symm.trans other
      rcases (Json.rejects_shown _ value).of_error shown with ⟨item, issue, rfl⟩ | ⟨cause, rfl⟩
      · rcases (Json.ends_shown _ value).of_error shown with other | other <;> cases other
      · exact .error (.hidden void hidden)

theorem ends_readInteger_yields (item : String) (value : Json)
    : Ends value.Yields (LimitRefused room item value) (readInteger room item value) := by
  unfold readInteger
  split
  -- Truth values would count as one and zero, and are refused before.
  · next truth =>
      refine ends_refuseInteger_yields item (fun n => Json.not_yields_bool truth) ?_
      simp [Json.IsInfinite]
  · next apart =>
      split
      · next failed => exact .error (.infinite (toInt_eq_overflow_iff.mp failed))
      · next failure other failed =>
          refine ends_refuseInteger_yields item (fun n yields => ?_) fun infinite => ?_
          · cases yields.toInt_eq.symm.trans failed
          · cases failed.symm.trans (toInt_eq_overflow_iff.mpr infinite)
            exact other rfl
      · next n known => exact .ok ((Json.toInt_eq_ok_iff apart).mp known)

theorem ends_checkPositive_of_yields (yields : value.Yields n)
    : Ends (fun own => own.1 = n) (LimitRefused room item value) (checkPositive item n) := by
  rw [checkPositive]
  split
  · exact .pure rfl
  · next refused =>
      have low : n ≤ 0 := Int.not_lt.mp refused
      rw [Decimal.integerText]
      split
      · next short => exact .error (.notPositive yields low short)
      · next long => exact .error (.long yields low long)

-----------------------------------------------------------------------------------------
-- Documents with one limit
-----------------------------------------------------------------------------------------

/-- The limits of a job. -/
inductive Limit where
  | rows
  | batch

namespace Limit

def key : Limit → String
  | rows => "max_rows"
  | batch => "batch_size"

def other : Limit → Limit
  | rows => batch
  | batch => rows

/-- The row limit, which need not be there, and the batch size: one of them is `n`, and nothing is
said of the other.
-/
def settings (n : Int) : Limit → Option Int × Int
  | rows => (some n, defaultBatchSize)
  | batch => (none, n)

end Limit

variable {limit : Limit} {members : List (String × Json)}

/-- The members have all texts that a job needs. -/
def HasTexts (members : List (String × Json)) : Prop :=
  ∀ key ∈ requiredKeys, ∃ text, text ≠ "" ∧ Keyed.find? key members = some (.str text)

/-- A document with the texts that a job needs and the value of one limit, but without the other
limit and without filters. A row limit of null is none.
-/
structure IsLimitedBy (limit : Limit) (value : Json) (members : List (String × Json)) : Prop where
  texts : HasTexts members
  unfiltered : (setting members "filters").isVoid
  given : Keyed.find? limit.key members = some value
  alone : Keyed.find? limit.other.key members = none
  present : limit = .rows → value ≠ .null

/-- The job of such a document, with an integer for the limit. -/
structure Carries (limit : Limit) (n : Int) (members : List (String × Json)) (job : Job)
    : Prop where
  input : setting members "nc_key" = .str job.input
  field : setting members "variable_name" = .str job.field
  output : setting members "parquet_key" = .str job.output
  filters : job.filters = []
  compression : job.compression = (Keyed.find? "compression" members).getD defaultCompression
  limits : (job.maxRows, job.batchSize) = limit.settings n

/-- Only integers are taken for a limit: the one that the value means, if it is positive, and
otherwise there is a complaint about the limit.
-/
structure TakesIntegersOnly (limit : Limit) (value : Json) (members : List (String × Json))
    (outcome : Except Failure Job)
    : Prop where
  carried : ∀ n, value.Means n → 0 < n → ∃ job, outcome = .ok job ∧ Carries limit n members job
  refused
    : (∀ n, value.Means n → n ≤ 0)
      → ∃ issue, outcome = .error (.error (.configuration limit.key issue))

/-- The job whose limit is an integer, as far as it can be built. -/
def buildLimited (limit : Limit) (members : List (String × Json)) (n : Int)
    : Except Failure Job :=
  build (setting members "nc_key") (setting members "variable_name")
    (setting members "parquet_key") [] (limit.settings n).1 (limit.settings n).2
    ((Keyed.find? "compression" members).getD defaultCompression)

/-- All that is read from such a document is the limit. -/
theorem IsLimitedBy.ofMembers_eq (limited : IsLimitedBy limit value members)
    (unset : Keyed.find? Environment.rowsVariable environment = none)
    : ofMembers room environment members
      = readInteger room limit.key value >>= buildLimited limit members := by
  have listed : readEntries (setting members "filters") = .ok [] := if_pos limited.unfiltered
  obtain ⟨-, -, given, alone, present⟩ := limited
  rw [setting] at listed
  cases limit with
  | rows =>
      have read := readMaxRows_of_ne (present rfl) room environment
      simp only [Limit.key, Limit.other] at given alone ⊢
      simp only [ofMembers, listed, given, alone, Option.getD_some, Option.getD_none, read,
        ok_bind]
      cases readInteger room "max_rows" value <;> rfl
  | batch =>
      have read : readMaxRows room environment .null = .ok none := by
        rw [readMaxRows, Environment.maxRows_of_unset unset]
      simp only [Limit.key, Limit.other] at given alone ⊢
      simp only [ofMembers, listed, given, alone, Option.getD_some, Option.getD_none, read,
        ok_bind]
      rfl

theorem HasTexts.ends_checkText (texts : HasTexts members) {key : String}
    (required : key ∈ requiredKeys) {fails : Failure → Prop}
    : Ends (fun text => setting members key = .str text.1) fails
        (checkText key (setting members key)) := by
  obtain ⟨text, ne, found⟩ := texts key required
  have known : setting members key = .str text := by
    rw [setting, found]
    rfl
  rw [known, checkText, dif_neg ne]
  exact .pure rfl

theorem ends_checkMaxRows_of_yields (yields : value.Yields n) (limit : Limit)
    : Ends (fun rows => rows.1 = (limit.settings n).1) (LimitRefused room limit.key value)
        (checkMaxRows (limit.settings n).1) := by
  cases limit with
  | rows =>
      refine (ends_checkPositive_of_yields yields).bind fun own same => .pure ?_
      exact congrArg some same
  | batch => exact .pure rfl

theorem ends_checkBatchSize_of_yields (yields : value.Yields n) (limit : Limit)
    : Ends (fun size => size.1 = (limit.settings n).2) (LimitRefused room limit.key value)
        (checkPositive "batch_size" (limit.settings n).2) := by
  cases limit with
  | rows => exact .pure rfl
  | batch => exact ends_checkPositive_of_yields yields

/-- The job is built just if the integer is positive, since nothing else can be wrong with it. -/
theorem HasTexts.ends_buildLimited (texts : HasTexts members) (yields : value.Yields n)
    : Ends (fun job => 0 < n ∧ Carries limit n members job) (LimitRefused room limit.key value)
        (buildLimited limit members n) := by
  refine (texts.ends_checkText (by decide)).bind fun input hinput => ?_
  refine (texts.ends_checkText (by decide)).bind fun field hfield => ?_
  refine (texts.ends_checkText (by decide)).bind fun output houtput => ?_
  refine (ends_checkMaxRows_of_yields yields limit).bind fun rows hrows => ?_
  refine (ends_checkBatchSize_of_yields yields limit).bind fun size hsize => .pure ⟨?_, ?_⟩
  · cases limit with
    | rows => exact rows.2 n (hrows ▸ rfl)
    | batch => exact lt_of_lt_of_eq size.2 hsize
  · exact ⟨hinput, hfield, houtput, rfl, rfl, Prod.ext hrows hsize⟩

theorem IsLimitedBy.ends_ofJson (limited : IsLimitedBy limit value members) (room : Room)
    (unset : Keyed.find? Environment.rowsVariable environment = none)
    : Ends (fun job => ∃ n, value.Yields n ∧ 0 < n ∧ Carries limit n members job)
        (LimitRefused room limit.key value) (ofJson room environment (.obj members)) := by
  have keyed : checkKeys (.obj members) = .ok () := by
    refine checkKeys_eq_ok fun key required => ?_
    obtain ⟨text, -, found⟩ := limited.texts key required
    exact ⟨_, found⟩
  rw [ofJson, keyed, ok_bind, limited.ofMembers_eq unset]
  refine (ends_readInteger_yields _ value).bind fun n yields => ?_
  exact (limited.texts.ends_buildLimited yields).imp (fun job known => ⟨n, yields, known⟩)
    fun _ => id

/-- A document with a limit and nothing else that it could do without. -/
def limitedDocument (limit : Limit) (value : Json) : List (String × Json) :=
  [
    ("nc_key", .str "in.nc"), ("variable_name", .str "v"), ("parquet_key", .str "out.parquet"),
    (limit.key, value)
  ]

theorem isLimitedBy_limitedDocument (present : limit = .rows → value ≠ .null)
    : IsLimitedBy limit value (limitedDocument limit value) where
  texts := by
    refine List.forall_mem_cons.mpr ⟨⟨"in.nc", by decide, rfl⟩, ?_⟩
    refine List.forall_mem_cons.mpr ⟨⟨"v", by decide, rfl⟩, ?_⟩
    exact List.forall_mem_singleton.mpr ⟨"out.parquet", by decide, rfl⟩
  unfiltered := by cases limit <;> rfl
  given := by cases limit <;> rfl
  alone := by cases limit <;> rfl
  present := present

-----------------------------------------------------------------------------------------
-- Integers as limits
-----------------------------------------------------------------------------------------

section

variable {outcome : Except Failure Job}
variable
  (ends
    : Ends (fun job => ∃ n, value.Yields n ∧ 0 < n ∧ Carries limit n members job)
        (LimitRefused room limit.key value) outcome)

include ends

/-- A positive integer is carried by a job, wherever it comes from. -/
theorem exists_job_of_yields (yields : value.Yields n) (positive : 0 < n)
    : ∃ job, outcome = .ok job ∧ Carries limit n members job := by
  have refuted {other : Int} (again : value.Yields other) : ¬other ≤ 0 := by
    obtain rfl := yields.unique again
    exact Int.not_le.mpr positive
  cases ends with
  | ok known =>
      obtain ⟨own, again, -, carries⟩ := known
      obtain rfl := yields.unique again
      exact ⟨_, rfl, carries⟩
  | error failed =>
      cases failed with
      | notAnInteger void => exact absurd yields (void n)
      | hidden void => exact absurd yields (void n)
      | notPositive again low => exact absurd low (refuted again)
      | long again low => exact absurd low (refuted again)
      | infinite infinite => exact absurd infinite yields.not_isInfinite

/-- Only integers are taken just where no value goes unrefused. -/
theorem takesIntegersOnly_iff
    : TakesIntegersOnly limit value members outcome ↔ ¬value.IsUnrefused room.setting := by
  constructor
  · intro only unrefused
    obtain ⟨issue, complained⟩ := only.refused fun n means => unrefused.le_zero means
    exact (ends.of_error complained).not_isUnrefused unrefused
  · intro refused
    refine ⟨fun n means => exists_job_of_yields ends (.meant means), fun void => ?_⟩
    cases ends with
    | ok known =>
        obtain ⟨n, yields, positive, -⟩ := known
        cases yields with
        | meant means => exact absurd positive (Int.not_lt.mpr (void n means))
        | cut part => exact absurd (.positive part positive) refused
    | error failed =>
        cases failed with
        | notAnInteger => exact ⟨_, rfl⟩
        | notPositive => exact ⟨_, rfl⟩
        | hidden void hidden =>
            by_cases scalar : value.IsScalar
            · exact absurd (Json.isShowable_of_not_yields scalar void) hidden
            · exact absurd (.hidden scalar hidden) refused
        | long yields low long => exact absurd (.long yields low long) refused
        | infinite infinite => exact absurd (.infinite infinite) refused

end

/-- Only integers are taken for a limit, unless its value goes unrefused: a double that is infinite
or has a positive integer part, and what a complaint cannot show. Whatever the value, a job carries
the positive integer that it gives, and otherwise it is said which limit gives no integer or none
that is positive; what is infinite or cannot be shown faults.
-/
theorem limits_are_integers_unless_unrefused (limited : IsLimitedBy limit value members)
    (unset : Keyed.find? Environment.rowsVariable environment = none) (room : Room)
    : (TakesIntegersOnly limit value members (ofJson room environment (.obj members))
          ↔ ¬value.IsUnrefused room.setting)
      ∧ Ends (fun job => ∃ n, value.Yields n ∧ 0 < n ∧ Carries limit n members job)
          (LimitRefused room limit.key value) (ofJson room environment (.obj members)) := by
  have ends := limited.ends_ofJson room unset
  exact ⟨takesIntegersOnly_iff ends, ends⟩

/-- Blanks, a sign, an underscore and digits of two scripts make a limit of twelve rows. -/
theorem limits_are_integers_unless_unrefused_sample
    : IsLimitedBy .rows (.str "\u3000+1_\u0662 ")
        (limitedDocument .rows (.str "\u3000+1_\u0662 "))
      ∧ Keyed.find? Environment.rowsVariable ([] : Environment) = none
      ∧ ∃ job,
          ofJson ⟨9, 9, 9⟩ [] (.obj (limitedDocument .rows (.str "\u3000+1_\u0662 "))) = .ok job
          ∧ Carries .rows 12 (limitedDocument .rows (.str "\u3000+1_\u0662 ")) job := by
  have limited : IsLimitedBy .rows (.str "\u3000+1_\u0662 ")
      (limitedDocument .rows (.str "\u3000+1_\u0662 ")) :=
    isLimitedBy_limitedDocument fun _ => Json.noConfusion
  have unset : Keyed.find? Environment.rowsVariable ([] : Environment) = none := rfl
  have means : Json.Means (.str "\u3000+1_\u0662 ") 12 :=
    .text (Decimal.readInt?_eq_some_iff.mp (by decide))
  have refused : ¬Json.IsUnrefused 9 (.str "\u3000+1_\u0662 ") := fun unrefused =>
    absurd (unrefused.le_zero means) (by decide)
  have only := (limits_are_integers_unless_unrefused limited unset ⟨9, 9, 9⟩).1.mpr refused
  exact ⟨limited, unset, only.carried 12 means (by decide)⟩

/-- A row limit of 10.7 is taken for ten rows; an infinite batch size faults, and so does a row
limit below zero with too many digits.
-/
theorem unrefused_limits
    : (IsLimitedBy .rows (.float 10.7) (limitedDocument .rows (.float 10.7))
        ∧ (∃ job,
            ofJson ⟨9, 9, 9⟩ [] (.obj (limitedDocument .rows (.float 10.7))) = .ok job
            ∧ Carries .rows 10 (limitedDocument .rows (.float 10.7)) job)
        ∧ ¬TakesIntegersOnly .rows (.float 10.7) (limitedDocument .rows (.float 10.7))
            (ofJson ⟨9, 9, 9⟩ [] (.obj (limitedDocument .rows (.float 10.7)))))
      ∧ IsLimitedBy .batch (.float (1.0 / 0.0)) (limitedDocument .batch (.float (1.0 / 0.0)))
      ∧ Faults (ofJson ⟨9, 9, 9⟩ [] (.obj (limitedDocument .batch (.float (1.0 / 0.0)))))
      ∧ ¬TakesIntegersOnly .batch (.float (1.0 / 0.0))
          (limitedDocument .batch (.float (1.0 / 0.0)))
          (ofJson ⟨9, 9, 9⟩ [] (.obj (limitedDocument .batch (.float (1.0 / 0.0)))))
      ∧ Faults (ofJson ⟨9, 9, 9⟩ [] (.obj (limitedDocument .rows (.int (-(10 ^ 4300)))))) := by
  have rows : IsLimitedBy .rows (.float 10.7) (limitedDocument .rows (.float 10.7)) :=
    isLimitedBy_limitedDocument fun _ => Json.noConfusion
  have batch : IsLimitedBy .batch (.float (1.0 / 0.0))
      (limitedDocument .batch (.float (1.0 / 0.0))) :=
    isLimitedBy_limitedDocument fun _ => Json.noConfusion
  have finite : Decimal.parts 10.7 = .finite false 6023564501608038 (-49) := by decide +kernel
  have part : Decimal.IsIntegerPart 10.7 10 := .intro finite
  have infinite : Json.IsInfinite (.float (1.0 / 0.0)) :=
    ⟨1.0 / 0.0, false, rfl, by decide +kernel⟩
  have unset : Keyed.find? Environment.rowsVariable ([] : Environment) = none := rfl
  have rowsEnd := rows.ends_ofJson ⟨9, 9, 9⟩ unset
  have batchEnd := batch.ends_ofJson ⟨9, 9, 9⟩ unset
  refine ⟨⟨rows, exists_job_of_yields rowsEnd (.cut part) (by decide), fun only => ?_⟩, batch,
    by decide +kernel, fun only => ?_, by decide +kernel⟩
  · exact (takesIntegersOnly_iff rowsEnd).mp only (.positive part (by decide))
  · exact (takesIntegersOnly_iff batchEnd).mp only (.infinite infinite)

end Job

end GridTable
