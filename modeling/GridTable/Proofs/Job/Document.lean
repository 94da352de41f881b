import GridTable.Job.Document
import GridTable.Proofs.Filter.Compact
import GridTable.Proofs.Filter.Entry
import Mathlib.Algebra.Group.Int.Defs

/-! Jobs out of documents: which texts break the reading off with a fault, while whatever else is
wrong with a text, or with the environment, is reported as such.
-/

namespace GridTable

open Outcome

/-- A number beyond all doubles, which has no integer part. -/
def Json.IsInfinite (value : Json) : Prop :=
  ∃ x negative, value = .float x ∧ Decimal.parts x = .infinite negative

theorem Environment.settles_maxRows (environment : Environment) : Settles environment.maxRows := by
  rw [maxRows]
  refine .ite (fun _ => .pure trivial) fun _ => ?_
  split
  · exact .pure trivial
  · exact ends_misconfigured _ _

namespace Job

variable {room : Room} {environment : Environment} {item : String}

-----------------------------------------------------------------------------------------
-- Settings
-----------------------------------------------------------------------------------------

theorem faults_refuseInteger_iff {value : Json}
    : Faults (refuseInteger room item value) ↔ ¬value.IsShowable room.setting := by
  rw [refuseInteger, faults_bind_iff, (Json.faultsUnless_shown _ value).faults_iff]
  simp [misconfigured]

theorem ends_refuseInteger (room : Room) (item : String) (value : Json)
    : Ends (fun _ => True) IsRejection (refuseInteger room item value) :=
  (Json.rejects_shown _ value).bind fun _ _ => (ends_misconfigured _ _).rejects

theorem ends_readInteger (room : Room) (item : String) (value : Json)
    : Ends (fun _ => True) IsRejection (readInteger room item value) := by
  unfold readInteger
  split
  · exact ends_refuseInteger room item _
  · split
    · exact ends_raiseFault _
    · exact ends_refuseInteger room item value
    · exact .pure trivial

theorem toInt_eq_overflow_iff {value : Json}
    : value.toInt = .error (.fault .overflow) ↔ value.IsInfinite := by
  cases value with
  | float x =>
      rw [Json.toInt, Json.truncate]
      cases parts : Decimal.parts x <;>
        simp [Json.IsInfinite, parts, raiseFault, pure, Except.pure]
  | str text =>
      rw [Json.toInt]
      cases Decimal.readInt? text.toList <;>
        simp [Json.IsInfinite, raiseFault, pure, Except.pure]
  | _ => simp [Json.toInt, Json.IsInfinite, raiseFault, pure, Except.pure]

/-- What breaks the reading of an integer off: an infinite number, and a list or an object that
cannot be shown.
-/
def BreaksOff (room : Room) (value : Json) : Prop :=
  value.IsInfinite ∨ ¬value.IsScalar ∧ ¬value.IsShowable room.setting

theorem faults_readInteger_iff {value : Json}
    : Faults (readInteger room item value) ↔ BreaksOff room value := by
  have infinite := @toInt_eq_overflow_iff value
  rw [BreaksOff, ← infinite]
  cases value with
  | bool value =>
      change Faults (refuseInteger room item (.bool value)) ↔ _
      simp [faults_refuseInteger_iff, Json.IsShowable.bool, Json.IsScalar, Json.toInt]
  | arr | obj =>
      change Faults (refuseInteger room item _) ↔ _
      simp [faults_refuseInteger_iff, Json.IsScalar, Json.toInt, raiseFault]
  | null =>
      change Faults (refuseInteger room item .null) ↔ _
      simp [faults_refuseInteger_iff, Json.IsShowable.null, Json.IsScalar, Json.toInt, raiseFault]
  | int n => simp [readInteger, Json.toInt, Json.IsScalar, pure, Except.pure]
  | float x =>
      simp only [readInteger, Json.IsScalar, not_true_eq_false, false_and, or_false]
      split
      · next failed => simp [failed]
      · next failure other failed =>
          have finite : failure ≠ .fault .overflow := other
          simp [failed, finite, faults_refuseInteger_iff, Json.IsShowable.float]
      · next n known => simp [known]
  | str text =>
      simp only [readInteger, Json.IsScalar, not_true_eq_false, false_and, or_false]
      split
      · next failed => simp [failed]
      · next failure other failed =>
          have finite : failure ≠ .fault .overflow := other
          simp [failed, finite, faults_refuseInteger_iff, Json.IsShowable.str]
      · next n known => simp [known]

theorem settles_readEntries (listed : Json) : Settles (readEntries listed) := by
  unfold readEntries
  refine .ite (fun _ => .pure trivial) fun _ => ?_
  split
  · exact .pure trivial
  · exact ends_misconfigured _ _

theorem ends_readMaxRows (room : Room) (environment : Environment) (value : Json)
    : Ends (fun _ => True) IsRejection (readMaxRows room environment value) := by
  unfold readMaxRows
  split
  · exact environment.settles_maxRows.rejects
  · exact (ends_readInteger _ _ _).bind fun limit _ => .pure trivial

theorem faults_readMaxRows_iff {value : Json}
    : Faults (readMaxRows room environment value) ↔ BreaksOff room value := by
  unfold readMaxRows
  split
  · refine iff_of_false environment.settles_maxRows.not_faults ?_
    simp [BreaksOff, Json.IsInfinite, Json.IsScalar]
  · simp [faults_readInteger_iff]

/-- A text that is not empty. -/
def IsName (value : Json) : Prop :=
  ∃ text, value = .str text ∧ text ≠ ""

/-- A text is taken or complained about. -/
theorem ends_checkText (item : String) (value : Json)
    : Ends (fun text : { text : String // text ≠ "" } => value = .str text)
        (fun failure => IsComplaint failure ∧ ¬IsName value) (checkText item value) := by
  unfold checkText
  split
  · next text =>
      split
      · next empty =>
          refine .error ⟨⟨_, _, rfl⟩, fun ⟨other, same, filled⟩ => ?_⟩
          cases same
          exact filled empty
      · exact .ok rfl
  · next other => exact .error ⟨⟨_, _, rfl⟩, fun ⟨text, same, _⟩ => other text same⟩

/-- A first step that takes a text leaves the faults to what comes after it. -/
theorem faults_checkText_bind_iff {α : Type} {value : Json}
    {next : { text : String // text ≠ "" } → Except Failure α} {later : Prop}
    (h : ∀ text, Faults (next text) ↔ later)
    : Faults (checkText item value >>= next) ↔ IsName value ∧ later := by
  have ends := ends_checkText item value
  generalize checkText item value = checked at ends ⊢
  cases ends with
  | @ok text same => rw [ok_bind, h, and_iff_right ⟨text.1, same, text.2⟩]
  | error known =>
      obtain ⟨⟨item, issue, rfl⟩, unnamed⟩ := known
      simp [unnamed]

/-- An integer that is not positive and has too many digits for a complaint about it. -/
def IsUnsayable (value : Int) : Prop :=
  value ≤ 0 ∧ ¬Decimal.isShort value

theorem ends_checkPositive (item : String) (value : Int)
    : Ends (fun _ => True) IsRejection (checkPositive item value) := by
  rw [checkPositive]
  split
  · exact .pure trivial
  · exact (Json.faultsUnless_integerText value).rejects.bind fun _ _ =>
      (ends_misconfigured _ _).rejects

theorem faults_checkPositive_iff {value : Int}
    : Faults (checkPositive item value) ↔ IsUnsayable value := by
  rw [checkPositive, IsUnsayable, ← (Json.faultsUnless_integerText value).faults_iff]
  split
  · next positive => exact iff_of_false (not_faults_pure _) fun both => by omega
  · next refused =>
      rw [and_iff_right (by omega), faults_bind_iff]
      simp [misconfigured]

theorem exists_checkPositive_iff {value : Int}
    : (∃ limit, checkPositive item value = .ok limit) ↔ 0 < value := by
  rw [checkPositive]
  split
  · next positive => exact iff_of_true ⟨_, rfl⟩ positive
  · next refused =>
      refine iff_of_false (fun ⟨limit, taken⟩ => ?_) refused
      obtain ⟨shown, -, ended⟩ := bind_eq_ok_iff.mp taken
      cases ended

theorem ends_checkMaxRows (limit : Option Int)
    : Ends (fun _ => True) IsRejection (checkMaxRows limit) := by
  cases limit with
  | none => exact .pure trivial
  | some limit => exact (ends_checkPositive _ limit).bind fun _ _ => .pure trivial

theorem ends_build (input field output : Json) (filters : List Filter) (maxRows : Option Int)
    (batchSize : Int) (compression : Json)
    : Ends (fun _ => True) IsRejection
        (build input field output filters maxRows batchSize compression) := by
  have text (item : String) (value : Json)
      : Ends (fun _ => True) IsRejection (checkText item value) :=
    (ends_checkText item value).imp (fun _ _ => trivial) fun _ known => Or.inl known.1
  refine (text _ input).bind fun _ _ => (text _ field).bind fun _ _ => ?_
  refine (text _ output).bind fun _ _ => (ends_checkMaxRows maxRows).bind fun _ _ => ?_
  exact (ends_checkPositive _ batchSize).bind fun _ _ => .pure trivial

/-- Limits of which the first that is not positive cannot be complained about. -/
def AreUnsayable (maxRows : Option Int) (batchSize : Int) : Prop :=
  (∃ limit ∈ maxRows, IsUnsayable limit)
  ∨ (∀ limit ∈ maxRows, 0 < limit) ∧ IsUnsayable batchSize

theorem faults_checkLimits_iff {α : Type} {maxRows : Option Int} {batchSize : Int}
    {next
      : { rows : Option Int // ∀ limit ∈ rows, 0 < limit } → { size : Int // 0 < size }
        → Except Failure α}
    (built : ∀ rows size, ¬Faults (next rows size))
    : Faults (do
        let rows ← checkMaxRows maxRows
        let size ← checkPositive "batch_size" batchSize
        next rows size)
      ↔ AreUnsayable maxRows batchSize := by
  have sized rows : Faults (do
        let size ← checkPositive "batch_size" batchSize
        next rows size)
      ↔ IsUnsayable batchSize := by
    simp [faults_bind_iff, faults_checkPositive_iff, built]
  cases maxRows with
  | none => simp [checkMaxRows, sized, AreUnsayable]
  | some limit =>
      simp only [checkMaxRows, bind_assoc, pure_bind, faults_bind_iff, faults_checkPositive_iff,
        sized, AreUnsayable, Option.mem_def, Option.some.injEq, exists_eq_left', forall_eq']
      rw [← exists_checkPositive_iff, exists_and_right]

theorem faults_build_iff {input field output : Json} {filters : List Filter}
    {maxRows : Option Int} {batchSize : Int} {compression : Json}
    : Faults (build input field output filters maxRows batchSize compression)
      ↔ IsName input ∧ IsName field ∧ IsName output ∧ AreUnsayable maxRows batchSize := by
  refine faults_checkText_bind_iff fun input => faults_checkText_bind_iff fun field => ?_
  refine faults_checkText_bind_iff fun output => ?_
  exact faults_checkLimits_iff fun _ _ => not_faults_pure _

-----------------------------------------------------------------------------------------
-- Documents
-----------------------------------------------------------------------------------------

def setting (members : List (String × Json)) (key : String) : Json :=
  (Keyed.find? key members).getD .null

/-- The batch size of a document, or else the one that stands for none. -/
def batchSetting (members : List (String × Json)) : Json :=
  (Keyed.find? "batch_size" members).getD (.int defaultBatchSize)

/-- What it means for the members of a document to be faulty: the row limit or the batch size breaks
the reading off, or an entry in the list of filters is faulty, or what is wrong with the limits
cannot be said. Settings count in the order in which they are read.
-/
inductive IsFaultyDocument (room : Room) (environment : Environment)
    (members : List (String × Json))
    : Prop
  | maxRows {entries : List Json}
      (listed : readEntries (setting members "filters") = .ok entries)
      (stops : BreaksOff room (setting members "max_rows"))
  | batchSize {entries : List Json} {rows : Option Int}
      (listed : readEntries (setting members "filters") = .ok entries)
      (limited : readMaxRows room environment (setting members "max_rows") = .ok rows)
      (stops : BreaksOff room (batchSetting members))
  | entry {earlier later : List Json} {entry : Json} {rows : Option Int} {size : Int}
      (listed : readEntries (setting members "filters") = .ok (earlier ++ entry :: later))
      (limited : readMaxRows room environment (setting members "max_rows") = .ok rows)
      (sized : readInteger room "batch_size" (batchSetting members) = .ok size)
      (fine : ∀ other ∈ earlier, ∃ filter, Filter.ofEntry room.point other = .ok filter)
      (faulty : Filter.IsFaultyEntry room.point entry)
  | limits {entries : List Json} {rows : Option Int} {size : Int}
      (listed : readEntries (setting members "filters") = .ok entries)
      (limited : readMaxRows room environment (setting members "max_rows") = .ok rows)
      (sized : readInteger room "batch_size" (batchSetting members) = .ok size)
      (fine : ∀ entry ∈ entries, ∃ filter, Filter.ofEntry room.point entry = .ok filter)
      (named : ∀ key ∈ requiredKeys, IsName (setting members key))
      (unsayable : AreUnsayable rows size)

theorem faults_mapM_ofEntry_iff {levels : Nat} {entries : List Json}
    : Faults (entries.mapM (Filter.ofEntry levels))
      ↔ ∃ earlier entry later,
          entries = earlier ++ entry :: later
          ∧ (∀ other ∈ earlier, ∃ filter, Filter.ofEntry levels other = .ok filter)
          ∧ Filter.IsFaultyEntry levels entry := by
  simp only [← Filter.faults_ofEntry_iff]
  constructor
  · rintro ⟨cause, failed⟩
    obtain ⟨earlier, entry, later, split, fine, own⟩ := mapM_eq_error_iff.mp failed
    exact ⟨earlier, entry, later, split, fine, cause, own⟩
  · rintro ⟨earlier, entry, later, split, fine, cause, own⟩
    exact ⟨cause, mapM_eq_error_iff.mpr ⟨earlier, entry, later, split, fine, own⟩⟩

theorem faults_ofMembers_iff {members : List (String × Json)}
    : Faults (ofMembers room environment members)
      ↔ IsFaultyDocument room environment members := by
  have listing (listed : Json) : ¬Faults (readEntries listed) :=
    (settles_readEntries listed).not_faults
  have named : (∀ key ∈ requiredKeys, IsName (setting members key))
      ↔ IsName (setting members "nc_key") ∧ IsName (setting members "variable_name")
        ∧ IsName (setting members "parquet_key") := by
    simp [requiredKeys]
  simp only [ofMembers, faults_bind_iff, listing, false_or, faults_readMaxRows_iff,
    faults_readInteger_iff, faults_mapM_ofEntry_iff, faults_build_iff]
  constructor
  · rintro ⟨entries, listed, stops | ⟨rows, limited, stops | ⟨size, sized, ⟨earlier, entry,
      later, rfl, fine, faulty⟩ | ⟨filters, read, input, field, output, unsayable⟩⟩⟩⟩
    · exact .maxRows listed stops
    · exact .batchSize listed limited stops
    · exact .entry listed limited sized fine faulty
    · exact .limits listed limited sized (fun entry hm => exists_answer_of_mem read hm)
        (named.mpr ⟨input, field, output⟩) unsayable
  · rintro (⟨listed, stops⟩ | ⟨listed, limited, stops⟩
      | ⟨listed, limited, sized, fine, faulty⟩
      | ⟨listed, limited, sized, fine, texts, unsayable⟩)
    · exact ⟨_, listed, Or.inl stops⟩
    · exact ⟨_, listed, Or.inr ⟨_, limited, Or.inl stops⟩⟩
    · exact ⟨_, listed, Or.inr ⟨_, limited, Or.inr ⟨_, sized, Or.inl ⟨_, _, _, rfl, fine,
        faulty⟩⟩⟩⟩
    · obtain ⟨filters, read⟩ := exists_mapM_eq_ok fine
      obtain ⟨input, field, output⟩ := named.mp texts
      exact ⟨_, listed, Or.inr ⟨_, limited, Or.inr ⟨_, sized, Or.inr ⟨filters, read, input, field,
        output, unsayable⟩⟩⟩⟩

-----------------------------------------------------------------------------------------
-- Texts
-----------------------------------------------------------------------------------------

theorem mapM_contains (members : List (String × Json)) (keys : List String)
    : (keys.mapM fun key => (Json.obj members).contains (.str key))
      = .ok (keys.map fun key => (Keyed.find? key members).isSome) :=
  mapM_eq_ok_map fun _ _ => rfl

theorem settles_checkKeys (members : List (String × Json))
    : Settles (checkKeys (.obj members)) := by
  rw [checkKeys, mapM_contains, ok_bind]
  split
  · exact .pure trivial
  · exact ends_misconfigured _ _

/-- No required key is missing where each of them has a value. -/
theorem checkKeys_eq_ok {members : List (String × Json)}
    (given : ∀ key ∈ requiredKeys, ∃ value, Keyed.find? key members = some value)
    : checkKeys (.obj members) = .ok () := by
  let known := requiredKeys.map fun key => (Keyed.find? key members).isSome
  have missing : (requiredKeys.zip known).filter (fun entry => !entry.2) = [] := by
    refine List.filter_eq_nil_iff.mpr fun entry hm => ?_
    obtain ⟨key, hkey, same⟩ := List.mem_map.mp (List.of_mem_zip hm).2
    obtain ⟨value, found⟩ := given key hkey
    simp [← same, found]
  rw [checkKeys, mapM_contains, ok_bind, missing]
  rfl

/-- What it means for the text of a document to be faulty: an integer has too many digits, or too
many lists and objects stand in each other, or the document itself is faulty.
-/
inductive IsFaultyText (room : Room) (environment : Environment) (text : String) : Prop
  | overlong (refused : Json.read room.text text = .error .tooManyDigits)
  | deep (refused : Json.read room.text text = .error .nestedTooDeep)
  | document {members : List (String × Json)}
      (read : Json.read room.text text = .ok (.obj members))
      (keyed : checkKeys (.obj members) = .ok ())
      (faulty : IsFaultyDocument room environment members)

/-- The reading of the text of a document faults just if the text is faulty. -/
theorem faults_ofText_iff (room : Room) (environment : Environment) (text : String)
    : Faults (ofText room environment text) ↔ IsFaultyText room environment text := by
  constructor
  · intro faulty
    rw [ofText] at faulty
    split at faulty
    · exact absurd faulty (not_faults_error _)
    · next refused => exact .overlong refused
    · next refused => exact .deep refused
    · next members read =>
        rcases faults_bind_iff.mp faulty with early | ⟨⟨⟩, keyed, late⟩
        · exact absurd early (settles_checkKeys members).not_faults
        · exact .document read keyed (faults_ofMembers_iff.mp late)
    · exact absurd faulty (not_faults_error _)
  · rintro (refused | refused | ⟨read, keyed, faulty⟩)
    · rw [ofText, refused]
      exact faults_raiseFault _
    · rw [ofText, refused]
      exact faults_raiseFault _
    · rw [ofText, read]
      exact faults_bind_iff.mpr (Or.inr ⟨(), keyed, faults_ofMembers_iff.mpr faulty⟩)

theorem ends_ofText (room : Room) (environment : Environment) (text : String)
    : Ends (fun _ => True) IsRejection (ofText room environment text) := by
  rw [ofText]
  split
  · exact (ends_misconfigured _ _).rejects
  · exact ends_raiseFault _
  · exact ends_raiseFault _
  · next members _ =>
      refine (settles_checkKeys members).rejects.bind fun _ _ => ?_
      refine (settles_readEntries _).rejects.bind fun entries _ => ?_
      refine (ends_readMaxRows room environment _).bind fun rows _ => ?_
      refine (ends_readInteger _ _ _).bind fun size _ => ?_
      refine (Ends.mapM fun entry _ => Filter.ends_ofEntry _ entry).bind fun filters _ => ?_
      exact ends_build _ _ _ filters rows size _
  · exact (ends_misconfigured _ _).rejects

/-- Filter entries and texts of documents settle, with a filter or a job or with a complaint,
unless they are faulty; whatever the environment holds, it makes no other difference. What is
faulty ends with a fault.
-/
theorem configurations_settle (room : Room) (entry : Json) (environment : Environment)
    (text : String)
    : ((Settles (Filter.ofEntry room.point entry) ↔ ¬Filter.IsFaultyEntry room.point entry)
        ∧ (Faults (Filter.ofEntry room.point entry) ↔ Filter.IsFaultyEntry room.point entry))
      ∧ (Settles (ofText room environment text) ↔ ¬IsFaultyText room environment text)
      ∧ (Faults (ofText room environment text) ↔ IsFaultyText room environment text) := by
  refine ⟨⟨?_, Filter.faults_ofEntry_iff _ entry⟩, ?_, faults_ofText_iff room environment text⟩
  · rw [← Filter.faults_ofEntry_iff]
    exact settles_iff_not_faults (Filter.ends_ofEntry _ entry)
  · rw [← faults_ofText_iff]
    exact settles_iff_not_faults (ends_ofText room environment text)

/-- A kind that is a list, a kind of too many digits, parameters that are null, names of two sorts,
a name of too many digits, an integer beyond all doubles, an object in the place of a point and an
infinite row limit are not complained about.
-/
theorem configurations_fault
    : ¬Settles (Filter.ofEntry 100 (.obj [("kind", .arr [])]))
      ∧ ¬Settles (Filter.ofEntry 100 (.obj [("kind", .int (10 ^ 4300))]))
      ∧ ¬Settles (Filter.ofEntry 100 (.obj [("kind", .str "range"), ("params", .null)]))
      ∧ ¬Settles (Filter.ofEntry 100
          (.obj
            [
              ("kind", .str "range"),
              ("params", .arr [.arr [.int 1, .int 2], .arr [.str "a", .int 3]])
            ]))
      ∧ ¬Settles (Filter.ofEntry 100
          (.obj
            [("kind", .str "range"), ("params", .arr [.arr [.int (10 ^ 4300), .int 1]])]))
      ∧ ¬Settles (Filter.ofEntry 100
          (.obj
            [
              ("kind", .str "range"), ("dimension_name", .str "x"), ("min_value", .int 0),
              ("max_value", .int (10 ^ 400))
            ]))
      ∧ ¬Settles (Filter.ofEntry 100
          (.obj
            [
              ("kind", .str "2d_point"), ("lat_dimension_name", .str "y"),
              ("lon_dimension_name", .str "x"),
              ("points", .arr [.obj [("a", .int 1), ("b", .int 2)]]), ("tolerance", .int 1)
            ]))
      ∧ ¬Settles (ofText ⟨100, 100, 100⟩ []
          ("\x7b\"nc_key\": \"in.nc\", \"variable_name\": \"v\", "
            ++ "\"parquet_key\": \"out.parquet\", \"max_rows\": 1e999\x7d")) := by
  refine ⟨?_, ?_, ?_, ?_, ?_, ?_, ?_, ?_⟩ <;>
    exact fun settles => settles.not_faults (by decide +kernel)

end Job

end GridTable
