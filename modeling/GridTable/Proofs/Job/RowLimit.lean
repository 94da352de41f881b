import GridTable.Proofs.Filter.Environment
import GridTable.Proofs.Job.Document
import GridTable.Proofs.Together

/-! Jobs in environments that differ in the row limit. The limit of the environment counts where a
document leaves its own limit open; the jobs then differ in nothing else.
-/

namespace GridTable

open Outcome

namespace Environment

/-- The row limit of an environment is a possible one. -/
theorem ends_maxRows (environment : Environment)
    : Ends (fun rows => ∀ limit ∈ rows, 0 < limit)
        (fun failure => ∃ issue, failure = .error (.configuration rowsVariable issue))
        environment.maxRows := by
  rw [maxRows]
  refine .ite (fun _ => .pure (by simp)) fun _ => ?_
  split
  · next limit _ =>
      refine .pure fun other hm => ?_
      split at hm
      · next positive =>
          cases hm
          exact positive
      · cases hm
  · exact .error ⟨_, rfl⟩

theorem maxRows_of_unset {environment : Environment}
    (unset : Keyed.find? rowsVariable environment = none)
    : environment.maxRows = .ok none := by
  rw [maxRows, text, unset]
  rfl

theorem SameBut.filters_eq {first second : Environment}
    (same : SameBut rowsVariable first second)
    : first.filters = second.filters := by
  refine mapM_congr fun kind _ => ?_
  have apart : filtersVariable kind ≠ rowsVariable := by cases kind <;> decide
  rw [same.filtersOf_eq apart]

/-- Where the same is said of the row limit, there is a possible one in both environments. -/
theorem together_maxRows {first second : Environment}
    (said : Abreast first.maxRows second.maxRows)
    : Together (fun rows others => (∀ limit ∈ rows, 0 < limit) ∧ ∀ limit ∈ others, 0 < limit)
        first.maxRows second.maxRows := by
  have possible := first.ends_maxRows
  have possibleToo := second.ends_maxRows
  generalize first.maxRows = rows at said possible ⊢
  generalize second.maxRows = others at said possibleToo ⊢
  cases said with
  | ok => exact .ok ⟨possible.of_ok rfl, possibleToo.of_ok rfl⟩
  | error failure => exact .error failure

end Environment

namespace Job

/-- Jobs that differ in the row limit at most. -/
def SameButLimit (job other : Job) : Prop :=
  ∃ maxRows maxRows_pos, other = { job with maxRows, maxRows_pos }

variable {room : Room} {first second : Environment}

theorem checkMaxRows_of_pos {rows : Option Int} (positive : ∀ limit ∈ rows, 0 < limit)
    : checkMaxRows rows = .ok ⟨rows, positive⟩ := by
  cases rows with
  | none => rfl
  | some limit =>
      have own : 0 < limit := positive limit rfl
      simp [checkMaxRows, checkPositive, own, pure, Except.pure]

theorem together_build {rows others : Option Int} (input field output : Json)
    (filters : List Filter) (batchSize : Int) (compression : Json)
    (positive : (∀ limit ∈ rows, 0 < limit) ∧ ∀ limit ∈ others, 0 < limit)
    : Together SameButLimit
        (build input field output filters rows batchSize compression)
        (build input field output filters others batchSize compression) := by
  rw [build, build, checkMaxRows_of_pos positive.1, checkMaxRows_of_pos positive.2]
  refine .after _ fun input => .after _ fun field => .after _ fun output => ?_
  change Together SameButLimit (checkPositive "batch_size" batchSize >>= _)
    (checkPositive "batch_size" batchSize >>= _)
  refine .after _ fun size => ?_
  exact .ok ⟨others, positive.2, rfl⟩

/-- A row limit that a document gives is read without a look at the environment. -/
theorem readMaxRows_of_ne {value : Json} (given : value ≠ .null) (room : Room)
    (environment : Environment)
    : readMaxRows room environment value
      = (do
          let limit ← readInteger room "max_rows" value
          pure (some limit)) := by
  cases value with
  | null => exact absurd rfl given
  | _ => rfl

theorem SameButLimit.refl (job : Job) : SameButLimit job job :=
  ⟨job.maxRows, job.maxRows_pos, rfl⟩

/-- The row limit is all that the members of a document leave to the environment. -/
theorem together_ofMembers {members : List (String × Json)}
    (said
      : ∀ entries, readEntries (setting members "filters") = .ok entries
        → setting members "max_rows" = .null → Abreast first.maxRows second.maxRows)
    : Together SameButLimit (ofMembers room first members) (ofMembers room second members) := by
  by_cases opened : setting members "max_rows" = .null
  · cases listed : readEntries (setting members "filters") with
    | error failure =>
        rw [setting] at listed
        rw [ofMembers, ofMembers, listed]
        exact .error failure
    | ok entries =>
        have alike := Environment.together_maxRows (said entries listed opened)
        rw [setting] at listed opened
        simp only [ofMembers, listed, opened, readMaxRows, ok_bind]
        refine alike.bind fun rows others positive => ?_
        refine .after _ fun size => .after _ fun filters => ?_
        exact together_build _ _ _ filters size _ positive
  · have same : readMaxRows room first (setting members "max_rows")
        = readMaxRows room second (setting members "max_rows") := by
      rw [readMaxRows_of_ne opened room first,
        readMaxRows_of_ne opened room second]
    rw [setting] at same
    simp only [ofMembers, same]
    exact .refl SameButLimit.refl _

/-- A document that can be read as far as the row limit, and leaves it open. -/
def LeavesLimitOpen (room : Room) (text : String) : Prop :=
  ∃ members entries,
    Json.read room.text text = .ok (.obj members)
    ∧ checkKeys (.obj members) = .ok ()
    ∧ readEntries (setting members "filters") = .ok entries
    ∧ setting members "max_rows" = .null

/-- The jobs of a text differ in the row limit at most, unless the limit is left open and not the
same is said of it.
-/
theorem together_ofText {text : String}
    (said : LeavesLimitOpen room text → Abreast first.maxRows second.maxRows)
    : Together SameButLimit (ofText room first text) (ofText room second text) := by
  rw [ofText, ofText]
  cases read : Json.read room.text text with
  | error issue => cases issue <;> exact .error _
  | ok document =>
      cases document with
      | obj members =>
          change Together SameButLimit
            (checkKeys (.obj members) >>= fun _ => ofMembers room first members)
            (checkKeys (.obj members) >>= fun _ => ofMembers room second members)
          cases keyed : checkKeys (.obj members) with
          | error failure => exact .error failure
          | ok =>
              exact together_ofMembers fun entries listed opened =>
                said ⟨members, entries, read, keyed, listed, opened⟩
      | _ => exact .error _

/-- A text that leaves the limit open is complained about if the limit cannot be read. -/
theorem ofText_of_leavesLimitOpen {environment : Environment} {text : String} {failure : Failure}
    (left : LeavesLimitOpen room text) (failed : environment.maxRows = .error failure)
    : ofText room environment text = .error failure := by
  obtain ⟨members, entries, read, keyed, listed, opened⟩ := left
  rw [setting] at listed opened
  simp only [ofText, read, ofJson, keyed, ofMembers, listed, opened, readMaxRows, failed, ok_bind,
    error_bind]

end Job

end GridTable
