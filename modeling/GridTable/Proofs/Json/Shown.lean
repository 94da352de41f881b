import GridTable.Json.Shown
import GridTable.Proofs.Ends

/-! Which values a message can show: integers must have few digits, and lists and objects must not
stand in too many others.
-/

namespace GridTable.Json

open Outcome

/-- Induction over a value and its parts. -/
theorem byParts {holds : Json → Prop} (null : holds .null) (bool : ∀ value, holds (.bool value))
    (int : ∀ value, holds (.int value)) (float : ∀ value, holds (.float value))
    (str : ∀ text, holds (.str text))
    (arr : ∀ items, (∀ item ∈ items, holds item) → holds (.arr items))
    (obj : ∀ members, (∀ entry ∈ members, holds entry.2) → holds (.obj members)) (value : Json)
    : holds value := by
  cases value with
  | null => exact null
  | bool value => exact bool value
  | int value => exact int value
  | float value => exact float value
  | str text => exact str text
  | arr items => exact arr items fun item _ => byParts null bool int float str arr obj item
  | obj members =>
      refine obj members fun entry hm => ?_
      have smaller : sizeOf entry.2 < sizeOf members := by
        have := List.sizeOf_lt_of_mem hm
        rw [Prod.mk.sizeOf_spec] at this
        omega
      exact byParts null bool int float str arr obj entry.2
termination_by sizeOf value

/-- A value that can be shown where at most `levels` lists and objects with parts of their own may
stand in each other.
-/
inductive IsShowable : Nat → Json → Prop
  | null {levels : Nat} : IsShowable levels .null
  | bool {levels : Nat} (value : Bool) : IsShowable levels (.bool value)
  | int {levels : Nat} {value : Int} (short : Decimal.isShort value)
    : IsShowable levels (.int value)
  | float {levels : Nat} (value : Float) : IsShowable levels (.float value)
  | str {levels : Nat} (text : String) : IsShowable levels (.str text)
  | arr {levels : Nat} {items : List Json} (shallow : items = [] ∨ levels ≠ 0)
      (each : ∀ item ∈ items, IsShowable (levels - 1) item)
    : IsShowable levels (.arr items)
  | obj {levels : Nat} {members : List (String × Json)} (shallow : members = [] ∨ levels ≠ 0)
      (each : ∀ entry ∈ members, IsShowable (levels - 1) entry.2)
    : IsShowable levels (.obj members)

/-- A value whose parts, gone through in order, stand in too many lists and objects before any of
them is an integer of too many digits.
-/
inductive IsTooDeep : Nat → Json → Prop
  | arr {items : List Json} (filled : items ≠ []) : IsTooDeep 0 (.arr items)
  | obj {members : List (String × Json)} (filled : members ≠ []) : IsTooDeep 0 (.obj members)
  | item {levels : Nat} {earlier later : List Json} {item : Json}
      (fine : ∀ other ∈ earlier, IsShowable levels other) (deep : IsTooDeep levels item)
    : IsTooDeep (levels + 1) (.arr (earlier ++ item :: later))
  | member {levels : Nat} {earlier later : List (String × Json)} {entry : String × Json}
      (fine : ∀ other ∈ earlier, IsShowable levels other.2) (deep : IsTooDeep levels entry.2)
    : IsTooDeep (levels + 1) (.obj (earlier ++ entry :: later))

theorem shownItems_eq (levels : Nat) (items : List Json)
    : shownItems levels items = items.mapM (shown levels) := by
  induction items with
  | nil => rfl
  | cons item rest ih => rw [shownItems, List.mapM_cons, ih]

/-- A member as it stands in an object that is shown. -/
def shownMember (levels : Nat) (entry : String × Json) : Except Failure String := do
  let value ← shown levels entry.2
  pure (Text.quoted entry.1 ++ ": " ++ value)

theorem shownMembers_eq (levels : Nat) (members : List (String × Json))
    : shownMembers levels members = members.mapM (shownMember levels) := by
  induction members with
  | nil => rfl
  | cons entry rest ih =>
      rw [shownMembers, List.mapM_cons, ih, shownMember, bind_assoc]
      rfl

theorem faultsUnless_integerText (value : Int)
    : FaultsUnless (Decimal.isShort value) (Decimal.integerText value) := by
  rw [Decimal.integerText]
  split
  · next short => exact .ok short
  · next long => exact .fault long _

theorem faultsUnless_shown (levels : Nat) (value : Json)
    : FaultsUnless (IsShowable levels value) (value.shown levels) := by
  induction value using byParts generalizing levels with
  | null => exact .ok .null
  | bool value => exact .ok (.bool value)
  | float value => exact .ok (.float value)
  | str text => exact .ok (.str text)
  | int n =>
      rw [shown]
      exact (faultsUnless_integerText n).congr ⟨.int, fun | .int short => short⟩
  | arr items ih =>
      rw [shown, shownItems_eq]
      split
      · next deep =>
          refine .fault (fun showable => ?_) _
          cases showable
          simp_all
      · next shallow =>
          have parts := FaultsUnless.mapM fun item hm => ih item hm (levels - 1)
          refine (parts.map Text.bracketed).congr ⟨.arr ?_, fun | .arr _ each => each⟩
          simpa [or_comm, imp_iff_or_not] using shallow
  | obj members ih =>
      rw [shown, shownMembers_eq]
      split
      · next deep =>
          refine .fault (fun showable => ?_) _
          cases showable
          simp_all
      · next shallow =>
          have parts := FaultsUnless.mapM fun entry hm =>
            (ih entry hm (levels - 1)).map (Text.quoted entry.1 ++ ": " ++ ·)
          refine (parts.map fun parts => "\x7b" ++ Text.commaList parts ++ "\x7d").congr
            ⟨.obj ?_, fun | .obj _ each => each⟩
          simpa [or_comm, imp_iff_or_not] using shallow

theorem rejects_shown (levels : Nat) (value : Json)
    : Ends (fun _ => True) IsRejection (value.shown levels) :=
  (faultsUnless_shown levels value).rejects.imp (fun _ _ => trivial) fun _ => id

/-- What cannot be shown has an integer of too many digits or is too deep. -/
theorem ends_shown (levels : Nat) (value : Json)
    : Ends (fun _ => True)
        (fun failure => failure = .fault .badValue ∨ failure = .fault .nestedTooDeep)
        (value.shown levels) := by
  induction value using byParts generalizing levels with
  | null | bool | float | str => exact .ok trivial
  | int n =>
      rw [shown, Decimal.integerText]
      exact .ite (fun _ => .ok trivial) fun _ => .error (Or.inl rfl)
  | arr items ih =>
      rw [shown, shownItems_eq]
      refine .ite (fun _ => .error (Or.inr rfl)) fun _ => ?_
      exact (Ends.mapM fun item hm => ih item hm (levels - 1)).bind fun _ _ => .ok trivial
  | obj members ih =>
      rw [shown, shownMembers_eq]
      refine .ite (fun _ => .error (Or.inr rfl)) fun _ => ?_
      have parts := Ends.mapM fun entry hm =>
        (ih entry hm (levels - 1)).map (Text.quoted entry.1 ++ ": " ++ ·)
      exact parts.bind fun _ _ => .ok trivial

/-- What is gone through stops at a part that is too deep just if all parts before can be shown. -/
theorem mapM_eq_nestedTooDeep_iff {α β : Type} {step : α → Except Failure β} {part : α → Json}
    {levels : Nat} {entries : List α}
    (shows : ∀ entry ∈ entries, FaultsUnless (IsShowable levels (part entry)) (step entry))
    (deep
      : ∀ entry ∈ entries,
          step entry = .error (.fault .nestedTooDeep) ↔ IsTooDeep levels (part entry))
    : entries.mapM step = .error (.fault .nestedTooDeep)
      ↔ ∃ earlier entry later,
          entries = earlier ++ entry :: later
          ∧ (∀ other ∈ earlier, IsShowable levels (part other))
          ∧ IsTooDeep levels (part entry) := by
  rw [mapM_eq_error_iff]
  have same : ∀ other ∈ entries, (∃ answer, step other = .ok answer)
      ↔ IsShowable levels (part other) := fun other hm => (shows other hm).exists_ok_iff
  constructor
  · rintro ⟨earlier, entry, later, rfl, fine, own⟩
    exact ⟨earlier, entry, later, rfl,
      fun other hm => (same other (by simp [hm])).mp (fine other hm),
      (deep entry (by simp)).mp own⟩
  · rintro ⟨earlier, entry, later, rfl, fine, own⟩
    exact ⟨earlier, entry, later, rfl,
      fun other hm => (same other (by simp [hm])).mpr (fine other hm),
      (deep entry (by simp)).mpr own⟩

theorem isTooDeep_arr_iff {levels : Nat} {items : List Json}
    : IsTooDeep (levels + 1) (.arr items)
      ↔ ∃ earlier item later,
          items = earlier ++ item :: later
          ∧ (∀ other ∈ earlier, IsShowable levels other)
          ∧ IsTooDeep levels item := by
  constructor
  · intro deep
    cases deep with
    | item fine deep => exact ⟨_, _, _, rfl, fine, deep⟩
  · rintro ⟨earlier, item, later, rfl, fine, deep⟩
    exact .item fine deep

theorem isTooDeep_obj_iff {levels : Nat} {members : List (String × Json)}
    : IsTooDeep (levels + 1) (.obj members)
      ↔ ∃ earlier entry later,
          members = earlier ++ entry :: later
          ∧ (∀ other ∈ earlier, IsShowable levels other.2)
          ∧ IsTooDeep levels entry.2 := by
  constructor
  · intro deep
    cases deep with
    | member fine deep => exact ⟨_, _, _, rfl, fine, deep⟩
  · rintro ⟨earlier, entry, later, rfl, fine, deep⟩
    exact .member fine deep

theorem pure_bind_eq_error_iff {α β : Type} {first : Except Failure α} {change : α → β}
    {failure : Failure}
    : (do
        let answer ← first
        pure (change answer) : Except Failure β) = .error failure
      ↔ first = .error failure := by
  cases first <;> simp

/-- Showing a value breaks off for its depth just if it is too deep. -/
theorem shown_eq_nestedTooDeep_iff {levels : Nat} {value : Json}
    : value.shown levels = .error (.fault .nestedTooDeep) ↔ IsTooDeep levels value := by
  induction value using byParts generalizing levels with
  | null | bool | float | str => exact iff_of_false nofun nofun
  | int n =>
      refine iff_of_false (fun failed => ?_) nofun
      rw [shown, Decimal.integerText] at failed
      split at failed <;> cases failed
  | arr items ih =>
      rw [shown, shownItems_eq]
      cases levels with
      | zero =>
          cases items with
          | nil => exact iff_of_false nofun fun | .arr filled => filled rfl
          | cons item rest => exact iff_of_true rfl (.arr (by simp))
      | succ levels =>
          rw [isTooDeep_arr_iff, if_neg (by simp), pure_bind_eq_error_iff]
          exact mapM_eq_nestedTooDeep_iff (fun item _ => faultsUnless_shown levels item)
            fun item hm => ih item hm
  | obj members ih =>
      rw [shown, shownMembers_eq]
      cases levels with
      | zero =>
          cases members with
          | nil => exact iff_of_false nofun fun | .obj filled => filled rfl
          | cons entry rest => exact iff_of_true rfl (.obj (by simp))
      | succ levels =>
          rw [isTooDeep_obj_iff, if_neg (by simp), pure_bind_eq_error_iff]
          exact mapM_eq_nestedTooDeep_iff
            (fun entry _ => (faultsUnless_shown levels entry.2).map _)
            fun entry hm => pure_bind_eq_error_iff.trans (ih entry hm)

end GridTable.Json
