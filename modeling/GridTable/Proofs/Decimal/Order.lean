import Mathlib.Order.Compare

/-! The order of doubles: of two doubles that are numbers one is less than the other, or they are
equal. What is not a number comes neither before nor after anything.
-/

namespace GridTable.Decimal

open Float.Model

-----------------------------------------------------------------------------------------
-- Doubles taken apart
-----------------------------------------------------------------------------------------

/-- A comparison from the other side has the opposite answer, by sign and kind of both. -/
theorem map_swap_compare (x y : UnpackedFloat)
    : (x.compare y).map Ordering.swap = y.compare x := by
  have integers (a b : Int) : (compare a b).swap = compare b a := Std.OrientedCmp.eq_swap.symm
  have naturals (a b : Nat) : (compare a b).swap = compare b a := Std.OrientedCmp.eq_swap.symm
  cases x with
  | notANumber => cases y <;> rfl
  | infinity sign =>
      cases y with
      | infinity other => cases sign <;> cases other <;> rfl
      | notANumber | zero other | finite other => cases sign <;> rfl
  | zero sign =>
      cases y with
      | infinity other | finite other => cases other <;> rfl
      | notANumber | zero other => rfl
  | finite sign m e =>
      cases y with
      | notANumber => rfl
      | infinity other => cases other <;> rfl
      | zero other => cases sign <;> rfl
      | finite other n k =>
          have magnitudes
              : ((compare e k).then (compare m n)).swap = (compare k e).then (compare n m) := by
            rw [Ordering.swap_then, integers, naturals]
          cases sign with
          | positive =>
              cases other with
              | positive => exact congrArg some magnitudes
              | negative => rfl
          | negative =>
              cases other with
              | positive => rfl
              | negative => exact congrArg (fun order => some order.swap) magnitudes

/-- Only what is not a number has no place in the order. -/
theorem compare_eq_none_iff {x y : UnpackedFloat}
    : x.compare y = none ↔ x.isNaN ∨ y.isNaN := by
  cases x with
  | notANumber => exact iff_of_true rfl (Or.inl rfl)
  | infinity sign | zero sign | finite sign =>
      cases y with
      | notANumber => exact iff_of_true (by cases sign <;> rfl) (Or.inr rfl)
      | infinity other | zero other | finite other =>
          refine iff_of_false ?_ (by rintro (⟨⟨⟩⟩ | ⟨⟨⟩⟩))
          cases sign <;> cases other <;> nofun

-----------------------------------------------------------------------------------------
-- Doubles
-----------------------------------------------------------------------------------------

variable {x y : Float}

/-- How a double compares to another one, if at all. -/
def order? (x y : Float) : Option Ordering :=
  x.toModel.unpack.compare y.toModel.unpack

theorem lt_iff_order? : x < y ↔ order? x y = some .lt := by
  change Float.lt x y = true ↔ _
  simp only [Float.lt, decide_eq_true_eq]
  change UnpackedFloat.lt _ _ = true ↔ _
  simp only [UnpackedFloat.lt, beq_iff_eq, order?]

theorem le_iff_order? : x ≤ y ↔ order? x y = some .lt ∨ order? x y = some .eq := by
  change Float.le x y = true ↔ _
  simp only [Float.le, decide_eq_true_eq]
  change UnpackedFloat.le _ _ = true ↔ _
  rw [UnpackedFloat.le, order?]
  rcases UnpackedFloat.compare _ _ with - | - | - | - <;> decide

theorem order?_eq_none_iff : order? x y = none ↔ x.isNaN ∨ y.isNaN :=
  compare_eq_none_iff

theorem order?_comm (x y : Float) : order? y x = (order? x y).map Ordering.swap :=
  (map_swap_compare _ _).symm

/-- A double is not at most another one just if that is less, or they cannot be compared. -/
theorem not_le_iff : ¬x ≤ y ↔ y < x ∨ x.isNaN ∨ y.isNaN := by
  rw [le_iff_order?, lt_iff_order?, ← order?_eq_none_iff, order?_comm x y]
  rcases order? x y with - | - | - | - <;> decide

/-- A double is not less than another one just if that is at most as great, or they cannot be
compared.
-/
theorem not_lt_iff : ¬x < y ↔ y ≤ x ∨ x.isNaN ∨ y.isNaN := by
  rw [le_iff_order?, lt_iff_order?, ← order?_eq_none_iff, order?_comm x y]
  rcases order? x y with - | - | - | - <;> decide

end GridTable.Decimal
