import Std.Data.HashSet

/-! Finite sets of indices.
A set is the ascending list of its members, so that each set has one form and its members come
in order.
-/

namespace GridTable

structure IndexSet where
  toList : List Int
  ascending : toList.Pairwise (· < ·)

namespace IndexSet

instance : Membership Int IndexSet where
  mem set index := index ∈ set.toList

theorem mem_def {set : IndexSet} {index : Int} : index ∈ set ↔ index ∈ set.toList :=
  Iff.rfl

def size (set : IndexSet) : Nat :=
  set.toList.length

theorem nodup (set : IndexSet) : set.toList.Nodup :=
  set.ascending.imp fun h => by omega

/-- The indices from zero up to `size`. -/
def below (size : Nat) : IndexSet where
  toList := (List.range size).map Int.ofNat
  ascending :=
    List.pairwise_map.mpr (List.pairwise_lt_range.imp fun h => by simpa using h)

@[simp] theorem mem_below {size : Nat} {index : Int}
    : index ∈ below size ↔ 0 ≤ index ∧ index < size := by
  simp only [mem_def, below, List.mem_map, List.mem_range]
  constructor
  · rintro ⟨n, hn, rfl⟩
    exact ⟨by simp, by simpa using hn⟩
  · rintro ⟨h, hn⟩
    exact ⟨index.toNat, by omega, Int.toNat_of_nonneg h⟩

/-- The members that pass a test. -/
def filter (test : Int → Bool) (set : IndexSet) : IndexSet where
  toList := set.toList.filter test
  ascending := set.ascending.filter test

@[simp] theorem mem_filter {test : Int → Bool} {set : IndexSet} {index : Int}
    : index ∈ set.filter test ↔ index ∈ set ∧ test index := by
  simp [mem_def, filter]

/-- The members of the first set that are in the second one. -/
def inter (first second : IndexSet) : IndexSet :=
  let known := Std.HashSet.ofList second.toList
  first.filter known.contains

@[simp] theorem mem_inter {first second : IndexSet} {index : Int}
    : index ∈ first.inter second ↔ index ∈ first ∧ index ∈ second := by
  simp only [inter, mem_filter]
  simp [mem_def]

/-- An ascending list with each member once. -/
def dropRepeats : List Int → List Int
  | x :: y :: rest =>
      if x = y then dropRepeats (y :: rest) else x :: dropRepeats (y :: rest)
  | rest => rest

@[simp] theorem mem_dropRepeats {indices : List Int} {index : Int}
    : index ∈ dropRepeats indices ↔ index ∈ indices := by
  fun_induction dropRepeats indices with
  | case1 x rest ih => simp [ih]
  | case2 x y rest hxy ih => simp [ih]
  | case3 => rfl

theorem pairwise_dropRepeats {indices : List Int} (h : indices.Pairwise (· ≤ ·))
    : (dropRepeats indices).Pairwise (· < ·) := by
  fun_induction dropRepeats indices with
  | case1 x rest ih => exact ih h.tail
  | case2 x y rest hxy ih =>
      refine List.pairwise_cons.mpr ⟨fun z hz => ?_, ih h.tail⟩
      have hz := mem_dropRepeats.mp hz
      have hx : x ≤ y := List.rel_of_pairwise_cons h (by simp)
      rcases List.mem_cons.mp hz with rfl | hz
      · omega
      · have := List.rel_of_pairwise_cons h.tail hz
        omega
  | case3 rest hrest =>
      match rest with
      | [] => exact .nil
      | [_] => exact List.pairwise_singleton _ _
      | x :: y :: more => exact absurd rfl (hrest x y more)

def ofList (indices : List Int) : IndexSet where
  toList := dropRepeats (indices.mergeSort (· ≤ ·))
  ascending := pairwise_dropRepeats <| by
    have h := @List.pairwise_mergeSort _ (fun x y : Int => decide (x ≤ y))
      (fun x y z => by simpa using fun hx hy => Int.le_trans hx hy)
      (fun x y => by simpa using Int.le_total x y) indices
    exact h.imp fun hxy => by simpa using hxy

@[simp] theorem mem_ofList {indices : List Int} {index : Int}
    : index ∈ ofList indices ↔ index ∈ indices := by
  simp [mem_def, ofList]

end IndexSet

end GridTable
