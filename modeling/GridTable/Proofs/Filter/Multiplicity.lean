import GridTable.Filter.Basic
import GridTable.Proofs.Matching
import GridTable.Proofs.Source
import Mathlib.Data.List.Count

/-! What point filters find, with order and multiplicity: the pairs near a point come once for each
time that the point is given, while a step that is given again finds nothing more.
-/

namespace GridTable

-----------------------------------------------------------------------------------------
-- Lists of blocks
-----------------------------------------------------------------------------------------

section

variable {α β γ : Type} [BEq α] [LawfulBEq α] [BEq β] [LawfulBEq β]

/-- Where no block has repeats, an entry occurs as often as there are blocks with it. -/
theorem count_flatMap_of_nodup {block : γ → List α} (distinct : ∀ key, (block key).Nodup)
    (entry : α) (keys : List γ)
    : (keys.flatMap block).count entry = keys.countP fun key => (block key).contains entry := by
  induction keys with
  | nil => rfl
  | cons key rest ih =>
      rw [List.flatMap_cons, List.count_append, ih, (distinct key).count, List.countP_cons,
        Nat.add_comm]
      simp

/-- Where keys differ, an entry beside a key occurs as often as the entry does. -/
theorem count_pairs_of_nodup {keys : List α} (distinct : keys.Nodup) (entries : List β)
    (key : α) (entry : β)
    : (keys.flatMap fun key => entries.map (Prod.mk key)).count (key, entry)
      = if key ∈ keys then entries.count entry else 0 := by
  induction keys with
  | nil => rfl
  | cons first rest ih =>
      obtain ⟨apart, distinct⟩ := List.nodup_cons.mp distinct
      rw [List.flatMap_cons, List.count_append, ih distinct]
      by_cases same : key = first
      · subst same
        have beside := List.count_map_of_injective entries (Prod.mk key)
          (fun _ _ same => (Prod.mk.inj same).2) entry
        simp [apart, beside]
      · have absent : (key, entry) ∉ entries.map (Prod.mk first) := by
          rw [List.mem_map]
          rintro ⟨_, -, pair⟩
          exact same (Prod.mk.inj pair).1.symm
        simp [same, List.count_eq_zero_of_not_mem absent]

end

/-- All pairs out of two ascending lists ascend, the first part counting first. -/
theorem pairwise_product {first second : List Int} (hf : first.Pairwise (· < ·))
    (hs : second.Pairwise (· < ·))
    : (first.flatMap fun i => second.map fun j => (i, j)).Pairwise
        (Prod.Lex (· < ·) (· < ·)) := by
  rw [List.pairwise_flatMap]
  constructor
  · intro i _
    rw [List.pairwise_map]
    exact hs.imp fun later => .right i later
  · refine hf.imp fun later left hl right hr => ?_
    obtain ⟨_, -, rfl⟩ := List.mem_map.mp hl
    obtain ⟨_, -, rfl⟩ := List.mem_map.mp hr
    exact .left _ _ later

-----------------------------------------------------------------------------------------
-- Pairs near points
-----------------------------------------------------------------------------------------

namespace Matching

variable {first second times : Array Float} {tolerance : Float}

/-- A pair of positions whose coordinates are both near those of a point. -/
def IsPairNear (first second : Array Float) (tolerance : Float) (point : Float × Float)
    (pair : Int × Int)
    : Prop :=
  ((0 ≤ pair.1 ∧ pair.1 < first.size) ∧ (coordinateAt first pair.1 - point.1).abs ≤ tolerance)
  ∧ (0 ≤ pair.2 ∧ pair.2 < second.size)
  ∧ (coordinateAt second pair.2 - point.2).abs ≤ tolerance

instance (first second : Array Float) (tolerance : Float) (point : Float × Float)
    (pair : Int × Int)
    : Decidable (IsPairNear first second tolerance point pair) :=
  inferInstanceAs (Decidable (_ ∧ _))

/-- Pairs come point by point, each point with an ascending block of just the pairs near it, so
that a pair occurs as often as points near it are given.
-/
structure ArePointwise (first second : Array Float) (tolerance : Float)
    (points : List (Float × Float)) (pairs : List (Int × Int))
    : Prop where
  counted : ∀ pair,
    pairs.count pair = points.countP fun point => IsPairNear first second tolerance point pair
  ordered : ∃ blocks,
    pairs = blocks.flatten
    ∧ List.Forall₂
        (fun point block =>
          block.Pairwise (Prod.Lex (· < ·) (· < ·))
          ∧ ∀ pair, pair ∈ block ↔ IsPairNear first second tolerance point pair)
        points blocks

theorem mem_pairsNear_iff {point : Float × Float} {pair : Int × Int}
    : pair ∈ pairsNear first second tolerance point
      ↔ IsPairNear first second tolerance point pair := by
  rw [mem_pairsNear, mem_positions, mem_positions]
  simp [IsPairNear, isNear]

theorem pairwise_pairsNear (point : Float × Float)
    : (pairsNear first second tolerance point).Pairwise (Prod.Lex (· < ·) (· < ·)) :=
  pairwise_product (IndexSet.ascending _) (IndexSet.ascending _)

theorem nodup_pairsNear (point : Float × Float)
    : (pairsNear first second tolerance point).Nodup := by
  refine (pairwise_pairsNear point).imp ?_
  rintro _ _ later rfl
  cases later with
  | left _ _ later => exact absurd later (Int.lt_irrefl _)
  | right _ later => exact absurd later (Int.lt_irrefl _)

theorem arePointwise_pairsNearAny (points : List (Float × Float))
    : ArePointwise first second tolerance points
        (pairsNearAny first second points tolerance) := by
  constructor
  · intro pair
    rw [pairsNearAny, count_flatMap_of_nodup nodup_pairsNear]
    refine List.countP_congr fun point _ => ?_
    simp [mem_pairsNear_iff]
  · refine ⟨points.map (pairsNear first second tolerance), List.flatMap_def .., ?_⟩
    rw [List.forall₂_map_right_iff, List.forall₂_same]
    exact fun point _ => ⟨pairwise_pairsNear point, fun pair => mem_pairsNear_iff⟩

-----------------------------------------------------------------------------------------
-- Moments beside pairs
-----------------------------------------------------------------------------------------

/-- A position whose time is one of some steps. -/
def IsMoment (times : Array Float) (steps : List Float) (moment : Int) : Prop :=
  (0 ≤ moment ∧ moment < times.size) ∧ ∃ step ∈ steps, coordinateAt times moment == step

instance (times : Array Float) (steps : List Float) : DecidablePred (IsMoment times steps) :=
  fun _ => inferInstanceAs (Decidable (_ ∧ _))

/-- Triplets come moment by moment, in ascending order, each with all pairs as they are. So a
triplet of a moment occurs as often as its pair, however often its step is given.
-/
structure AreMomentwise (times : Array Float) (steps : List Float) (pairs : List (Int × Int))
    (triplets : List (Int × Int × Int))
    : Prop where
  counted : ∀ moment i j,
    triplets.count (moment, i, j)
    = if IsMoment times steps moment then pairs.count (i, j) else 0
  ordered : ∃ moments : List Int,
    moments.Pairwise (· < ·)
    ∧ (∀ moment, moment ∈ moments ↔ IsMoment times steps moment)
    ∧ triplets = moments.flatMap fun moment => pairs.map (Prod.mk moment)

theorem mem_amongValues_zero_iff {steps : List Float} {moment : Int}
    : moment ∈ amongValues steps 0.0 times ↔ IsMoment times steps moment := by
  have zero : ((0.0 : Float) == 0.0) = true := by decide
  rw [amongValues, mem_positions, isOneOf_iff]
  simp [zero, IsMoment]

theorem areMomentwise_amongValues (steps : List Float) (pairs : List (Int × Int))
    : AreMomentwise times steps pairs
        ((amongValues steps 0.0 times).toList.flatMap fun moment =>
          pairs.map (Prod.mk moment)) := by
  constructor
  · intro moment i j
    rw [count_pairs_of_nodup (IndexSet.nodup _)]
    simp only [← IndexSet.mem_def, mem_amongValues_zero_iff]
  · exact ⟨_, IndexSet.ascending _, fun moment => mem_amongValues_zero_iff, rfl⟩

end Matching

-----------------------------------------------------------------------------------------
-- Point filters
-----------------------------------------------------------------------------------------

namespace Filter

open Matching

variable {source : Source} {time first second : String}
variable {times firstCoordinates secondCoordinates : Array Float}

/-- Points in a plane find pairs point by point, and points in space and time find them again for
each moment.
-/
theorem points_found_in_order (timesRead : source.coordinate time = .ok times)
    (firstRead : source.coordinate first = .ok firstCoordinates)
    (secondRead : source.coordinate second = .ok secondCoordinates) (steps : List Float)
    (points : List (Float × Float)) (tolerance : Float)
    : ∃ pairs triplets,
        ((point2d first second points tolerance).apply source).outcome
          = .ok (.pairs first second pairs)
        ∧ ArePointwise firstCoordinates secondCoordinates tolerance points pairs
        ∧ ((point3d time first second steps points tolerance).apply source).outcome
          = .ok (.triplets time first second triplets)
        ∧ AreMomentwise times steps pairs triplets := by
  refine ⟨_, _, ?_, arePointwise_pairsNearAny points, ?_, areMomentwise_amongValues steps _⟩
  · simp [apply, firstRead, secondRead, Pure.pure]
  · simp [apply, timesRead, firstRead, secondRead, Pure.pure]

/-- A source of coordinates some of which are no numbers or infinite. -/
def gappy : Source where
  axes := []
  axesOf := fun _ => .ok []
  coordinate := fun name =>
    .ok (if name = "t" then #[5.0, 0.0 / 0.0, 5.0] else #[0.0 / 0.0, 1.0, 1.0 / 0.0])
  points := fun _ _ => .ok []

/-- A point that is given twice finds its pair twice, and a step that is given twice finds no more
than one that is given once.
-/
theorem points_found_in_order_gappy
    : ∃ pairs triplets,
        ((point2d "y" "x" [(1.0, 1.0), (0.0 / 0.0, 1.0), (1.0, 1.0)] 0.5).apply gappy).outcome
          = .ok (.pairs "y" "x" pairs)
        ∧ pairs.count (1, 1) = 2
        ∧ ((point3d "t" "y" "x" [5.0, 0.0 / 0.0, 5.0]
              [(1.0, 1.0), (0.0 / 0.0, 1.0), (1.0, 1.0)] 0.5).apply gappy).outcome
          = .ok (.triplets "t" "y" "x" triplets)
        ∧ triplets.count (2, 1, 1) = 2
        ∧ triplets.count (1, 1, 1) = 0 := by
  have timesRead : gappy.coordinate "t" = .ok #[5.0, 0.0 / 0.0, 5.0] := rfl
  have firstRead : gappy.coordinate "y" = .ok #[0.0 / 0.0, 1.0, 1.0 / 0.0] := rfl
  have secondRead : gappy.coordinate "x" = .ok #[0.0 / 0.0, 1.0, 1.0 / 0.0] := rfl
  obtain ⟨pairs, triplets, pairsFound, pointwise, tripletsFound, momentwise⟩ :=
    points_found_in_order timesRead firstRead secondRead [5.0, 0.0 / 0.0, 5.0]
      [(1.0, 1.0), (0.0 / 0.0, 1.0), (1.0, 1.0)] 0.5
  have twice : pairs.count (1, 1) = 2 := by
    rw [pointwise.counted]
    decide
  refine ⟨pairs, triplets, pairsFound, twice, tripletsFound, ?_, ?_⟩
  · rw [momentwise.counted, if_pos (by decide), twice]
  · rw [momentwise.counted, if_neg (by decide)]

end Filter

end GridTable
