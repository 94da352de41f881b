import GridTable.Proofs.Selection.InPlace
import GridTable.Proofs.Selection.Reordering

/-! Findings that may name a dimension more than once. Their groups hold several indices for it,
which are put in place one after the other, so that the last one counts.
-/

namespace GridTable

namespace Finding

/-- The index that a group has for a dimension, of several ones the last. -/
def lastIndex (names : List String) (group : List Int) (name : String) : Int :=
  (Keyed.find? name (Keyed.collect (names.zip group))).getD 0

theorem lastIndex_concat {names : List String} {group : List Int}
    (sized : group.length = names.length) (last name : String) (index : Int)
    : lastIndex (names ++ [last]) (group ++ [index]) name
      = if last = name then index else lastIndex names group name := by
  rw [lastIndex, List.zip_append sized.symm, List.zip_cons_cons, List.zip_nil_left,
    Keyed.collect_concat]
  split
  · next same => rw [same, Keyed.find?_assign_self, Option.getD_some]
  · next different => rw [Keyed.find?_assign_of_ne different, lastIndex]

/-- A finding keeps a cell by last indices if these are, for one of its groups, those of the cell
along all of its dimensions.
-/
def KeepsLast (dimensions : List String) (cell : CellIndex) (finding : Finding) : Prop :=
  ∃ group ∈ finding.groups,
    ∀ name ∈ finding.dimensions,
      entryAlong dimensions cell name = lastIndex finding.dimensions group name

instance (dimensions : List String) (cell : CellIndex)
    : DecidablePred (Finding.KeepsLast dimensions cell) :=
  fun finding =>
    inferInstanceAs (Decidable (∃ group ∈ finding.groups, ∀ name ∈ finding.dimensions,
      entryAlong dimensions cell name = lastIndex finding.dimensions group name))

/-- Of different dimensions each has one index. -/
theorem map_lastIndex {names : List String} (hd : names.Nodup) {group : List Int}
    (hl : group.length = names.length)
    : names.map (lastIndex names group) = group := by
  refine List.ext_getElem (by simp [hl]) fun position hp hg => ?_
  have own := Keyed.find?_collect_zip hd hl (by simpa using hp) hg
  rw [List.getElem_map, lastIndex, own, Option.getD_some]

/-- Where a finding names no dimension twice, it keeps cells by its whole groups. -/
theorem keepsLast_iff_keeps {finding : Finding} (apart : finding.dimensions.Nodup)
    {dimensions : List String} {cell : CellIndex}
    : finding.KeepsLast dimensions cell ↔ finding.Keeps dimensions cell := by
  rw [keeps_iff_mem_groups]
  constructor
  · intro keeps
    obtain ⟨group, hg, same⟩ := keeps
    rw [List.map_congr_left same, map_lastIndex apart (length_of_mem_groups hg)]
    exact hg
  · intro hg
    refine ⟨_, hg, List.map_inj_left.mp ?_⟩
    exact (map_lastIndex apart (length_of_mem_groups hg)).symm

end Finding

namespace Selection

variable {dimensions names : List String} {cell : CellIndex}

theorem entryAlong_set_self {name : String} (known : name ∈ dimensions)
    (whole : cell.length = dimensions.length) (value : Int)
    : entryAlong dimensions (cell.set (dimensions.idxOf name) value) name = value := by
  have inside : dimensions.idxOf name < cell.length := by
    rw [whole]
    exact List.idxOf_lt_length_of_mem known
  simp [entryAlong, List.getD_eq_getElem?_getD, inside]

theorem entryAlong_set_of_ne {name other : String} (known : name ∈ dimensions)
    (different : name ≠ other) (cell : CellIndex) (value : Int)
    : entryAlong dimensions (cell.set (dimensions.idxOf name) value) other
      = entryAlong dimensions cell other := by
  have apart : dimensions.idxOf name ≠ dimensions.idxOf other :=
    fun same => different ((List.idxOf_inj known).mp same)
  simp [entryAlong, List.getD_eq_getElem?_getD, apart]

/-- Placing a group leaves its last index along each of its dimensions, and the cell elsewhere. The
induction is from the last dimension on, whose index overwrites what was placed there.
-/
theorem entryAlong_place (known : ∀ name ∈ names, name ∈ dimensions)
    (whole : cell.length = dimensions.length) {group : List Int}
    (sized : group.length = names.length) (name : String)
    : entryAlong dimensions (place (names.map dimensions.idxOf) group cell) name
      = if name ∈ names then Finding.lastIndex names group name
        else entryAlong dimensions cell name := by
  induction names using List.reverseRecOn generalizing group with
  | nil => rfl
  | append_singleton rest last ih =>
      obtain ⟨hrest, hlast⟩ := List.forall_mem_append.mp known
      have own := hlast last (List.mem_singleton_self last)
      have filled : group ≠ [] := by
        intro none
        simp [none] at sized
      obtain ⟨earlier, index, rfl⟩ := (List.eq_nil_or_concat' group).resolve_left filled
      have sized : earlier.length = rest.length := by simpa using sized
      have placed : place ((rest ++ [last]).map dimensions.idxOf) (earlier ++ [index]) cell
          = (place (rest.map dimensions.idxOf) earlier cell).set (dimensions.idxOf last)
              index := by
        simp [place, List.zip_append, sized]
      rw [placed, Finding.lastIndex_concat sized]
      by_cases same : last = name
      · subst same
        rw [entryAlong_set_self own (by simpa using whole), if_pos (by simp), if_pos rfl]
      · rw [entryAlong_set_of_ne own same, ih hrest sized, if_neg same]
        simp [Ne.symm same]

/-- Placing a group changes nothing just if the cell has its last indices. -/
theorem place_eq_self_iff (distinct : dimensions.Nodup) (known : ∀ name ∈ names, name ∈ dimensions)
    (whole : cell.length = dimensions.length) {group : List Int}
    (sized : group.length = names.length)
    : place (names.map dimensions.idxOf) group cell = cell
      ↔ ∀ name ∈ names,
          entryAlong dimensions cell name = Finding.lastIndex names group name := by
  have placed (name : String) := entryAlong_place known whole sized name
  constructor
  · intro same name hn
    have own := placed name
    rwa [same, if_pos hn] at own
  · intro own
    -- Each position is that of a dimension, as no two of them have one name.
    refine List.ext_getElem (length_place _ _ _) fun position hp hq => ?_
    have inside : position < dimensions.length := whole ▸ hq
    have along := placed dimensions[position]
    rw [ite_eq_right_iff.mpr fun hn => (own _ hn).symm, entryAlong_getElem distinct _ inside,
      entryAlong_getElem distinct _ inside] at along
    simpa [List.getD_eq_getElem?_getD, hp, hq] using along

/-- A finding drops just the cells that it does not keep by last indices. -/
theorem mem_enumerate_folded_iff_keepsLast {selection : Selection} (valid : selection.Valid)
    (distinct : selection.dimensions.Nodup) {finding : Finding}
    (applies : finding.AppliesTo selection.dimensions)
    : cell ∈ (selection.folded finding).enumerate
      ↔ cell ∈ selection.enumerate ∧ finding.KeepsLast selection.dimensions cell := by
  rcases applies.single_or_isJoint with ⟨name, indices, rfl⟩ | joint
  · have apart : (Finding.single name indices).dimensions.Nodup := List.nodup_singleton name
    rw [Finding.keepsLast_iff_keeps apart]
    exact mem_enumerate_folded valid distinct applies apart
  · rw [mem_enumerate_folded_iff_admits valid applies, Finding.admits_of_isJoint joint]
    refine and_congr_right fun hm => exists_congr fun group => and_congr_right fun hg => ?_
    exact place_eq_self_iff distinct applies.known (length_of_mem_enumerate valid hm)
      (Finding.length_of_mem_groups hg)

/-- A run of findings drops just the cells that one of them does not keep, by induction on the
findings.
-/
theorem mem_enumerate_foldl_folded_iff_keepsLast {selection : Selection} (valid : selection.Valid)
    (distinct : selection.dimensions.Nodup) {findings : List Finding}
    (applies : ∀ finding ∈ findings, finding.AppliesTo selection.dimensions)
    : cell ∈ (findings.foldl folded selection).enumerate
      ↔ cell ∈ selection.enumerate
        ∧ ∀ finding ∈ findings, finding.KeepsLast selection.dimensions cell := by
  induction findings generalizing selection with
  | nil => simp
  | cons finding rest ih =>
      obtain ⟨hfirst, hrest⟩ := List.forall_mem_cons.mp applies
      rw [List.foldl_cons,
        ih (valid.folded hfirst) (by simpa using distinct) (by simpa using hrest),
        mem_enumerate_folded_iff_keepsLast valid distinct hfirst, dimensions_folded, and_assoc,
        List.forall_mem_cons]

/-- From the selection of all cells on, findings keep the cells of the grid that all of them keep
that apply.
-/
theorem mem_enumerate_foldl_attempt {axes : List Axis} (distinct : (axes.map Axis.name).Nodup)
    (findings : List Finding)
    : cell ∈ (findings.foldl attempt (ofAxes axes)).enumerate
      ↔ InGrid axes cell
        ∧ ∀ finding ∈ findings,
            finding.AppliesTo (axes.map Axis.name)
            → finding.KeepsLast (axes.map Axis.name) cell := by
  have valid := valid_ofAxes axes
  have applies : ∀ finding ∈ findings.filter (·.AppliesTo (ofAxes axes).dimensions),
      finding.AppliesTo (ofAxes axes).dimensions := by
    intro finding hm
    simpa using (List.mem_filter.mp hm).2
  rw [foldl_attempt_eq valid, mem_enumerate_foldl_folded_iff_keepsLast valid distinct applies,
    mem_enumerate_ofAxes (Axis.consistent_of_nodup distinct)]
  simp only [List.mem_filter, decide_eq_true_eq, and_imp]
  rfl

end Selection

end GridTable
