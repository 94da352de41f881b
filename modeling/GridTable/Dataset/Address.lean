import GridTable.Dataset.Reading
import GridTable.Json.Block
import GridTable.Pieces

/-! Reading at addresses given as JSON values.
A single cell is addressed by integers alone; an entry may also pick several places along its
dimension, which are no single cell. Along with the cell, what describes it is looked up. For
many cells at once the entries of the addresses are turned into integers of 64 bits.
-/

namespace GridTable

-----------------------------------------------------------------------------------------
-- Picks along a dimension
-----------------------------------------------------------------------------------------

/-- What an entry of an address picks along its dimension. -/
inductive Pick where
  | one (index : Int)
  /-- One truth value for each place: whether it is picked. -/
  | choices (flags : List Bool)
  | places (indices : List Int)
  /-- A list of other values; `gaps` tells whether it holds nulls and truth values only. -/
  | unusable (gaps : Bool)
  /-- Nothing: the entry is neither an integer nor a list. -/
  | nothing

namespace Pick

def flag? : Json → Option Bool
  | .bool value => some value
  | _ => none

/-- The integer that an entry is without conversion. -/
def integer? : Json → Option Int
  | .bool value => some (if value then 1 else 0)
  | .int value => some value
  | _ => none

def isGap : Json → Bool
  | .null | .bool _ => true
  | _ => false

/-- The word with a sign that has the bits of a word. -/
def signed (n : Int) : Int :=
  Int.bmod n (Nat.pow 2 64)

/-- Whether words of one sort hold all integers of a list. Truth values fit every sort. -/
def areOfOneSort (entries : List Json) (integers : List Int) : Bool :=
  integers.all fitsWord
    || (entries.zip integers).all fun (entry, n) => (flag? entry).isSome || needsUnsigned n

/-- What a list of entries picks. -/
def ofList (entries : List Json) : Pick :=
  match entries.mapM flag?, entries.mapM integer? with
  | some [], _ => places []
  | some flags, _ => choices flags
  | none, some integers =>
      if areOfOneSort entries integers then places (integers.map signed) else unusable false
  | none, none => unusable (entries.all isGap)

/-- Whether a list of places holds texts and nothing that has no text of its own. -/
def isTextual (entries : List Json) : Bool :=
  entries.any Json.isText
    && entries.all fun
      | .null | .obj _ => false
      | .int value => fitsWord value || needsUnsigned value
      | _ => true

/-- What an entry picks. Texts stand for labels, and a dimension without labels has none. -/
def ofEntry (labelled : Bool) : Json → Except Fault Pick
  | .int index => .ok (one index)
  | .str "" => .ok (places [])
  | entry =>
      match Block.ofJson? entry with
      | none => .error .badValue
      | some block =>
          if isTextual block.entries && !labelled then .error .missingKey
          else
            match block.shape with
            | [] => .ok nothing
            | [_] => .ok (ofList block.entries)
            | _ => .error .badIndex

def index? : Pick → Option Int
  | one index => some index
  | _ => none

def isList : Pick → Bool
  | one _ | nothing => false
  | _ => true

/-- The number of places that are picked. -/
def count : Pick → Nat
  | choices flags => flags.count true
  | places indices => indices.length
  | _ => 1

/-- Whether a pick can stand beside lists of places. -/
def isUsable : Pick → Bool
  | one index => fitsWord index || needsUnsigned index
  | choices _ | places _ => true
  | unusable _ | nothing => false

/-- The indices that are looked up as words. -/
def indices : Pick → List Int
  | one index => [signed index]
  | places indices => indices
  | _ => []

/-- Truth values must be as many as there are places, and pick from no variable that has a
dimension twice.
-/
def choicesFault? (axes : List Axis) (axis : Axis) : Pick → Option Fault
  | choices flags =>
      if (axes.map Axis.name).eraseDups.length ≠ axes.length then some .badValue
      else if flags.length ≠ axis.size then some .badIndex
      else none
  | _ => none

end Pick

-----------------------------------------------------------------------------------------
-- Picking from variables and labels
-----------------------------------------------------------------------------------------

namespace Variable

/-- The picks that concern a variable, one for each dimension. -/
def concerned (stored : Variable) (picks : List (String × Pick)) : List (Axis × Pick) :=
  stored.axes.map fun axis => (axis, (Keyed.find? axis.name picks).getD .nothing)

/-- Why lists of places, and perhaps indices beside them, cannot be picked from a variable. If
nothing is left, indices are not looked up.
-/
def listsFault? (stored : Variable) (picks : List (Axis × Pick)) : Option Fault :=
  match picks.findSome? fun (axis, pick) => pick.choicesFault? stored.axes axis with
  | some fault => some fault
  | none =>
      if !(picks.all fun (_, pick) => pick.isUsable) then some .badType
      else if picks.any fun (_, pick) => pick.count == 0 then none
      else picks.findSome? fun (axis, pick) => stored.placesFault? axis.size pick.indices

/-- Why picks cannot be picked from a variable. -/
def pickFault? (stored : Variable) (picks : List (String × Pick)) : Option Fault :=
  let concerned := stored.concerned picks
  match concerned.mapM fun (axis, pick) => pick.index?.map fun index => (axis, index) with
  | some indices => stored.indicesFault? indices
  | none => stored.listsFault? concerned

/-- What an entry picks along the dimension of a name, without a look at labels. -/
def pickAlong (stored : Variable) (name : String) (entry : Json) : Except Fault Pick := do
  let pick ← Pick.ofEntry true entry
  let axis? := stored.axes.find? (·.name == name)
  match axis?.bind fun axis => pick.choicesFault? stored.axes axis with
  | some fault => .error fault
  | none => pure pick

/-- Why a list of places cannot be picked from the labels of a dimension. -/
def labelFault? (stored : Variable) (size : Nat) : Pick → Option Fault
  | .choices flags => if flags.length = size then none else some .badIndex
  | .places indices => stored.placesFault? size indices
  | .unusable gaps => some (if gaps then .badValue else .badIndex)
  | .one _ | .nothing => none

end Variable

namespace Dataset

-----------------------------------------------------------------------------------------
-- Single cells
-----------------------------------------------------------------------------------------

/-- Why what describes the cells of a variable cannot be picked from: first labels by lists of
places, then everything else.
-/
def describingFault? (dataset : Dataset) (stored : Variable) (picks : List (String × Pick))
    : Option Fault :=
  let pickOf (other : Variable) := (Keyed.find? other.name picks).getD .nothing
  let others := dataset.attached stored
  let byLists := others.filter fun other => other.isLabel && (pickOf other).isList
  let labels := byLists.findSome? fun other =>
    other.axes.findSome? fun axis => other.labelFault? axis.size (pickOf other)
  labels.or
    ((others.filter fun other => !(other.isLabel && (pickOf other).isList)).findSome?
      fun other => other.pickFault? picks)

/-- Integers and lists that begin with one, or with a truth value, need no look at labels. -/
def isPositional : Json → Bool
  | .int _ | .arr [] | .arr (.int _ :: _) | .arr (.bool _ :: _) => true
  | _ => false

/-- Whether integers and truth values stand in one list. -/
def isMixed : Json → Bool
  | .arr entries =>
      entries.any (Pick.flag? · |>.isSome) && !(entries.all (Pick.flag? · |>.isSome))
  | _ => false

/-- Truth values among integers are no indices of labels that are texts. -/
def mixtureFault? (dataset : Dataset) (stored : Variable) (entries : List (String × Json))
    : Option Fault :=
  if (dataset.attached stored).any fun other =>
      other.isLabel && other.holdsTexts && (Keyed.find? other.name entries).any isMixed
    then some .badIndex
    else none

/-- The picks of an address that needs no look at labels. The cell is looked up before what
describes it.
-/
def positionalPicks (dataset : Dataset) (stored : Variable) (entries : List (String × Json))
    : Except Fault (List (String × Pick)) := do
  let picks ← entries.mapM fun (name, entry) => do
    let pick ← stored.pickAlong name entry
    pure (name, pick)
  let fault? :=
    (stored.pickFault? picks).or
      ((dataset.mixtureFault? stored entries).or (dataset.describingFault? stored picks))
  fault?.elim (.ok picks) .error

/-- The picks of any other address. What describes the cell is looked up before it. -/
def labelledPicks (dataset : Dataset) (stored : Variable) (entries : List (String × Json))
    : Except Fault (List (String × Pick)) := do
  let picks ← entries.mapM fun (name, entry) => do
    let pick ← Pick.ofEntry (dataset.isLabelled name) entry
    pure (name, pick)
  let fault? := (dataset.describingFault? stored picks).or (stored.pickFault? picks)
  fault?.elim (.ok picks) .error

/-- The offset of the cell that an address gives; none if it picks lists of places. -/
def givenOffset (dataset : Dataset) (stored : Variable) (address : List Json)
    : Except Fault (Option Nat) := do
  let entries := Keyed.collect ((stored.axes.map Axis.name).zip address)
  let picks ←
    if entries.all fun (_, entry) => isPositional entry
      then dataset.positionalPicks stored entries
      else dataset.labelledPicks stored entries
  let cell? := (stored.concerned picks).mapM fun (_, pick) => pick.index?
  pure (cell?.bind (Variable.offset? stored.axes))

/-- The value of the cell at a given address. A message shows at most `levels` lists and objects
in each other of an entry.
-/
def scalarGiven (levels : Nat) (dataset : Dataset) (field : String) (address : Json)
    : Except Failure Float := do
  let stored ← dataset.findReadable field
  let entries ← address.items
  let shown := Text.parenthesized <$> entries.mapM (Json.shown levels)
  checkEntryCount field shown entries.length stored.rank
  match dataset.givenOffset stored entries with
  | .ok (some offset) => stored.alone offset
  | .ok none => raiseFault .badType
  | .error fault => scalarFailure field shown fault

-----------------------------------------------------------------------------------------
-- Many cells
-----------------------------------------------------------------------------------------

/-- An entry as an integer of 64 bits. -/
def wordOf (entry : Json) : Except Failure Int := do
  let index ← entry.toInt
  if fitsWord index then pure index else raiseFault .overflow

/-- The values of the cells at given addresses, read at once. The addresses may be nested in
any form; their entries are taken in order, one for each dimension.
-/
def pointsGiven (dataset : Dataset) (field : String) (addresses : Json)
    : Except Failure (List Float) := do
  let stored ← dataset.findReadable field
  let count := (← addresses.items).length
  if count = 0 then pure []
  else
    match Block.ofJson? addresses with
    | none => raiseFault .badValue
    | some block =>
        let indices ← block.entries.mapM wordOf
        if indices.length = count * stored.rank
          then dataset.points field (pieces stored.rank indices)
          else raiseFault .badValue

/-- The values of the cells at given addresses, read one by one. -/
def pointsGivenOneByOne (levels : Nat) (dataset : Dataset) (field : String) (addresses : Json)
    : Except Failure (List Float) := do
  (← addresses.items).mapM (dataset.scalarGiven levels field)

end Dataset

end GridTable
