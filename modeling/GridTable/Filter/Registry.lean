import GridTable.Filter.Arguments
import GridTable.Keyed

/-! The registry of filters: what is built for a kind.
A kind that is registered anew gets a new title and new dimensions.
-/

namespace GridTable.Filter

/-- What is built for a kind: a filter out of parameters, or something with fixed dimensions. -/
inductive Recipe where
  | builtIn (kind : Kind)
  | fixed (title : String) (dimensions : List String)
  deriving Repr, DecidableEq

structure Registry where
  recipes : List (String × Recipe)

namespace Registry

def standard : Registry where
  recipes := Kind.all.map fun kind => (kind.word, .builtIn kind)

/-- The words of all kinds, by code point. -/
def words (registry : Registry) : List String :=
  Text.ascending (Keyed.names registry.recipes)

/-- Registers a recipe. A kind that is known already is reported. -/
def register (registry : Registry) (word : String) (recipe : Recipe) : Traced Registry := do
  if (Keyed.find? word registry.recipes).isSome then
    Traced.log LogRecord.warningLevel "filters"
      ("Filter kind '" ++ word ++ "' already registered, overwriting")
  pure ⟨Keyed.assign word recipe registry.recipes⟩

/-- The recipe of a kind given as a JSON value. -/
def recipe (registry : Registry) (kind : Json) : Except Failure Recipe :=
  let unknown := do misconfigured "filter kind" (.kindUnregistered (← kind.shown 0) registry.words)
  match kind with
  | .str word => (Keyed.find? word registry.recipes).elim unknown pure
  | .arr _ | .obj _ => raiseFault .badType
  | _ => unknown

/-- The label of what is built for a kind without any parameters. -/
def buildLabel (registry : Registry) (kind : Json) : Except Failure String := do
  match ← registry.recipe kind with
  | .builtIn _ => raiseFault .missingAttribute
  | .fixed title dimensions => pure (labelOf title dimensions)

end Registry

end GridTable.Filter
