import GridTable.Extraction
import GridTable.Json.Shown

/-! Jobs: what is extracted, from where and to where.
Names are not empty and limits are positive; a job that breaks this cannot be built.
-/

namespace GridTable

structure Job where
  input : String
  field : String
  output : String
  filters : List Filter
  maxRows : Option Int
  batchSize : Int
  /-- The codec of the table file, which may be any value. -/
  compression : Json
  input_ne : input ≠ ""
  field_ne : field ≠ ""
  output_ne : output ≠ ""
  maxRows_pos : ∀ limit ∈ maxRows, 0 < limit
  batchSize_pos : 0 < batchSize

namespace Job

/-- The codec unless a job says otherwise. -/
def defaultCompression : Json :=
  .str "snappy"

/-- A text that is not empty. -/
def checkText (item : String) : Json → Except Failure { text : String // text ≠ "" }
  | .str text =>
      if h : text = "" then misconfigured item .emptyText else pure ⟨text, h⟩
  | _ => misconfigured item .emptyText

def checkPositive (item : String) (value : Int) : Except Failure { n : Int // 0 < n } :=
  if h : 0 < value then pure ⟨value, h⟩
  else do misconfigured item (.notPositive (← Decimal.integerText value))

def checkMaxRows
    : Option Int → Except Failure { rows : Option Int // ∀ limit ∈ rows, 0 < limit }
  | none => pure ⟨none, by simp⟩
  | some value => do
      let ⟨limit, h⟩ ← checkPositive "max_rows" value
      pure ⟨some limit, by simpa using h⟩

/-- The job with given settings, if they are possible ones. -/
def build (input field output : Json) (filters : List Filter) (maxRows : Option Int)
    (batchSize : Int) (compression : Json)
    : Except Failure Job := do
  let ⟨input, input_ne⟩ ← checkText "nc_key" input
  let ⟨field, field_ne⟩ ← checkText "variable_name" field
  let ⟨output, output_ne⟩ ← checkText "parquet_key" output
  let ⟨maxRows, maxRows_pos⟩ ← checkMaxRows maxRows
  let ⟨batchSize, batchSize_pos⟩ ← checkPositive "batch_size" batchSize
  pure
    {
      input, field, output, filters, maxRows, batchSize, compression, input_ne, field_ne,
      output_ne, maxRows_pos, batchSize_pos
    }

def withFilters (job : Job) (filters : List Filter) : Job :=
  { job with filters }

/-- The job with another row limit. -/
def withMaxRows (job : Job) (limit : Int) : Except Failure Job := do
  let ⟨maxRows, maxRows_pos⟩ ← checkMaxRows (some limit)
  pure { job with maxRows, maxRows_pos }

/-- The words for the kinds of the filters, in order. -/
def filterKinds (job : Job) : List String :=
  job.filters.map fun filter => filter.kind.word

end Job

end GridTable
