import GridTable.Dataset.Reading
import GridTable.FileStore

/-! Opening datasets in a store.
What cannot be opened is an error of the source. What has the look of a dataset is opened by the
text of its path alone, whether there is one or not.
-/

namespace GridTable

/-- Each dimension with its size. -/
def Dataset.shownSizes (dataset : Dataset) : String :=
  let parts := dataset.axes.map fun axis => Text.quoted axis.name ++ ": " ++ toString axis.size
  "\x7b" ++ Text.commaList parts ++ "\x7d"

namespace FileStore

/-- The endings of the names of dataset files. -/
def datasetEndings : List String :=
  [".nc", ".nc4", ".cdf"]

/-- The dataset at the place that the text of a path names, with a tilde in front read as a home
folder and without a look at folders before double dots.
-/
def datasetNamed (store : FileStore) (path : Path) : Except Fault Dataset :=
  match store.fetch (Path.ofText (Path.expandUser store.homes path.text)).collapsed with
  | .ok (.file (.dataset content)) => .ok content
  | .ok _ => .error .unknownFormat
  | .error fault => .error fault

/-- What the content of dataset files starts with. -/
def datasetMark : String :=
  "CDF"

/-- Whether a path leads to what has the look of a dataset: files by their content, anything
else by its name.
-/
def looksLikeDataset (path : Path) : Option Entry → Bool
  | some (.file (.dataset _)) => true
  | some (.file (.text content)) => datasetMark.toList.isPrefixOf content.toList
  | some (.file (.table _)) => false
  | some .folder | none => datasetEndings.contains path.suffix

/-- The dataset that a path leads to. What may not be read has the look of nothing. -/
def dataset (store : FileStore) (path : Path) : Except Fault Dataset :=
  match store.fetch path with
  | .ok entry =>
      if looksLikeDataset path (some entry) then store.datasetNamed path else .error .badValue
  | .error .accessDenied => .error .badValue
  | .error .fileMissing =>
      if looksLikeDataset path none then store.datasetNamed path else .error .fileMissing
  | .error _ => .error .fileMissing

def openDataset (store : FileStore) (path : Path) : Traced Dataset :=
  match store.dataset path with
  | .error fault =>
      Traced.fail (.dataSource "open" ⟨"Failed to open " ++ path.text ++ ": ", some fault⟩)
  | .ok dataset => do
      Traced.debug "io.data_source"
        ("Opened dataset " ++ path.text ++ " with dimensions " ++ dataset.shownSizes)
      pure dataset

end FileStore

end GridTable
