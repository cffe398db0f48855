import AnalyticsClient.Catalog.Dataset
import AnalyticsClient.Catalog.Link
import AnalyticsClient.Operation.Kind
import AnalyticsClient.Wire.Variants

/-! What the engine answers to management operations. -/

namespace AnalyticsClient

/-- The kinds of answer. -/
inductive OutputKind where
  | unit
  | datasets
  | indexes
  | links
  | pendingMutations
deriving DecidableEq, Repr

/-- The name of a kind of answer. -/
def OutputKind.name : OutputKind → String
  | .unit => "Unit"
  | .datasets => "Datasets"
  | .indexes => "Indexes"
  | .links => "Links"
  | .pendingMutations => "PendingMutations"

/-- The kind of answer that an operation is due, which an unknown one has not. -/
def Operation.expectedOutput : Operation → Option OutputKind
  | .unknown => none
  | .getAllDatasets => some .datasets
  | .getAllIndexes => some .indexes
  | .getAllLinks => some .links
  | .getPendingMutations => some .pendingMutations
  | .createDataverse | .createDataset | .createIndex | .dropDataverse | .dropDataset | .dropIndex
  | .linkCreate | .linkConnect | .linkDisconnect | .linkReplace | .dropLink => some .unit

/-- An answer. -/
inductive Output where
  | unit
  | datasets (datasets : List Dataset)
  | indexes (indexes : List Index)
  | links (links : List Link)
  /-- By dataverse and dataset, how many changes are still to be taken in. -/
  | pendingMutations (counts : Dict (Dict UInt64))
deriving DecidableEq

namespace Output

/-- The kind of an answer. -/
def kind : Output → OutputKind
  | .unit => .unit
  | .datasets _ => .datasets
  | .indexes _ => .indexes
  | .links _ => .links
  | .pendingMutations _ => .pendingMutations

/-- An answer as a plain value. -/
def encode (output : Output) : Json :=
  let name := output.kind.name
  match output with
  | .unit => .str name
  | .datasets found => .obj [(name, .arr (found.map Dataset.encode))]
  | .indexes found => .obj [(name, .arr (found.map Index.encode))]
  | .links found => .obj [(name, .arr (found.map Link.encode))]
  | .pendingMutations counts =>
    .obj [(name, .ofDict (.ofDict fun count => .nat count.toNat) counts)]

/-- The names of the kinds of answer, in the order of their declaration. -/
def names : List String := ["Unit", "Datasets", "Indexes", "Links", "PendingMutations"]

/-- Reads an answer. -/
def decode {σ : Type} [Wire.JsonSource σ] : Wire.Decoder σ Output :=
  Wire.variant names fun name payload =>
    match name with
    | "Unit" => payload.unit.map fun _ => .unit
    | "Datasets" => (payload.value (Wire.list Dataset.decode)).map .datasets
    | "Indexes" => (payload.value (Wire.list Index.decode)).map .indexes
    | "Links" => (payload.value (Wire.list Link.decode)).map .links
    | "PendingMutations" =>
      (payload.value (Wire.dict (Wire.dict Wire.u64))).map .pendingMutations
    | _ => .error (.unknownVariant name names)

end Output

end AnalyticsClient
