import AnalyticsClient.Text.Blank
import AnalyticsClient.Wire.Source

/-! The management operations, by name and by code. -/

namespace AnalyticsClient

/-- A management operation, or `unknown` for anything that is none. -/
inductive Operation where
  | unknown
  | createDataverse
  | createDataset
  | createIndex
  | getAllDatasets
  | getAllIndexes
  | dropDataverse
  | dropDataset
  | dropIndex
  | getPendingMutations
  | linkCreate
  | linkConnect
  | getAllLinks
  | linkDisconnect
  | linkReplace
  | dropLink
deriving DecidableEq, Repr

namespace Operation

/-- The operations in the order of their codes, which start at one. -/
def all : List Operation :=
  [.createDataverse, .createDataset, .createIndex, .getAllDatasets, .getAllIndexes,
    .dropDataverse, .dropDataset, .dropIndex, .getPendingMutations, .linkCreate, .linkConnect,
    .getAllLinks, .linkDisconnect, .linkReplace, .dropLink]

/-- The name of an operation. -/
def name : Operation → String
  | .unknown => "UNKNOWN"
  | .createDataverse => "CREATE_DATAVERSE"
  | .createDataset => "CREATE_DATASET"
  | .createIndex => "CREATE_INDEX"
  | .getAllDatasets => "GET_ALL_DATASETS"
  | .getAllIndexes => "GET_ALL_INDEXES"
  | .dropDataverse => "DROP_DATAVERSE"
  | .dropDataset => "DROP_DATASET"
  | .dropIndex => "DROP_INDEX"
  | .getPendingMutations => "GET_PENDING_MUTATIONS"
  | .linkCreate => "LINK_CREATE"
  | .linkConnect => "LINK_CONNECT"
  | .getAllLinks => "GET_ALL_LINKS"
  | .linkDisconnect => "LINK_DISCONNECT"
  | .linkReplace => "LINK_REPLACE"
  | .dropLink => "DROP_LINK"

/-- The code of an operation, zero for an unknown one. -/
def code : Operation → UInt8
  | .unknown => 0
  | .createDataverse => 1
  | .createDataset => 2
  | .createIndex => 3
  | .getAllDatasets => 4
  | .getAllIndexes => 5
  | .dropDataverse => 6
  | .dropDataset => 7
  | .dropIndex => 8
  | .getPendingMutations => 9
  | .linkCreate => 10
  | .linkConnect => 11
  | .getAllLinks => 12
  | .linkDisconnect => 13
  | .linkReplace => 14
  | .dropLink => 15

/-- Whether an operation is one that can be submitted. -/
def isKnown (operation : Operation) : Bool := operation != .unknown

/-- The operation of a name, blanks around the name left aside. -/
def ofName (name : String) : Operation :=
  -- Nothing but the blanks around a name is forgiven.
  let trimmed := Text.trim name
  (all.find? fun operation => operation.name = trimmed).getD .unknown

/-- The operation whose code is a byte; a byte that is no code stands for an unknown operation. -/
def ofByte (byte : UInt8) : Operation :=
  -- The codes start at one, and the places in the list at zero.
  if known : 1 ≤ byte.toNat ∧ byte.toNat ≤ 15 then
    all.get ⟨byte.toNat - 1, by simp only [all, List.length_cons, List.length_nil]; omega⟩
  else .unknown

/-- The operation of a number, which is unknown if the number does not fit a byte. -/
def ofCode (code : Int) : Operation :=
  if 0 ≤ code ∧ code < UInt8.size then ofByte (.ofNat code.toNat) else .unknown

/-- All names, with blanks between them. -/
def allNames : String := " ".intercalate (all.map name)

/-- An operation as a plain value. -/
def encode (operation : Operation) : Json := .str operation.name

/-- Reads an operation from its name or its code; any other text or number is an unknown one. -/
def decode {σ : Type} [Wire.Source σ] : Wire.Decoder σ Operation := fun source =>
  match Wire.Source.view source with
  | .str name => .ok (ofName name)
  | .int code => .ok (ofCode code)
  | other => Wire.unexpected "an operation name or numeric code" other

/-- An operation is the one of its code. -/
theorem ofByte_code (operation : Operation) : ofByte operation.code = operation := by
  cases operation <;> rfl

end Operation

end AnalyticsClient
