import AnalyticsClient.Operation.Arguments
import AnalyticsClient.Operation.Descriptor
import AnalyticsClient.Json.Printer
import AnalyticsClient.Error

/-! Commands: operations with their arguments understood, and how a descriptor becomes one. -/

namespace AnalyticsClient

/-- An operation that can be submitted, with its arguments. -/
inductive Command where
  | createDataverse (args : CreateDataverse)
  | createDataset (args : CreateDataset)
  | createIndex (args : CreateIndex)
  | getAllDatasets
  | getAllIndexes
  | dropDataverse (args : DropDataverse)
  | dropDataset (args : DropDataset)
  | dropIndex (args : DropIndex)
  | getPendingMutations
  | linkCreate (args : LinkChange)
  | linkConnect (args : LinkConnect)
  | getAllLinks (args : LinkListing)
  | linkDisconnect (args : LinkDisconnect)
  | linkReplace (args : LinkChange)
  | dropLink (args : DropLink)
deriving DecidableEq

namespace Command

/-- The operation of a command. -/
def operation : Command → Operation
  | .createDataverse _ => .createDataverse
  | .createDataset _ => .createDataset
  | .createIndex _ => .createIndex
  | .getAllDatasets => .getAllDatasets
  | .getAllIndexes => .getAllIndexes
  | .dropDataverse _ => .dropDataverse
  | .dropDataset _ => .dropDataset
  | .dropIndex _ => .dropIndex
  | .getPendingMutations => .getPendingMutations
  | .linkCreate _ => .linkCreate
  | .linkConnect _ => .linkConnect
  | .getAllLinks _ => .getAllLinks
  | .linkDisconnect _ => .linkDisconnect
  | .linkReplace _ => .linkReplace
  | .dropLink _ => .dropLink

/-- The arguments of a command as a plain value, null where there are none. -/
def arguments : Command → Json
  | .createDataverse args => args.encode
  | .createDataset args => args.encode
  | .createIndex args => args.encode
  | .getAllDatasets => .null
  | .getAllIndexes => .null
  | .dropDataverse args => args.encode
  | .dropDataset args => args.encode
  | .dropIndex args => args.encode
  | .getPendingMutations => .null
  | .linkCreate args => args.encode
  | .linkConnect args => args.encode
  | .getAllLinks args => args.encode
  | .linkDisconnect args => args.encode
  | .linkReplace args => args.encode
  | .dropLink args => args.encode

/-- Fails with the first argument that is wrong. -/
def validate : Command → Except Defect Unit
  | .createDataverse args => args.validate
  | .createDataset args => args.validate
  | .createIndex args => args.validate
  | .getAllDatasets | .getAllIndexes | .getPendingMutations => .ok ()
  | .dropDataverse args => args.validate
  | .dropDataset args => args.validate
  | .dropIndex args => args.validate
  | .linkCreate args => args.validate
  | .linkConnect args => args.validate
  | .getAllLinks args => args.validate
  | .linkDisconnect args => args.validate
  | .linkReplace args => args.validate
  | .dropLink args => args.validate

/-- Reads the arguments of an operation, those that take none aside; none for an unknown one. -/
def decodeFor? {σ : Type} [Wire.JsonSource σ] : Operation → Option (Wire.Decoder σ Command)
  | .unknown => none
  | .createDataverse => some fun source => (CreateDataverse.decode source).map .createDataverse
  | .createDataset => some fun source => (CreateDataset.decode source).map .createDataset
  | .createIndex => some fun source => (CreateIndex.decode source).map .createIndex
  | .getAllDatasets => some fun _ => .ok .getAllDatasets
  | .getAllIndexes => some fun _ => .ok .getAllIndexes
  | .dropDataverse => some fun source => (DropDataverse.decode source).map .dropDataverse
  | .dropDataset => some fun source => (DropDataset.decode source).map .dropDataset
  | .dropIndex => some fun source => (DropIndex.decode source).map .dropIndex
  | .getPendingMutations => some fun _ => .ok .getPendingMutations
  | .linkCreate => some fun source => (LinkChange.decode source).map .linkCreate
  | .linkConnect => some fun source => (LinkConnect.decode source).map .linkConnect
  | .getAllLinks => some fun source => (LinkListing.decode source).map .getAllLinks
  | .linkDisconnect => some fun source => (LinkDisconnect.decode source).map .linkDisconnect
  | .linkReplace => some fun source => (LinkChange.decode source).map .linkReplace
  | .dropLink => some fun source => (DropLink.decode source).map .dropLink

/-- The command of an operation when its arguments are left out, where they may be. -/
def ofNothing? : Operation → Option Command
  | .getAllDatasets => some .getAllDatasets
  | .getAllIndexes => some .getAllIndexes
  | .getPendingMutations => some .getPendingMutations
  | .linkConnect => some (.linkConnect default)
  | .getAllLinks => some (.getAllLinks default)
  | .linkDisconnect => some (.linkDisconnect default)
  | _ => none

end Command

/-- Whether an operation takes no arguments at all. -/
def Operation.takesNothing : Operation → Bool
  | .getAllDatasets | .getAllIndexes | .getPendingMutations => true
  | _ => false

namespace Descriptor

/-- The descriptor of a command, without a timeout. -/
def ofCommand (command : Command) : Descriptor := ⟨command.operation, command.arguments, none⟩

/-- The descriptor with a timeout. -/
def withTimeout (descriptor : Descriptor) (timeout : Duration) : Descriptor :=
  { descriptor with timeout := some timeout }

/-- The error that the arguments of an operation are wrong. -/
def invalid (operation : Operation) (reason : String) : Error :=
  .invalidArguments operation.name reason

/-- Reads given arguments of an operation. -/
def readGiven (operation : Operation) (given : Json) : Outcome Command :=
  match Command.decodeFor? operation with
  | none =>
    .error (.unrecognizedOperation
      (operation.name ++ " (expected one of: " ++ Operation.allNames ++ ")"))
  | some decode =>
    match decode given with
    | .ok command => .ok command
    | .error fault => .error (invalid operation fault.message)

/-- Reads the arguments of a descriptor, which some operations may leave out and others must. -/
def readArguments (descriptor : Descriptor) : Outcome Command :=
  let operation := descriptor.operation
  let given := descriptor.arguments
  match Command.ofNothing? operation with
  | none => readGiven operation given
  | some command =>
    -- Null always stands for arguments that were left out.
    if given = .null then .ok command
    else if ¬ operation.takesNothing then readGiven operation given
    else if given = .obj [] then .ok command
    else .error (invalid operation ("operation takes no arguments, got " ++ given.render))

/-- The command that a descriptor describes, or the error that it describes none. -/
def resolve (descriptor : Descriptor) : Outcome Command := do
  let command ← descriptor.readArguments
  match command.validate with
  | .ok () => return command
  -- What was read is right by its types, but does not go together.
  | .error defect => .error (invalid descriptor.operation defect.reason)

end Descriptor

end AnalyticsClient
