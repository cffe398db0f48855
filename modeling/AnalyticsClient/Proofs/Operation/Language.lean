import AnalyticsClient.Proofs.Operation.CommandForm

/-! The language of the descriptors that become commands, operation by operation. -/

namespace AnalyticsClient.Descriptor

open Wire (Decoder bind_eq_ok)
open Wire.Fields (not_record_null)

section

variable {α : Type} {operation : Operation} {given : Json} {timeout : Option Duration}
  {command : Command} {decode : Decoder Json α} {make : α → Command}

/-- Given arguments are read as arguments of their operation. -/
theorem readGiven_iff
    (reads : Command.decodeFor? operation = some fun source => (decode source).map make) :
    readGiven operation given = .ok command
      ↔ ∃ args, decode given = .ok args ∧ make args = command := by
  simp only [readGiven, reads]
  cases decode given <;> simp [Except.map]

/-- Arguments that have to be given are read as arguments of their operation. -/
theorem readArguments_needed (needed : Command.ofNothing? operation = none)
    (reads : Command.decodeFor? operation = some fun source => (decode source).map make) :
    readArguments ⟨operation, given, timeout⟩ = .ok command
      ↔ ∃ args, decode given = .ok args ∧ make args = command := by
  simp only [readArguments, needed, readGiven_iff reads]

/-- Where no arguments are taken, null and the empty object give none. -/
theorem readArguments_nothing {nothing : Command}
    (left : Command.ofNothing? operation = some nothing) (takes : operation.takesNothing = true) :
    readArguments ⟨operation, given, timeout⟩ = .ok command
      ↔ (given = .null ∨ given = .obj []) ∧ nothing = command := by
  simp only [readArguments, left, takes]
  -- The two payloads are looked for one after the other.
  by_cases null : given = .null
  · simp [null]
  · by_cases empty : given = .obj []
    · simp [empty]
    · simp [null, empty]

/-- Arguments that may be left out are null then, and else read as arguments of their operation. -/
theorem readArguments_optional {nothing : Command}
    (left : Command.ofNothing? operation = some nothing) (takes : operation.takesNothing = false)
    (reads : Command.decodeFor? operation = some fun source => (decode source).map make)
    (solid : ∀ args, decode .null ≠ .ok args) :
    readArguments ⟨operation, given, timeout⟩ = .ok command
      ↔ given = .null ∧ nothing = command
        ∨ ∃ args, decode given = .ok args ∧ make args = command := by
  simp only [readArguments, left, takes]
  by_cases null : given = .null
  · -- Null is never read as arguments, so it can only stand for none.
    subst null
    simp [solid]
  · simp [null, readGiven_iff reads]

end

/-- The arguments of a descriptor are read as those of a command where they are a written form of
them and the operation is that of the command. -/
theorem readArguments_iff {descriptor : Descriptor} {command : Command} :
    descriptor.readArguments = .ok command
      ↔ command.operation = descriptor.operation
        ∧ Command.Written descriptor.arguments command := by
  obtain ⟨operation, given, timeout⟩ := descriptor
  -- Each operation reads arguments of its own type, which no command of another operation has.
  cases operation with
  | unknown =>
    -- Nothing can be read for an operation that is not known.
    simp only [readArguments, readGiven, Command.ofNothing?, Command.decodeFor?, reduceCtorEq]
    cases command <;> simp [Command.operation]
  | createDataverse =>
    rw [readArguments_needed rfl rfl]
    simp only [CreateDataverse.decode_iff]
    cases command <;> simp [Command.operation, Command.Written]
  | createDataset =>
    rw [readArguments_needed rfl rfl]
    simp only [CreateDataset.decode_iff]
    cases command <;> simp [Command.operation, Command.Written]
  | createIndex =>
    rw [readArguments_needed rfl rfl]
    simp only [CreateIndex.decode_iff]
    cases command <;> simp [Command.operation, Command.Written]
  | getAllDatasets =>
    -- There is nothing to be read, only to be left out in one of two ways.
    rw [readArguments_nothing rfl rfl]
    cases command <;> simp [Command.operation, Command.Written]
  | getAllIndexes =>
    rw [readArguments_nothing rfl rfl]
    cases command <;> simp [Command.operation, Command.Written]
  | dropDataverse =>
    rw [readArguments_needed rfl rfl]
    simp only [DropDataverse.decode_iff]
    cases command <;> simp [Command.operation, Command.Written]
  | dropDataset =>
    rw [readArguments_needed rfl rfl]
    simp only [DropDataset.decode_iff]
    cases command <;> simp [Command.operation, Command.Written]
  | dropIndex =>
    rw [readArguments_needed rfl rfl]
    simp only [DropIndex.decode_iff]
    cases command <;> simp [Command.operation, Command.Written]
  | getPendingMutations =>
    rw [readArguments_nothing rfl rfl]
    cases command <;> simp [Command.operation, Command.Written]
  | linkCreate =>
    rw [readArguments_needed rfl rfl]
    simp only [LinkChange.decode_iff]
    cases command <;> simp [Command.operation, Command.Written]
  | linkConnect =>
    -- Null is left to stand for no arguments, since no record is written as null.
    rw [readArguments_optional rfl rfl rfl fun args read =>
      not_record_null (LinkConnect.decode_iff.1 read)]
    simp only [LinkConnect.decode_iff]
    cases command <;> simp [Command.operation, Command.Written, eq_comm]
  | getAllLinks =>
    rw [readArguments_optional rfl rfl rfl fun args read =>
      not_record_null (LinkListing.decode_iff.1 read)]
    simp only [LinkListing.decode_iff]
    cases command <;> simp [Command.operation, Command.Written, eq_comm]
  | linkDisconnect =>
    rw [readArguments_optional rfl rfl rfl fun args read =>
      not_record_null (LinkDisconnect.decode_iff.1 read)]
    simp only [LinkDisconnect.decode_iff]
    cases command <;> simp [Command.operation, Command.Written, eq_comm]
  | linkReplace =>
    rw [readArguments_needed rfl rfl]
    simp only [LinkChange.decode_iff]
    cases command <;> simp [Command.operation, Command.Written]
  | dropLink =>
    rw [readArguments_needed rfl rfl]
    simp only [DropLink.decode_iff]
    cases command <;> simp [Command.operation, Command.Written]

/-- A descriptor whose arguments were read becomes their command if it is fit, and else the error
that it is not. -/
theorem resolve_of_readArguments {descriptor : Descriptor} {command : Command}
    (read : descriptor.readArguments = .ok command) :
    descriptor.resolve = match command.validate with
      | .ok () => .ok command
      | .error defect => .error (.invalidArguments descriptor.operation.name defect.reason) := by
  simp only [resolve, read, bind, Except.bind, invalid]
  cases command.validate <;> rfl

/-- A descriptor becomes a command where the operation is that of the command, the arguments are a
written form of it, and it is fit. -/
theorem resolve_iff {descriptor : Descriptor} {command : Command} :
    descriptor.resolve = .ok command
      ↔ command.operation = descriptor.operation
        ∧ Command.Written descriptor.arguments command ∧ command.Fit := by
  rw [← and_assoc, ← readArguments_iff, ← Command.validate_iff]
  constructor
  · intro resolved
    obtain ⟨command', read, -⟩ := bind_eq_ok.1 resolved
    rw [resolve_of_readArguments read] at resolved
    -- Only a command that passes its check comes out, and it comes out as it was read.
    cases checked : command'.validate with
    | error defect =>
      rw [checked] at resolved
      cases resolved
    | ok =>
      rw [checked] at resolved
      cases resolved
      exact ⟨read, checked⟩
  · intro holds
    obtain ⟨read, checked⟩ := holds
    rw [resolve_of_readArguments read, checked]

/-- Where arguments may be left out, null and the empty object are written forms of the command that
is left then. -/
theorem readArguments_ofNothing {operation : Operation} {timeout : Option Duration}
    {nothing : Command} (left : Command.ofNothing? operation = some nothing) :
    readArguments ⟨operation, .null, timeout⟩ = .ok nothing
      ∧ readArguments ⟨operation, .obj [], timeout⟩ = .ok nothing := by
  simp only [readArguments_iff]
  -- An object without members gives no entries, whatever the names.
  have placed : ∀ names, Wire.Fields.Placed true names (.obj []) [] :=
    fun names => .inl ⟨rfl, List.nodup_nil, fun _ _ mem => by cases mem⟩
  cases operation <;> cases left
  case getAllDatasets => exact ⟨⟨rfl, .inl rfl⟩, rfl, .inr rfl⟩
  case getAllIndexes => exact ⟨⟨rfl, .inl rfl⟩, rfl, .inr rfl⟩
  case getPendingMutations => exact ⟨⟨rfl, .inl rfl⟩, rfl, .inr rfl⟩
  case linkConnect =>
    exact ⟨⟨rfl, .inl ⟨rfl, rfl⟩⟩, rfl,
      .inr ⟨[], placed _, .inl rfl, .inl rfl, .inl ⟨rfl, rfl⟩⟩⟩
  case getAllLinks =>
    exact ⟨⟨rfl, .inl ⟨rfl, rfl⟩⟩, rfl, .inr ⟨[], placed _, .inl rfl, .inl rfl, .inl rfl⟩⟩
  case linkDisconnect =>
    exact ⟨⟨rfl, .inl ⟨rfl, rfl⟩⟩, rfl, .inr ⟨[], placed _, .inl rfl, .inl rfl⟩⟩

/-- The accepted payloads of each operation are the written forms of its fit arguments. Where
arguments may be left out, null means the same as the empty object; making and replacing a link
accept the same payloads, as the same link; an unknown operation accepts none. -/
theorem accepted_payloads (payload : Json) (timeout : Option Duration) :
    (∀ operation command, resolve ⟨operation, payload, timeout⟩ = .ok command
        ↔ command.operation = operation ∧ Command.Written payload command ∧ command.Fit)
      ∧ (∀ operation, (Command.ofNothing? operation).isSome →
        resolve ⟨operation, .null, timeout⟩ = resolve ⟨operation, .obj [], timeout⟩)
      ∧ (∀ args, resolve ⟨.linkCreate, payload, timeout⟩ = .ok (.linkCreate args)
        ↔ resolve ⟨.linkReplace, payload, timeout⟩ = .ok (.linkReplace args))
      ∧ ∀ command, resolve ⟨.unknown, payload, timeout⟩ ≠ .ok command := by
  refine ⟨fun operation command => resolve_iff, fun operation leaves => ?_, fun args => ?_,
    fun command resolved => ?_⟩
  · -- Both payloads are read as the command that is left without arguments.
    obtain ⟨nothing, left⟩ := Option.isSome_iff_exists.1 leaves
    obtain ⟨ofNull, ofEmpty⟩ := @readArguments_ofNothing operation timeout nothing left
    rw [resolve_of_readArguments ofNull, resolve_of_readArguments ofEmpty]
  · -- The two differ in nothing but the operation that they name.
    rw [resolve_iff, resolve_iff]
    constructor
    · intro holds
      exact ⟨rfl, holds.2⟩
    · intro holds
      exact ⟨rfl, holds.2⟩
  · -- No command is one of an unknown operation.
    have unknown := (resolve_iff.1 resolved).1
    cases command <;> cases unknown

end AnalyticsClient.Descriptor
