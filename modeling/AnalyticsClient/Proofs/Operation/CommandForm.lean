import AnalyticsClient.Operation.Command
import AnalyticsClient.Proofs.Operation.ArgumentForm

/-! Which descriptions of operations become commands, and which commands are fit to be submitted. -/

namespace AnalyticsClient

open Wire (then_eq_ok)

/-- Whether a text says something: some character of it is not blank. -/
def Speaks (text : String) : Prop := ∃ c ∈ text.toList, Text.isBlank c = false

/-- A text has to say something to be accepted where a text is required. -/
theorem requireText_iff {field value : String} :
    requireText field value = .ok () ↔ Speaks value := by
  by_cases blank : Text.isBlankText value = true
  · -- All characters are blank, so none of them tells anything.
    simp only [requireText, blank, if_true, reduceCtorEq, false_iff]
    intro holds
    obtain ⟨c, mem, speaks⟩ := holds
    rw [List.all_eq_true.1 blank c mem] at speaks
    cases speaks
  · have speaks : Speaks value := by simpa [Text.isBlankText, Speaks] using blank
    simp [requireText, blank, speaks]

/-- A text that need not be given has to say something if it is. -/
theorem requireTextIfGiven_iff {field : String} {value : Option String} :
    requireTextIfGiven field value = .ok () ↔ ∀ text ∈ value, Speaks text := by
  cases value with
  | none => simp [requireTextIfGiven]
  | some text => simp [requireTextIfGiven, requireText_iff]

namespace Command

/-- Whether a payload is a written form of the arguments of a command. -/
def Written (payload : Json) : Command → Prop
  | .createDataverse args => CreateDataverse.written payload args
  | .createDataset args => CreateDataset.written payload args
  | .createIndex args => CreateIndex.written payload args
  | .getAllDatasets | .getAllIndexes | .getPendingMutations => payload = .null ∨ payload = .obj []
  | .dropDataverse args => DropDataverse.written payload args
  | .dropDataset args => DropDataset.written payload args
  | .dropIndex args => DropIndex.written payload args
  | .linkCreate args | .linkReplace args => LinkChange.written payload args
  -- Null stands for an object without members.
  | .linkConnect args => payload = .null ∧ args = default ∨ LinkConnect.written payload args
  | .getAllLinks args => payload = .null ∧ args = default ∨ LinkListing.written payload args
  | .linkDisconnect args => payload = .null ∧ args = default ∨ LinkDisconnect.written payload args
  | .dropLink args => DropLink.written payload args

/-- Whether the arguments of a command, each of its type, go together and say something. -/
def Fit : Command → Prop
  | .createDataverse args => Speaks args.dataverseName
  | .createDataset args => Speaks args.datasetName ∧ Speaks args.bucketName
    ∧ ∀ text ∈ args.dataverseName, Speaks text
  | .createIndex args => Speaks args.indexName ∧ Speaks args.datasetName
    ∧ (∀ text ∈ args.dataverseName, Speaks text) ∧ args.fields.entries ≠ []
  | .getAllDatasets | .getAllIndexes | .getPendingMutations => True
  | .dropDataverse args => Speaks args.dataverseName
  | .dropDataset args => Speaks args.datasetName ∧ ∀ text ∈ args.dataverseName, Speaks text
  | .dropIndex args => Speaks args.indexName ∧ Speaks args.datasetName
    ∧ ∀ text ∈ args.dataverseName, Speaks text
  | .linkCreate args | .linkReplace args => args.link.validate = .ok ()
  | .linkConnect args => (∀ text ∈ args.dataverseName, Speaks text)
    ∧ ∀ text ∈ args.linkName, Speaks text
  | .getAllLinks args => (args.linkName.isSome → args.dataverseName.isSome)
    ∧ (∀ text ∈ args.dataverseName, Speaks text) ∧ ∀ text ∈ args.linkName, Speaks text
  | .linkDisconnect args => (∀ text ∈ args.dataverseName, Speaks text)
    ∧ ∀ text ∈ args.linkName, Speaks text
  | .dropLink args => Speaks args.linkName ∧ Speaks args.dataverseName

/-- A command is fit where its check passes. -/
theorem validate_iff (command : Command) : command.validate = .ok () ↔ command.Fit := by
  -- The checks of a command are made one after the other, and all of them have to pass.
  cases command with
  | createDataverse args => exact requireText_iff
  | createDataset args =>
    simp only [validate, CreateDataset.validate, then_eq_ok, requireText_iff,
      requireTextIfGiven_iff, Fit]
  | createIndex args =>
    simp only [validate, CreateIndex.validate, then_eq_ok, requireText_iff, requireTextIfGiven_iff,
      Fit]
    -- The last check is that there is a field at all.
    cases args.fields.entries <;> simp [pure, Except.pure]
  | getAllDatasets => simp [validate, Fit]
  | getAllIndexes => simp [validate, Fit]
  | dropDataverse args => exact requireText_iff
  | dropDataset args =>
    simp only [validate, DropDataset.validate, then_eq_ok, requireText_iff, requireTextIfGiven_iff,
      Fit]
  | dropIndex args =>
    simp only [validate, DropIndex.validate, then_eq_ok, requireText_iff, requireTextIfGiven_iff,
      Fit]
  | getPendingMutations => simp [validate, Fit]
  | linkCreate args => rfl
  | linkConnect args =>
    simp only [validate, LinkConnect.validate, then_eq_ok, requireTextIfGiven_iff, Fit]
  | getAllLinks args =>
    obtain ⟨dataverse, name, linkType⟩ := args
    by_cases lone : (name.isSome && dataverse.isNone) = true
    · -- A link named without its dataverse is refused at once.
      simp only [Bool.and_eq_true, Option.isNone_iff_eq_none] at lone
      simp [validate, LinkListing.validate, lone, bind, Except.bind, Fit]
    · -- Otherwise the two names are checked in turn.
      have checks : validate (.getAllLinks ⟨dataverse, name, linkType⟩)
          = requireTextIfGiven "dataverse_name" dataverse >>= fun _ =>
            requireTextIfGiven "link_name" name := by
        simp only [validate, LinkListing.validate, lone]
        rfl
      rw [checks, then_eq_ok, requireTextIfGiven_iff, requireTextIfGiven_iff]
      cases name <;> cases dataverse <;> simp_all [Fit]
  | linkDisconnect args =>
    simp only [validate, LinkDisconnect.validate, then_eq_ok, requireTextIfGiven_iff, Fit]
  | linkReplace args => rfl
  | dropLink args => simp only [validate, DropLink.validate, then_eq_ok, requireText_iff, Fit]

/-- The arguments of a command as they are written are a written form of it. -/
theorem written_arguments (command : Command) : Written command.arguments command := by
  cases command with
  | createDataverse args => exact args.written_encode
  | createDataset args => exact args.written_encode
  | createIndex args => exact args.written_encode
  -- A command without arguments is written with null.
  | getAllDatasets => exact .inl rfl
  | getAllIndexes => exact .inl rfl
  | dropDataverse args => exact args.written_encode
  | dropDataset args => exact args.written_encode
  | dropIndex args => exact args.written_encode
  | getPendingMutations => exact .inl rfl
  | linkCreate args => exact args.written_encode
  | linkConnect args => exact .inr args.written_encode
  | getAllLinks args => exact .inr args.written_encode
  | linkDisconnect args => exact .inr args.written_encode
  | linkReplace args => exact args.written_encode
  | dropLink args => exact args.written_encode

end Command

end AnalyticsClient
