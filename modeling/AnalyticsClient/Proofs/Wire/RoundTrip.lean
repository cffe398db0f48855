import AnalyticsClient.Config.Basic
import AnalyticsClient.Operation.Output
import AnalyticsClient.Proofs.Catalog.LinkForm
import AnalyticsClient.Proofs.Wire.Recovery
import AnalyticsClient.Query.Options
import AnalyticsClient.Wire.Error

/-! Every value that is exchanged with callers and with the engine survives being written. -/

namespace AnalyticsClient

open Wire Wire.Fields

namespace Wire

/-- Whether values survive being written, and what was read is read again once it was written. -/
structure Survives {α : Type} (read : Decoder Json α) (write : α → Json) : Prop where
  back : ∀ value, read (write value) = .ok value
  again : ∀ json, (read json >>= fun value => read (write value)) = read json

/-- Where every value is read back, whatever was read is read again, however it was written. -/
theorem Recovers.survives {α : Type} {read : Decoder Json α} {write : α → Json}
    (back : Recovers read write) : Survives read write := by
  refine ⟨back, fun json => ?_⟩
  -- What cannot be read fails before anything is written.
  cases read json with
  | error fault => rfl
  | ok value => exact back value

/-- No text is null. -/
theorem solid_str : Solid Json.str := fun _ same => by cases same

/-- No truth value is null. -/
theorem solid_bool : Solid Json.bool := fun _ same => by cases same

/-- No number is null. -/
theorem solid_nat {α : Type} (number : α → Nat) : Solid fun value => .nat (number value) :=
  fun _ same => by cases same

end Wire

instance : Regular (Dataset.fields : Fields Json Dataset) := by
  unfold Dataset.fields
  infer_instance

/-- Datasets are read back. -/
theorem Dataset.recovers : Recovers Dataset.decode Dataset.encode := by
  intro dataset
  refine read_ofMembers _ (by decide) rfl fun get found => ?_
  simp only [Dataset.fields, byName_map, byName_seq,
    byName_required recovers_string (found "dataset_name"),
    byName_required recovers_string (found "dataverse_name"),
    byName_required recovers_string (found "link_name"),
    byName_required recovers_string (found "bucket_name")]
  rfl

instance : Regular (Index.fields : Fields Json Index) := by
  unfold Index.fields
  infer_instance

/-- Indexes are read back. -/
theorem Index.recovers : Recovers Index.decode Index.encode := by
  intro index
  refine read_ofMembers _ (by decide) rfl fun get found => ?_
  simp only [Index.fields, byName_map, byName_seq,
    byName_required recovers_string (found "name"),
    byName_required recovers_string (found "dataset_name"),
    byName_required recovers_string (found "dataverse_name"),
    -- Whether an index is a primary one is always written.
    byName_withDefault recovers_bool (found "is_primary")]
  rfl

/-- Links are read back. -/
theorem Link.recovers : Recovers Link.decode Link.encode :=
  fun link => Link.decode_iff.2 link.written_encode

/-- Answers are read back. -/
theorem Output.recovers : Recovers Output.decode Output.encode := by
  intro output
  have counts : Recovers (dict (dict u64)) (.ofDict (.ofDict fun count => .nat count.toNat)) :=
    recovers_dict (recovers_dict recovers_u64)
  -- One case per kind of answer: its name is known, and its content is read back.
  cases output with
  | unit => rfl
  | datasets found =>
    exact variant_value (by decide : "Datasets" ∈ Output.names) (fun _ => rfl)
      (recovers_list Dataset.recovers) found
  | indexes found =>
    exact variant_value (by decide : "Indexes" ∈ Output.names) (fun _ => rfl)
      (recovers_list Index.recovers) found
  | links found =>
    exact variant_value (by decide : "Links" ∈ Output.names) (fun _ => rfl)
      (recovers_list Link.recovers) found
  | pendingMutations found =>
    exact variant_value (by decide : "PendingMutations" ∈ Output.names) (fun _ => rfl) counts found

instance : Regular (MutationToken.fields : Fields Json MutationToken) := by
  unfold MutationToken.fields
  infer_instance

/-- Mutation tokens are read back. -/
theorem MutationToken.recovers : Recovers MutationToken.decode MutationToken.encode := by
  intro token
  refine read_ofMembers _ (by decide) rfl fun get found => ?_
  simp only [MutationToken.fields, byName_map, byName_seq,
    byName_required recovers_u16 (found "partition_id"),
    byName_required recovers_u64 (found "partition_uuid"),
    byName_required recovers_u64 (found "sequence_number"),
    byName_required recovers_string (found "bucket_name")]
  rfl

/-- Mutation states are read back. -/
theorem MutationState.recovers : Recovers MutationState.decode MutationState.encode :=
  -- A state is written as the list of its tokens alone.
  fun state => congrArg (Except.map MutationState.mk)
    (recovers_list MutationToken.recovers state.tokens)

/-- The kinds of engine errors are read back. -/
theorem EngineErrorKind.recovers : Recovers EngineErrorKind.decode EngineErrorKind.encode := by
  intro kind
  cases kind <;> rfl

instance : Regular (EngineError.fields : Fields Json EngineError) := by
  unfold EngineError.fields
  infer_instance

/-- Engine errors are read back. -/
theorem EngineError.recovers : Recovers EngineError.decode EngineError.encode := by
  intro error
  refine read_ofFields _ (by decide) rfl fun get found => ?_
  simp only [EngineError.fields, byName_map, byName_seq,
    byName_required EngineErrorKind.recovers (found "kind"),
    byName_required recovers_string (found "message"),
    -- A context that is not there is left out.
    byName_perhaps recovers_string solid_str (found "context")]
  rfl

/-- Errors are read back. -/
theorem Error.recovers : Recovers Error.decode Error.encode := by
  intro error
  -- One case per kind of error: its name is known, and its fields are read back.
  cases error with
  | unrecognizedOperation operation =>
    refine variant_fields (by decide : "UnrecognizedOperation" ∈ Error.names) (fun _ => rfl)
      (by decide) rfl fun get found => ?_
    simp only [byName_map, byName_required recovers_string (found "operation")]
    rfl
  | invalidEnumString kind value =>
    refine variant_fields (by decide : "InvalidEnumString" ∈ Error.names) (fun _ => rfl)
      (by decide) rfl fun get found => ?_
    simp only [byName_map, byName_seq, byName_required recovers_string (found "kind"),
      byName_required recovers_string (found "value")]
    rfl
  | malformedMutationToken index reason =>
    refine variant_fields (by decide : "MalformedMutationToken" ∈ Error.names) (fun _ => rfl)
      (by decide) rfl fun get found => ?_
    simp only [byName_map, byName_seq, byName_required recovers_size (found "index"),
      byName_required recovers_string (found "reason")]
    rfl
  | invalidArguments operation reason =>
    refine variant_fields (by decide : "InvalidArguments" ∈ Error.names) (fun _ => rfl)
      (by decide) rfl fun get found => ?_
    simp only [byName_map, byName_seq, byName_required recovers_string (found "operation"),
      byName_required recovers_string (found "reason")]
    rfl
  | engine inner =>
    exact variant_value (by decide : "Engine" ∈ Error.names) (fun _ => rfl) EngineError.recovers
      inner
  | alreadyQueried => rfl
  | config reason =>
    refine variant_fields (by decide : "Config" ∈ Error.names) (fun _ => rfl) (by decide) rfl
      fun get found => ?_
    simp only [byName_map, byName_required recovers_string (found "reason")]
    rfl

instance : Regular (RawQueryOptions.fields : Fields Json RawQueryOptions) := by
  unfold RawQueryOptions.fields
  infer_instance

/-- Raw query options are read back. -/
theorem RawQueryOptions.recovers : Recovers RawQueryOptions.decode RawQueryOptions.encode := by
  intro options
  have values : Recovers (list json) .arr := by
    simpa using recovers_list recovers_json
  -- Each option is written under its own name, and what is left open is written as null.
  refine read_ofMembers _ (by decide) rfl fun get found => ?_
  unfold RawQueryOptions.fields
  simp only [byName_map, byName_seq,
    byName_perhaps_null recovers_string solid_str (found "scan_consistency"),
    byName_withDefault values (found "consistent_with"),
    byName_perhaps_null recovers_string solid_str (found "profile"),
    byName_perhaps_null recovers_u64 (solid_nat _) (found "timeout_ms"),
    byName_perhaps_null recovers_bool solid_bool (found "adhoc"),
    byName_perhaps_null recovers_string solid_str (found "client_context_id"),
    byName_perhaps_null recovers_bool solid_bool (found "read_only"),
    byName_perhaps_null recovers_bool solid_bool (found "metrics"),
    byName_perhaps_null recovers_bool solid_bool (found "flex_index"),
    byName_perhaps_null recovers_u32 (solid_nat _) (found "max_parallelism"),
    byName_perhaps_null recovers_u32 (solid_nat _) (found "scan_cap"),
    byName_perhaps_null recovers_u64 (solid_nat _) (found "scan_wait_ms"),
    byName_perhaps_null recovers_u32 (solid_nat _) (found "pipeline_batch"),
    byName_perhaps_null recovers_u32 (solid_nat _) (found "pipeline_cap"),
    byName_perhaps_null recovers_string solid_str (found "query_context"),
    byName_withDefault values (found "positional_parameters"),
    byName_withDefault (recovers_dict recovers_json) (found "named_parameters"),
    byName_withDefault (recovers_dict recovers_json) (found "raw")]
  rfl

instance : Regular (StreamConfig.fields : Fields Json StreamConfig) := by
  unfold StreamConfig.fields
  infer_instance

/-- Stream configurations are read back. -/
theorem StreamConfig.recovers : Recovers StreamConfig.decode StreamConfig.encode := by
  intro config
  have only : config.encode = .ofMembers [("row_buffer", .nat config.rowBuffer.toNat)] := rfl
  rw [only]
  refine read_ofMembers _ (by decide) rfl fun get found => ?_
  simp only [StreamConfig.fields, byName_map,
    byName_withDefault recovers_size (found "row_buffer")]
  rfl

instance : Regular (Config.fields : Fields Json Config) := by
  unfold Config.fields
  infer_instance

/-- Configurations are read back. -/
theorem Config.recovers : Recovers Config.decode Config.encode := by
  intro config
  refine read_ofMembers _ (by decide) rfl fun get found => ?_
  simp only [Config.fields, byName_map, byName_seq,
    byName_withDefault recovers_u64 (found "management_timeout_ms"),
    byName_withDefault recovers_u64 (found "query_timeout_ms"),
    byName_withDefault StreamConfig.recovers (found "stream")]
  rfl

/-- Links, answers, mutation states, errors of the engine and of the client, raw query options and
configurations survive being written; and what was read of them is read again once it was written,
whether it stood in an object or in a list, with or without unknown or empty members. -/
theorem values_survive :
    Survives Link.decode Link.encode
      ∧ Survives Output.decode Output.encode
      ∧ Survives MutationState.decode MutationState.encode
      ∧ Survives EngineError.decode EngineError.encode
      ∧ Survives Error.decode Error.encode
      ∧ Survives RawQueryOptions.decode RawQueryOptions.encode
      ∧ Survives Config.decode Config.encode :=
  ⟨Link.recovers.survives, Output.recovers.survives, MutationState.recovers.survives,
    EngineError.recovers.survives, Error.recovers.survives, RawQueryOptions.recovers.survives,
    Config.recovers.survives⟩

end AnalyticsClient
