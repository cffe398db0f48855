import AnalyticsClient.Proofs.Wire.RoundTrip
import AnalyticsClient.Query.Metadata

/-! Which reports on queries survive being written: all of them, but for a signature or a profile
that is there and null, which is read as none. -/

namespace AnalyticsClient

open Wire Wire.Fields

/-- The parts of a span make that span. -/
theorem Duration.ofParts?_parts (duration : Duration) :
    ofParts? duration.secs duration.nanos = some duration := by
  obtain ⟨secs, nanos, short⟩ := duration
  -- There is no whole second among the nanoseconds, so nothing is carried over.
  have none_ : nanos / 1000000000 = 0 := Nat.div_eq_of_lt short
  have all : nanos % 1000000000 = nanos := Nat.mod_eq_of_lt short
  have fits : secs.toNat < UInt64.size := secs.toNat_lt_size
  simp [ofParts?, none_, all, fits]

instance : Regular (Duration.fields : Fields Json Duration) := by
  unfold Duration.fields Duration.parts
  infer_instance

/-- Spans of time are read back. -/
theorem Duration.recovers : Recovers Duration.decode Duration.encode := by
  intro duration
  -- A second has fewer nanoseconds than a word of 32 bits has values.
  have word : (UInt32.ofNat duration.nanos).toNat = duration.nanos :=
    UInt32.toNat_ofNat_of_lt' (Nat.lt_trans duration.nanos_lt (by decide))
  refine read_ofMembers _ (by decide) rfl fun get found => ?_
  have secs : (required "secs" u64).byName get = .ok duration.secs :=
    byName_required recovers_u64 (found "secs")
  have nanos : (required "nanos" u32).byName get = .ok (UInt32.ofNat duration.nanos) := by
    refine byName_required recovers_u32 ((found "nanos").trans ?_)
    rw [word]
    rfl
  simp only [Duration.fields, refine, Duration.parts, byName_map, byName_seq, secs, nanos]
  simp only [Except.map, Except.bind, word, Duration.ofParts?_parts]

instance : Regular (QueryMetrics.fields : Fields Json QueryMetrics) := by
  unfold QueryMetrics.fields
  infer_instance

/-- Measurements are read back. -/
theorem QueryMetrics.recovers : Recovers QueryMetrics.decode QueryMetrics.encode := by
  intro metrics
  refine read_ofMembers _ (by decide) rfl fun get found => ?_
  simp only [QueryMetrics.fields, byName_map, byName_seq,
    byName_required Duration.recovers (found "elapsed_time"),
    byName_required Duration.recovers (found "execution_time"),
    byName_required recovers_u64 (found "result_count"),
    byName_required recovers_u64 (found "result_size"),
    byName_required recovers_u64 (found "mutation_count"),
    byName_required recovers_u64 (found "sort_count"),
    byName_required recovers_u64 (found "error_count"),
    byName_required recovers_u64 (found "warning_count")]
  rfl

/-- Measurements are never written as null. -/
theorem QueryMetrics.solid : Solid QueryMetrics.encode := fun _ same => by cases same

instance : Regular (QueryWarning.fields : Fields Json QueryWarning) := by
  unfold QueryWarning.fields
  infer_instance

/-- Warnings are read back. -/
theorem QueryWarning.recovers : Recovers QueryWarning.decode QueryWarning.encode := by
  intro warning
  refine read_ofMembers _ (by decide) rfl fun get found => ?_
  simp only [QueryWarning.fields, byName_map, byName_seq,
    byName_required recovers_u64 (found "code"), byName_required recovers_string (found "message")]
  rfl

/-- The statuses of queries are read back. -/
theorem QueryStatus.recovers :
    Recovers (Choice.decode : Decoder Json QueryStatus) Choice.encode := by
  intro status
  cases status <;> rfl

namespace QueryMetadata

/-- A report as a reader takes it: a signature or a profile that is null is none at all. -/
def heard (metadata : QueryMetadata) : QueryMetadata :=
  { metadata with
    signature := metadata.signature.filter (· ≠ .null)
    profile := metadata.profile.filter (· ≠ .null) }

instance : Regular (fields : Fields Json QueryMetadata) := by
  unfold fields
  infer_instance

/-- A report that was written is read as a reader takes it. -/
theorem decode_encode (metadata : QueryMetadata) :
    decode metadata.encode = .ok metadata.heard := by
  refine read_ofFields _ (by decide) rfl fun get found => ?_
  -- A signature and a profile are written as they are, so they cannot be told from none if null.
  have signature : get "signature" = metadata.signature := by simp [found, Entries.get?]
  have profile : get "profile" = metadata.profile := by simp [found, Entries.get?]
  simp only [fields, byName_map, byName_seq,
    byName_required recovers_string (found "request_id"),
    byName_required recovers_string (found "client_context_id"),
    byName_required QueryStatus.recovers (found "status"),
    byName_perhaps_json, signature, profile,
    byName_perhaps QueryMetrics.recovers QueryMetrics.solid (found "metrics"),
    byName_withDefault (recovers_list QueryWarning.recovers) (found "warnings")]
  rfl

/-- A report is as a reader takes it where neither its signature nor its profile is null. -/
theorem heard_eq_self_iff {metadata : QueryMetadata} :
    metadata.heard = metadata
      ↔ metadata.signature ≠ some .null ∧ metadata.profile ≠ some .null := by
  obtain ⟨requestId, contextId, status, signature, profile, metrics, warnings⟩ := metadata
  -- Whether a member stays is a matter of that member alone.
  have stays (given : Option Json) : given.filter (· ≠ .null) = given ↔ given ≠ some .null := by
    cases given with
    | none => simp
    | some value => by_cases null : value = .null <;> simp [Option.filter, null]
  simp only [heard, QueryMetadata.mk.injEq, stays, true_and, and_true]

/-- What was read of a report is as a reader takes it. -/
theorem heard_of_decode {json : Json} {metadata : QueryMetadata}
    (read : decode json = .ok metadata) : metadata.heard = metadata := by
  have read' : fields.read ⟨"struct QueryMetadata", false, true⟩ (Plain.wrap json : Json)
      = .ok metadata := read
  obtain ⟨entries, -, made⟩ := (read_wrap (by decide) _).1 read'
  rw [← makes_eq] at made
  simp only [fields, makes_map, makes_seq] at made
  -- The signature and the profile are the two members that are read as they stand.
  obtain ⟨_, -, _, -, _, -, signature, signed, profile, profiled, _, -, _, -, rfl⟩ := made
  rw [byName_perhaps_json, Except.ok.injEq] at signed profiled
  subst signed profiled
  simp [heard, Option.filter_filter]

/-- A report that was written is read as a reader takes it, which is the report itself exactly where
neither its signature nor its profile is null. What was read once, however it was written, is read
again. -/
theorem report_returns_iff (metadata : QueryMetadata) :
    decode metadata.encode = .ok metadata.heard
      ∧ (decode metadata.encode = .ok metadata
        ↔ metadata.signature ≠ some .null ∧ metadata.profile ≠ some .null)
      ∧ ∀ json : Json, (decode json >>= fun report => decode report.encode) = decode json := by
  refine ⟨decode_encode metadata, ?_, fun json => ?_⟩
  · rw [decode_encode, Except.ok.injEq, heard_eq_self_iff]
  · cases read : decode json with
    -- What cannot be read fails before anything is written.
    | error fault => rfl
    | ok report =>
      show decode report.encode = .ok report
      rw [decode_encode, heard_of_decode read]

/-- A report with a signature that is there and null. -/
def nullSignature : QueryMetadata := { bare "req-0001" "ctx" .success with signature := some .null }

/-- A signature that is null is lost. -/
theorem nullSignature_lost :
    decode nullSignature.encode = .ok (bare "req-0001" "ctx" .success)
      ∧ decode nullSignature.encode ≠ .ok nullSignature := by
  rw [decode_encode]
  exact ⟨rfl, fun same => absurd (Except.ok.inj same) (by decide)⟩

end QueryMetadata

end AnalyticsClient
