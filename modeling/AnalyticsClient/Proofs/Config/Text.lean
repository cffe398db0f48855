import AnalyticsClient.Config.Toml
import AnalyticsClient.Proofs.Toml.Lines
import AnalyticsClient.Proofs.Wire.Members

/-! Configurations are read from the text that was written of them, and the default one from the
text that explains it. -/

namespace AnalyticsClient

namespace Wire.Fields

variable {σ α β : Type} {entries : List (String × σ)}

/-- Whether a value is read from entries, one for each field. -/
structure Fills (fields : Fields σ α) (entries : List (String × σ)) (value : α) : Prop where
  known : ∀ entry ∈ entries, ∃ check, fields.check entry.1 = some check ∧ check entry.2 = .ok ()
  made : ∀ get : String → Option σ, (∀ entry ∈ entries, get entry.1 = some entry.2) →
    fields.byName get = .ok value

/-- A field is read from its entry. -/
theorem fills_withDefault {name : String} {preset value : α} {read : Decoder σ α} {source : σ}
    (right : read source = .ok value) :
    (withDefault name preset read).Fills [(name, source)] value where
  known entry mem := by
    -- The only entry is that of the field.
    obtain rfl := List.mem_singleton.1 mem
    refine ⟨fun source => (read source).map fun _ => (), if_pos rfl, ?_⟩
    simp only [right, Except.map]
  made get found := by
    have found := found (name, source) List.mem_cons_self
    simp only [withDefault, field, found, right]

/-- What is made of a value is read from the same entries. -/
theorem Fills.map {fields : Fields σ α} {value : α} (fills : fields.Fills entries value)
    (f : α → β) : (f <$> fields).Fills entries (f value) where
  known := fills.known
  made get found := by
    -- The names and their checks are the same; only what is made differs.
    show (fields.byName get).map f = _
    rw [fills.made get found]
    rfl

/-- Two readings, one after the other, are read from the entries of both. -/
theorem Fills.seq {made : Fields σ (α → β)} {next : Fields σ α} {f : α → β} {value : α}
    {later : List (String × σ)} (first : made.Fills entries f) (second : next.Fills later value)
    (own : ∀ entry ∈ later, made.check entry.1 = none) :
    (made <*> next).Fills (entries ++ later) (f value) where
  known entry mem := by
    show ∃ check, (made.check entry.1 <|> next.check entry.1) = some check ∧ check entry.2 = .ok ()
    rcases List.mem_append.1 mem with mem | mem
    · obtain ⟨check, checks, passed⟩ := first.known entry mem
      exact ⟨check, by simp [checks], passed⟩
    · -- A name of the second reading is none of the first.
      obtain ⟨check, checks, passed⟩ := second.known entry mem
      exact ⟨check, by simp [own entry mem, checks], passed⟩
  made get found := by
    -- Both readings find their own entries among all of them.
    have left := first.made get fun entry mem => found entry (List.mem_append_left _ mem)
    have right := second.made get fun entry mem => found entry (List.mem_append_right _ mem)
    simp only [Seq.seq, left, right, bind, Except.bind, pure, Except.pure]

variable [Source σ]

/-- Known members that come once are all read. -/
theorem checkMembers_of_known {fields : Fields σ α} (manner : Manner)
    (known : ∀ entry ∈ entries, ∃ check, fields.check entry.1 = some check ∧ check entry.2 = .ok ()) :
    ∀ seen : List String, (entries.map Prod.fst).Nodup →
      (∀ name ∈ entries.map Prod.fst, name ∉ seen) →
      checkMembers manner fields none seen entries = .ok () := by
  -- The names that were seen grow from member to member, so they stay quantified over.
  induction entries with
  | nil => exact fun _ _ _ => rfl
  | cons entry rest ih =>
    intro seen nodup fresh
    obtain ⟨name, source⟩ := entry
    obtain ⟨check, checks, passed⟩ := known _ List.mem_cons_self
    obtain ⟨alone, nodup⟩ := List.nodup_cons.1 nodup
    -- The member is neither unknown nor told twice, and its value passes its check.
    have new : name ∉ seen := fresh name List.mem_cons_self
    have later := ih (fun entry mem => known entry (List.mem_cons_of_mem _ mem)) (name :: seen) nodup
      fun other mem => by
        refine List.not_mem_cons_of_ne_of_not_mem (fun same => alone (same ▸ mem)) ?_
        exact fresh other (List.mem_cons_of_mem _ mem)
    simp only [checkMembers, checks, if_neg new, passed, bind, Except.bind]
    exact later

/-- A record is read from what shows an entry for each of its fields. -/
theorem Fills.read {fields : Fields σ α} {value : α} {source : σ}
    (fills : fields.Fills entries value) (manner : Manner) (nodup : (entries.map Prod.fst).Nodup)
    (shown : Source.view source = .record entries none none) :
    fields.read manner source = .ok value := by
  -- First all members are checked, and then each field looks up its own.
  have passed := checkMembers_of_known manner fills.known [] nodup fun _ _ => List.not_mem_nil
  have made := fills.made (fun name => Entries.get? entries name) fun entry mem =>
    (Entries.get?_eq_some nodup).2 mem
  simp only [Fields.read, shown, passed, made, bind, Except.bind]

end Wire.Fields

namespace Toml

/-- A whole number that fits a word of 64 bits is read as that word. -/
theorem whole_int (expected : String) {number bound : Nat} (below : number < bound) :
    Wire.whole expected 0 bound (Value.int number) = .ok (number : Int) := by
  -- TOML knows signed numbers only, so both ends of the range matter.
  have within : (0 : Int) ≤ number ∧ (number : Int) < bound := by omega
  simp [Wire.whole, Wire.Source.view, Value.view, within]

/-- The word of a number. -/
theorem u64_int {word : UInt64} : Wire.u64 (Value.int word.toNat) = .ok word := by
  rw [Wire.u64, whole_int "u64" word.toNat_lt_size]
  simp [Except.map]

/-- The size of a number. -/
theorem size_int {word : UInt64} : Wire.size (Value.int word.toNat) = .ok word := by
  rw [Wire.size, whole_int "usize" word.toNat_lt_size]
  simp [Except.map]

end Toml

open Wire.Fields

namespace StreamConfig

/-- The table of a stream configuration. -/
def table (config : StreamConfig) : Toml.Table := [("row_buffer", .int config.rowBuffer.toNat)]

/-- A stream configuration is read from its table. -/
theorem decode_table (config : StreamConfig) (origin : Toml.Origin) :
    decode (Toml.Value.table origin config.table) = .ok config := by
  have fills : Fills fields config.table config :=
    (fills_withDefault Toml.size_int).map StreamConfig.mk
  unfold decode readOpen
  exact fills.read _ (by simp [table]) rfl

end StreamConfig

namespace Config

/-- The table of a configuration. -/
def table (config : Config) : Toml.Table :=
  [("management_timeout_ms", .int config.managementTimeoutMs.toNat),
    ("query_timeout_ms", .int config.queryTimeoutMs.toNat),
    ("stream", .table .header config.stream.table)]

/-- A configuration is read from its table. -/
theorem decode_table (config : Config) (origin : Toml.Origin) :
    decode (Toml.Value.table origin config.table) = .ok config := by
  -- The three fields are read one after the other, the last one from a table of its own.
  have stream := config.stream.decode_table .header
  have fills : Fills fields config.table config :=
    (((fills_withDefault Toml.u64_int).map Config.mk).seq (fills_withDefault Toml.u64_int)
      (by simp [Functor.map, withDefault, field])).seq (fills_withDefault stream)
      (by simp [Functor.map, Seq.seq, withDefault, field])
  unfold decode readOpen
  exact fills.read _ (by simp [table]) rfl

/-- Whether all numbers of a configuration fit whole numbers of TOML. -/
def Printable (config : Config) : Prop :=
  Toml.Fits config.managementTimeoutMs.toNat ∧ Toml.Fits config.queryTimeoutMs.toNat
    ∧ Toml.Fits config.stream.rowBuffer.toNat

instance (config : Config) : Decidable config.Printable := by
  unfold Printable
  infer_instance

/-- The lines of the text of a configuration. -/
def lines (config : Config) : List Toml.Line :=
  [.number "management_timeout_ms" config.managementTimeoutMs.toNat,
    .number "query_timeout_ms" config.queryTimeoutMs.toNat, .blank, .header "stream",
    .number "row_buffer" config.stream.rowBuffer.toNat]

/-- The lines of the text that explains the default configuration. -/
def defaultLines : List Toml.Line :=
  [.comment " cbbridge client configuration",
    .comment "",
    .comment " Timeout for analytics management operations, in milliseconds.",
    .comment " Applies when an operation does not carry its own timeout.",
    .number "management_timeout_ms" 75000,
    .blank,
    .comment " Timeout for queries, in milliseconds.",
    .comment " Applies when the query options do not set one.",
    .number "query_timeout_ms" 75000,
    .blank,
    .header "stream",
    .comment " Rows buffered between the engine and the caller.",
    .comment " A full buffer makes the engine wait for the caller to catch up.",
    .number "row_buffer" 64]

/-- The keys of a configuration need no quotation marks. -/
theorem bare_keys : Toml.Bare "management_timeout_ms".toList ∧ Toml.Bare "query_timeout_ms".toList
    ∧ Toml.Bare "stream".toList ∧ Toml.Bare "row_buffer".toList := by
  decide

/-- The lines of a configuration whose numbers fit say what they should. -/
theorem proper_lines {config : Config} (printable : config.Printable) :
    ∀ line ∈ config.lines, line.Proper := by
  obtain ⟨management, query, buffer⟩ := printable
  obtain ⟨managementKey, queryKey, streamKey, bufferKey⟩ := bare_keys
  -- Each line of a number has a bare key and a number that fits.
  simp only [lines, List.forall_mem_cons, Toml.Line.Proper]
  exact ⟨⟨managementKey, management⟩, ⟨queryKey, query⟩, trivial, streamKey, ⟨bufferKey, buffer⟩,
    fun _ mem => by cases mem⟩

/-- The lines of a configuration make its table. -/
theorem foldlM_lines (config : Config) :
    (config.lines.foldlM Toml.Line.apply ⟨[], [], none, false⟩).bind Toml.Draft.finish
      = some config.table := by
  -- The header puts the numbers before it into the root, and the one behind it into the stream.
  simp [lines, Toml.Line.apply, Toml.Table.append?, Toml.Table.get?, Entries.get?,
    Toml.Draft.openTable, Toml.Draft.openTable.lookup, Toml.Draft.finish, Toml.Table.atPath, table,
    StreamConfig.table]

/-- A configuration is read from the document of its lines. -/
theorem readToml_document {config : Config} (printable : config.Printable) :
    readToml (Toml.document config.lines) = .ok config := by
  rw [readToml, Toml.parse?_document (proper_lines printable), foldlM_lines]
  show (decode (Toml.Value.table .header config.table)).mapError TomlFault.unfit = .ok config
  rw [decode_table]
  rfl

/-- A configuration whose numbers fit is written as the document of its lines. -/
theorem toToml_eq_ok {config : Config} (printable : config.Printable) :
    config.toToml = .ok (Toml.document config.lines) := by
  obtain ⟨management, query, buffer⟩ := printable
  have fits : [config.managementTimeoutMs, config.queryTimeoutMs, config.stream.rowBuffer].any
      (fun number => decide (0x8000000000000000 ≤ number.toNat)) = false := by
    simp [Nat.not_le.2 management, Nat.not_le.2 query, Nat.not_le.2 buffer]
  simp only [toToml, fits, Toml.document, lines, Toml.Line.text, List.map_cons, List.map_nil,
    String.join, List.foldl_cons, List.foldl_nil, String.empty_append, String.reduceAppend]
  -- The two texts have their parts in the same order.
  simp only [String.append_assoc, -String.reduceAppend]
  rfl

/-- A configuration with a number that does not fit is not written. -/
theorem toToml_eq_error {config : Config} (large : ¬ config.Printable) :
    config.toToml = .error .outOfRange := by
  refine if_pos ?_
  simp only [List.any_cons, List.any_nil, Bool.or_false, Bool.or_eq_true, decide_eq_true_eq]
  -- A number that does not fit is one of the three that are looked at.
  unfold Printable Toml.Fits at large
  omega

/-- The text that explains the default configuration is the document of its lines. -/
theorem defaultToml_eq : defaultToml = Toml.document defaultLines := by rfl

/-- The lines that explain the default configuration say what they should. -/
theorem proper_defaultLines : ∀ line ∈ defaultLines, line.Proper := by decide +kernel

/-- Comments and empty lines change nothing. -/
theorem foldlM_defaultLines (draft : Toml.Draft) :
    defaultLines.foldlM Toml.Line.apply draft = (default : Config).lines.foldlM Toml.Line.apply draft := by
  rfl

/-- The default configuration is read from the text that explains it. -/
theorem readToml_defaultToml : readToml defaultToml = .ok default := by
  -- But for its comments, the text has the lines of the default configuration.
  rw [defaultToml_eq, readToml, Toml.parse?_document proper_defaultLines, foldlM_defaultLines,
    foldlM_lines]
  simp only [decode_table, Except.mapError]

end Config

end AnalyticsClient
