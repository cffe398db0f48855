import AnalyticsClient.Operation.Descriptor
import AnalyticsClient.Proofs.Operation.Vocabulary
import AnalyticsClient.Proofs.Query.Admission

/-! Descriptors that are written and read again: all of them comes back, the timeout in whole
milliseconds as long as these fit a word of 64 bits. -/

namespace AnalyticsClient

open Wire Wire.Fields

namespace Duration

/-- The milliseconds of a span are its nanoseconds rounded down. -/
theorem millis_eq (duration : Duration) : duration.millis = duration.nanoseconds / 1000000 := by
  -- A second is a whole number of milliseconds, so only the part below it is rounded.
  unfold millis nanoseconds
  omega

/-- The word of milliseconds is what is left of them below its size. -/
theorem toNat_millisWord (duration : Duration) :
    duration.millisWord.toNat = duration.millis % UInt64.size :=
  UInt64.toNat_ofNat'

/-- A span of whole milliseconds is told by their word. -/
theorem millisWord_ofMillis (millis : UInt64) : (ofMillis millis).millisWord = millis := by
  unfold millisWord
  rw [millis_ofMillis, UInt64.ofNat_toNat]

/-- How the span that is read again stands to the one that was written. -/
structure Returns (given back : Duration) : Prop where
  /-- It never grows. -/
  le : back.nanoseconds ≤ given.nanoseconds
  /-- It is rounded down to milliseconds where these fit a word, and only there. -/
  rounded : back.nanoseconds = given.nanoseconds / 1000000 * 1000000
    ↔ given.millis < UInt64.size
  /-- It loses less than a millisecond where the milliseconds fit a word, and only there. -/
  close : given.nanoseconds < back.nanoseconds + 1000000 ↔ given.millis < UInt64.size

/-- A span that is read again is short of what does not fit the word. -/
theorem returns_millisWord (duration : Duration) :
    duration.Returns (ofMillis duration.millisWord) := by
  have back := nanoseconds_ofMillis duration.millisWord
  rw [toNat_millisWord] at back
  have rounded := duration.millis_eq
  have word : UInt64.size = 18446744073709551616 := rfl
  -- Either the word has all milliseconds, or it lacks at least as many as it can count.
  rw [word] at back
  refine ⟨?_, ?_, ?_⟩
  · omega
  · rw [word]
    omega
  · rw [word]
    omega

end Duration

namespace Descriptor

instance : Regular (fields : Fields Json Descriptor) := by
  unfold fields
  infer_instance

/-- A descriptor whose timeout is what was written of it. -/
def inMillis (descriptor : Descriptor) : Descriptor :=
  { descriptor with timeout := descriptor.timeout.map fun timeout => .ofMillis timeout.millisWord }

/-- The timeout is read from the milliseconds that were written of it, if any were. -/
theorem byName_timeout {get : String → Option Json} {timeout : Option Duration}
    (found : get "timeout" = timeout.map fun timeout => .nat timeout.millisWord.toNat) :
    (perhaps "timeout" fun source => (u64 source).map Duration.ofMillis).byName get
      = .ok (timeout.map fun timeout => .ofMillis timeout.millisWord) := by
  cases timeout with
  | none => simp only [perhaps, field, found, Option.map_none]
  | some timeout =>
    -- What was written is a number, so it is neither null nor out of range.
    have word : (u64 (Json.nat timeout.millisWord.toNat)).map Duration.ofMillis
        = .ok (.ofMillis timeout.millisWord) := by
      rw [recovers_u64 timeout.millisWord]
      rfl
    have present : Json.nat timeout.millisWord.toNat ≠ .null := by
      rintro ⟨⟩
    simp only [perhaps, field, found, Option.map_some]
    exact (optional_wrap_some (σ := Json)).2 ⟨present, word⟩

/-- A descriptor comes back with what was written of its timeout. -/
theorem decode_encode (descriptor : Descriptor) :
    decode descriptor.encode = .ok descriptor.inMillis := by
  refine read_ofFields _ (by decide) rfl fun get found => ?_
  -- The operation and the arguments are always written, the timeout only if there is one.
  simp only [fields, byName_map, byName_seq,
    byName_withDefault Operation.recovers (found "operation_type"),
    byName_withDefault recovers_json (found "arguments"), byName_timeout (found "timeout")]
  rfl

/-- What was written once loses nothing more. -/
theorem inMillis_inMillis (descriptor : Descriptor) :
    descriptor.inMillis.inMillis = descriptor.inMillis := by
  obtain ⟨operation, arguments, timeout⟩ := descriptor
  cases timeout with
  | none => rfl
  | some timeout => simp only [inMillis, Option.map_some, Duration.millisWord_ofMillis]

/-- A descriptor that was read has no timeout whose milliseconds do not fit a word. -/
theorem millis_lt_of_decode {json : Json} {descriptor : Descriptor} {timeout : Duration}
    (read : decode json = .ok descriptor) (due : descriptor.timeout = some timeout) :
    timeout.millis < UInt64.size := by
  obtain ⟨entries, -, made⟩ := (read_wrap (σ := Json) (by decide) _).1 read
  rw [← makes_eq, fields, makes_seq, makes_seq, makes_map] at made
  obtain ⟨operation, -, arguments, -, timeout', found, rfl⟩ := made
  -- Of the three fields only the last one has to do with the timeout.
  obtain rfl : timeout' = some timeout := due
  cases given : lookup Json entries "timeout" with
  | none =>
    -- Without an entry there is no timeout.
    simp only [perhaps, field, given] at found
    cases found
  | some source =>
    -- An entry is read as a word, whose milliseconds are made the timeout.
    simp only [perhaps, field, given] at found
    have word := ((optional_wrap_some (σ := Json)).1 found).2
    obtain ⟨millis, -, rfl⟩ := map_eq_ok.1 word
    rw [Duration.millis_ofMillis]
    exact millis.toNat_lt_size

/-- A descriptor that was written is read again with its operation and its arguments, and with a
timeout if it had one. The timeout never grows; it comes back rounded down to milliseconds, less
than one of them short, where these fit a word of 64 bits, and only there. What was read comes back
as it is when it is written once more. -/
theorem written_iff (descriptor : Descriptor) :
    ∃ back, decode descriptor.encode = .ok back
      ∧ back.operation = descriptor.operation
      ∧ back.arguments = descriptor.arguments
      ∧ Option.Rel Duration.Returns descriptor.timeout back.timeout
      ∧ decode back.encode = .ok back := by
  refine ⟨descriptor.inMillis, descriptor.decode_encode, rfl, rfl, ?_, ?_⟩
  · -- The two timeouts are there together.
    unfold inMillis
    cases descriptor.timeout with
    | none => exact .none
    | some timeout => exact .some timeout.returns_millisWord
  · rw [decode_encode, inMillis_inMillis]

/-- A descriptor whose timeout is one millisecond more than a word of them can tell. -/
def overlong : Descriptor := ⟨.linkConnect, .null, some ⟨18446744073709551, 616000000, by decide⟩⟩

/-- A timeout of one millisecond more than a word can tell comes back as no time at all, and there
is no other way to write it, since nothing is read as a descriptor with that timeout. -/
theorem overlong_lost :
    (∃ timeout, overlong.timeout = some timeout ∧ timeout.millis = UInt64.size)
      ∧ decode overlong.encode = .ok ⟨.linkConnect, .null, some ⟨0, 0, by decide⟩⟩
      ∧ ∀ json : Json, decode json ≠ .ok overlong := by
  refine ⟨⟨_, rfl, rfl⟩, ?_, fun json read => ?_⟩
  · rw [decode_encode]
    rfl
  · have fits := millis_lt_of_decode read rfl
    revert fits
    decide

end Descriptor

end AnalyticsClient
