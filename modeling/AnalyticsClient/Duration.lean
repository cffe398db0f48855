import AnalyticsClient.Wire.Fields

/-! Spans of time in seconds and nanoseconds. -/

namespace AnalyticsClient

/-- A span of time: whole seconds, and nanoseconds short of another second. -/
structure Duration where
  secs : UInt64
  nanos : Nat
  nanos_lt : nanos < 1000000000
deriving DecidableEq

namespace Duration

/-- A number of milliseconds. -/
def ofMillis (millis : UInt64) : Duration where
  secs := millis / 1000
  nanos := (millis % 1000).toNat * 1000000
  nanos_lt := by
    -- A remainder below a thousand stays below a second.
    have := Nat.mod_lt millis.toNat (show 0 < 1000 by decide)
    rw [UInt64.toNat_mod]
    change millis.toNat % 1000 * 1000000 < 1000000000
    omega

/-- The whole milliseconds of a span. -/
def millis (duration : Duration) : Nat :=
  duration.secs.toNat * 1000 + duration.nanos / 1000000

/-- The whole milliseconds of a span in a word of 64 bits, higher bits dropped. -/
def millisWord (duration : Duration) : UInt64 := UInt64.ofNat duration.millis

/-- Seconds and any number of nanoseconds, whole seconds among them carried over; none if the
seconds no longer fit a word of 64 bits. -/
def ofParts? (secs : UInt64) (nanos : Nat) : Option Duration :=
  if secs.toNat + nanos / 1000000000 < UInt64.size then
    some ⟨UInt64.ofNat (secs.toNat + nanos / 1000000000), nanos % 1000000000,
      Nat.mod_lt _ (by decide)⟩
  else none

/-- Milliseconds survive being made a span and being counted again. -/
theorem millis_ofMillis (millis : UInt64) : (ofMillis millis).millis = millis.toNat := by
  simp only [Duration.millis, ofMillis, UInt64.toNat_div, UInt64.toNat_mod]
  change millis.toNat / 1000 * 1000 + millis.toNat % 1000 * 1000000 / 1000000 = millis.toNat
  omega

/-- A span as a plain value. -/
def encode (duration : Duration) : Json :=
  .ofMembers [("secs", .nat duration.secs.toNat), ("nanos", .nat duration.nanos)]

/-- The two numbers of a span as they are written. -/
def parts {σ : Type} [Wire.Source σ] : Wire.Fields σ (UInt64 × UInt32) :=
  Prod.mk <$> .required "secs" Wire.u64 <*> .required "nanos" Wire.u32

/-- The span that its two numbers make. -/
def fields {σ : Type} [Wire.Source σ] : Wire.Fields σ Duration :=
  parts.refine fun (secs, nanos) =>
    match ofParts? secs nanos.toNat with
    | some duration => .ok duration
    | none => .error .durationOverflow

/-- Reads a span. -/
def decode {σ : Type} [Wire.Source σ] : Wire.Decoder σ Duration :=
  fields.read ⟨"struct Duration", true, false⟩

end Duration

end AnalyticsClient
