import AnalyticsClient.Proofs.Wire.Plain
import AnalyticsClient.Query.Options

/-! Options as callers write them: each part is understood as one thing, or has a first fault. -/

namespace AnalyticsClient

/-- No two kinds of consistency are written alike. -/
theorem parse?_scanConsistency (member : ScanConsistency) :
    Choice.parse? (Choice.text member) = some member := by
  cases member <;> decide

/-- No two profile modes are written alike. -/
theorem parse?_profileMode (member : ProfileMode) :
    Choice.parse? (Choice.text member) = some member := by
  cases member <;> decide

/-- A choice that may be missing is understood as the member whose text was given; any other text is
a fault. -/
theorem RawQueryOptions.choose_cases {α : Type} [Choice α]
    (own : ∀ member : α, Choice.parse? (Choice.text member) = some member)
    (given : Option String) :
    (∃ chosen : Option α, given = chosen.map Choice.text ∧ choose given = .ok chosen)
      ∨ ∃ value, given = some value ∧ (∀ member : α, value ≠ Choice.text member)
        ∧ (choose given : Outcome (Option α))
          = .error (.invalidEnumString (Choice.kind α) value) := by
  cases given with
  | none => exact .inl ⟨none, rfl, rfl⟩
  | some value =>
    cases found : (Choice.parse? value : Option α) with
    | some member =>
      -- A text under which a member is found is the text of that member.
      have text := (Wire.parse?_eq_some own).1 found
      have parsed : Choice.parse value = .ok member := by simp only [Choice.parse, found]
      refine .inl ⟨some member, congrArg some text, ?_⟩
      simp only [choose, parsed]
      rfl
    | none =>
      have parsed : (Choice.parse value : Outcome α)
          = .error (.invalidEnumString (Choice.kind α) value) := by
        simp only [Choice.parse, found]
      refine .inr ⟨value, rfl, fun member text => ?_, ?_⟩
      · -- The text of a member would have been found.
        rw [(Wire.parse?_eq_some own).2 text] at found
        cases found
      · simp only [choose, parsed]
        rfl

namespace MutationToken

/-- What a token is translated as that a caller hands over in a place. -/
def translation (entry : Json × Nat) : Outcome MutationToken :=
  ofCaller (.ofNat entry.2) entry.1

/-- Every fault of a token tells of its place. -/
theorem exists_reason_of_error {index : UInt64} {given : Json} {error : Error}
    (refused : ofCaller index given = .error error) :
    ∃ reason, error = .malformedMutationToken index reason := by
  -- The token cannot be read, or one of two of its fields is out of range.
  unfold ofCaller at refused
  split at refused
  · cases refused
    exact ⟨_, rfl⟩
  · split at refused
    · cases refused
      exact ⟨_, rfl⟩
    · split at refused
      · cases refused
        exact ⟨_, rfl⟩
      · cases refused

end MutationToken

/-- Tokens are translated one by one, or up to the first that cannot be. -/
theorem MutationState.translate_cases (given : List Json) :
    ∀ index, (∃ tokens, (given.zipIdx index).map MutationToken.translation = tokens.map .ok
          ∧ translate index given = .ok tokens)
      ∨ ∃ before bad after error, given = before ++ bad :: after
          ∧ (∀ entry ∈ before.zipIdx index, ∃ token, MutationToken.translation entry = .ok token)
          ∧ MutationToken.translation (bad, index + before.length) = .error error
          ∧ translate index given = .error error := by
  -- The places go on from token to token, so the first one stays quantified over.
  induction given with
  | nil =>
    intro index
    exact .inl ⟨[], rfl, rfl⟩
  | cons first rest ih =>
    intro index
    have step : translate index (first :: rest) = (do
        let token ← MutationToken.translation (first, index)
        let later ← translate (index + 1) rest
        return token :: later) := rfl
    rw [step]
    cases read : MutationToken.translation (first, index) with
    | error error =>
      -- The first token is the first fault.
      exact .inr ⟨[], first, rest, error, rfl, by simp, read, rfl⟩
    | ok token =>
      rcases ih (index + 1) with ⟨tokens, later, translated⟩
        | ⟨before, bad, after, error, split, fine, refused, failed⟩
      · refine .inl ⟨token :: tokens, ?_, ?_⟩
        · rw [List.zipIdx_cons, List.map_cons, read, later, List.map_cons]
        · rw [translated]
          rfl
      · -- The fault stands further back, behind the first token.
        have place : index + (first :: before).length = index + 1 + before.length := by
          rw [List.length_cons]
          omega
        refine .inr ⟨first :: before, bad, after, error, by rw [split]; rfl, ?_, ?_, ?_⟩
        · intro entry mem
          rw [List.zipIdx_cons] at mem
          rcases List.mem_cons.1 mem with rfl | mem
          · exact ⟨token, read⟩
          · exact fine entry mem
        · rw [place]
          exact refused
        · rw [failed]
          rfl

namespace RawQueryOptions

/-- The options that raw ones stand for, once the parts that can be at fault are understood. -/
def understood (options : RawQueryOptions) (scanConsistency : Option ScanConsistency)
    (profile : Option ProfileMode) (tokens : List MutationToken) : QueryOptions where
  scanConsistency := scanConsistency
  consistentWith := ⟨tokens⟩
  profile := profile
  timeout := options.timeoutMs.map .ofMillis
  adhoc := options.adhoc.getD true
  clientContextId := options.clientContextId
  readOnly := options.readOnly.getD false
  metrics := options.metrics.getD false
  flexIndex := options.flexIndex.getD false
  maxParallelism := options.maxParallelism
  scanCap := options.scanCap
  scanWait := options.scanWaitMs.map .ofMillis
  pipelineBatch := options.pipelineBatch
  pipelineCap := options.pipelineCap
  queryContext := options.queryContext
  positionalParameters := options.positionalParameters
  namedParameters := options.namedParameters.mapKeys dollarName
  raw := options.raw

/-- The scan consistency is left open, or is one that there is. -/
def KnownConsistency (options : RawQueryOptions) : Prop :=
  options.scanConsistency = none ∨ options.scanConsistency = some "not_bounded"
    ∨ options.scanConsistency = some "request_plus"

/-- The profile mode is left open, or is one that there is. -/
def KnownProfile (options : RawQueryOptions) : Prop :=
  options.profile = none ∨ options.profile = some "off" ∨ options.profile = some "phases"
    ∨ options.profile = some "timings"

/-- A consistency that is understood is one that there is. -/
theorem knownConsistency_of_map {options : RawQueryOptions} {chosen : Option ScanConsistency}
    (given : options.scanConsistency = chosen.map Choice.text) : options.KnownConsistency := by
  rw [KnownConsistency, given]
  rcases chosen with _ | (_ | _)
  · exact .inl rfl
  · exact .inr (.inl rfl)
  · exact .inr (.inr rfl)

/-- A profile mode that is understood is one that there is. -/
theorem knownProfile_of_map {options : RawQueryOptions} {chosen : Option ProfileMode}
    (given : options.profile = chosen.map Choice.text) : options.KnownProfile := by
  rw [KnownProfile, given]
  rcases chosen with _ | (_ | _ | _)
  · exact .inl rfl
  · exact .inr (.inl rfl)
  · exact .inr (.inr (.inl rfl))
  · exact .inr (.inr (.inr rfl))

/-- The first fault of options: the scan consistency is looked at first, then the profile mode, and
then the tokens one by one. -/
inductive FirstFault (options : RawQueryOptions) : Error → Prop where
  | consistency {value : String} (given : options.scanConsistency = some value)
      (unknown : value ≠ "not_bounded" ∧ value ≠ "request_plus") :
      FirstFault options (.invalidEnumString "scan consistency" value)
  | profile {value : String} (consistency : options.KnownConsistency)
      (given : options.profile = some value)
      (unknown : value ≠ "off" ∧ value ≠ "phases" ∧ value ≠ "timings") :
      FirstFault options (.invalidEnumString "profile mode" value)
  | token {before after : List Json} {bad : Json} {reason : String}
      (consistency : options.KnownConsistency) (profile : options.KnownProfile)
      (split : options.consistentWith = before ++ bad :: after)
      (fine : ∀ entry ∈ before.zipIdx, ∃ token, MutationToken.translation entry = .ok token)
      (refused : MutationToken.translation (bad, before.length)
        = .error (.malformedMutationToken (.ofNat before.length) reason)) :
      FirstFault options (.malformedMutationToken (.ofNat before.length) reason)

/-- Raw options are understood part by part, or have a first fault. -/
theorem resolve_cases (options : RawQueryOptions) :
    (∃ scanConsistency profile tokens, options.scanConsistency = scanConsistency.map Choice.text
        ∧ options.profile = profile.map Choice.text
        ∧ options.consistentWith.zipIdx.map MutationToken.translation = tokens.map .ok
        ∧ options.resolve = .ok (options.understood scanConsistency profile tokens))
      ∨ ∃ error, options.FirstFault error ∧ options.resolve = .error error := by
  -- The parts are taken in the order in which they are looked at, and the first fault ends it.
  rcases choose_cases parse?_scanConsistency options.scanConsistency
    with ⟨scanConsistency, consistency, chosen⟩ | ⟨value, given, unknown, failed⟩
  · have known := knownConsistency_of_map consistency
    rcases choose_cases parse?_profileMode options.profile
      with ⟨profile, mode, chosen'⟩ | ⟨value, given, unknown, failed⟩
    · have known' := knownProfile_of_map mode
      rcases MutationState.translate_cases options.consistentWith 0
        with ⟨tokens, translates, translated⟩
          | ⟨before, bad, after, error, split, fine, refused, failed⟩
      · refine .inl ⟨scanConsistency, profile, tokens, consistency, mode, translates, ?_⟩
        simp only [resolve, chosen, chosen', MutationState.ofCaller, translated, Except.map, bind,
          Except.bind, pure, Except.pure, understood]
      · -- The error is that of the first bad token, which tells of its place.
        rw [Nat.zero_add] at refused
        obtain ⟨reason, rfl⟩ := MutationToken.exists_reason_of_error refused
        refine .inr ⟨_, .token known known' split fine refused, ?_⟩
        simp only [resolve, chosen, chosen', MutationState.ofCaller, failed, Except.map, bind,
          Except.bind]
    · have others : value ≠ "off" ∧ value ≠ "phases" ∧ value ≠ "timings" :=
        ⟨unknown .off, unknown .phases, unknown .timings⟩
      refine .inr ⟨_, .profile known given others, ?_⟩
      simp only [resolve, chosen, failed, bind, Except.bind]
      rfl
  · have others : value ≠ "not_bounded" ∧ value ≠ "request_plus" :=
      ⟨unknown .notBounded, unknown .requestPlus⟩
    refine .inr ⟨_, .consistency given others, ?_⟩
    simp only [resolve, failed, bind, Except.bind]
    rfl

end RawQueryOptions

end AnalyticsClient
