import AnalyticsClient.Proofs.Operation.CommandForm
import AnalyticsClient.Proofs.Query.Understanding
import AnalyticsClient.Session.Step

/-! Which queries reach the engine, as what request, and what is said about the others. -/

namespace AnalyticsClient

/-- The nanoseconds of a span of time, all told. -/
def Duration.nanoseconds (duration : Duration) : Nat :=
  duration.secs.toNat * 1000000000 + duration.nanos

/-- A number of milliseconds is neither cut short nor rounded. -/
theorem Duration.nanoseconds_ofMillis (millis : UInt64) :
    (ofMillis millis).nanoseconds = millis.toNat * 1000000 := by
  have secs : (ofMillis millis).secs.toNat = millis.toNat / 1000 := UInt64.toNat_div _ _
  have nanos : (ofMillis millis).nanos = millis.toNat % 1000 * 1000000 := by
    unfold ofMillis
    simp only [UInt64.toNat_mod]
    rfl
  unfold nanoseconds
  rw [secs, nanos]
  omega

/-- A text is blank where it does not say anything. -/
theorem isBlankText_eq_true_iff {text : String} : Text.isBlankText text = true ↔ ¬ Speaks text := by
  simp [Text.isBlankText, Speaks]

/-- Whether a query can be submitted: its scan consistency and its profile mode are left open or
known, all its tokens can be translated, and its statement says something. -/
structure Sendable (options : RawQueryOptions) (statement : String) : Prop where
  consistency : options.KnownConsistency
  profile : options.KnownProfile
  tokens : ∀ entry ∈ options.consistentWith.zipIdx,
    ∃ token, MutationToken.translation entry = .ok token
  statement : Speaks statement

/-- What is wrong with a query in the first place: the first fault of its options or, where they
have none, its blank statement. -/
inductive Unsendable (options : RawQueryOptions) (statement : String) : Error → Prop where
  | options {error : Error} (fault : options.FirstFault error) : Unsendable options statement error
  | statement (consistency : options.KnownConsistency) (profile : options.KnownProfile)
      (tokens : ∀ entry ∈ options.consistentWith.zipIdx,
        ∃ token, MutationToken.translation entry = .ok token)
      (blank : ¬ Speaks statement) :
      Unsendable options statement (.invalidArguments "QUERY" "statement must not be empty")

/-- Whether a request asks for what raw options and a statement say, and under a configuration for
what they leave open. -/
structure QueryRequest.Carries (request : QueryRequest) (options : RawQueryOptions)
    (statement : String) (config : Config) : Prop where
  statement : request.statement = statement
  scanConsistency : request.scanConsistency.map Choice.text = options.scanConsistency
  /-- The tokens are there in their order, however often each comes. -/
  tokens : request.mutationState.map .ok
    = options.consistentWith.zipIdx.map MutationToken.translation
  profile : Choice.text request.profile = options.profile.getD "off"
  timeout : request.timeout.nanoseconds
    = (options.timeoutMs.getD config.queryTimeoutMs).toNat * 1000000
  adhoc : request.adhoc = options.adhoc.getD true
  readOnly : request.readOnly = options.readOnly.getD false
  metrics : request.metrics = options.metrics.getD false
  flexIndex : request.flexIndex = options.flexIndex.getD false
  maxParallelism : request.maxParallelism = options.maxParallelism
  scanCap : request.scanCap = options.scanCap
  scanWait : request.scanWait.map Duration.nanoseconds
    = options.scanWaitMs.map fun millis => millis.toNat * 1000000
  pipelineBatch : request.pipelineBatch = options.pipelineBatch
  pipelineCap : request.pipelineCap = options.pipelineCap
  queryContext : request.queryContext = options.queryContext
  positionalParameters : request.positionalParameters = options.positionalParameters
  raw : request.raw = options.raw

/-- A query that has a fault cannot be submitted. -/
theorem Unsendable.not_sendable {options : RawQueryOptions} {statement : String} {error : Error}
    (fault : Unsendable options statement error) : ¬ Sendable options statement := by
  intro sendable
  cases fault with
  | statement _ _ _ blank => exact blank sendable.statement
  | options fault =>
    cases fault with
    | consistency given unknown =>
      -- The text that was given is none of those that are known.
      rcases sendable.consistency with known | known | known
      all_goals rw [given] at known
      · cases known
      · exact unknown.1 (Option.some.inj known)
      · exact unknown.2 (Option.some.inj known)
    | profile _ given unknown =>
      rcases sendable.profile with known | known | known | known
      all_goals rw [given] at known
      · cases known
      · exact unknown.1 (Option.some.inj known)
      · exact unknown.2.1 (Option.some.inj known)
      · exact unknown.2.2 (Option.some.inj known)
    | @token before after bad reason _ _ split _ refused =>
      -- The bad token stands in its place among all of them.
      have mem : (bad, before.length) ∈ options.consistentWith.zipIdx := by
        rw [split, List.zipIdx_append]
        refine List.mem_append_right _ ?_
        rw [List.zipIdx_cons, Nat.zero_add]
        exact List.mem_cons_self
      obtain ⟨token, translated⟩ := sendable.tokens _ mem
      rw [refused] at translated
      cases translated

/-- Tokens that are translated together are translated one by one. -/
theorem exists_translation_of_map {entries : List (Json × Nat)} {tokens : List MutationToken}
    (translated : entries.map MutationToken.translation = tokens.map .ok) :
    ∀ entry ∈ entries, ∃ token, MutationToken.translation entry = .ok token := by
  intro entry mem
  have found : MutationToken.translation entry ∈ tokens.map (Except.ok : _ → Outcome _) := by
    rw [← translated]
    exact List.mem_map_of_mem mem
  obtain ⟨token, -, same⟩ := List.mem_map.1 found
  exact ⟨token, same.symm⟩

/-- A request built from options that were understood asks for what was written. -/
theorem QueryRequest.carries_build {options : RawQueryOptions}
    {scanConsistency : Option ScanConsistency} {profile : Option ProfileMode}
    {tokens : List MutationToken}
    (consistency : options.scanConsistency = scanConsistency.map Choice.text)
    (mode : options.profile = profile.map Choice.text)
    (translated : options.consistentWith.zipIdx.map MutationToken.translation = tokens.map .ok)
    (statement id : String) (config : Config) :
    (build statement id (options.understood scanConsistency profile tokens)
      config.queryTimeout).Carries options statement config where
  statement := rfl
  scanConsistency := consistency.symm
  tokens := translated.symm
  profile := by
    -- No profile mode is the one that measures nothing.
    rw [mode]
    cases profile <;> rfl
  timeout := by
    -- Given or configured, the timeout is a number of milliseconds.
    have chosen : (build statement id (options.understood scanConsistency profile tokens)
        config.queryTimeout).timeout
          = .ofMillis (options.timeoutMs.getD config.queryTimeoutMs) := Option.getD_map _ _ _
    rw [chosen]
    exact Duration.nanoseconds_ofMillis _
  adhoc := rfl
  readOnly := rfl
  metrics := rfl
  flexIndex := rfl
  maxParallelism := rfl
  scanCap := rfl
  scanWait := by
    simp only [build, RawQueryOptions.understood]
    cases options.scanWaitMs with
    | none => rfl
    | some millis => exact congrArg some (Duration.nanoseconds_ofMillis millis)
  pipelineBatch := rfl
  pipelineCap := rfl
  queryContext := rfl
  positionalParameters := rfl
  raw := rfl

/-- A request goes by the id that its options name, and only where they name none is one drawn. -/
theorem QueryRequest.make_eq (statement : String) (options : QueryOptions)
    (defaultTimeout : Duration) (supply : IdSupply) :
    make statement options defaultTimeout supply
      = (build statement (options.clientContextId.getD (supply.id supply.drawn)) options
          defaultTimeout,
        ⟨supply.id, supply.drawn + if options.clientContextId.isNone then 1 else 0⟩) := by
  unfold make
  cases options.clientContextId <;> rfl

/-- Whether a query was submitted under a name, between two states of a session. -/
structure Submitted (session after : Session) (name statement : String) (options : RawQueryOptions)
    (request : QueryRequest) (query : LiveQuery) : Prop where
  /-- It makes one request, and no other one. -/
  made : after.queryRequests = session.queryRequests ++ [request]
  others : after.submissions = session.submissions
  carries : request.Carries options statement session.config
  /-- The request goes by the id that the options name, or else by the next one that is drawn. -/
  id : request.clientContextId
    = options.clientContextId.getD (session.ids.id session.ids.drawn)
  drawn : after.ids.id = session.ids.id
    ∧ after.ids.drawn = session.ids.drawn + if options.clientContextId.isNone then 1 else 0
  /-- The stream has the same id on the caller's side and on that of the engine. -/
  stream : query.stream.clientContextId = request.clientContextId
  sink : query.probe.1 = some ⟨false, request.clientContextId⟩
  fresh : query = .start (.start request.clientContextId session.config.capacity)
  opened : after.queries = session.queries.insert name query

namespace Session

variable {session : Session} {statement : String} {options : RawQueryOptions}

/-- A statement that says something is submitted, under options that are understood. -/
theorem submitted_openQuery (speaks : Speaks statement)
    {scanConsistency : Option ScanConsistency} {profile : Option ProfileMode}
    {tokens : List MutationToken}
    (consistency : options.scanConsistency = scanConsistency.map Choice.text)
    (mode : options.profile = profile.map Choice.text)
    (translated : options.consistentWith.zipIdx.map MutationToken.translation = tokens.map .ok)
    (resolved : options.resolve = .ok (options.understood scanConsistency profile tokens))
    (name : String) :
    ∃ request query, (session.openQuery name statement options).1 = .submittedQuery request query
      ∧ Submitted session (session.openQuery name statement options).2 name statement options
        request query := by
  have spoken : ¬ Text.isBlankText statement = true := by
    rw [isBlankText_eq_true_iff]
    exact fun silent => silent speaks
  -- The request is built from what was understood, under the id that is named or drawn.
  simp only [openQuery, resolved, Except.bind, submitQuery, if_neg spoken, QueryRequest.make_eq]
  refine ⟨_, _, rfl, ?_⟩
  exact
    { made := rfl
      others := rfl
      carries := QueryRequest.carries_build consistency mode translated _ _ _
      id := rfl
      drawn := ⟨rfl, rfl⟩
      stream := rfl
      sink := rfl
      fresh := rfl
      opened := rfl }

/-- A query is submitted, or refused for the first thing that is wrong with it. -/
theorem openQuery_cases (session : Session) (name statement : String) (options : RawQueryOptions) :
    (Sendable options statement ∧ ∃ request query,
        (session.openQuery name statement options).1 = .submittedQuery request query
          ∧ Submitted session (session.openQuery name statement options).2 name statement options
            request query)
      ∨ ∃ error, Unsendable options statement error
        ∧ session.openQuery name statement options = (.refused error, session) := by
  rcases options.resolve_cases
    with ⟨scanConsistency, profile, tokens, consistency, mode, translated, resolved⟩
      | ⟨error, fault, failed⟩
  · have known := RawQueryOptions.knownConsistency_of_map consistency
    have known' := RawQueryOptions.knownProfile_of_map mode
    have each := exists_translation_of_map translated
    by_cases speaks : Speaks statement
    · have opened := @submitted_openQuery session statement options speaks _ _ _ consistency mode
        translated resolved name
      exact .inl ⟨⟨known, known', each, speaks⟩, opened⟩
    · -- Only the statement is at fault.
      refine .inr ⟨_, .statement known known' each speaks, ?_⟩
      have blank := isBlankText_eq_true_iff.2 speaks
      simp only [openQuery, resolved, Except.bind, submitQuery, blank, if_true]
      rfl
  · refine .inr ⟨error, .options fault, ?_⟩
    simp only [openQuery, failed, Except.bind]

/-- A query reaches the engine exactly where its options are known, its tokens can be translated and
its statement says something. Then it makes one request that asks for what was written; otherwise
nothing changes, and the caller is told the first thing that is wrong. -/
theorem query_admission (session : Session) (ready : List (Reply Output)) (name statement : String)
    (options : RawQueryOptions) :
    let (answer, after) := session.step ready (.query name statement options)
    ((∃ request, after.queryRequests = session.queryRequests ++ [request])
        ↔ Sendable options statement)
      ∧ (Sendable options statement → ∃ request query, answer = .submittedQuery request query
        ∧ Submitted session after name statement options request query)
      ∧ (¬ Sendable options statement → ∃ error, answer = .refused error
        ∧ Unsendable options statement error ∧ after = { session with ready := [] }) := by
  -- The replies that are ready are for management operations, and play no part in this.
  have taken : session.step ready (.query name statement options)
      = let (answer, after) := openQuery { session with ready } name statement options
        (answer, { after with ready := [] }) := rfl
  rw [taken]
  rcases openQuery_cases { session with ready } name statement options
    with ⟨sendable, request, query, answer, submitted⟩ | ⟨error, fault, refused⟩
  · refine ⟨iff_of_true ⟨request, submitted.made⟩ sendable, fun _ => ?_, ?_⟩
    · exact ⟨request, query, answer, submitted.made, submitted.others, submitted.carries,
        submitted.id, submitted.drawn, submitted.stream, submitted.sink, submitted.fresh,
        submitted.opened⟩
    · intro unsendable
      exact absurd sendable unsendable
  · have unsendable := fault.not_sendable
    rw [refused]
    refine ⟨iff_of_false ?_ unsendable, ?_, fun _ => ⟨error, rfl, fault, rfl⟩⟩
    · -- There is no room for another request among those that were there.
      rintro ⟨request, made⟩
      have lengths := congrArg List.length made
      rw [List.length_append] at lengths
      exact Nat.ne_of_lt (Nat.lt_succ_self _) lengths
    · intro sendable
      exact absurd sendable unsendable

end Session

end AnalyticsClient
