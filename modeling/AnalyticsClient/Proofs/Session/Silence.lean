import AnalyticsClient.Proofs.Session.Accounts
import AnalyticsClient.Proofs.Session.Blame

/-! Steps that tell the log nothing: what is rejected, and what comes to a stream that has ended or
whose handle was dropped. -/

namespace AnalyticsClient

/-- Whether an answer says that nothing was done. -/
def Answer.rejects : Answer → Bool
  | .refused _ | .gone => true
  | .done | .pending | .outcome _ | .outcomes _ | .submittedQuery _ _ | .query _ _ => false

namespace Session

variable {session : Session}

/-- A query that is submitted makes its request, and tells so. -/
theorem openQuery_of_submits {statement : String} {options : RawQueryOptions}
    (accepted : submits statement options = true) (session : Session) (name : String) :
    ∃ request ids, session.openQuery name statement options
      = (.submittedQuery request (request.live session.config.capacity []), { session with
        ids
        ledger := Logging.log request.opening session.ledger
        queryRequests := session.queryRequests ++ [request]
        queries := session.queries.insert name (request.live session.config.capacity []) }) := by
  -- Both guards let it pass: its options are resolved, and its statement says something.
  simp only [submits, Bool.and_eq_true, Bool.not_eq_true'] at accepted
  obtain ⟨resolved, speaks⟩ := accepted
  cases resolve : options.resolve with
  | error error =>
    rw [resolve] at resolved
    cases resolved
  | ok options =>
    simp only [openQuery, resolve, Except.bind, submitQuery, speaks, Bool.false_eq_true, if_false]
    exact ⟨_, _, rfl⟩

/-- A query that is not submitted is refused, and nothing happens. -/
theorem openQuery_of_not_submits {statement : String} {options : RawQueryOptions}
    (refused : submits statement options = false) (session : Session) (name : String) :
    (session.openQuery name statement options).2 = session := by
  simp only [submits, Bool.and_eq_false_iff, Bool.not_eq_false'] at refused
  -- Either its options are faulty, or its statement is blank.
  cases resolve : options.resolve with
  | error error => simp only [openQuery, resolve, Except.bind]
  | ok options =>
    rw [resolve] at refused
    have blank : Text.isBlankText statement = true :=
      refused.resolve_left (by simp [Except.isOk, Except.toBool])
    simp only [openQuery, resolve, Except.bind, submitQuery, blank, if_true]

/-- A look at an outcome rejects nothing. -/
theorem rejects_pollOne (name : String) (engine : Nat) :
    (session.pollOne name engine).1.rejects = false := by
  unfold pollOne
  split <;> rfl

/-- A look at several outcomes rejects nothing. -/
theorem rejects_pollMany (name : String) (parts : List (Outcome Nat)) :
    (session.pollMany name parts).1.rejects = false := by
  unfold pollMany
  split <;> rfl

/-- A step that is rejected leaves the ledger as it is. -/
theorem ledger_act_of_rejects {step : Step} (rejects : (session.act step).1.rejects = true) :
    (session.act step).2.ledger = session.ledger := by
  -- Whatever goes to the engine, or is found there, is not rejected.
  cases step with
  | submit name descriptor =>
    simp only [act, submitDescriptor_eq] at rejects ⊢
    cases resolved : descriptor.resolve with
    | error error => rfl
    | ok command =>
      rw [resolved] at rejects
      cases rejects
  | dispatch name descriptor =>
    simp only [act, submitDescriptor_eq] at rejects ⊢
    cases resolved : descriptor.resolve with
    | error error => rfl
    | ok command =>
      rw [resolved] at rejects
      cases rejects
  | execute name command =>
    simp only [act, submitDescriptor_eq] at rejects ⊢
    cases resolved : (Descriptor.ofCommand command).resolve with
    | error error => rfl
    | ok _ =>
      simp only [resolved, rejects_pollOne] at rejects
      cases rejects
  | executeMany name commands =>
    simp only [act, rejects_pollMany] at rejects
    cases rejects
  | reply engine reply =>
    simp only [act] at rejects ⊢
    split at rejects
    · cases rejects
    · rfl
  | tryResult name =>
    -- From here on, a step that only looks leaves the ledger alone in any case.
    obtain ⟨handles, after⟩ := exists_tryHandle_eq session name
    simp only [act, after]
  | await name =>
    obtain ⟨handles, after⟩ := exists_awaitHandle_eq session name
    simp only [act, after]
  | cancel name =>
    simp only [act]
    split <;> rfl
  | query name statement options =>
    cases accepted : submits statement options with
    | false => simp only [act, openQuery_of_not_submits accepted]
    | true =>
      obtain ⟨request, ids, opened⟩ := openQuery_of_submits accepted session name
      simp only [act, opened] at rejects
      cases rejects
  | onQuery name inner =>
    simp only [act, stepQuery] at rejects ⊢
    split at rejects
    · rfl
    · cases rejects

/-- Calls none of which resolves leave the ledger as it is. -/
theorem ledger_act_of_unresolved {step : Step} (calls : step.calls ≠ [])
    (unresolved : ∀ call ∈ step.calls, ∃ error, call.descriptor.resolve = .error error) :
    (session.act step).2.ledger = session.ledger := by
  have kind : callsOnly step = true := by
    cases step <;> first | rfl | exact absurd rfl calls
  -- A call whose descriptor is not resolved makes no order.
  have orders : step.orders session.config = [] := by
    refine List.filterMap_eq_nil_iff.2 fun call mem => ?_
    obtain ⟨error, resolved⟩ := unresolved call mem
    simp only [Call.order?, resolved]
  -- Without an order nothing is placed.
  obtain ⟨handles, after⟩ := exists_act_eq session kind
  rw [after, orders]
  rfl

/-- Whether a turn is one that has nothing to tell. -/
inductive Mute (session : Session) : Turn → Prop where
  | rejected {turn : Turn} (rejects : (session.step turn.1 turn.2).1.rejects = true) :
    Mute session turn
  /-- All commands of the step are refused, be they one or several. -/
  | unresolved {turn : Turn} (calls : turn.2.calls ≠ [])
      (unresolved : ∀ call ∈ turn.2.calls, ∃ error, call.descriptor.resolve = .error error) :
    Mute session turn
  /-- The stream has ended, or its handle was dropped. -/
  | shut {ready : List (Reply Output)} {name : String} {inner : QueryStep} {query : LiveQuery}
      (found : session.queries.get? name = some query) (shut : query.stream.isOpen = false) :
    Mute session (ready, .onQuery name inner)
  /-- A handle is dropped. -/
  | released {ready : List (Reply Output)} {name : String} :
    Mute session (ready, .onQuery name .release)

/-- A step that leaves the ledger as it is logs nothing. -/
theorem log_report_of_ledger {turn : Turn}
    (same : (Session.act { session with ready := turn.1 } turn.2).2.ledger = session.ledger) :
    (session.report turn.1 turn.2).1.log = [] := by
  have log : (session.report turn.1 turn.2).1.log
      = (Session.act { session with ready := turn.1 } turn.2).2.ledger.log.drop
        session.ledger.log.length := rfl
  rw [log, same, List.drop_length]

/-- A step on a query whose stream tells nothing leaves the ledger as it is. -/
theorem ledger_stepQuery_of_log {name : String} {step : QueryStep} {query : LiveQuery}
    (found : session.queries.get? name = some query)
    (same : (step.take query).2.stream.log = query.stream.log) :
    (session.stepQuery name step).2.ledger = session.ledger := by
  simp only [stepQuery, found, same, List.drop_length, Ledger.logAll, List.append_nil]

/-- The query of a name is settled, whatever steps were taken on it. -/
theorem OnRoll.settled {roll : Roll} (onRoll : session.OnRoll roll) {name : String}
    {query : LiveQuery} (found : session.queries.get? name = some query) : query.Settled := by
  rw [onRoll.live name] at found
  obtain ⟨number, -, made⟩ := Option.bind_eq_some_iff.1 found
  obtain ⟨request, -, rfl⟩ := Option.map_eq_some_iff.1 made
  exact ((LiveQuery.steady_start _ _).run _).settled

/-- A turn that has nothing to tell logs nothing. -/
theorem log_report_of_mute {roll : Roll} (onRoll : session.OnRoll roll) {turn : Turn}
    (mute : session.Mute turn) : (session.report turn.1 turn.2).1.log = [] := by
  refine log_report_of_ledger ?_
  cases mute with
  | rejected rejects =>
    exact @ledger_act_of_rejects { session with ready := turn.1 } _ rejects
  | unresolved calls unresolved =>
    exact @ledger_act_of_unresolved { session with ready := turn.1 } _ calls unresolved
  | @shut ready name inner query found shut =>
    have stays := LiveQuery.stays_take (onRoll.settled found) shut inner
    exact @ledger_stepQuery_of_log { session with ready } _ _ _ found stays.log
  | @released ready name =>
    cases found : session.queries.get? name with
    | none => simp only [act, stepQuery, found]
    | some query =>
      -- To give a stream up is no end of it, whether or not it had one.
      have stays := @LiveQuery.stays_release query RowStream.isOpen_release
      exact @ledger_stepQuery_of_log { session with ready } _ _ _ found stays.log

/-- Several commands log what those among them log that are not refused. -/
theorem log_report_filter (ready : List (Reply Output)) (name : String)
    (commands : List Command) :
    (session.report ready (.executeMany name commands)).1.log
      = (session.report ready (.executeMany name (commands.filter fun command =>
        (Descriptor.ofCommand command).resolve.isOk))).1.log := by
  -- To look for outcomes is nothing to the log.
  have looks : ∀ commands, (session.report ready (.executeMany name commands)).1.log
      = (Session.submitAll { session with ready } commands).2.ledger.log.drop
        session.ledger.log.length := by
    intro commands
    obtain ⟨handles, after⟩ := exists_pollMany_eq
      (Session.submitAll { session with ready } commands).2 name
      (Session.submitAll { session with ready } commands).1
    simp only [report, Session.step, act, after]
  rw [looks, looks, submitAll_filter]

end Session

end AnalyticsClient
