import AnalyticsClient.Proofs.Session.Advance

/-! What a step, and a whole run of steps, does to the operations in flight. -/

namespace AnalyticsClient.Session

variable {session : Session}

/-- A request goes on with the same ids; one that has an id of its own draws none. -/
theorem make_supply (statement : String) (options : QueryOptions) (defaultTimeout : Duration)
    (supply : IdSupply) :
    (QueryRequest.make statement options defaultTimeout supply).2.id = supply.id
      ∧ supply.drawn ≤ (QueryRequest.make statement options defaultTimeout supply).2.drawn := by
  -- Only a request without an id of its own draws one.
  simp only [QueryRequest.make]
  split
  · exact ⟨rfl, Nat.le_refl _⟩
  · exact ⟨rfl, Nat.le_succ _⟩

/-- Opening a query draws at most an id, and writes to the log; the rest concerns queries only. -/
theorem exists_openQuery_eq (session : Session) (id statement : String)
    (options : RawQueryOptions) :
    ∃ ids ledger queryRequests queries,
      (session.openQuery id statement options).2
          = { session with ids, ledger, queryRequests, queries }
        ∧ ids.id = session.ids.id ∧ session.ids.drawn ≤ ids.drawn
        ∧ ledger.deliveries = session.ledger.deliveries := by
  -- Faulty options and a blank statement are refused before anything changes.
  simp only [openQuery]
  cases options.resolve with
  | error error => exact ⟨_, _, _, _, rfl, rfl, Nat.le_refl _, rfl⟩
  | ok options =>
    simp only [Except.bind, submitQuery]
    by_cases blank : Text.isBlankText statement
    · simp only [blank]
      exact ⟨_, _, _, _, rfl, rfl, Nat.le_refl _, rfl⟩
    · simp only [blank]
      obtain ⟨same, drawn⟩ :=
        make_supply statement options session.config.queryTimeout session.ids
      exact ⟨_, _, _, _, rfl, same, drawn, rfl⟩

/-- Opening a query is nothing to the operations in flight. -/
theorem Advance.openQuery (bounded : ∀ engine ∈ session.held, engine < session.submissions.length)
    (id statement : String) (options : RawQueryOptions) :
    Advance [] (fun _ => none) session (session.openQuery id statement options).2 := by
  -- The ids that are drawn are those of queries, so no operation has them.
  obtain ⟨ids, ledger, queryRequests, queries, after, same, drawn, deliveries⟩ :=
    exists_openQuery_eq session id statement options
  rw [after]
  exact .quiet bounded rfl same drawn rfl rfl deliveries

/-- A step on a query is nothing to the operations in flight. -/
theorem Advance.stepQuery (bounded : ∀ engine ∈ session.held, engine < session.submissions.length)
    (id : String) (step : QueryStep) :
    Advance [] (fun _ => none) session (session.stepQuery id step).2 := by
  -- The ledger gets lines for the log, but no deliveries.
  simp only [Session.stepQuery]
  split
  · exact .quiet bounded rfl rfl (Nat.le_refl _) rfl rfl rfl
  · exact .quiet bounded rfl rfl (Nat.le_refl _) rfl rfl rfl

/-- A step made of calls answers the requests it makes itself, and no others. -/
theorem Turn.replyTo?_calls {step : Step} (kind : callsOnly step = true) (config : Config)
    (made : Nat) (ready : List (Reply Output)) :
    (fun engine => Turn.replyTo? config engine made (ready, step))
      = readyFor ready made (step.orders config).length := by
  funext engine
  simp only [Turn.replyTo?, readyFor]
  by_cases own : made ≤ engine
  · -- The request is one of the step, or of none made so far.
    simp only [own, if_true, true_and]
  · -- An earlier request is answered by a reply only.
    have neither : ¬(made ≤ engine ∧ engine < made + (step.orders config).length) :=
      fun both => own both.1
    rw [if_neg own, if_neg neither]
    cases step <;> first | rfl | cases kind

/-- A reply answers a request made before it. -/
theorem Turn.replyTo?_reply (config : Config) (made answered : Nat) (ready : List (Reply Output))
    (reply : Reply Output) :
    (fun engine => Turn.replyTo? config engine made (ready, .reply answered reply))
      = fun engine => if made ≤ engine then none
          else if answered = engine then some reply else none := by
  funext engine
  simp only [Turn.replyTo?]
  by_cases own : made ≤ engine
  · -- The step makes no request that could be answered.
    have none_made : ¬ engine < made + (Step.orders config (.reply answered reply)).length := by
      show ¬ engine < made + 0
      omega
    rw [if_pos own, if_pos own, if_neg none_made]
  · rw [if_neg own, if_neg own]

/-- A step on queries answers no request. -/
theorem Turn.replyTo?_queries {step : Step} (calls : ¬ callsOnly step = true)
    (replies : ∀ answered reply, step ≠ .reply answered reply) (config : Config) (made : Nat)
    (ready : List (Reply Output)) :
    (fun engine => Turn.replyTo? config engine made (ready, step)) = fun _ => none := by
  funext engine
  -- No branch but that of a reply answers anything.
  simp only [Turn.replyTo?]
  have orders : step.orders config = [] := by
    cases step <;> first | rfl | exact absurd rfl calls
  by_cases own : made ≤ engine
  · have none_made : ¬ engine < made + (step.orders config).length := by
      rw [orders]
      show ¬ engine < made + 0
      omega
    rw [if_pos own, if_neg none_made]
  · exact if_neg own

/-- A step made of calls advances the operations in flight by its calls. -/
theorem Advance.calls (bounded : ∀ engine ∈ session.held, engine < session.submissions.length)
    (ready : List (Reply Output)) {step : Step} (kind : callsOnly step = true) :
    Advance (step.orders session.config)
      (fun engine => Turn.replyTo? session.config engine session.submissions.length (ready, step))
      session (session.step ready step).2 := by
  -- Calls place their orders, and beyond that only callers keep something.
  obtain ⟨handles, after⟩ := exists_act_eq { session with ready } kind
  have placed := @Advance.placeAll (step.orders session.config) { session with ready } bounded
  rw [Turn.replyTo?_calls kind]
  simp only [Session.step, after]
  exact placed.frame handles session.ready []

/-- A reply answers the request if it is held, whatever replies are ready. -/
theorem step_reply (ready : List (Reply Output)) (engine : Nat) (reply : Reply Output) :
    (session.step ready (.reply engine reply)).2
      = { ((Session.reply? { session with ready } engine reply).getD
          { session with ready }) with ready := [] } := by
  simp only [Session.step, act]
  cases Session.reply? { session with ready } engine reply <;> rfl

/-- A reply advances the operations in flight by an answer. -/
theorem Advance.answered (bounded : ∀ engine ∈ session.held, engine < session.submissions.length)
    (ready : List (Reply Output)) (engine : Nat) (reply : Reply Output) :
    Advance []
      (fun asked => Turn.replyTo? session.config asked session.submissions.length
        (ready, .reply engine reply))
      session (session.step ready (.reply engine reply)).2 := by
  have answers := @Advance.reply { session with ready } bounded engine reply
  rw [Turn.replyTo?_reply, step_reply]
  exact answers.frame _ session.ready []

/-- A step advances the operations in flight by its own calls and by the replies given while it is
taken. -/
theorem Advance.step (bounded : ∀ engine ∈ session.held, engine < session.submissions.length)
    (turn : Turn) :
    Advance (turn.2.orders session.config)
      (fun engine => turn.replyTo? session.config engine session.submissions.length)
      session (session.step turn.1 turn.2).2 := by
  -- The steps are of three sorts: calls, replies and steps on queries.
  obtain ⟨ready, step⟩ := turn
  cases step with
  | query id statement options =>
    have opens := @Advance.openQuery { session with ready } bounded id statement options
    rw [Turn.replyTo?_queries (fun kind => by cases kind) (fun _ _ same => by cases same)]
    exact opens.frame _ session.ready []
  | onQuery id inner =>
    have steps := @Advance.stepQuery { session with ready } bounded id inner
    rw [Turn.replyTo?_queries (fun kind => by cases kind) (fun _ _ same => by cases same)]
    exact steps.frame _ session.ready []
  | reply engine reply => exact .answered bounded ready engine reply
  | submit => exact .calls bounded ready rfl
  | dispatch => exact .calls bounded ready rfl
  | execute => exact .calls bounded ready rfl
  | executeMany => exact .calls bounded ready rfl
  | tryResult => exact .calls bounded ready rfl
  | await => exact .calls bounded ready rfl
  | cancel => exact .calls bounded ready rfl

/-- A run advances the operations in flight by all its calls and by the first reply to each. -/
theorem Advance.run (turns : List Turn) :
    ∀ {session : Session}, (∀ engine ∈ session.held, engine < session.submissions.length) →
      Advance (turns.flatMap fun turn => turn.2.orders session.config)
        (fun engine => replyTo? session.config engine session.submissions.length turns)
        session (session.run turns).2 := by
  -- The numbers of the requests go on from step to step, so the session stays quantified over.
  induction turns with
  | nil =>
    intro session bounded
    exact .quiet bounded rfl rfl (Nat.le_refl _) rfl rfl rfl
  | cons turn rest ih =>
    intro session bounded
    have first := Advance.step bounded turn
    have later := ih first.bounded
    rw [first.config, first.length_submissions] at later
    exact first.trans later

/-- The first part of a run does not see what comes later. -/
theorem run_append (earlier later : List Turn) :
    ∀ session : Session, session.run (earlier ++ later)
      = ((session.run earlier).1 ++ ((session.run earlier).2.run later).1,
          ((session.run earlier).2.run later).2) := by
  -- The later part starts where the earlier one ends, so the session stays quantified over.
  induction earlier with
  | nil => exact fun _ => rfl
  | cons turn rest ih =>
    intro session
    simp only [List.cons_append, Session.run, ih]

/-- A run goes on from where a step of it led. -/
theorem run_append_cons (earlier : List Turn) (turn : Turn) (later : List Turn) :
    (session.run (earlier ++ turn :: later)).2
      = (((session.run earlier).2.step turn.1 turn.2).2.run later).2 := by
  rw [run_append]
  rfl

/-- The outcome that a future finds is that of the first delivery of its request. -/
theorem outcome?_eq (engine : Nat) :
    session.ledger.outcome? engine = (session.deliveriesOf engine).head?.map Delivery.outcome := by
  simp only [Ledger.outcome?, deliveriesOf, List.head?_filter]

/-- Nothing was asked for and nothing is held at the start of a run. -/
theorem bounded_start (config : Config) (id : Nat → String) :
    ∀ engine ∈ (start config id).held, engine < (start config id).submissions.length := by
  simp [start]

/-- At the start no request is answered, and none was made. -/
theorem unanswered_start (config : Config) (id : Nat → String) (engine : Nat) :
    (start config id).Unanswered engine :=
  .inr (Nat.zero_le _)

/-- A run from the start advances from no operations at all. -/
theorem advance_start (config : Config) (id : Nat → String) (turns : List Turn) :
    Advance (turns.flatMap fun turn => turn.2.orders config)
      (fun engine => replyTo? config engine 0 turns) (start config id)
      ((start config id).run turns).2 :=
  Advance.run turns (bounded_start config id)

/-- Since the start of a session, a request that got a reply has one delivery, which is that of the
reply, and its outcome. -/
theorem Advance.of_replied {config : Config} {ids : Nat → String} {orders : List Order}
    {given : Nat → Option (Reply Output)}
    (advance : Advance orders given (start config ids) session) {engine : Nat}
    {reply : Reply Output} (gave : given engine = some reply) :
    ∃ submission, session.submissions[engine]? = some submission
      ∧ session.deliveriesOf engine = [submission.delivery engine reply]
      ∧ session.ledger.outcome? engine = some (submission.settled reply) := by
  obtain ⟨submission, made, deliveries⟩ :=
    advance.delivered engine reply (unanswered_start config ids engine) gave
  -- Nothing was delivered at the start.
  have one : session.deliveriesOf engine = [submission.delivery engine reply] := deliveries
  refine ⟨submission, made, one, ?_⟩
  rw [outcome?_eq, one]
  rfl

/-- Since the start of a session, a request without a reply has neither a delivery nor an
outcome. -/
theorem Advance.of_unreplied {config : Config} {ids : Nat → String} {orders : List Order}
    {given : Nat → Option (Reply Output)}
    (advance : Advance orders given (start config ids) session) {engine : Nat}
    (none_ : given engine = none) :
    session.deliveriesOf engine = [] ∧ session.ledger.outcome? engine = none := by
  -- What was delivered is what was there at the start, and that was nothing.
  have nothing : session.deliveriesOf engine = [] := advance.kept engine fun _ => none_
  refine ⟨nothing, ?_⟩
  rw [outcome?_eq, nothing]
  rfl

end AnalyticsClient.Session
