import AnalyticsClient.Proofs.Session.Silence

/-! The log of a session tells the truth: every operation and every query has told it what came of
it, and nobody else has. -/

namespace AnalyticsClient.Session

variable {session : Session} {given : Nat → Option (Reply Output)} {roll : Roll}
  {lines : List LogLine}

/-- The queries of a session stay those of the roll while one more is submitted. -/
theorem OnRoll.submit (onRoll : session.OnRoll roll) {statement : String}
    {options : RawQueryOptions} (accepted : submits statement options = true)
    (ready : List (Reply Output)) (name : String) (request : QueryRequest) (ids : IdSupply)
    (ledger : Ledger) :
    OnRoll { session with
        ids
        ledger
        queryRequests := session.queryRequests ++ [request]
        queries := session.queries.insert name (request.live session.config.capacity []) }
      (roll.after (ready, .query name statement options)) := by
  rw [Roll.after_query accepted]
  -- The new query has the first number that is free, and no other name stands for it.
  have above : ∀ other, roll.number other ≠ some roll.count := fun other same =>
    Nat.lt_irrefl _ (onRoll.below other _ same)
  refine ⟨?_, fun other number found => ?_, fun other other' number found found' => ?_,
    fun number high => onRoll.untouched number (Nat.le_of_succ_le high), fun other => ?_⟩
  -- The parts of the roll are: its count, its numbers, who goes by them, and the queries.
  · simp only [List.length_append, List.length_singleton, onRoll.count]
  · simp only at found
    split at found
    · cases found
      exact Nat.lt_succ_self _
    · exact Nat.lt_succ_of_lt (onRoll.below other number found)
  · -- Two names for the new query are both the one that it was submitted under.
    simp only at found found'
    split at found
    · next own =>
      cases found
      split at found'
      · next own' => rw [own, own']
      · exact absurd found' (above other')
    · split at found'
      · cases found'
        exact absurd found (above other)
      · exact onRoll.distinct other other' number found found'
  · rw [Dict.get?_insert]
    by_cases own : other = name
    · -- No step was taken on the new query.
      have untouched := onRoll.untouched roll.count (Nat.le_refl _)
      simp only [if_pos own, Option.bind_some, onRoll.count] at untouched ⊢
      simp [untouched]
    · -- The queries of other names were submitted before.
      simp only [if_neg own, onRoll.live other]
      cases found : roll.number other with
      | none => rfl
      | some number =>
        have within := onRoll.below other number found
        rw [onRoll.count] at within
        simp only [Option.bind_some, List.getElem?_append_left within]

/-- The queries of a session stay those of the roll while a step is taken on one. -/
theorem OnRoll.step (onRoll : session.OnRoll roll) {name : String} {number : Nat}
    {request : QueryRequest} (found : roll.number name = some number)
    (made : session.queryRequests[number]? = some request) (ready : List (Reply Output))
    (step : QueryStep) (ledger : Ledger) :
    OnRoll { session with
        ledger
        queries := session.queries.insert name (request.live session.config.capacity
          (roll.steps number ++ [step])) }
      (roll.after (ready, .onQuery name step)) := by
  rw [Roll.after_onQuery found]
  refine ⟨onRoll.count, onRoll.below, onRoll.distinct, fun other high => ?_, fun other => ?_⟩
  · -- A number that is still free is not that of the query.
    have below := onRoll.below name number found
    have differs : other ≠ number := fun same => Nat.not_lt.2 (same ▸ high) below
    simp only [if_neg differs]
    exact onRoll.untouched other high
  · rw [Dict.get?_insert]
    by_cases own : other = name
    · simp only [own, found, if_true, Option.bind_some, made, Option.map_some]
    · simp only [if_neg own, onRoll.live other]
      cases found' : roll.number other with
      | none => rfl
      | some number' =>
        -- No other name stands for the query.
        have differs : number' ≠ number := fun same =>
          own (onRoll.distinct other name number (same ▸ found') found)
        simp only [Option.bind_some, if_neg differs]

/-- A query that is submitted tells so; one that is refused tells nothing. -/
theorem Attributed.openQuery (attributed : Attributed given roll session lines)
    (ready : List (Reply Output)) (name statement : String) (options : RawQueryOptions) :
    ∃ new, Attributed given (roll.after (ready, .query name statement options))
      (session.openQuery name statement options).2 (lines ++ new) := by
  cases accepted : submits statement options with
  | false =>
    rw [openQuery_of_not_submits accepted, Roll.after_query_of_refused accepted]
    exact ⟨[], by rwa [List.append_nil]⟩
  | true =>
    obtain ⟨request, ids, opened⟩ := openQuery_of_submits accepted session name
    have onRoll := attributed.onRoll.submit accepted ready name request ids
      (Logging.log request.opening session.ledger)
    rw [Roll.after_query accepted] at onRoll ⊢
    rw [opened]
    refine ⟨[request.opening].map (Prod.mk (.query session.queryRequests.length)),
      attributed.bounded, attributed.unanswered, onRoll, ?_, fun teller => ?_⟩
    · rw [List.map_append, ← attributed.log]
      rfl
    · -- The account of the new query opens with the line, and no other account changes.
      rw [linesOf_append, attributed.told, linesOf_map_mk]
      cases teller with
      | operation engine => exact List.append_nil _
      | query number =>
        simp only [account]
        by_cases own : number = session.queryRequests.length
        · -- No step was taken on the new query, so its stream has told nothing.
          have untouched := attributed.onRoll.untouched number
            (Nat.le_of_eq (attributed.onRoll.count.trans own.symm))
          subst own
          simp [untouched, QueryRequest.log_live_nil]
        · have other : ¬ Teller.query session.queryRequests.length = .query number := by
            simpa using Ne.symm own
          rw [if_neg other, List.append_nil, getElem?_concat_of_ne own]

/-- A step on a query tells what its stream tells. -/
theorem Attributed.stepQuery (attributed : Attributed given roll session lines)
    (ready : List (Reply Output)) (name : String) (step : QueryStep) :
    ∃ new, Attributed given (roll.after (ready, .onQuery name step))
      (session.stepQuery name step).2 (lines ++ new) := by
  have live := attributed.onRoll.live name
  cases found : roll.number name with
  | none =>
    -- There is no query of the name.
    rw [found, Option.bind_none] at live
    rw [Roll.after_onQuery_of_none found]
    simp only [Session.stepQuery, live]
    exact ⟨[], by rwa [List.append_nil]⟩
  | some number =>
    -- The query of the name is that of a request, in the state in which the steps left it.
    have within := attributed.onRoll.below name number found
    rw [attributed.onRoll.count] at within
    have made := List.getElem?_eq_getElem within
    generalize session.queryRequests[number] = request at made
    rw [found, Option.bind_some, made, Option.map_some] at live
    have taken : (step.take (request.live session.config.capacity (roll.steps number))).2
        = request.live session.config.capacity (roll.steps number ++ [step]) :=
      (LiveQuery.run_concat _ step _).symm
    -- What the stream told before stays at the head of its log.
    have grows := request.log_live_append session.config.capacity (roll.steps number) step
    simp only [Session.stepQuery, live, taken]
    generalize events : (request.live session.config.capacity
      (roll.steps number ++ [step])).stream.log.drop
        (request.live session.config.capacity (roll.steps number)).stream.log.length = new
    rw [events] at grows
    have onRoll := attributed.onRoll.step found made ready step (session.ledger.logAll new)
    rw [Roll.after_onQuery found] at onRoll ⊢
    refine ⟨new.map (Prod.mk (.query number)), attributed.bounded, attributed.unanswered, onRoll,
      ?_, fun teller => ?_⟩
    · rw [List.map_append, ← attributed.log, map_snd_map_mk]
      rfl
    · -- The account of the query grows by what its stream tells in the step.
      rw [linesOf_append, attributed.told, linesOf_map_mk]
      cases teller with
      | operation engine => exact List.append_nil _
      | query other =>
        simp only [account]
        by_cases own : other = number
        · subst own
          simp [made, ← grows]
        · have differs : ¬ Teller.query number = .query other := by simpa using Ne.symm own
          rw [if_neg differs, if_neg own, List.append_nil]

/-- A step made of calls tells of the requests that it makes. -/
theorem Attributed.calls (attributed : Attributed given roll session lines)
    (ready : List (Reply Output)) {step : Step} (kind : callsOnly step = true) :
    ∃ new, Attributed (firstOf given fun engine =>
        Turn.replyTo? session.config engine session.submissions.length (ready, step)) roll
      (session.step ready step).2 (lines ++ new) := by
  -- Such a step places its orders, and changes else nothing but what callers keep.
  obtain ⟨handles, after⟩ := exists_act_eq { session with ready } kind
  obtain ⟨new, placed⟩ :=
    (attributed.frame session.handles ready).placeAll (step.orders session.config)
  rw [Turn.replyTo?_calls kind]
  simp only [Session.step, after]
  exact ⟨new, placed.frame handles []⟩

/-- A step tells of its own calls, of the replies that are given while it is taken and of the query
that it is about. -/
theorem Attributed.step (attributed : Attributed given roll session lines) (turn : Turn) :
    ∃ new, Attributed (firstOf given fun engine =>
        turn.replyTo? session.config engine session.submissions.length) (roll.after turn)
      (session.step turn.1 turn.2).2 (lines ++ new) := by
  -- The steps are of three sorts: calls, replies and steps on queries.
  obtain ⟨ready, step⟩ := turn
  have primed := attributed.frame session.handles ready
  cases step with
  | query id statement options =>
    obtain ⟨new, opened⟩ := primed.openQuery ready id statement options
    rw [Turn.replyTo?_queries (fun kind => by cases kind) (fun _ _ same => by cases same),
      firstOf_none]
    exact ⟨new, opened.frame _ []⟩
  | onQuery id inner =>
    obtain ⟨new, taken⟩ := primed.stepQuery ready id inner
    rw [Turn.replyTo?_queries (fun kind => by cases kind) (fun _ _ same => by cases same),
      firstOf_none]
    exact ⟨new, taken.frame _ []⟩
  | reply engine reply =>
    obtain ⟨new, answered⟩ := primed.reply engine reply
    rw [Turn.replyTo?_reply, step_reply]
    exact ⟨new, answered.frame _ []⟩
  | submit => exact attributed.calls ready rfl
  | dispatch => exact attributed.calls ready rfl
  | execute => exact attributed.calls ready rfl
  | executeMany => exact attributed.calls ready rfl
  | tryResult => exact attributed.calls ready rfl
  | await => exact attributed.calls ready rfl
  | cancel => exact attributed.calls ready rfl

/-- A step logs the lines by which the log grows. -/
theorem Attributed.log_report {given' : Nat → Option (Reply Output)} {roll' : Roll} {turn : Turn}
    {new : List LogLine} (attributed : Attributed given roll session lines)
    (grown : Attributed given' roll' (session.step turn.1 turn.2).2 (lines ++ new)) :
    (session.report turn.1 turn.2).1.log = new.map Prod.snd := by
  -- A report shows what came behind the lines that were there.
  have log : (session.report turn.1 turn.2).1.log
      = (session.step turn.1 turn.2).2.ledger.log.drop session.ledger.log.length := rfl
  rw [log, grown.log, attributed.log, List.map_append, List.drop_left]

/-- The lines of a run are told step by step, and wherever the run is cut, each of those who tell
the log something has told it what it had to tell up to there. -/
theorem Attributed.run (turns : List Turn) :
    ∀ {session : Session} {given : Nat → Option (Reply Output)} {roll : Roll}
      {lines : List LogLine}, Attributed given roll session lines →
        ∃ told : List (List LogLine),
          told.map (List.map Prod.snd) = (session.run turns).1.map StepReport.log
            ∧ ∀ count, Attributed
              (firstOf given fun engine => replyTo? session.config engine
                session.submissions.length (turns.take count))
              ((turns.take count).foldl Roll.after roll) (session.run (turns.take count)).2
              (lines ++ (told.take count).flatten) := by
  -- The numbers of the requests go on from step to step, so the session stays quantified over.
  induction turns with
  | nil =>
    intro session given roll lines attributed
    refine ⟨[], rfl, fun count => ?_⟩
    simpa [replyTo?, Session.run] using attributed
  | cons turn rest ih =>
    intro session given roll lines attributed
    obtain ⟨new, stepped⟩ := attributed.step turn
    obtain ⟨told, logs, cuts⟩ := ih stepped
    have advance := Advance.step attributed.bounded turn
    refine ⟨new :: told, ?_, fun count => ?_⟩
    · -- The first step logs its own lines, and the others log theirs.
      simp only [List.map_cons, Session.run, logs, attributed.log_report stepped]
      rfl
    · cases count with
      | zero =>
        -- Before the first step nothing is told yet.
        simpa [replyTo?, Session.run] using attributed
      | succ count =>
        -- The first step comes before the cut, and the others are cut one place further to the left.
        have cut := cuts count
        rw [firstOf_assoc, advance.config, advance.length_submissions, List.append_assoc] at cut
        exact cut

/-- Nobody has told anything at the start of a run. -/
theorem attributed_start (config : Config) (id : Nat → String) :
    Attributed (fun _ => none) .empty (start config id) [] where
  bounded := bounded_start config id
  unanswered engine := iff_of_true (unanswered_start config id engine) rfl
  onRoll := ⟨rfl, nofun, nofun, fun _ _ => rfl, fun _ => rfl⟩
  log := rfl
  told teller := by cases teller <;> rfl

/-- Whether lines are the log of a session after some turns, and tell the truth. -/
structure Truthful (turns : List Turn) (session : Session) (lines : List LogLine) : Prop where
  log : session.ledger.log = lines.map Prod.snd
  /-- An operation that went to the engine told so. Once it was replied to, which is when its caller
  was handed the outcome, it told one thing more, which is what came of it; before that comes a
  notice where the engine gave it up, and only there. -/
  operations : ∀ engine submission, session.submissions[engine]? = some submission →
    let name := submission.request.command.operation.name
    match replyTo? session.config engine 0 turns with
    | none => session.deliveriesOf engine = []
      ∧ linesOf (.operation engine) lines = [submission.opening]
    | some reply => ∃ outcome event,
      session.deliveriesOf engine = [⟨engine, submission.recipient, outcome⟩]
        ∧ session.ledger.outcome? engine = some outcome
        ∧ submission.Judged (reply.outcome name) outcome event
        ∧ linesOf (.operation engine) lines
          = submission.opening :: (reply.notices name ++ [event])
  /-- A query that went to the engine told so. Its stream told one thing more if it ended, which is
  how it ended and how many rows were taken. -/
  queries : ∀ number request, session.queryRequests[number]? = some request →
    let query := request.live session.config.capacity ((Roll.of turns).steps number)
    linesOf (.query number) lines = request.opening :: query.stream.log
      ∧ query.stream.phase.Told request.clientContextId query.stream.delivered query.stream.log
  /-- The query of a name is the last one that was submitted under it. -/
  onRoll : session.OnRoll (Roll.of turns)
  /-- Nobody else told anything. -/
  others : ∀ line ∈ lines,
    match line.1 with
    | .operation engine => engine < session.submissions.length
    | .query number => number < session.queryRequests.length

/-- Lines that are attributed rightly tell the truth. -/
theorem truthful_of_attributed (config : Config) (id : Nat → String) (turns : List Turn)
    {lines : List LogLine}
    (attributed : Attributed (fun engine => replyTo? config engine 0 turns) (Roll.of turns)
      ((start config id).run turns).2 lines) :
    Truthful turns ((start config id).run turns).2 lines := by
  have advance := advance_start config id turns
  generalize ((start config id).run turns).2 = session at attributed advance ⊢
  have same : session.config = config := advance.config
  refine ⟨attributed.log, ?_, ?_, attributed.onRoll, ?_⟩
  · intro engine submission made
    have told := attributed.told (.operation engine)
    rw [same]
    simp only [account, made] at told
    cases gave : replyTo? config engine 0 turns with
    | none =>
      -- Without a reply nothing is handed over.
      rw [gave] at told
      exact ⟨(advance.of_unreplied gave).1, told⟩
    | some reply =>
      rw [gave] at told
      -- The reply makes the delivery and closes the lines.
      obtain ⟨submission', made', one, found⟩ := advance.of_replied gave
      obtain rfl : submission' = submission := Option.some.inj (made'.symm.trans made)
      obtain ⟨event, judged, closing⟩ := submission'.exists_judged reply
      exact ⟨_, event, one, found, judged, told.trans (congrArg _ closing)⟩
  · intro number request made
    -- Whatever steps were taken on the query, its stream told what it should.
    have told := attributed.told (.query number)
    simp only [account, made] at told
    exact ⟨told, (request.candid_live _ _).told⟩
  · intro line mem
    -- Who told the line has an account, so it was submitted.
    have own : line.2 ∈ linesOf line.1 lines :=
      List.mem_map.2 ⟨line, List.mem_filter.2 ⟨mem, by simp⟩, rfl⟩
    rw [attributed.told] at own
    cases teller : line.1 with
    | operation engine =>
      refine Nat.lt_of_not_le fun above => ?_
      rw [teller, account, List.getElem?_eq_none above] at own
      cases own
    | query number =>
      refine Nat.lt_of_not_le fun above => ?_
      rw [teller, account, List.getElem?_eq_none above] at own
      cases own

/-- The log of every run tells the truth. Each of its lines can be put down to an operation or to a
query such that, wherever the run is cut, all of them have told what came of them up to there, and
nobody else has told anything. What is refused, and what is done to a stream that ended or whose
handle was dropped, is not told at all. -/
theorem log_truthful (config : Config) (id : Nat → String) (turns : List Turn) :
    (∃ told : List (List LogLine),
      told.map (List.map Prod.snd) = ((start config id).run turns).1.map StepReport.log
        ∧ ∀ count, Truthful (turns.take count) ((start config id).run (turns.take count)).2
          (told.take count).flatten)
      ∧ (∀ turn, ((start config id).run turns).2.Mute turn →
        (((start config id).run turns).2.report turn.1 turn.2).1.log = [])
      ∧ ∀ ready name commands,
        (((start config id).run turns).2.report ready (.executeMany name commands)).1.log
          = (((start config id).run turns).2.report ready (.executeMany name
            (commands.filter fun command =>
              (Descriptor.ofCommand command).resolve.isOk))).1.log := by
  obtain ⟨told, logs, cuts⟩ := (attributed_start config id).run turns
  have truthful : ∀ count, Truthful (turns.take count)
      ((start config id).run (turns.take count)).2 (told.take count).flatten := fun count =>
    truthful_of_attributed config id _ (cuts count)
  refine ⟨⟨told, logs, truthful⟩, fun turn mute => ?_, fun ready name commands =>
    log_report_filter ready name commands⟩
  -- The run itself is what is cut off behind its end.
  have whole := (truthful turns.length).onRoll
  rw [List.take_length] at whole
  exact log_report_of_mute whole mute

/-- An engine that gives an operation up is told of before its failure. -/
example : ((start default fun _ => "id").run
      [([], .dispatch "name" ⟨.linkConnect, .null, none⟩), ([], .reply 0 .release)]).1.map
        StepReport.log
    = [[.submitting .linkConnect "id" 75000],
      [.released "LINK_CONNECT",
        .failed .linkConnect "id" (.engine (Completion.releaseError "LINK_CONNECT"))]] :=
  rfl

end AnalyticsClient.Session
