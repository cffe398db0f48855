import AnalyticsClient.Session.Basic

/-! The steps of a session, taken by callers and by the engine, and what each gives. -/

namespace AnalyticsClient

/-- A step on one query. -/
inductive QueryStep where
  /-- The engine gets more to do with the stream. -/
  | produce (actions : List ProducerAction)
  /-- The engine looks whether the caller still takes rows. -/
  | probe
  /-- The caller asks for a row several times. -/
  | next (count : Nat)
  /-- The caller takes all rows. -/
  | rows
  /-- The caller ends the stream. -/
  | close
  /-- The caller gives its side up. -/
  | release
  /-- Nothing but a look at the stream. -/
  | look

/-- A step of a session; callers name their operations and queries. -/
inductive Step where
  | submit (id : String) (descriptor : Descriptor)
  | dispatch (id : String) (descriptor : Descriptor)
  | execute (id : String) (command : Command)
  | executeMany (id : String) (commands : List Command)
  | reply (engine : Nat) (reply : Reply Output)
  | tryResult (id : String)
  | await (id : String)
  | cancel (id : String)
  | query (id statement : String) (options : RawQueryOptions)
  | onQuery (id : String) (step : QueryStep)

/-- What a step on a query gives beside the state of the stream. -/
inductive Got where
  | nothing
  | probed (found : Option LiveQuery.Probe)
  | taken (found : List Next)
  /-- All rows; none if more may come. -/
  | collected (found : Option (Outcome (List Json)))

/-- What a step gives. -/
inductive Answer where
  | done
  /-- There is nothing under this name or number. -/
  | gone
  | pending
  | refused (error : Error)
  | outcome (outcome : Outcome Output)
  | outcomes (outcomes : List (Outcome Output))
  | submittedQuery (request : QueryRequest) (query : LiveQuery)
  | query (got : Got) (query : LiveQuery)

namespace QueryStep

/-- Takes a step; a caller that gave its side up gets nothing. -/
def take (query : LiveQuery) : QueryStep → Got × LiveQuery
  | .produce actions => (.nothing, query.produce actions)
  | .probe =>
    let (found, query) := query.probe
    (.probed found, query)
  | .next count =>
    if query.stream.held then
      let (found, query) := query.nextMany count
      (.taken found, query)
    else (.taken [], query)
  | .rows =>
    if query.stream.held then
      let (found, query) := query.rows
      (.collected found, query)
    else (.nothing, query)
  | .close => (.nothing, if query.stream.held then query.close else query)
  | .release => (.nothing, query.release)
  | .look => (.nothing, query)

end QueryStep

namespace Session

/-- The session with a handle kept under a name. -/
def keep (session : Session) (id : String) (handle : Handle) : Session :=
  { session with handles := session.handles.insert id handle }

/-- The session without the handle of a name. -/
def forget (session : Session) (id : String) : Session :=
  { session with handles := session.handles.erase id }

/-- The outcome of one of several commands, once it is there. -/
def partOutcome? (session : Session) : Outcome Nat → Option (Outcome Output)
  | .ok engine => session.ledger.outcome? engine
  | .error error => some (.error error)

/-- Looks for the outcome of one operation; what is not there yet is kept under the name. -/
def pollOne (session : Session) (id : String) (engine : Nat) : Answer × Session :=
  match session.ledger.outcome? engine with
  | some outcome => (.outcome outcome, session)
  | none => (.pending, session.keep id (.awaited engine))

/-- Looks for the outcomes of several commands together. -/
def pollMany (session : Session) (id : String) (parts : List (Outcome Nat)) : Answer × Session :=
  -- Either all outcomes are there, or none is given.
  match parts.mapM session.partOutcome? with
  | some outcomes => (.outcomes outcomes, session)
  | none => (.pending, session.keep id (.awaitedMany parts))

/-- Submits commands one after the other, faulty ones left aside. -/
def submitAll : Session → List Command → List (Outcome Nat) × Session
  | session, [] => ([], session)
  | session, command :: rest =>
    match session.submitDescriptor (.ofCommand command) .pending with
    | .ok (engine, session) =>
      let (parts, session) := submitAll session rest
      (.ok engine :: parts, session)
    | .error error =>
      let (parts, session) := submitAll session rest
      (.error error :: parts, session)

/-- Takes the outcome of an operation if it has arrived. -/
def tryHandle (session : Session) (id : String) : Answer × Session :=
  match session.handles.get? id with
  | some (.submitted engine pending) =>
    let (found, pending) := pending.tryResult (session.ledger.outcome? engine)
    -- The future is kept even after its outcome was taken.
    let session := session.keep id (.submitted engine pending)
    match found with
    | some outcome => (.outcome outcome, session)
    | none => (.pending, session)
  | _ => (.gone, session)

/-- Waits for what is kept under a name, which is given back only if it is not there yet. -/
def awaitHandle (session : Session) (id : String) : Answer × Session :=
  let without := session.forget id
  match session.handles.get? id with
  | some (.submitted engine pending) =>
    -- The outcome was taken before, so there is nothing to wait for.
    if pending.taken then (.gone, without) else without.pollOne id engine
  | some (.awaited engine) => without.pollOne id engine
  | some (.awaitedMany parts) => without.pollMany id parts
  | none => (.gone, session)

/-- Opens a query under a name. -/
def openQuery (session : Session) (id statement : String) (options : RawQueryOptions) :
    Answer × Session :=
  match options.resolve.bind (session.submitQuery statement) with
  | .error error => (.refused error, session)
  | .ok (request, query, session) =>
    (.submittedQuery request query, { session with queries := session.queries.insert id query })

/-- Takes a step on the query of a name, and passes on what its stream tells the log. -/
def stepQuery (session : Session) (id : String) (step : QueryStep) : Answer × Session :=
  match session.queries.get? id with
  | none => (.gone, session)
  | some before =>
    let (got, query) := step.take before
    -- What the stream had told the log before was passed on then.
    let events := query.stream.log.drop before.stream.log.length
    (.query got query,
      { session with
        queries := session.queries.insert id query
        ledger := session.ledger.logAll events })

/-- Takes a step with the replies that are ready. -/
def act (session : Session) : Step → Answer × Session
  | .submit id descriptor =>
    match session.submitDescriptor descriptor .pending with
    | .error error => (.refused error, session)
    | .ok (engine, session) => (.done, session.keep id (.submitted engine .start))
  | .dispatch id descriptor =>
    match session.submitDescriptor descriptor (.callbacks id) with
    | .error error => (.refused error, session)
    | .ok (_, session) => (.done, session)
  | .execute id command =>
    match session.submitDescriptor (.ofCommand command) .pending with
    | .error error => (.outcome (.error error), session)
    | .ok (engine, session) => session.pollOne id engine
  | .executeMany id commands =>
    let (parts, session) := session.submitAll commands
    session.pollMany id parts
  | .reply engine reply =>
    match session.reply? engine reply with
    | some session => (.done, session)
    | none => (.gone, session)
  | .tryResult id => session.tryHandle id
  | .await id => session.awaitHandle id
  | .cancel id =>
    -- The engine goes on with the operation, and hears nothing of this.
    if (session.handles.get? id).isSome then (.done, session.forget id) else (.gone, session)
  | .query id statement options => session.openQuery id statement options
  | .onQuery id step => session.stepQuery id step

/-- Takes a step; `ready` are the replies that the engine gives at once while it is taken. -/
def step (session : Session) (ready : List (Reply Output)) (step : Step) : Answer × Session :=
  let (answer, session) := { session with ready }.act step
  -- Replies that no request took are lost.
  (answer, { session with ready := [] })

/-- What a step gives and what happened while it was taken. -/
structure StepReport where
  answer : Answer
  /-- The requests that the engine got, each with its number. -/
  submissions : List (Submission × Nat)
  deliveries : List Delivery
  log : List LogEvent

/-- Takes a step and reports on it. -/
def report (session : Session) (ready : List (Reply Output)) (step : Step) :
    StepReport × Session :=
  let (answer, after) := session.step ready step
  let before := session.submissions.length
  let made : StepReport :=
    { answer
      submissions := (after.submissions.drop before).zipIdx before
      deliveries := after.ledger.deliveries.drop session.ledger.deliveries.length
      log := after.ledger.log.drop session.ledger.log.length }
  (made, after)

/-- Takes steps one after the other, each with the replies that are ready for it. -/
def run : Session → List (List (Reply Output) × Step) → List StepReport × Session
  | session, [] => ([], session)
  | session, (ready, step) :: rest =>
    let (first, session) := session.report ready step
    let (later, session) := run session rest
    (first :: later, session)

end Session

end AnalyticsClient
