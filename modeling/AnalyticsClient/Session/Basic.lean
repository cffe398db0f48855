import AnalyticsClient.Config.Basic
import AnalyticsClient.Query.Producer
import AnalyticsClient.Query.Request
import AnalyticsClient.Session.Ledger

/-! Sessions: one client, its callers and the engine that it talks to. -/

namespace AnalyticsClient

/-- A management operation as the engine gets it. -/
structure ManagementRequest where
  command : Command
  timeout : Duration
  clientContextId : String
deriving DecidableEq

/-- A request that the engine got, and to whom its outcome goes. -/
structure Submission where
  request : ManagementRequest
  recipient : Recipient
deriving DecidableEq

/-- The completion of a submission, whose outcome is checked before it is handed over. -/
def Submission.completion (submission : Submission) (engine : Nat) : Completion Output Ledger :=
  let operation := submission.request.command.operation
  let plain : Completion Output Ledger :=
    { label := operation.name
      settle := fun outcome ledger => ledger.deliver ⟨engine, submission.recipient, outcome⟩ }
  plain.mapResult (checkOutput operation submission.request.clientContextId)

/-- What a caller keeps of operations in flight. -/
inductive Handle where
  /-- The caller's side of one operation. -/
  | submitted (engine : Nat) (pending : PendingOperation)
  /-- One operation that is waited for. -/
  | awaited (engine : Nat)
  /-- Several commands that are waited for, some of them refused from the start. -/
  | awaitedMany (parts : List (Outcome Nat))

/-- The state of a session. -/
structure Session where
  config : Config
  ids : IdSupply
  /-- The requests that the engine got; the place of a request is its number. -/
  submissions : List Submission
  /-- The numbers of the requests that the engine has not answered. -/
  held : List Nat
  /-- The replies that the engine gives at once, one to each request. -/
  ready : List (Reply Output)
  ledger : Ledger
  /-- What callers keep of management operations. -/
  handles : Dict Handle
  queryRequests : List QueryRequest
  queries : Dict LiveQuery

namespace Session

/-- A session in which nothing happened yet. -/
def start (config : Config) (id : Nat → String) : Session where
  config := config
  ids := ⟨id, 0⟩
  submissions := []
  held := []
  ready := []
  ledger := .empty
  handles := ∅
  queryRequests := []
  queries := ∅

/-- The layout of the client in debugging output. -/
def clientText (config : Config) : String :=
  "Executor \x7b config: " ++ config.debugText ++ ", .. \x7d"

/-- Hands a command to the engine, which may reply at once. -/
def submitCommand (session : Session) (command : Command) (timeout : Duration)
    (recipient : Recipient) : Nat × Session :=
  let engine := session.submissions.length
  let (clientContextId, ids) := session.ids.draw
  let submission : Submission := ⟨⟨command, timeout, clientContextId⟩, recipient⟩
  let submissions := session.submissions ++ [submission]
  let ledger := Logging.log
    (.submitting command.operation clientContextId timeout.millisWord) session.ledger
  -- A request that is replied to at once is never held.
  match session.ready with
  | reply :: ready =>
    let ledger := (submission.completion engine).answer reply ledger
    (engine, { session with ids, submissions, ready, ledger })
  | [] => (engine, { session with ids, submissions, held := session.held ++ [engine], ledger })

/-- Hands what a descriptor describes to the engine; a faulty one goes nowhere. -/
def submitDescriptor (session : Session) (descriptor : Descriptor) (recipient : Recipient) :
    Outcome (Nat × Session) := do
  let command ← descriptor.resolve
  -- A descriptor without a timeout has that of the configuration.
  let timeout := descriptor.timeout.getD session.config.managementTimeout
  return session.submitCommand command timeout recipient

/-- The reply of the engine to a request; none if it does not hold it any more. -/
def reply? (session : Session) (engine : Nat) (reply : Reply Output) : Option Session :=
  match session.submissions[engine]? with
  | some submission =>
    -- A request is replied to once, and is not held any more after that.
    if engine ∈ session.held then
      some { session with
        held := session.held.filter (· ≠ engine)
        ledger := (submission.completion engine).answer reply session.ledger }
    else none
  | none => none

/-- The error that a statement says nothing. -/
def blankStatementError : Error := .invalidArguments "QUERY" "statement must not be empty"

/-- Hands a query to the engine and opens the stream of its rows. -/
def submitQuery (session : Session) (statement : String) (options : QueryOptions) :
    Outcome (QueryRequest × LiveQuery × Session) :=
  -- Nothing is drawn or told to the log for a statement that says nothing.
  if Text.isBlankText statement then .error blankStatementError
  else
    let (request, ids) :=
      QueryRequest.make statement options session.config.queryTimeout session.ids
    let id := request.clientContextId
    let query := LiveQuery.start (.start id session.config.capacity)
    let ledger := Logging.log
      (.submittingQuery id request.timeout.millisWord request.scanConsistency
        request.mutationState.length) session.ledger
    let queryRequests := session.queryRequests ++ [request]
    .ok (request, query, { session with ids, ledger, queryRequests })

end Session

end AnalyticsClient
