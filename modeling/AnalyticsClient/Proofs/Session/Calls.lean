import AnalyticsClient.Session.Step

/-! The calls that the steps of a session make, and the replies that the engine gives to them. -/

namespace AnalyticsClient

/-- A call of the client: what it describes, and to whom its outcome is to go. -/
structure Call where
  descriptor : Descriptor
  recipient : Recipient

/-- What the engine is asked for on behalf of a call. -/
structure Order where
  command : Command
  timeout : Duration
  recipient : Recipient
deriving DecidableEq

/-- The order of a call, under the timeout of the configuration where the call names none; a call
whose descriptor does not resolve has no order. -/
def Call.order? (config : Config) (call : Call) : Option Order :=
  match call.descriptor.resolve with
  | .ok command =>
    some ⟨command, call.descriptor.timeout.getD config.managementTimeout, call.recipient⟩
  | .error _ => none

namespace Step

/-- The calls that a step makes, in order. -/
def calls : Step → List Call
  | .submit _ descriptor => [⟨descriptor, .pending⟩]
  | .dispatch id descriptor => [⟨descriptor, .callbacks id⟩]
  | .execute _ command => [⟨.ofCommand command, .pending⟩]
  | .executeMany _ commands => commands.map fun command => ⟨.ofCommand command, .pending⟩
  | .reply _ _ | .tryResult _ | .await _ | .cancel _ | .query _ _ _ | .onQuery _ _ => []

/-- The orders of the calls that a step makes. -/
def orders (config : Config) (step : Step) : List Order :=
  step.calls.filterMap (Call.order? config)

end Step

/-- A step of a session with the replies that the engine gives at once while it is taken. -/
abbrev Turn := List (Reply Output) × Step

/-- The reply that the request of a number gets in one turn, when `made` requests were made before
it: at once for a request of the turn itself, by a step of its own for an earlier one. -/
def Turn.replyTo? (config : Config) (engine made : Nat) (turn : Turn) : Option (Reply Output) :=
  if made ≤ engine then
    if engine < made + (turn.2.orders config).length then turn.1[engine - made]? else none
  else
    match turn.2 with
    | .reply answered reply => if answered = engine then some reply else none
    | _ => none

/-- The first reply that the request of a number gets in a run. -/
def replyTo? (config : Config) (engine : Nat) : (made : Nat) → List Turn → Option (Reply Output)
  | _, [] => none
  | made, turn :: rest =>
    turn.replyTo? config engine made
      <|> replyTo? config engine (made + (turn.2.orders config).length) rest

namespace Step

/-- The name under which the caller of a step keeps its future. -/
def future? : Step → Option String
  | .submit id _ | .execute id _ | .executeMany id _ => some id
  | .dispatch _ _ | .reply _ _ | .tryResult _ | .await _ | .cancel _ | .query _ _ _
  | .onQuery _ _ => none

/-- The name of the future whose outcome the caller of a step looks for. -/
def awaited? : Step → Option String
  | .execute id _ | .executeMany id _ | .tryResult id | .await id => some id
  | .submit _ _ | .dispatch _ _ | .reply _ _ | .cancel _ | .query _ _ _ | .onQuery _ _ => none

/-- Whether something to wait for comes of the calls of a step, when `made` requests were made
before. -/
def Opens (config : Config) (made : Nat) (step : Step) : Outcome Nat → Prop
  | .ok engine => made ≤ engine ∧ engine < made + (step.orders config).length
  | .error error => ∃ call ∈ step.calls, call.descriptor.resolve = .error error

end Step

/-- What the calls of a step ask the engine for, each order with the name under which its caller
keeps the future, if it keeps one. -/
def Step.asked (config : Config) (step : Step) : List (Option String × Order) :=
  (step.orders config).map fun order => (step.future?, order)

/-- What the calls of a run ask the engine for, as for one step. -/
def asked (config : Config) (turns : List Turn) : List (Option String × Order) :=
  turns.flatMap fun turn => turn.2.asked config

/-- Whether something that is waited for under a name was asked for under it, or was refused. -/
def Backed (history : List (Option String × Order)) (name : String) : Outcome Nat → Prop
  | .ok engine => ∃ order, history[engine]? = some (some name, order) ∧ order.recipient = .pending
  | .error error => ∃ descriptor : Descriptor, descriptor.resolve = .error error

/-- What the engine was asked for by a submission. -/
def Submission.order (submission : Submission) : Order :=
  ⟨submission.request.command, submission.request.timeout, submission.recipient⟩

/-- The submission of an order under the id of a draw. -/
def Order.submission (order : Order) (clientContextId : String) : Submission :=
  ⟨⟨order.command, order.timeout, clientContextId⟩, order.recipient⟩

/-- What a handle waits for: requests by their numbers, and the refusals among several commands. -/
def Handle.parts : Handle → List (Outcome Nat)
  | .submitted engine pending => if pending.taken then [] else [.ok engine]
  | .awaited engine => [.ok engine]
  | .awaitedMany parts => parts

/-- The outcomes that an answer gives to a caller who waits. -/
def Answer.given : Answer → List (Outcome Output)
  | .outcome result => [result]
  | .outcomes results => results
  | .done | .gone | .pending | .refused _ | .submittedQuery _ _ | .query _ _ => []

namespace Session

/-- The deliveries of the request of a number. -/
def deliveriesOf (session : Session) (engine : Nat) : List Delivery :=
  session.ledger.deliveries.filter fun delivery => delivery.engine = engine

/-- Whether no reply to the request of a number was taken, be it that it is still to be made. -/
def Unanswered (session : Session) (engine : Nat) : Prop :=
  engine ∈ session.held ∨ session.submissions.length ≤ engine

/-- What the handle of a name waits for. -/
def parts (session : Session) (name : String) : List (Outcome Nat) :=
  ((session.handles.get? name).map Handle.parts).getD []

end Session

end AnalyticsClient
