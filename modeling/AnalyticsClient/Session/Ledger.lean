import AnalyticsClient.Completion.Basic
import AnalyticsClient.Operation.Command

/-! What came of the operations of a session: the outcomes handed over, and the log. -/

namespace AnalyticsClient

/-- To whom an outcome goes. -/
inductive Recipient where
  /-- To the callbacks of this name. -/
  | callbacks (id : String)
  /-- To the caller's side of the operation. -/
  | pending
deriving DecidableEq

/-- An outcome that was handed over. -/
structure Delivery where
  /-- The number of the operation. -/
  engine : Nat
  recipient : Recipient
  outcome : Outcome Output

/-- The outcomes handed over and the events logged, both in order. -/
structure Ledger where
  deliveries : List Delivery
  log : List LogEvent

namespace Ledger

/-- The ledger before anything happened. -/
def empty : Ledger := ⟨[], []⟩

instance : Logging Ledger where
  log event ledger := { ledger with log := ledger.log ++ [event] }

/-- The ledger with an outcome handed over. -/
def deliver (ledger : Ledger) (delivery : Delivery) : Ledger :=
  { ledger with deliveries := ledger.deliveries ++ [delivery] }

/-- The ledger with several events logged. -/
def logAll (ledger : Ledger) (events : List LogEvent) : Ledger :=
  { ledger with log := ledger.log ++ events }

/-- The outcome of an operation, once it was handed over. -/
def outcome? (ledger : Ledger) (engine : Nat) : Option (Outcome Output) :=
  (ledger.deliveries.find? fun delivery => delivery.engine = engine).map Delivery.outcome

end Ledger

/-- The error that an answer is of another kind than its operation is due. -/
def wrongKindError (operation : Operation) (clientContextId : String) (output : OutputKind) :
    EngineError :=
  let expected :=
    match operation.expectedOutput with
    | some kind => "Some(" ++ kind.name ++ ")"
    | none => "None"
  (EngineError.protocol
    (operation.name ++ " produced " ++ output.name ++ " output, expected " ++ expected)).withContext
      clientContextId

/-- Lets an outcome pass if it fits its operation, and tells the log what came of it. -/
def checkOutput {ω : Type} [Logging ω] (operation : Operation) (clientContextId : String)
    (outcome : Outcome Output) (world : ω) : Outcome Output × ω :=
  match outcome with
  | .ok output =>
    -- An output of another kind never reaches the caller.
    if some output.kind = operation.expectedOutput then
      (.ok output, Logging.log (.completed operation clientContextId) world)
    else
      (.error (.engine (wrongKindError operation clientContextId output.kind)),
        Logging.log (.wrongKind operation clientContextId output.kind) world)
  | .error error =>
    (.error error, Logging.log (.failed operation clientContextId error) world)

end AnalyticsClient
