import AnalyticsClient.Session.Basic

/-! What a reply of the engine comes to: the one outcome that a completion hands over. -/

namespace AnalyticsClient

variable {α ω : Type}

/-- The outcome that a reply brings to an operation of a label. -/
def Reply.outcome (label : String) : Reply α → Outcome α
  | .succeed value | .complete (.ok value) => .ok value
  | .fail error | .complete (.error error) => .error (.engine error)
  | .release => .error (.engine (Completion.releaseError label))

/-- Whether an outcome is what a reply has to bring to an operation of a label: the value or the
error of the engine, and for a release the error that quotes the label. -/
def Reply.Brings (label : String) (outcome : Outcome α) : Reply α → Prop
  | .succeed value | .complete (.ok value) => outcome = .ok value
  | .fail error | .complete (.error error) => outcome = .error (.engine error)
  | .release => ∃ error : EngineError, outcome = .error (.engine error) ∧ error.kind = .dropped
      ∧ error.message = label ++ " was released by the engine without a reply"
      ∧ error.context = none

/-- What a reply brings is what it has to bring. -/
theorem Reply.brings_outcome (label : String) (reply : Reply α) :
    reply.Brings label (reply.outcome label) := by
  -- Only a release makes up an error of its own.
  cases reply with
  | succeed value => rfl
  | fail error => rfl
  | complete result => cases result <;> rfl
  | release => exact ⟨_, rfl, rfl, rfl, rfl⟩

/-- What the log of a world hears of a reply as such. -/
def Reply.noticed [Logging ω] (label : String) (reply : Reply α) (world : ω) : ω :=
  match reply with
  | .release => Logging.log (.released label) world
  | .succeed _ | .fail _ | .complete _ => world

/-- Every way to end an operation settles its completion once. -/
theorem Completion.answer_eq [Logging ω] (completion : Completion α ω) (reply : Reply α)
    (world : ω) :
    completion.answer reply world
      = completion.settle (reply.outcome completion.label)
          (reply.noticed completion.label world) := by
  -- Success and failure are short for a complete result, and a release settles after its notice.
  cases reply with
  | succeed value => rfl
  | fail error => rfl
  | complete result => cases result <;> rfl
  | release => rfl

/-- The outcome that passes for an operation: an output of another kind becomes a failure. -/
def checked (operation : Operation) (clientContextId : String) : Outcome Output → Outcome Output
  | .ok output =>
    if some output.kind = operation.expectedOutput then .ok output
    else .error (.engine (wrongKindError operation clientContextId output.kind))
  | .error error => .error error

/-- The check of an outcome changes the ledger in nothing but its log. -/
theorem checkOutput_spec (operation : Operation) (clientContextId : String)
    (outcome : Outcome Output) (ledger : Ledger) :
    (checkOutput operation clientContextId outcome ledger).1
        = checked operation clientContextId outcome
      ∧ (checkOutput operation clientContextId outcome ledger).2.deliveries
        = ledger.deliveries := by
  -- Every branch writes one line to the log and nothing else.
  cases outcome with
  | error error => exact ⟨rfl, rfl⟩
  | ok output =>
    simp only [checkOutput, checked]
    split <;> exact ⟨rfl, rfl⟩

/-- The outcome that a submission hands over when it is replied to. -/
def Submission.settled (submission : Submission) (reply : Reply Output) : Outcome Output :=
  let operation := submission.request.command.operation
  checked operation submission.request.clientContextId (reply.outcome operation.name)

/-- What a submission hands over when it is replied to, and to whom. -/
def Submission.delivery (submission : Submission) (engine : Nat) (reply : Reply Output) :
    Delivery :=
  ⟨engine, submission.recipient, submission.settled reply⟩

/-- A reply to a submission adds one delivery to the ledger. -/
theorem Submission.deliveries_answer (submission : Submission) (engine : Nat)
    (reply : Reply Output) (ledger : Ledger) :
    ((submission.completion engine).answer reply ledger).deliveries
      = ledger.deliveries ++ [submission.delivery engine reply] := by
  rw [Completion.answer_eq]
  -- Whatever the reply, the outcome passes the check, and the check delivers nothing itself.
  have spec := checkOutput_spec submission.request.command.operation
    submission.request.clientContextId
    (reply.outcome submission.request.command.operation.name)
    (reply.noticed submission.request.command.operation.name ledger)
  have noticed : (reply.noticed submission.request.command.operation.name ledger).deliveries
      = ledger.deliveries := by
    cases reply <;> rfl
  rw [noticed] at spec
  simp only [completion, Completion.mapResult, Ledger.deliver, spec.2, delivery, settled, spec.1]

end AnalyticsClient
