import AnalyticsClient.Proofs.Completion.Outcome

/-! What the log is told of an operation: that it goes to the engine, and what came of it. -/

namespace AnalyticsClient

variable {α ω : Type}

/-- What the log is told of a reply before its outcome is looked at. -/
def Reply.notices (label : String) : Reply α → List LogEvent
  | .release => [.released label]
  | .succeed _ | .fail _ | .complete _ => []

/-- What the log is told of the outcome of an operation. -/
def verdict (operation : Operation) (clientContextId : String) : Outcome Output → LogEvent
  | .ok output =>
    if some output.kind = operation.expectedOutput then .completed operation clientContextId
    else .wrongKind operation clientContextId output.kind
  | .error error => .failed operation clientContextId error

/-- The check of an outcome tells the log its verdict. -/
theorem log_checkOutput (operation : Operation) (clientContextId : String)
    (outcome : Outcome Output) (ledger : Ledger) :
    (checkOutput operation clientContextId outcome ledger).2.log
      = ledger.log ++ [verdict operation clientContextId outcome] := by
  cases outcome with
  | error error => rfl
  | ok output =>
    simp only [checkOutput, verdict]
    -- The output that passes and the one that does not each have their own line.
    split <;> rfl

/-- A reply is noticed in the log of a ledger. -/
theorem Reply.log_noticed (label : String) (reply : Reply α) (ledger : Ledger) :
    (reply.noticed label ledger).log = ledger.log ++ reply.notices label := by
  -- Only a release is told as such.
  cases reply with
  | release => rfl
  | succeed value => exact (List.append_nil _).symm
  | fail error => exact (List.append_nil _).symm
  | complete result => exact (List.append_nil _).symm

namespace Submission

variable (submission : Submission)

/-- What the log is told when a submission goes to the engine. -/
def opening : LogEvent :=
  .submitting submission.request.command.operation submission.request.clientContextId
    submission.request.timeout.millisWord

/-- What the log is told when a submission is replied to. -/
def closing (reply : Reply Output) : List LogEvent :=
  let operation := submission.request.command.operation
  reply.notices operation.name
    ++ [verdict operation submission.request.clientContextId (reply.outcome operation.name)]

/-- Whether an event says, of what a reply brings and of what the caller gets for it, what came of
an operation, under its own name and the id of its own request. -/
inductive Judged : (brought given : Outcome Output) → LogEvent → Prop where
  | completed (output : Output)
      (fits : some output.kind = submission.request.command.operation.expectedOutput) :
    Judged (.ok output) (.ok output) (.completed submission.request.command.operation
      submission.request.clientContextId)
  | wrongKind (output : Output)
      (differs : some output.kind ≠ submission.request.command.operation.expectedOutput) :
    Judged (.ok output)
      (.error (.engine (wrongKindError submission.request.command.operation
        submission.request.clientContextId output.kind)))
      (.wrongKind submission.request.command.operation submission.request.clientContextId
        output.kind)
  | failed (error : Error) :
    Judged (.error error) (.error error) (.failed submission.request.command.operation
      submission.request.clientContextId error)

/-- A reply to a submission tells the log how it closes. -/
theorem log_answer (engine : Nat) (reply : Reply Output) (ledger : Ledger) :
    ((submission.completion engine).answer reply ledger).log
      = ledger.log ++ submission.closing reply := by
  -- The notice of a release comes first, and the check tells its verdict after it.
  have checks := log_checkOutput submission.request.command.operation
    submission.request.clientContextId
    (reply.outcome submission.request.command.operation.name)
    (reply.noticed submission.request.command.operation.name ledger)
  rw [Reply.log_noticed, List.append_assoc] at checks
  rw [Completion.answer_eq]
  exact checks

/-- The verdict on an outcome is true of what passes the check. -/
theorem judged_checked (outcome : Outcome Output) :
    submission.Judged outcome
      (checked submission.request.command.operation submission.request.clientContextId outcome)
      (verdict submission.request.command.operation submission.request.clientContextId
        outcome) := by
  cases outcome with
  | error error => exact .failed error
  | ok output =>
    -- Whether the output passes is decided alike for the log and for the caller.
    unfold checked verdict
    by_cases fits : some output.kind = submission.request.command.operation.expectedOutput
    · simp only [if_pos fits]
      exact .completed output fits
    · simp only [if_neg fits]
      exact .wrongKind output fits

/-- The log is told of a reply what the caller gets of it, after the notice of a release. -/
theorem exists_judged (reply : Reply Output) :
    ∃ event, submission.Judged (reply.outcome submission.request.command.operation.name)
        (submission.settled reply) event
      ∧ submission.closing reply
        = reply.notices submission.request.command.operation.name ++ [event] :=
  ⟨_, submission.judged_checked _, rfl⟩

end Submission

end AnalyticsClient
