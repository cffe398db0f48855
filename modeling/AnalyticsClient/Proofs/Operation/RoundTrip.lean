import AnalyticsClient.Proofs.Operation.Language
import AnalyticsClient.Proofs.Session.Advance

/-! A command that is described and understood again is the same command. -/

namespace AnalyticsClient

namespace Descriptor

/-- The arguments of a command that was described are read as those of that command. -/
theorem readArguments_ofCommand (command : Command) :
    (ofCommand command).readArguments = .ok command :=
  readArguments_iff.2 ⟨rfl, Command.written_arguments command⟩

/-- A command that was described becomes itself again, if it is fit to be submitted. -/
theorem resolve_ofCommand (command : Command) :
    (ofCommand command).resolve = match command.validate with
      | .ok () => .ok command
      | .error defect => .error (.invalidArguments command.operation.name defect.reason) :=
  resolve_of_readArguments (readArguments_ofCommand command)

end Descriptor

namespace Session

/-- An order becomes one submission under the next id. -/
theorem submissions_place (session : Session) (order : Order) :
    (session.place order).submissions
      = session.submissions ++ [order.submission (session.ids.id session.ids.drawn)] := by
  cases ready : session.ready <;>
    simp [place, submitCommand, ready, IdSupply.draw, Order.submission]

/-- What the engine gets for a command that is to be executed: the command itself, if it is fit. -/
def executed (session : Session) (command : Command) : List Submission :=
  match command.validate with
  | .ok () =>
    [⟨⟨command, session.config.managementTimeout, session.ids.id session.ids.drawn⟩, .pending⟩]
  | .error _ => []

/-- Executing a command hands to the engine exactly that command, or nothing. -/
theorem submissions_execute (session : Session) (ready : List (Reply Output)) (name : String)
    (command : Command) :
    (session.step ready (.execute name command)).2.submissions
      = session.submissions ++ session.executed command := by
  obtain ⟨handles, after⟩ := @exists_act_eq { session with ready } (.execute name command) rfl
  have resolved := Descriptor.resolve_ofCommand command
  -- The step makes one call, for the command as it is described.
  simp only [step, after, Step.orders, Step.calls, executed]
  cases checked : command.validate with
  | ok =>
    rw [checked] at resolved
    rw [placeAll_of_ok resolved]
    exact submissions_place _ _
  | error defect =>
    rw [checked] at resolved
    rw [placeAll_of_error resolved, List.append_nil]

end Session

/-- Describing a command and resolving the description gives back that command if it is fit, and the
error of its check if it is not; so the engine gets a command that is executed as it is, or nothing.
What a description resolves to is fit, of the operation that was described, and is kept when it is
described and resolved again. -/
theorem commands_preserved :
    (∀ command : Command, (Descriptor.ofCommand command).resolve
        = match command.validate with
          | .ok () => .ok command
          | .error defect => .error (.invalidArguments command.operation.name defect.reason))
      ∧ (∀ (session : Session) (ready : List (Reply Output)) (name : String) (command : Command),
        (session.step ready (.execute name command)).2.submissions
          = session.submissions ++ session.executed command)
      ∧ ∀ descriptor : Descriptor, match descriptor.resolve with
        | .ok command => command.operation = descriptor.operation ∧ command.validate = .ok ()
          ∧ (Descriptor.ofCommand command).resolve = .ok command
        | .error _ => True := by
  refine ⟨Descriptor.resolve_ofCommand, Session.submissions_execute, fun descriptor => ?_⟩
  -- What came out of a description passed the check, so it passes it again.
  cases resolved : descriptor.resolve with
  | error error => trivial
  | ok command =>
    obtain ⟨same, -, fit⟩ := Descriptor.resolve_iff.1 resolved
    have checked := (Command.validate_iff command).2 fit
    refine ⟨same, checked, ?_⟩
    rw [Descriptor.resolve_ofCommand, checked]

end AnalyticsClient
