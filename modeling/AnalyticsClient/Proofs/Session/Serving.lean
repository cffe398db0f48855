import AnalyticsClient.Proofs.Session.Party
import AnalyticsClient.Proofs.Session.Waves

/-! What callers are served who keep futures: the outcome that a request came to as soon as there was
a reply to it, and until then the future itself. -/

namespace AnalyticsClient

/-- Whether an outcome is what a reply to a request has to come to. -/
def ManagementRequest.Settles (request : ManagementRequest) (outcome : Outcome Output) :
    Reply Output → Prop
  | .succeed output | .complete (.ok output) =>
    -- An output of another kind is never handed over.
    if some output.kind = request.command.operation.expectedOutput then outcome = .ok output
    else ∃ error : EngineError, outcome = .error (.engine error) ∧ error.kind = .protocol
      ∧ error.context = some request.clientContextId
  | .fail error | .complete (.error error) => outcome = .error (.engine error)
  | .release => ∃ error : EngineError, outcome = .error (.engine error) ∧ error.kind = .dropped
      ∧ error.message
        = request.command.operation.name ++ " was released by the engine without a reply"

/-- The outcome of a submission is what the reply to its request has to come to. -/
theorem Submission.settles_settled (submission : Submission) (reply : Reply Output) :
    submission.request.Settles (submission.settled reply) reply := by
  -- An output passes exactly when its kind fits, whichever way it was sent.
  have passes : ∀ output, if some output.kind = submission.request.command.operation.expectedOutput
      then checked submission.request.command.operation submission.request.clientContextId
          (.ok output) = .ok output
      else ∃ error : EngineError, checked submission.request.command.operation
            submission.request.clientContextId (.ok output) = .error (.engine error)
          ∧ error.kind = .protocol ∧ error.context = some submission.request.clientContextId := by
    intro output
    simp only [checked]
    split
    · rfl
    · exact ⟨_, rfl, rfl, rfl⟩
  cases reply with
  | succeed output => exact passes output
  | fail error => rfl
  | complete result =>
    cases result with
    | ok output => exact passes output
    | error error => rfl
  | release =>
    -- The error of a release names the operation.
    exact ⟨_, rfl, rfl, rfl⟩

namespace Session

/-- Whether an outcome is due after some turns for something that is waited for: a refusal is due
from the start, and a request has come to what its first reply brings, which was handed over once. -/
def Due (config : Config) (turns : List Turn) (session : Session) :
    Outcome Nat → Outcome Output → Prop
  | .ok engine, outcome => ∃ submission reply, session.submissions[engine]? = some submission
    ∧ replyTo? config engine 0 turns = some reply ∧ submission.request.Settles outcome reply
    ∧ session.deliveriesOf engine = [⟨engine, submission.recipient, outcome⟩]
  | .error error, outcome => outcome = .error error

/-- What a look at a future gives, and what is kept under its name after it; `rest` is what is kept
once the future is gone. -/
inductive Looks (config : Config) (turns : List Turn) (session : Session) (rest : Option Handle) :
    Handle → Answer → Option Handle → Prop
  | one {engine : Nat} {outcome : Outcome Output}
    (due : Due config turns session (.ok engine) outcome) :
    Looks config turns session rest (.awaited engine) (.outcome outcome) rest
  | many {parts : List (Outcome Nat)} {outcomes : List (Outcome Output)}
    (due : List.Forall₂ (Due config turns session) parts outcomes) :
    Looks config turns session rest (.awaitedMany parts) (.outcomes outcomes) rest
  /-- As long as a request is left without a reply, nothing is given, and the future is kept. -/
  | early {handle : Handle} {engine : Nat} (mem : .ok engine ∈ handle.parts)
    (unreplied : replyTo? config engine 0 turns = none) :
    Looks config turns session rest handle .pending (some handle)

/-- What a step gives that is taken under the name of a future, and what is kept under the name
after it. The step is the last one of `turns`, which led to `session`; before it `made` requests
were made, and `found` was kept. -/
inductive Serves (config : Config) (turns : List Turn) (session : Session) (made : Nat)
    (name : String) (found : Option Handle) : Step → Answer → Option Handle → Prop
  /-- Whoever submits what is accepted keeps the future of a new request. -/
  | submitted {descriptor : Descriptor} {command : Command}
    (resolved : descriptor.resolve = .ok command) :
    Serves config turns session made name found (.submit name descriptor) .done
      (some (.submitted made .start))
  | refused {descriptor : Descriptor} {error : Error}
    (resolved : descriptor.resolve = .error error) :
    Serves config turns session made name found (.submit name descriptor) (.refused error) found
  /-- Whoever executes what is accepted looks at once for the outcome of a new request. -/
  | executed {command accepted : Command} {answer : Answer} {kept : Option Handle}
    (resolved : (Descriptor.ofCommand command).resolve = .ok accepted)
    (looks : Looks config turns session found (.awaited made) answer kept) :
    Serves config turns session made name found (.execute name command) answer kept
  | faulty {command : Command} {error : Error}
    (resolved : (Descriptor.ofCommand command).resolve = .error error) :
    Serves config turns session made name found (.execute name command) (.outcome (.error error))
      found
  /-- Whoever executes several commands looks for all of them together. -/
  | together {commands : List Command} {answer : Answer} {kept : Option Handle}
    (looks : Looks config turns session found
      (.awaitedMany ((numbered made commands).map Prod.snd)) answer kept) :
    Serves config turns session made name found (.executeMany name commands) answer kept
  /-- The first attempt after the reply takes the outcome. -/
  | taken {engine : Nat} {outcome : Outcome Output}
    (untaken : found = some (.submitted engine ⟨false⟩))
    (due : Due config turns session (.ok engine) outcome) :
    Serves config turns session made name found (.tryResult name) (.outcome outcome)
      (some (.submitted engine ⟨true⟩))
  /-- An attempt before the reply takes nothing. -/
  | untimely {engine : Nat} (untaken : found = some (.submitted engine ⟨false⟩))
    (unreplied : replyTo? config engine 0 turns = none) :
    Serves config turns session made name found (.tryResult name) .pending found
  /-- An outcome that was taken before is lost. -/
  | lost {engine : Nat} (taken : found = some (.submitted engine ⟨true⟩)) :
    Serves config turns session made name found (.tryResult name)
      (.outcome (.error PendingOperation.lostError)) found
  | untried (other : ∀ engine pending, found ≠ some (.submitted engine pending)) :
    Serves config turns session made name found (.tryResult name) .gone found
  /-- Whoever waits gives the future up for its outcome. -/
  | awaited {engine : Nat} {answer : Answer} {kept : Option Handle}
    (untaken : found = some (.submitted engine ⟨false⟩) ∨ found = some (.awaited engine))
    (looks : Looks config turns session none (.awaited engine) answer kept) :
    Serves config turns session made name found (.await name) answer kept
  | awaitedMany {parts : List (Outcome Nat)} {answer : Answer} {kept : Option Handle}
    (waiting : found = some (.awaitedMany parts))
    (looks : Looks config turns session none (.awaitedMany parts) answer kept) :
    Serves config turns session made name found (.await name) answer kept
  | gone (nothing : found = none ∨ ∃ engine, found = some (.submitted engine ⟨true⟩)) :
    Serves config turns session made name found (.await name) .gone none
  | abandoned {handle : Handle} (waiting : found = some handle) :
    Serves config turns session made name found (.cancel name) .done none
  | unknown (nothing : found = none) :
    Serves config turns session made name found (.cancel name) .gone none

/-- Whether a session is where a history led from its start, as far as the operations in flight are
concerned. -/
abbrev Since (config : Config) (ids : Nat → String) (history : List Turn) (session : Session) :
    Prop :=
  Advance (ordersOf config history) (fun engine => replyTo? config engine 0 history)
    (start config ids) session

variable {config : Config} {ids : Nat → String} {turns : List Turn} {session after : Session}

/-- Since the start of a session, what is found for something that is waited for is due. -/
theorem Advance.due (since : Since config ids turns session) {part : Outcome Nat}
    {outcome : Outcome Output} (found : session.partOutcome? part = some outcome) :
    Due config turns session part outcome := by
  cases part with
  | error error =>
    cases found
    rfl
  | ok engine =>
    cases gave : replyTo? config engine 0 turns with
    | none =>
      -- Without a reply there is nothing to be found.
      rw [partOutcome?, (since.of_unreplied gave).2] at found
      cases found
    | some reply =>
      obtain ⟨submission, made, one, settled⟩ := since.of_replied gave
      obtain rfl : submission.settled reply = outcome := by
        rw [partOutcome?, settled] at found
        exact Option.some.inj found
      exact ⟨submission, reply, made, gave, submission.settles_settled reply, one⟩

/-- Since the start of a session, a request without an outcome is one without a reply. -/
theorem Advance.unreplied (since : Since config ids turns session) {engine : Nat}
    (open_ : session.ledger.outcome? engine = none) : replyTo? config engine 0 turns = none := by
  cases gave : replyTo? config engine 0 turns with
  | none => rfl
  | some reply =>
    -- A reply would have brought an outcome.
    obtain ⟨submission, -, -, outcome⟩ := since.of_replied gave
    rw [open_] at outcome
    cases outcome

/-- All parts have outcomes, or one is a request without one. -/
theorem outcomes_cases (session : Session) (parts : List (Outcome Nat)) :
    (∃ results, parts.mapM session.partOutcome? = some results
        ∧ List.Forall₂ (fun part result => session.partOutcome? part = some result) parts results)
      ∨ parts.mapM session.partOutcome? = none
        ∧ ∃ engine, .ok engine ∈ parts ∧ session.ledger.outcome? engine = none := by
  -- The first part that has no outcome yet holds all of them up.
  induction parts with
  | nil => exact .inl ⟨[], rfl, .nil⟩
  | cons part rest ih =>
    cases first : session.partOutcome? part with
    | none =>
      refine .inr ⟨by simp [List.mapM_cons, first], ?_⟩
      cases part with
      | ok engine => exact ⟨engine, List.mem_cons_self, first⟩
      | error error => cases first
    | some result =>
      rcases ih with ⟨results, found, each⟩ | ⟨none_, engine, mem, open_⟩
      · exact .inl ⟨result :: results, by simp [List.mapM_cons, first, found], .cons first each⟩
      · exact .inr ⟨by simp [List.mapM_cons, first, none_], engine, List.mem_cons_of_mem _ mem,
          open_⟩

/-- What is kept under a name is found under it. -/
theorem handles_keep (name : String) (handle : Handle) :
    (session.keep name handle).handles.get? name = some handle :=
  (Dict.get?_insert _ _ _ _).trans (if_pos rfl)

/-- What is given up is found no more. -/
theorem handles_forget (name : String) : (session.forget name).handles.get? name = none :=
  (Dict.get?_erase _ _ _).trans (if_pos rfl)

/-- A look at one outcome gives it as soon as it is due. -/
theorem looks_pollOne (since : Since config ids turns after) (name : String) (engine : Nat)
    (ledger : after.ledger = (session.pollOne name engine).2.ledger) :
    Looks config turns after (session.handles.get? name) (.awaited engine)
      (session.pollOne name engine).1 ((session.pollOne name engine).2.handles.get? name) := by
  -- The look is nothing to the ledger, in which the outcome is found or not.
  obtain ⟨handles, quiet⟩ := exists_pollOne_eq session name engine
  replace ledger : after.ledger = session.ledger := by rw [ledger, quiet]
  simp only [pollOne]
  cases found : session.ledger.outcome? engine with
  | some outcome => exact .one (since.due (by rw [partOutcome?, ledger, found]))
  | none =>
    rw [← ledger] at found
    simp only [handles_keep]
    exact .early (List.mem_singleton.2 rfl) (since.unreplied found)

/-- A look at several outcomes gives them as soon as all are due. -/
theorem looks_pollMany (since : Since config ids turns after) (name : String)
    (parts : List (Outcome Nat))
    (ledger : after.ledger = (session.pollMany name parts).2.ledger) :
    Looks config turns after (session.handles.get? name) (.awaitedMany parts)
      (session.pollMany name parts).1 ((session.pollMany name parts).2.handles.get? name) := by
  obtain ⟨handles, quiet⟩ := exists_pollMany_eq session name parts
  replace ledger : after.ledger = session.ledger := by rw [ledger, quiet]
  rcases outcomes_cases session parts with ⟨results, found, each⟩ | ⟨none_, engine, mem, open_⟩
  · simp only [pollMany, found]
    refine .many (each.imp fun part result here => since.due ?_)
    -- The parts have the outcomes that the ledger has.
    cases part with
    | ok engine => rwa [partOutcome?, ledger]
    | error error => exact here
  · simp only [pollMany, none_, handles_keep]
    rw [← ledger] at open_
    exact .early mem (since.unreplied open_)

/-- Whoever waits for a future gets what a look at it gives. -/
theorem serves_await (since : Since config ids turns after) {name : String}
    (ledger : after.ledger = (session.awaitHandle name).2.ledger) :
    Serves config turns after session.submissions.length name (session.handles.get? name)
      (.await name) (session.awaitHandle name).1
      ((session.awaitHandle name).2.handles.get? name) := by
  -- The future is taken away first, so nothing is left of it unless the look brings it back.
  have looksOne := @looks_pollOne config ids turns (session.forget name) after since name
  have looksMany := @looks_pollMany config ids turns (session.forget name) after since name
  simp only [handles_forget] at looksOne looksMany
  unfold awaitHandle at ledger ⊢
  cases found : session.handles.get? name with
  | none =>
    simp only [found]
    exact .gone (.inl rfl)
  | some handle =>
    simp only [found] at ledger ⊢
    cases handle with
    | awaited engine => exact .awaited (.inr rfl) (looksOne engine ledger)
    | awaitedMany parts => exact .awaitedMany rfl (looksMany parts ledger)
    | submitted engine pending =>
      obtain ⟨taken⟩ := pending
      cases taken with
      | true =>
        -- What was taken before is not waited for again.
        simp only [if_true, handles_forget]
        exact .gone (.inr ⟨engine, rfl⟩)
      | false => exact .awaited (.inl rfl) (looksOne engine ledger)

/-- An attempt to take the outcome of one operation gives it as soon as it is due. -/
theorem serves_tryResult (since : Since config ids turns after) {name : String}
    (ledger : after.ledger = (session.tryHandle name).2.ledger) :
    Serves config turns after session.submissions.length name (session.handles.get? name)
      (.tryResult name) (session.tryHandle name).1
      ((session.tryHandle name).2.handles.get? name) := by
  obtain ⟨handles, quiet⟩ := exists_tryHandle_eq session name
  replace ledger : after.ledger = session.ledger := by rw [ledger, quiet]
  -- Only the future of one operation can be looked at without waiting.
  cases found : session.handles.get? name with
  | none =>
    simp only [tryHandle, found]
    exact .untried fun _ _ same => by cases same
  | some handle =>
    cases handle with
    | awaited engine =>
      simp only [tryHandle, found]
      exact .untried fun _ _ same => by cases same
    | awaitedMany parts =>
      simp only [tryHandle, found]
      exact .untried fun _ _ same => by cases same
    | submitted engine pending =>
      obtain ⟨taken⟩ := pending
      cases taken with
      | true =>
        simp only [tryHandle, found, PendingOperation.tryResult, if_true, handles_keep]
        exact .lost rfl
      | false =>
        -- Whether there is something to take depends on the reply.
        cases arrived : session.ledger.outcome? engine with
        | none =>
          simp only [tryHandle, found, PendingOperation.tryResult, arrived, Bool.false_eq_true,
            if_false, handles_keep]
          rw [← ledger] at arrived
          exact .untimely rfl (since.unreplied arrived)
        | some outcome =>
          simp only [tryHandle, found, PendingOperation.tryResult, arrived, Bool.false_eq_true,
            if_false, handles_keep]
          rw [← ledger] at arrived
          exact .taken rfl (since.due arrived)

/-- Every step that is taken under the name of a future serves its caller as the replies until then
tell. -/
theorem serves_act (since : Since config ids turns after) {step : Step} {name : String}
    (own : step.party? = some (.future name)) (ledger : after.ledger = (session.act step).2.ledger) :
    Serves config turns after session.submissions.length name (session.handles.get? name) step
      (session.act step).1 ((session.act step).2.handles.get? name) := by
  -- Requests that are made leave the futures alone that were kept before.
  have placed (order : Order) : (session.place order).handles = session.handles :=
    handles_placeAll [order] session
  cases step with
  | submit id descriptor =>
    cases own
    cases resolved : descriptor.resolve with
    | error error =>
      simp only [act, submitDescriptor_eq, resolved]
      exact .refused resolved
    | ok command =>
      simp only [act, submitDescriptor_eq, resolved, handles_keep]
      exact .submitted resolved
  | execute id command =>
    cases own
    cases resolved : (Descriptor.ofCommand command).resolve with
    | error error =>
      simp only [act, submitDescriptor_eq, resolved]
      exact .faulty resolved
    | ok _ =>
      simp only [act, submitDescriptor_eq, resolved] at ledger ⊢
      have looks := looks_pollOne since name session.submissions.length ledger
      rw [placed] at looks
      exact .executed resolved looks
  | executeMany id commands =>
    cases own
    simp only [act] at ledger ⊢
    have looks := looks_pollMany since name (session.submitAll commands).1 ledger
    -- The requests are made before the look, so they are those that it is for.
    have same : (session.submitAll commands).2.handles = session.handles := by
      rw [submitAll_snd, handles_placeAll]
    rw [same] at looks
    rw [submitAll_fst] at looks ⊢
    exact .together looks
  | tryResult id =>
    cases own
    exact serves_tryResult since ledger
  | await id =>
    cases own
    exact serves_await since ledger
  | cancel id =>
    cases own
    simp only [act]
    cases found : session.handles.get? name with
    | none =>
      simp only [Option.isSome_none, Bool.false_eq_true, if_false, found]
      exact .unknown rfl
    | some handle =>
      simp only [Option.isSome_some, if_true, handles_forget]
      exact .abandoned rfl
  | dispatch => cases own
  | reply => cases own
  | query => cases own
  | onQuery => cases own

end Session

end AnalyticsClient
