import AnalyticsClient.Proofs.Operation.Veil
import AnalyticsClient.Proofs.Query.Admission
import AnalyticsClient.Proofs.Session.Likeness

/-! Two sessions that go the same way but for secrets and for the ids that requests go by. -/

namespace AnalyticsClient

variable (R : String → String → Prop)

/-- Whether two orders ask for the same but for secrets. -/
structure Order.Veiled (a b : Order) : Prop where
  command : a.command.Veiled b.command
  timeout : b.timeout = a.timeout
  recipient : b.recipient = a.recipient

/-- Whether two submissions ask for the same but for secrets, under related ids. -/
structure Submission.Veiled (a b : Submission) : Prop where
  order : a.order.Veiled b.order
  id : R a.request.clientContextId b.request.clientContextId

/-- Whether two deliveries are alike, to requests of the same number. -/
structure Delivery.Echoes (a b : Delivery) : Prop where
  engine : a.engine = b.engine
  alike : a.Alike R b

/-- Whether two ledgers are alike, delivery by delivery and event by event. -/
structure Ledger.Echoes (a b : Ledger) : Prop where
  deliveries : List.Forall₂ (Delivery.Echoes R) a.deliveries b.deliveries
  log : List.Forall₂ (LogEvent.Alike R) a.log b.log

/-- Whether two sessions are the same but for secrets in what the engine got, and for the ids that
requests go by. -/
structure Session.Echoes (a b : Session) : Prop where
  config : b.config = a.config
  drawn : b.ids.drawn = a.ids.drawn
  ids : ∀ draw, R (a.ids.id draw) (b.ids.id draw)
  submissions : List.Forall₂ (Submission.Veiled R) a.submissions b.submissions
  held : b.held = a.held
  ready : b.ready = a.ready
  ledger : a.ledger.Echoes R b.ledger
  handles : b.handles = a.handles
  queries : ∀ name, Option.Rel (LiveQuery.Alike R) (a.queries.get? name) (b.queries.get? name)

/-- Whether two steps give alike, and leave sessions that are the same but for secrets and ids. -/
structure Session.Concert (one other : Answer × Session) : Prop where
  answers : one.1.Alike R other.1
  after : Session.Echoes R one.2 other.2

variable {R}

namespace Ledger.Echoes

variable {a b : Ledger}

/-- Alike events are told to alike ledgers. -/
theorem log_event (echoes : a.Echoes R b) {event event' : LogEvent} (alike : event.Alike R event') :
    (Logging.log event a : Ledger).Echoes R (Logging.log event' b) where
  deliveries := echoes.deliveries
  log := List.rel_append echoes.log (.cons alike .nil)

/-- Alike outcomes are handed over in alike ledgers. -/
theorem deliver (echoes : a.Echoes R b) {delivery delivery' : Delivery}
    (alike : delivery.Echoes R delivery') :
    (a.deliver delivery).Echoes R (b.deliver delivery') where
  deliveries := List.rel_append echoes.deliveries (.cons alike .nil)
  log := echoes.log

/-- Alike ledgers are told alike of what streams tell. -/
theorem logAll (echoes : a.Echoes R b) {events events' : List LogEvent}
    (alike : List.Forall₂ (LogEvent.Alike R) events events') :
    (a.logAll events).Echoes R (b.logAll events') where
  deliveries := echoes.deliveries
  log := List.rel_append echoes.log alike

/-- Alike ledgers have alike outcomes under the number of a request. -/
theorem outcome? (echoes : a.Echoes R b) (engine : Nat) :
    Option.Rel (Outcome.Alike R) (a.outcome? engine) (b.outcome? engine) := by
  -- The deliveries come in the same order, so the search for the number goes the same way.
  have deliveries := echoes.deliveries
  simp only [Ledger.outcome?]
  generalize a.deliveries = made, b.deliveries = made' at deliveries
  induction deliveries with
  | nil => exact .none
  | @cons delivery delivery' rest rest' first _ ih =>
    -- The first delivery with the number counts, and the numbers are the same.
    by_cases here : delivery.engine = engine
    · have here' : delivery'.engine = engine := first.engine ▸ here
      simp only [List.find?_cons, here, here', decide_true, Option.map_some]
      exact .some first.alike.outcome
    · have here' : ¬ delivery'.engine = engine := first.engine ▸ here
      simp only [List.find?_cons, here, here', decide_false]
      exact ih

end Ledger.Echoes

/-- An outcome that passes for an operation is checked in the same words, whatever the id of its
request. -/
theorem checkOutput_echoes {a b : Ledger} (echoes : a.Echoes R b) (operation : Operation)
    {id id' : String} (related : R id id') (outcome : Outcome Output) :
    Outcome.Alike R (checkOutput operation id outcome a).1 (checkOutput operation id' outcome b).1
      ∧ (checkOutput operation id outcome a).2.Echoes R
        (checkOutput operation id' outcome b).2 := by
  cases outcome with
  | error error =>
    -- The error is that of the reply, which is the same for both.
    exact ⟨.refl _, echoes.log_event (.under (.failed operation "" error) related)⟩
  | ok output =>
    simp only [checkOutput]
    split
    · exact ⟨.refl _, echoes.log_event (.under (.completed operation "") related)⟩
    · -- Only here does the caller get to see the id.
      exact ⟨.error (.engine ⟨rfl, rfl, .some related⟩),
        echoes.log_event (.under (.wrongKind operation "" output.kind) related)⟩

/-- The same reply to submissions that differ only in secrets is handed over alike and told
alike. -/
theorem Submission.Veiled.answer {made made' : Submission} (veiled : made.Veiled R made')
    {a b : Ledger} (echoes : a.Echoes R b) (engine : Nat) (reply : Reply Output) :
    ((made.completion engine).answer reply a).Echoes R
      ((made'.completion engine).answer reply b) := by
  obtain ⟨⟨command, timeout, id⟩, recipient⟩ := made
  obtain ⟨⟨command', timeout', id'⟩, recipient'⟩ := made'
  obtain ⟨⟨commands, -, recipients⟩, related⟩ := veiled
  obtain rfl : recipient' = recipient := recipients
  -- All that is left of the command is its operation.
  have operation : command'.operation = command.operation := commands.operation_eq.symm
  have noticed : (reply.noticed command.operation.name a).Echoes R
      (reply.noticed command.operation.name b) := by
    -- Only a release is told to the log as such, and that line tells the operation alone.
    cases reply with
    | release => exact echoes.log_event (.under (.released command.operation.name) related)
    | succeed _ => exact echoes
    | fail _ => exact echoes
    | complete _ => exact echoes
  rw [Completion.answer_eq, Completion.answer_eq]
  simp only [completion, Completion.mapResult, operation]
  have passed := checkOutput_echoes noticed command.operation related
    (reply.outcome command.operation.name)
  exact passed.2.deliver ⟨rfl, rfl, passed.1⟩

namespace Session

variable {a b : Session}

namespace Echoes

/-- What callers keep may be replaced by the same on both sides. -/
theorem with_handles (echoes : a.Echoes R b) (handles : Dict Handle) :
    Echoes R { a with handles } { b with handles } :=
  { echoes with handles := rfl }

/-- The same may be kept under a name. -/
theorem keep (echoes : a.Echoes R b) (id : String) (handle : Handle) :
    (a.keep id handle).Echoes R (b.keep id handle) := by
  have handles := echoes.handles
  simp only [Session.keep, handles]
  exact echoes.with_handles _

/-- What is kept under a name may be given up. -/
theorem forget (echoes : a.Echoes R b) (id : String) :
    (a.forget id).Echoes R (b.forget id) := by
  have handles := echoes.handles
  simp only [Session.forget, handles]
  exact echoes.with_handles _

/-- The replies that are ready may be replaced by the same. -/
theorem with_ready (echoes : a.Echoes R b) (ready : List (Reply Output)) :
    Echoes R { a with ready } { b with ready } :=
  { echoes with ready := rfl }

/-- The engine got as many requests in both sessions. -/
theorem length_submissions (echoes : a.Echoes R b) :
    b.submissions.length = a.submissions.length :=
  echoes.submissions.length_eq.symm

/-- The ids that are drawn next are related. -/
theorem next_id (echoes : a.Echoes R b) :
    R (a.ids.id a.ids.drawn) (b.ids.id b.ids.drawn) := by
  rw [echoes.drawn]
  exact echoes.ids _

/-- Orders that differ only in secrets are placed alike: the log is told of operations, ids and
timeouts only. -/
theorem place (echoes : a.Echoes R b) {order order' : Order} (veiled : order.Veiled order') :
    (a.place order).Echoes R (b.place order') := by
  obtain ⟨command, timeout, recipient⟩ := order
  obtain ⟨command', timeout', recipient'⟩ := order'
  obtain ⟨commands, timeouts, recipients⟩ := veiled
  obtain rfl : timeout' = timeout := timeouts
  obtain rfl : recipient' = recipient := recipients
  -- The commands differ in secrets, and share the operation, which is what the log is told.
  have operation : command'.operation = command.operation := commands.operation_eq.symm
  let made : Submission := ⟨⟨command, timeout', a.ids.id a.ids.drawn⟩, recipient'⟩
  let made' : Submission := ⟨⟨command', timeout', b.ids.id b.ids.drawn⟩, recipient'⟩
  have fresh : made.Veiled R made' := ⟨⟨commands, rfl, rfl⟩, echoes.next_id⟩
  have submissions : List.Forall₂ (Submission.Veiled R) (a.submissions ++ [made])
      (b.submissions ++ [made']) := List.rel_append echoes.submissions (.cons fresh .nil)
  have told := echoes.ledger.log_event
    (.under (.submitting command.operation "" timeout'.millisWord) echoes.next_id)
  have drawn : b.ids.drawn + 1 = a.ids.drawn + 1 := congrArg (· + 1) echoes.drawn
  have readies := echoes.ready
  simp only [Session.place, submitCommand, IdSupply.draw, readies, operation,
    echoes.length_submissions]
  -- A reply that is ready answers the request at once; otherwise the engine holds it.
  cases a.ready with
  | nil =>
    have held : b.held ++ [a.submissions.length] = a.held ++ [a.submissions.length] := by
      rw [echoes.held]
    exact { echoes with drawn, submissions, held, ready := rfl, ledger := told }
  | cons reply rest =>
    exact { echoes with
      drawn, submissions, ready := rfl, ledger := fresh.answer told a.submissions.length reply }

/-- Descriptors that resolve alike are submitted alike, or refused with the same error. -/
theorem submitDescriptor (echoes : a.Echoes R b) {descriptor descriptor' : Descriptor}
    (resolve : Wire.Agree Command.Veiled descriptor.resolve descriptor'.resolve)
    (timeout : descriptor'.timeout = descriptor.timeout) (recipient : Recipient) :
    Wire.Agree (fun one other : Nat × Session => one.1 = other.1 ∧ one.2.Echoes R other.2)
      (a.submitDescriptor descriptor recipient) (b.submitDescriptor descriptor' recipient) := by
  rw [submitDescriptor_eq, submitDescriptor_eq]
  generalize descriptor.resolve = one, descriptor'.resolve = other at resolve
  cases resolve with
  | error error => exact .error error
  | ok veiled =>
    -- A descriptor without a timeout takes that of the configuration, the same in both sessions.
    refine .ok ⟨echoes.length_submissions.symm, echoes.place ⟨veiled, ?_, rfl⟩⟩
    rw [timeout, echoes.config]

/-- Several commands are submitted alike. -/
theorem submitAll (commands : List Command) : ∀ {a b : Session}, a.Echoes R b →
    (b.submitAll commands).1 = (a.submitAll commands).1
      ∧ (a.submitAll commands).2.Echoes R (b.submitAll commands).2 := by
  -- Each command changes the sessions for the others, so they stay quantified over.
  induction commands with
  | nil => exact fun echoes => ⟨rfl, echoes⟩
  | cons command rest ih =>
    intro a b echoes
    have first := echoes.submitDescriptor (.refl Command.Veiled.same _)
      (rfl : (Descriptor.ofCommand command).timeout = _) .pending
    simp only [Session.submitAll]
    generalize a.submitDescriptor (.ofCommand command) .pending = one,
      b.submitDescriptor (.ofCommand command) .pending = other at first
    cases first with
    | error error =>
      obtain ⟨parts, after⟩ := ih echoes
      exact ⟨congrArg (List.cons _) parts, after⟩
    | @ok one other related =>
      obtain ⟨engine, session⟩ := one
      obtain ⟨engine', session'⟩ := other
      obtain ⟨same, between⟩ := related
      obtain rfl : engine = engine' := same
      obtain ⟨parts, after⟩ := ih between
      exact ⟨congrArg (List.cons _) parts, after⟩

/-- The outcomes of several things that are waited for are alike. -/
theorem partOutcomes? (echoes : a.Echoes R b) (parts : List (Outcome Nat)) :
    Option.Rel (List.Forall₂ (Outcome.Alike R)) (parts.mapM a.partOutcome?)
      (parts.mapM b.partOutcome?) := by
  refine rel_mapM (S := Eq) (fun {part other} same => ?_) (List.forall₂_same.2 fun _ _ => rfl)
  subst same
  -- What was refused has its outcome already.
  cases part with
  | ok engine => exact echoes.ledger.outcome? engine
  | error error => exact .some (.refl _)

/-- A look for the outcome of a request gives alike. -/
theorem pollOne (echoes : a.Echoes R b) (id : String) (engine : Nat) :
    Concert R (a.pollOne id engine) (b.pollOne id engine) := by
  have found := echoes.ledger.outcome? engine
  simp only [Session.pollOne]
  generalize a.ledger.outcome? engine = one, b.ledger.outcome? engine = other at found
  -- The outcome is there in both sessions, or waited for in both.
  cases found with
  | none => exact ⟨.same _, echoes.keep id _⟩
  | some alike => exact ⟨.outcome alike, echoes⟩

/-- A look for the outcomes of several requests gives alike. -/
theorem pollMany (echoes : a.Echoes R b) (id : String) (parts : List (Outcome Nat)) :
    Concert R (a.pollMany id parts) (b.pollMany id parts) := by
  have found := echoes.partOutcomes? parts
  simp only [Session.pollMany]
  generalize parts.mapM a.partOutcome? = one, parts.mapM b.partOutcome? = other at found
  cases found with
  | none => exact ⟨.same _, echoes.keep id _⟩
  | some alike => exact ⟨.outcomes alike, echoes⟩

/-- A look without waiting gives alike. -/
theorem tryHandle (echoes : a.Echoes R b) (id : String) :
    Concert R (a.tryHandle id) (b.tryHandle id) := by
  simp only [Session.tryHandle, echoes.handles]
  cases a.handles.get? id with
  | none => exact ⟨.same _, echoes⟩
  | some handle =>
    -- Only what was submitted can be looked at without waiting.
    cases handle with
    | awaited engine => exact ⟨.same _, echoes⟩
    | awaitedMany parts => exact ⟨.same _, echoes⟩
    | submitted engine pending =>
      have found := echoes.ledger.outcome? engine
      simp only [PendingOperation.tryResult]
      generalize a.ledger.outcome? engine = one, b.ledger.outcome? engine = other at found
      -- What was taken before is gone on both sides.
      by_cases taken : pending.taken
      · simp only [if_pos taken]
        exact ⟨.same _, echoes.keep id _⟩
      · simp only [if_neg taken]
        cases found with
        | none => exact ⟨.same _, echoes.keep id _⟩
        | some alike => exact ⟨.outcome alike, echoes.keep id _⟩

/-- Waiting gives alike. -/
theorem awaitHandle (echoes : a.Echoes R b) (id : String) :
    Concert R (a.awaitHandle id) (b.awaitHandle id) := by
  have without := echoes.forget id
  simp only [Session.awaitHandle, echoes.handles]
  cases a.handles.get? id with
  | none => exact ⟨.same _, echoes⟩
  | some handle =>
    cases handle with
    | awaited engine => exact without.pollOne id engine
    | awaitedMany parts => exact without.pollMany id parts
    | submitted engine pending =>
      -- What was taken before leaves nothing to wait for, in either session.
      by_cases taken : pending.taken
      · simp only [if_pos taken]
        exact ⟨.same _, without⟩
      · simp only [if_neg taken]
        exact without.pollOne id engine

/-- The same reply to the request of a number is taken alike. -/
theorem reply (echoes : a.Echoes R b) (engine : Nat) (reply : Reply Output) :
    Concert R (a.act (.reply engine reply)) (b.act (.reply engine reply)) := by
  have submission := rel_getElem? echoes.submissions engine
  simp only [act, reply?, echoes.held]
  generalize a.submissions[engine]? = one, b.submissions[engine]? = other at submission
  cases submission with
  | none => exact ⟨.same _, echoes⟩
  | some veiled =>
    -- A request that is not held is not answered any more.
    by_cases held : engine ∈ a.held
    · simp only [if_pos held]
      exact ⟨.same _, { echoes with held := rfl, ledger := veiled.answer echoes.ledger _ _ }⟩
    · simp only [if_neg held]
      exact ⟨.same _, echoes⟩

/-- A query is opened alike. -/
theorem openQuery (echoes : a.Echoes R b) (reflexive : ∀ id, R id id) (id statement : String)
    (options : RawQueryOptions) :
    Concert R (a.openQuery id statement options) (b.openQuery id statement options) := by
  simp only [Session.openQuery]
  -- Faulty options and a blank statement are refused alike.
  cases options.resolve with
  | error error => exact ⟨.same _, echoes⟩
  | ok options =>
    by_cases blank : Text.isBlankText statement = true
    · simp only [Except.bind, submitQuery, if_pos blank]
      exact ⟨.same _, echoes⟩
    · -- The request goes by its own id, which is the same for both, or by the next one drawn.
      have related : R (options.clientContextId.getD (a.ids.id a.ids.drawn))
          (options.clientContextId.getD (b.ids.id b.ids.drawn)) := by
        cases options.clientContextId with
        | some id => exact reflexive id
        | none => exact echoes.next_id
      have alike := QueryRequest.alike_build related statement options a.config.queryTimeout
      have fresh := LiveQuery.alike_start related a.config.capacity
      simp only [Except.bind, submitQuery, if_neg blank, QueryRequest.make_eq, echoes.config]
      refine ⟨.submittedQuery alike fresh, { echoes with
        config := rfl
        drawn := congrArg (· + _) echoes.drawn
        ledger := echoes.ledger.log_event (.under (.submittingQuery "" _ _ _) related)
        queries := fun name => ?_ }⟩
      -- Under the name stands the fresh query, and under any other what stood there before.
      rw [Dict.get?_insert, Dict.get?_insert]
      split
      · exact .some fresh
      · exact echoes.queries name

/-- A step on a query gives alike, and is told alike. -/
theorem stepQuery (echoes : a.Echoes R b) (id : String) (step : QueryStep) :
    Concert R (a.stepQuery id step) (b.stepQuery id step) := by
  have kept := echoes.queries id
  simp only [Session.stepQuery]
  generalize a.queries.get? id = one, b.queries.get? id = other at kept
  cases kept with
  | none => exact ⟨.same _, echoes⟩
  | some alike =>
    -- The log of the session goes on with what the streams tell, which is alike.
    obtain ⟨gots, queries⟩ := alike.take step
    refine ⟨.query gots queries, { echoes with
      ledger := echoes.ledger.logAll (alike.told step)
      queries := fun name => ?_ }⟩
    rw [Dict.get?_insert, Dict.get?_insert]
    split
    · exact .some queries
    · exact echoes.queries name

end Echoes

end Session

end AnalyticsClient
