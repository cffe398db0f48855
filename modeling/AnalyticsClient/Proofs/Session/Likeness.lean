import AnalyticsClient.Proofs.Query.Renaming
import AnalyticsClient.Proofs.Session.Advance
import Mathlib.Data.List.Forall2

/-! What callers and the engine are shown, alike but for the ids that requests go by. -/

namespace AnalyticsClient

/-- Of related elements related things are found, all of them or none. -/
theorem rel_mapM {α β γ δ : Type} {S : α → β → Prop} {T : γ → δ → Prop} {find : α → Option γ}
    {find' : β → Option δ} (finds : ∀ {a b}, S a b → Option.Rel T (find a) (find' b))
    {as : List α} {bs : List β} (related : List.Forall₂ S as bs) :
    Option.Rel (List.Forall₂ T) (as.mapM find) (bs.mapM find') := by
  induction related with
  | nil => exact .some .nil
  | @cons a b rest rest' first _ ih =>
    have here := finds first
    rw [List.mapM_cons, List.mapM_cons]
    generalize find a = one, find' b = one' at here
    generalize rest.mapM find = others, rest'.mapM find' = others' at ih
    -- Nothing is found unless the first and all others are.
    cases here with
    | none => exact .none
    | some alike =>
      cases ih with
      | none => exact .none
      | some later => exact .some (.cons alike later)

/-- In the same place of two lists of related elements stand related ones, or none. -/
theorem rel_getElem? {α β : Type} {S : α → β → Prop} {as : List α} {bs : List β}
    (related : List.Forall₂ S as bs) : ∀ place : Nat, Option.Rel S as[place]? bs[place]? := by
  induction related with
  | nil => exact fun _ => .none
  | cons first _ ih =>
    intro place
    cases place with
    | zero => exact .some first
    | succ place => exact ih place

variable (R : String → String → Prop)

/-- Whether two errors of the engine are alike: their contexts may be related ids. -/
structure EngineError.Alike (a b : EngineError) : Prop where
  kind : a.kind = b.kind
  message : a.message = b.message
  context : Option.Rel R a.context b.context

/-- Whether two errors are alike. -/
inductive Error.Alike : Error → Error → Prop
  | same (error : Error) : Error.Alike error error
  | engine {a b : EngineError} (alike : a.Alike R b) : Error.Alike (.engine a) (.engine b)

/-- Whether two outcomes are alike. -/
inductive Outcome.Alike {α : Type} : Outcome α → Outcome α → Prop
  | ok (value : α) : Outcome.Alike (.ok value) (.ok value)
  | error {a b : Error} (alike : a.Alike R b) : Outcome.Alike (.error a) (.error b)

/-- Whether two submissions are alike: they ask for the same, under related ids. -/
structure Submission.Alike (a b : Submission) : Prop where
  order : a.order = b.order
  id : R a.request.clientContextId b.request.clientContextId

/-- Whether two deliveries are alike, whatever the numbers of their requests. -/
structure Delivery.Alike (a b : Delivery) : Prop where
  recipient : a.recipient = b.recipient
  outcome : Outcome.Alike R a.outcome b.outcome

/-- Whether two events of the log are alike: the same one, told of requests with related ids. -/
inductive LogEvent.Alike : LogEvent → LogEvent → Prop
  | under (event : LogEvent) {id id' : String} (related : R id id') :
    LogEvent.Alike (event.under id) (event.under id')

/-- Whether two queries were submitted alike, under related ids. -/
structure QueryRequest.Alike (a b : QueryRequest) : Prop where
  id : R a.clientContextId b.clientContextId
  rest : b = { a with clientContextId := b.clientContextId }

/-- Whether two queries in flight are alike: their streams have related ids, and what they told the
log is left aside. -/
structure LiveQuery.Alike (a b : LiveQuery) : Prop where
  id : R a.stream.clientContextId b.stream.clientContextId
  rest : b = a.under b.stream.clientContextId b.stream.log

/-- Whether the engine finds alike what it finds out about a caller. -/
structure LiveQuery.Probe.Alike (a b : LiveQuery.Probe) : Prop where
  isClosed : a.isClosed = b.isClosed
  id : R a.clientContextId b.clientContextId

/-- Whether steps on two queries give alike. -/
inductive Got.Alike : Got → Got → Prop
  | same (got : Got) : Got.Alike got got
  | probed {a b : LiveQuery.Probe} (alike : a.Alike R b) :
    Got.Alike (.probed (some a)) (.probed (some b))

/-- Whether two steps give alike. -/
inductive Answer.Alike : Answer → Answer → Prop
  | same (answer : Answer) : Answer.Alike answer answer
  | outcome {a b : Outcome Output} (alike : Outcome.Alike R a b) :
    Answer.Alike (.outcome a) (.outcome b)
  | outcomes {a b : List (Outcome Output)} (alike : List.Forall₂ (Outcome.Alike R) a b) :
    Answer.Alike (.outcomes a) (.outcomes b)
  | submittedQuery {request request' : QueryRequest} {query query' : LiveQuery}
    (requests : request.Alike R request') (queries : query.Alike R query') :
    Answer.Alike (.submittedQuery request query) (.submittedQuery request' query')
  | query {got got' : Got} {query query' : LiveQuery} (gots : got.Alike R got')
    (queries : query.Alike R query') : Answer.Alike (.query got query) (.query got' query')

variable {R}

/-- What is the same is alike. -/
theorem Outcome.Alike.refl {α : Type} (outcome : Outcome α) : Outcome.Alike R outcome outcome := by
  cases outcome with
  | ok value => exact .ok value
  | error error => exact .error (.same error)

/-- The same reply brings alike outcomes to alike submissions. -/
theorem Submission.Alike.delivery {a b : Submission} (alike : a.Alike R b) (engine engine' : Nat)
    (reply : Reply Output) : (a.delivery engine reply).Alike R (b.delivery engine' reply) := by
  obtain ⟨⟨command, timeout, id⟩, recipient⟩ := a
  obtain ⟨⟨command', timeout', id'⟩, recipient'⟩ := b
  obtain ⟨order, ids⟩ := alike
  cases order
  refine ⟨rfl, ?_⟩
  simp only [Submission.delivery, Submission.settled]
  -- The reply is the same for both, and only an output of the wrong kind brings in the id.
  cases reply.outcome command.operation.name with
  | error error => exact .refl _
  | ok output =>
    simp only [checked]
    split
    · exact .refl _
    · exact .error (.engine ⟨rfl, rfl, .some ids⟩)

/-- Requests that are built alike but for their ids are alike. -/
theorem QueryRequest.alike_build {id id' : String} (related : R id id') (statement : String)
    (options : QueryOptions) (timeout : Duration) :
    (QueryRequest.build statement id options timeout).Alike R
      (QueryRequest.build statement id' options timeout) := ⟨related, rfl⟩

/-- Fresh queries with related ids are alike. -/
theorem LiveQuery.alike_start {id id' : String} (related : R id id') (capacity : Nat) :
    (LiveQuery.start (.start id capacity)).Alike R (LiveQuery.start (.start id' capacity)) :=
  ⟨related, rfl⟩

/-- A step on a query leaves its id as it is. -/
theorem QueryStep.id_take (step : QueryStep) (query : LiveQuery) :
    (step.take query).2.stream.clientContextId = query.stream.clientContextId := by
  -- The query is itself under its own id, and stays under the id under which it is.
  obtain ⟨events, all⟩ := step.take_under query
  have taken := all query.stream.clientContextId query.stream.log
  have same : query.under query.stream.clientContextId query.stream.log = query := rfl
  rw [same] at taken
  rw [taken]
  rfl

/-- What the engine finds out about a caller tells the id of the stream. -/
theorem QueryStep.id_probed {step : QueryStep} {query : LiveQuery} {probe : LiveQuery.Probe}
    (probed : (step.take query).1 = .probed (some probe)) :
    probe.clientContextId = query.stream.clientContextId := by
  obtain ⟨events, all⟩ := step.take_under query
  have taken := all query.stream.clientContextId query.stream.log
  have same : query.under query.stream.clientContextId query.stream.log = query := rfl
  rw [same] at taken
  have told := congrArg Prod.fst taken
  simp only [probed, Got.under, Option.map_some, Got.probed.injEq, Option.some.injEq] at told
  rw [told]

/-- The same step on alike queries gives alike, and leaves them alike. -/
theorem LiveQuery.Alike.take {query query' : LiveQuery} (alike : query.Alike R query')
    (step : QueryStep) :
    (step.take query).1.Alike R (step.take query').1
      ∧ (step.take query).2.Alike R (step.take query').2 := by
  obtain ⟨related, rest⟩ := alike
  obtain ⟨events, all⟩ := step.take_under query
  have taken := all query'.stream.clientContextId query'.stream.log
  rw [← rest] at taken
  rw [taken]
  constructor
  · -- Only the engine that looks is told the id; all else is the same under any.
    cases got : (step.take query).1 with
    | probed found =>
      cases found with
      | none => exact .same _
      | some probe =>
        exact .probed ⟨rfl, by rw [QueryStep.id_probed got]; exact related⟩
    | nothing => exact .same _
    | taken rows => exact .same _
    | collected rows => exact .same _
  · refine ⟨?_, rfl⟩
    rw [step.id_take]
    exact related

/-- Alike queries are told of in alike words: what a step on them adds to the log is alike. -/
theorem LiveQuery.Alike.told {query query' : LiveQuery} (alike : query.Alike R query')
    (step : QueryStep) :
    List.Forall₂ (LogEvent.Alike R)
      ((step.take query).2.stream.log.drop query.stream.log.length)
      ((step.take query').2.stream.log.drop query'.stream.log.length) := by
  obtain ⟨related, rest⟩ := alike
  obtain ⟨events, all⟩ := step.take_under query
  have taken := all query.stream.clientContextId query.stream.log
  have taken' := all query'.stream.clientContextId query'.stream.log
  have same : query.under query.stream.clientContextId query.stream.log = query := rfl
  rw [same] at taken
  rw [← rest] at taken'
  -- Both logs go on with the same events, each told of the id of its own query.
  have log : (step.take query).2.stream.log
      = toldUnder query.stream.clientContextId query.stream.log events := by
    rw [taken]
    rfl
  have log' : (step.take query').2.stream.log
      = toldUnder query'.stream.clientContextId query'.stream.log events := by
    rw [taken']
    rfl
  rw [log, log']
  simp only [toldUnder, List.drop_left, List.forall₂_map_left_iff, List.forall₂_map_right_iff]
  exact List.forall₂_same.2 fun event _ => .under event related

end AnalyticsClient
