import AnalyticsClient.Proofs.Completion.Verdict
import AnalyticsClient.Proofs.Query.Candor
import AnalyticsClient.Proofs.Session.Streams

/-! Who told which line of the log: what each operation and each query has to tell, and how the
operations come to tell it. -/

namespace AnalyticsClient

/-- Who tells the log something, by its number: an operation or a query. -/
inductive Teller where
  | operation (engine : Nat)
  | query (number : Nat)
deriving DecidableEq

/-- A line of the log, with who told it. -/
abbrev LogLine := Teller × LogEvent

/-- What one of those who tell the log something told it, in order. -/
def linesOf (teller : Teller) (lines : List LogLine) : List LogEvent :=
  (lines.filter fun line => line.1 = teller).map Prod.snd

section

variable {teller : Teller}

/-- Lines that come one after the other are told one after the other. -/
theorem linesOf_append (earlier later : List LogLine) :
    linesOf teller (earlier ++ later) = linesOf teller earlier ++ linesOf teller later := by
  simp [linesOf]

/-- Events that are all told by one are told by nobody else. -/
theorem linesOf_map_mk (other : Teller) (events : List LogEvent) :
    linesOf teller (events.map (Prod.mk other)) = if other = teller then events else [] := by
  -- Either all of the lines are those of the teller, or none is.
  simp only [linesOf, List.filter_map, List.map_map, Function.comp_def]
  split
  · next same => simp [same]
  · next differs => simp [differs]

end

/-- What is told by one is told as it is. -/
theorem map_snd_map_mk (teller : Teller) (events : List LogEvent) :
    (events.map (Prod.mk teller)).map Prod.snd = events := by
  simp [Function.comp_def]

/-- A list that grows by one stays the same in every place but that of the new element. -/
theorem getElem?_concat_of_ne {α : Type} {as : List α} {a : α} {place : Nat}
    (differs : place ≠ as.length) : (as ++ [a])[place]? = as[place]? := by
  rw [List.getElem?_append]
  split
  · rfl
  · next above =>
    -- Behind the new element there is nothing, as there was before.
    rw [List.getElem?_eq_none (Nat.not_lt.1 above), List.getElem?_eq_none]
    simp only [List.length_singleton]
    omega

/-- Whether a query is submitted. -/
def submits (statement : String) (options : RawQueryOptions) : Bool :=
  options.resolve.isOk && !Text.isBlankText statement

/-- The queries of a run, which are numbered in the order in which they were submitted. -/
structure Roll where
  /-- How many there are. -/
  count : Nat
  /-- The number of the query that goes by a name. -/
  number : String → Option Nat
  /-- The steps that were taken on the query of a number. -/
  steps : Nat → List QueryStep

namespace Roll

/-- The roll before anything happened. -/
def empty : Roll := ⟨0, fun _ => none, fun _ => []⟩

/-- The roll after one more turn. -/
def after (roll : Roll) (turn : Turn) : Roll :=
  match turn.2 with
  | .query name statement options =>
    -- A name that is used again goes over to the new query.
    if submits statement options then
      { roll with
        count := roll.count + 1
        number := fun other => if other = name then some roll.count else roll.number other }
    else roll
  | .onQuery name step =>
    match roll.number name with
    | some number =>
      { roll with steps := fun other =>
          if other = number then roll.steps other ++ [step] else roll.steps other }
    | none => roll
  | .submit _ _ | .dispatch _ _ | .execute _ _ | .executeMany _ _ | .reply _ _ | .tryResult _
  | .await _ | .cancel _ => roll

/-- The roll of a run. -/
def of (turns : List Turn) : Roll := turns.foldl after empty

variable {roll : Roll} {ready : List (Reply Output)} {name statement : String}
  {options : RawQueryOptions} {step : QueryStep} {number : Nat}

/-- A query that is submitted gets the next number, and the name. -/
theorem after_query (accepted : submits statement options = true) :
    roll.after (ready, .query name statement options) = { roll with
      count := roll.count + 1
      number := fun other => if other = name then some roll.count else roll.number other } :=
  if_pos accepted

/-- A query that is refused gets neither. -/
theorem after_query_of_refused (refused : submits statement options = false) :
    roll.after (ready, .query name statement options) = roll := by
  simp [after, refused]

/-- A step is taken on the query that goes by the name. -/
theorem after_onQuery (found : roll.number name = some number) :
    roll.after (ready, .onQuery name step) = { roll with
      steps := fun other =>
        if other = number then roll.steps other ++ [step] else roll.steps other } := by
  simp only [after, found]

/-- Where no query goes by the name, no step is taken. -/
theorem after_onQuery_of_none (missing : roll.number name = none) :
    roll.after (ready, .onQuery name step) = roll := by
  simp only [after, missing]

end Roll

namespace QueryRequest

/-- What the log is told when a query goes to the engine. -/
def opening (request : QueryRequest) : LogEvent :=
  .submittingQuery request.clientContextId request.timeout.millisWord request.scanConsistency
    request.mutationState.length

/-- The query of a request, with a buffer of a certain size, after some steps. -/
def live (request : QueryRequest) (capacity : Nat) (steps : List QueryStep) : LiveQuery :=
  ((LiveQuery.start (.start request.clientContextId capacity)).run steps).2

variable (request : QueryRequest) (capacity : Nat) (steps : List QueryStep)

/-- The stream of a request has told the log what it should, under the id of the request. -/
theorem candid_live :
    (request.live capacity steps).stream.Candid request.clientContextId :=
  LiveQuery.candid_run steps (RowStream.candid_start _ _)

/-- The stream of a request on which no step was taken has told nothing. -/
theorem log_live_nil : (request.live capacity []).stream.log = [] := rfl

/-- A step adds to what the stream of a request told the log before. -/
theorem log_live_append (step : QueryStep) :
    (request.live capacity steps).stream.log
        ++ (request.live capacity (steps ++ [step])).stream.log.drop
          (request.live capacity steps).stream.log.length
      = (request.live capacity (steps ++ [step])).stream.log := by
  -- The step comes after those that left the query as it is.
  have steady := (LiveQuery.steady_start request.clientContextId capacity).run steps
  have grows := LiveQuery.log_prefix_take steady (request.candid_live capacity steps) step
  simp only [live, LiveQuery.run_concat]
  exact List.prefix_iff_eq_append.1 grows

end QueryRequest

/-- Of two replies to each request the first one, and the second where there is no first. -/
def firstOf (given given' : Nat → Option (Reply Output)) (engine : Nat) : Option (Reply Output) :=
  given engine <|> given' engine

/-- Where nothing more is replied, the first reply is the one that was given. -/
@[simp] theorem firstOf_none (given : Nat → Option (Reply Output)) :
    firstOf given (fun _ => none) = given := by
  funext engine
  simp [firstOf]

/-- Of three replies the first one is told from either side. -/
theorem firstOf_assoc (given given' given'' : Nat → Option (Reply Output)) :
    firstOf (firstOf given given') given'' = firstOf given (firstOf given' given'') := by
  funext engine
  simp only [firstOf, Option.orElse_eq_orElse, Option.orElse_eq_or, Option.or_assoc]

namespace Session

/-- What one of those who tell the log something has told it up to a state of a session, by the
replies that were given and the steps that were taken on queries. -/
def account (session : Session) (given : Nat → Option (Reply Output)) (roll : Roll) :
    Teller → List LogEvent
  | .operation engine =>
    match session.submissions[engine]? with
    | some submission => submission.opening :: (given engine).elim [] submission.closing
    | none => []
  | .query number =>
    match session.queryRequests[number]? with
    | some request =>
      request.opening :: (request.live session.config.capacity (roll.steps number)).stream.log
    | none => []

/-- Whether the queries of a session are those of a roll. -/
structure OnRoll (session : Session) (roll : Roll) : Prop where
  count : roll.count = session.queryRequests.length
  below : ∀ name number, roll.number name = some number → number < roll.count
  distinct : ∀ name name' number, roll.number name = some number → roll.number name' = some number →
    name = name'
  untouched : ∀ number, roll.count ≤ number → roll.steps number = []
  /-- The query of a name is in the state in which the steps left it. -/
  live : ∀ name, session.queries.get? name = (roll.number name).bind fun number =>
    session.queryRequests[number]?.map fun request =>
      request.live session.config.capacity (roll.steps number)

/-- Whether lines are the log of a session, and each of those who tell the log something told what
is in its account. -/
structure Attributed (given : Nat → Option (Reply Output)) (roll : Roll) (session : Session)
    (lines : List LogLine) : Prop where
  bounded : ∀ engine ∈ session.held, engine < session.submissions.length
  unanswered : ∀ engine, session.Unanswered engine ↔ given engine = none
  onRoll : session.OnRoll roll
  log : session.ledger.log = lines.map Prod.snd
  told : ∀ teller, linesOf teller lines = session.account given roll teller

variable {session : Session} {given : Nat → Option (Reply Output)} {roll : Roll}
  {lines : List LogLine}

/-- What does not concern queries leaves them as the roll says. -/
theorem OnRoll.frame (onRoll : session.OnRoll roll) {after : Session}
    (config : after.config = session.config)
    (queryRequests : after.queryRequests = session.queryRequests)
    (queries : after.queries = session.queries) : after.OnRoll roll where
  count := queryRequests ▸ onRoll.count
  below := onRoll.below
  distinct := onRoll.distinct
  untouched := onRoll.untouched
  live := by
    rw [config, queryRequests, queries]
    exact onRoll.live

/-- What callers keep of their operations, and the replies that are still ready, are nothing to the
log. -/
theorem Attributed.frame (attributed : Attributed given roll session lines) (handles : Dict Handle)
    (ready : List (Reply Output)) : Attributed given roll { session with handles, ready } lines :=
  -- Accounts are made of submissions, requests and steps alone.
  ⟨attributed.bounded, attributed.unanswered, attributed.onRoll.frame rfl rfl rfl, attributed.log,
    attributed.told⟩

/-- An operation that goes to the engine tells so. -/
theorem Attributed.hold (attributed : Attributed given roll session lines) (order : Order) :
    Attributed given roll (session.hold order)
      (lines ++ [(order.submission (session.ids.id session.ids.drawn)).opening].map
        (Prod.mk (.operation session.submissions.length))) where
  bounded := (Advance.hold attributed.bounded order).bounded
  unanswered engine := by
    rw [(Advance.hold attributed.bounded order).unanswered, attributed.unanswered]
    exact and_iff_left rfl
  onRoll := attributed.onRoll.frame rfl rfl rfl
  log := by
    rw [List.map_append, ← attributed.log, map_snd_map_mk]
    rfl
  told teller := by
    -- The account of the operation grows by the line, and no other account changes.
    rw [linesOf_append, attributed.told, linesOf_map_mk]
    cases teller with
    | query number => exact List.append_nil _
    | operation engine =>
      simp only [account, Session.hold]
      by_cases own : engine = session.submissions.length
      · -- The number of the request is new, and no reply was given to it.
        subst own
        have unreplied : given session.submissions.length = none :=
          (attributed.unanswered _).1 (.inr (Nat.le_refl _))
        simp [unreplied]
      · have other : ¬ Teller.operation session.submissions.length = .operation engine := by
          simpa using Ne.symm own
        rw [if_neg other, getElem?_concat_of_ne own, List.append_nil]

/-- An operation that is replied to tells how it closes. -/
theorem Attributed.answer (attributed : Attributed given roll session lines) {engine : Nat}
    {submission : Submission} (made : session.submissions[engine]? = some submission)
    (mem : engine ∈ session.held) (reply : Reply Output) :
    Attributed (firstOf given fun asked => if asked = engine then some reply else none) roll
      (session.answer engine submission reply)
      (lines ++ (submission.closing reply).map (Prod.mk (.operation engine))) where
  bounded := (Advance.answer attributed.bounded made mem reply).bounded
  unanswered asked := by
    rw [(Advance.answer attributed.bounded made mem reply).unanswered, attributed.unanswered]
    cases replied : given asked <;> simp [firstOf, replied]
  onRoll := attributed.onRoll.frame rfl rfl rfl
  log := by
    rw [List.map_append, ← attributed.log, map_snd_map_mk]
    exact submission.log_answer engine reply session.ledger
  told teller := by
    rw [linesOf_append, attributed.told, linesOf_map_mk]
    cases teller with
    | query number => exact List.append_nil _
    | operation asked =>
      by_cases own : asked = engine
      · -- The request was open, so this is the first reply to it.
        subst own
        have unreplied : given asked = none := (attributed.unanswered asked).1 (.inl mem)
        simp [account, Session.answer, firstOf, made, unreplied]
      · have other : ¬ Teller.operation engine = .operation asked := by simpa using Ne.symm own
        rw [if_neg other, List.append_nil]
        simp [account, Session.answer, firstOf, own]

/-- Where all replies miss, nothing is told. -/
theorem Attributed.missed (attributed : Attributed given roll session lines)
    {given' : Nat → Option (Reply Output)}
    (misses : ∀ engine, session.Unanswered engine → given' engine = none) :
    Attributed (firstOf given given') roll session lines := by
  -- What was open gets nothing, and what was replied to keeps its first reply.
  have same : firstOf given given' = given := by
    funext engine
    cases replied : given engine with
    | some reply => simp [firstOf, replied]
    | none => simp [firstOf, replied, misses engine ((attributed.unanswered engine).2 replied)]
  rwa [same]

/-- An order is told when it is placed, and how it closes if a reply is ready. -/
theorem Attributed.place (attributed : Attributed given roll session lines) (order : Order) :
    ∃ new, Attributed (firstOf given (readyFor session.ready session.submissions.length 1)) roll
      (session.place order) (lines ++ new) := by
  have holds := attributed.hold order
  cases ready : session.ready with
  | nil =>
    rw [readyFor_eq_none (.inl rfl), place_of_nil ready]
    exact ⟨_, holds.missed fun _ _ => rfl⟩
  | cons reply rest =>
    -- The request is held and then answered, as if the reply had come later.
    have answered := holds.answer (getElem?_hold order) (mem_held_hold order) reply
    have both := answered.frame (session.hold order).handles rest
    rw [readyFor_one, place_of_cons attributed.bounded ready]
    rw [List.append_assoc] at both
    exact ⟨_, both⟩

/-- Orders are told one after the other. -/
theorem Attributed.placeAll (orders : List Order) :
    ∀ {session : Session} {given : Nat → Option (Reply Output)} {lines : List LogLine},
      Attributed given roll session lines →
        ∃ new, Attributed
            (firstOf given (readyFor session.ready session.submissions.length orders.length)) roll
          (session.placeAll orders) (lines ++ new) := by
  -- Each order changes the session for the others, so the session stays quantified over.
  induction orders with
  | nil =>
    intro session given lines attributed
    rw [List.length_nil, readyFor_eq_none (.inr rfl)]
    refine ⟨[], ?_⟩
    rw [List.append_nil]
    exact attributed.missed fun _ _ => rfl
  | cons order rest ih =>
    intro session given lines attributed
    obtain ⟨first, placed⟩ := attributed.place order
    obtain ⟨later, whole⟩ := ih placed
    refine ⟨first ++ later, ?_⟩
    have made := (Advance.place attributed.bounded order).length_submissions
    -- The first order takes the head of the replies that are ready.
    rw [ready_place, made, List.length_singleton, firstOf_assoc] at whole
    rw [← List.append_assoc, List.length_cons, ← readyFor_succ, Session.placeAll]
    exact whole

/-- A reply to a request that is held is told; any other one is not. -/
theorem Attributed.reply (attributed : Attributed given roll session lines) (answered : Nat)
    (reply : Reply Output) :
    ∃ new, Attributed (firstOf given fun engine => if session.submissions.length ≤ engine then none
        else if answered = engine then some reply else none) roll
      ((session.reply? answered reply).getD session) (lines ++ new) := by
  by_cases mem : answered ∈ session.held
  · have within : answered < session.submissions.length := attributed.bounded answered mem
    simp only [ite_answered within, getD_reply?_of_held within mem]
    exact ⟨_, attributed.answer (List.getElem?_eq_getElem within) mem reply⟩
  · rw [getD_reply?_of_not_held mem]
    refine ⟨[], ?_⟩
    rw [List.append_nil]
    exact attributed.missed (eq_none_of_unanswered mem reply)

end Session

end AnalyticsClient
