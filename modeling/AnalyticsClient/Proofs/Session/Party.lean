import AnalyticsClient.Proofs.Operation.RoundTrip
import AnalyticsClient.Proofs.Session.Futures
import AnalyticsClient.Proofs.Session.Likeness
import AnalyticsClient.Proofs.Session.Streams

/-! The parties that share a session: which steps concern which of them, and what each is shown. -/

namespace AnalyticsClient

/-- One of those that use a session side by side. -/
inductive Party where
  /-- Who keeps a future under a name. -/
  | future (name : String)
  /-- The callbacks of a name. -/
  | callbacks (name : String)
  /-- The two sides of the stream of a name. -/
  | stream (name : String)
deriving DecidableEq

/-- The party that takes a step; a reply is nobody's own. -/
def Step.party? : Step → Option Party
  | .submit id _ | .execute id _ | .executeMany id _ | .tryResult id | .await id | .cancel id =>
    some (.future id)
  | .dispatch id _ => some (.callbacks id)
  | .query id _ _ | .onQuery id _ => some (.stream id)
  | .reply _ _ => none

/-- How many ids a step draws: one for each order, and one for a query that is sent without one. -/
def Step.draws (config : Config) (step : Step) : Nat :=
  match step with
  | .query _ statement options =>
    match options.resolve with
    | .ok options =>
      if Text.isBlankText statement then 0 else if options.clientContextId.isNone then 1 else 0
    | .error _ => 0
  | step => (step.orders config).length

/-- The draws of ids that the steps of a party make in a run, when `drawn` ids were drawn before. -/
def Party.draws (config : Config) (party : Party) : (drawn : Nat) → List Turn → List Nat
  | _, [] => []
  | drawn, turn :: rest =>
    (if turn.2.party? = some party then List.range' drawn (turn.2.draws config) else [])
      ++ draws config party (drawn + turn.2.draws config) rest

/-- What is counted for a party along a run. -/
structure Tally where
  /-- How many requests were made. -/
  made : Nat
  /-- The numbers of those that the party made itself. -/
  own : List Nat

namespace Tally

/-- The count before anything happened. -/
def zero : Tally := ⟨0, []⟩

variable (config : Config) (party : Party)

/-- The count after one more turn. -/
def after (tally : Tally) (turn : Turn) : Tally where
  made := tally.made + (turn.2.orders config).length
  own :=
    if turn.2.party? = some party then
      tally.own ++ List.range' tally.made (turn.2.orders config).length
    else tally.own

/-- A turn as it concerns the party, whose requests are numbered as if there were no other ones;
none if it is none of its business. -/
def part? (tally : Tally) (turn : Turn) : Option Turn :=
  match turn.2 with
  | .reply engine reply =>
    if engine ∈ tally.own then some ([], .reply (tally.own.idxOf engine) reply) else none
  | step =>
    -- Replies that are taken by no request of the step are lost, and concern nobody.
    if step.party? = some party then some (turn.1.take (step.orders config).length, step) else none

/-- The count after several turns. -/
def run (tally : Tally) (turns : List Turn) : Tally := turns.foldl (after config party) tally

/-- The turns of a run as they concern the party. -/
def parts : Tally → List Turn → List Turn
  | _, [] => []
  | tally, turn :: rest =>
    (tally.part? config party turn).toList ++ parts (tally.after config party turn) rest

/-- What the turns that concern the party give, of all reports on a run. -/
def answers : Tally → List Turn → List Session.StepReport → List Answer
  | tally, turn :: turns, report :: reports =>
    ((tally.part? config party turn).map fun _ => report.answer).toList
      ++ answers (tally.after config party turn) turns reports
  | _, _, _ => []

end Tally

/-- What a party is shown of a session. -/
structure View where
  /-- Its own requests, as the engine got them. -/
  requests : List Submission
  /-- What was handed over for each of them. -/
  deliveries : List (List Delivery)
  /-- Its stream. -/
  query : Option LiveQuery

/-- What a party is shown of a session in which some requests are its own. -/
def Session.view (session : Session) (party : Party) (own : List Nat) : View where
  requests := own.filterMap (session.submissions[·]?)
  deliveries := own.map session.deliveriesOf
  query :=
    match party with
    | .stream name => session.queries.get? name
    | .future _ | .callbacks _ => none

/-- Whether two parties are shown alike. -/
structure View.Alike (R : String → String → Prop) (a b : View) : Prop where
  requests : List.Forall₂ (Submission.Alike R) a.requests b.requests
  deliveries : List.Forall₂ (List.Forall₂ (Delivery.Alike R)) a.deliveries b.deliveries
  query : Option.Rel (LiveQuery.Alike R) a.query b.query

namespace Session

variable {session : Session}

/-- A look under a name keeps nothing under another one. -/
theorem handles_pollOne {id name : String} (other : name ≠ id) (engine : Nat) :
    (session.pollOne id engine).2.handles.get? name = session.handles.get? name := by
  simp only [pollOne]
  split
  · rfl
  · exact (Dict.get?_insert _ _ _ _).trans (if_neg other)

/-- A look under a name for several outcomes keeps nothing under another one. -/
theorem handles_pollMany {id name : String} (other : name ≠ id) (parts : List (Outcome Nat)) :
    (session.pollMany id parts).2.handles.get? name = session.handles.get? name := by
  simp only [pollMany]
  split
  · rfl
  · exact (Dict.get?_insert _ _ _ _).trans (if_neg other)

/-- A reply changes nothing but which requests are held, and the ledger. -/
theorem exists_reply_eq (session : Session) (engine : Nat) (reply : Reply Output) :
    ∃ held ledger, (session.act (.reply engine reply)).2 = { session with held, ledger } := by
  simp only [act, reply?]
  cases session.submissions[engine]? with
  | none => exact ⟨_, _, rfl⟩
  | some submission =>
    -- A request that is not held is not answered any more.
    by_cases held : engine ∈ session.held
    · simp only [if_pos held]
      exact ⟨_, _, rfl⟩
    · simp only [if_neg held]
      exact ⟨_, _, rfl⟩

/-- A step leaves alone what other parties keep. -/
theorem handles_act {step : Step} {name : String} (other : step.party? ≠ some (.future name)) :
    (session.act step).2.handles.get? name = session.handles.get? name := by
  -- The name that a step is taken under is another one.
  have differs : ∀ id, step.party? = some (.future id) → name ≠ id := fun id own same =>
    other (same ▸ own)
  cases step with
  | submit id descriptor =>
    simp only [act, submitDescriptor_eq]
    cases descriptor.resolve with
    | error error => rfl
    | ok command =>
      refine (Dict.get?_insert _ _ _ _).trans ?_
      rw [if_neg (differs id rfl)]
      exact congrArg (Dict.get? · name) (handles_placeAll [_] session)
  | dispatch id descriptor =>
    simp only [act, submitDescriptor_eq]
    cases descriptor.resolve with
    | error error => rfl
    | ok command => exact congrArg (Dict.get? · name) (handles_placeAll [_] session)
  | execute id command =>
    simp only [act, submitDescriptor_eq]
    cases (Descriptor.ofCommand command).resolve with
    | error error => rfl
    | ok command =>
      rw [handles_pollOne (differs id rfl)]
      exact congrArg (Dict.get? · name) (handles_placeAll [_] session)
  | executeMany id commands =>
    simp only [act]
    rw [handles_pollMany (differs id rfl), submitAll_snd, handles_placeAll]
  | reply engine reply =>
    obtain ⟨held, ledger, after⟩ := session.exists_reply_eq engine reply
    rw [after]
  | tryResult id =>
    simp only [act, tryHandle]
    split
    · split <;> exact (Dict.get?_insert _ _ _ _).trans (if_neg (differs id rfl))
    · rfl
  | await id =>
    have forgotten : (session.forget id).handles.get? name = session.handles.get? name :=
      (Dict.get?_erase _ _ _).trans (if_neg (differs id rfl))
    simp only [act, awaitHandle]
    split
    · split
      · exact forgotten
      · rw [handles_pollOne (differs id rfl), forgotten]
    · rw [handles_pollOne (differs id rfl), forgotten]
    · rw [handles_pollMany (differs id rfl), forgotten]
    · rfl
  | cancel id =>
    simp only [act]
    split
    · exact (Dict.get?_erase _ _ _).trans (if_neg (differs id rfl))
    · rfl
  | query id statement options =>
    obtain ⟨_, _, _, _, after, -⟩ := exists_openQuery_eq session id statement options
    simp only [act, after]
  | onQuery id inner =>
    simp only [act, stepQuery]
    split <;> rfl

/-- Steps of other parties leave alone what is kept under a name. -/
theorem handles_run {name : String} (turns : List Turn) : ∀ {session : Session},
    (∀ turn ∈ turns, turn.2.party? ≠ some (.future name)) →
      (session.run turns).2.handles.get? name = session.handles.get? name := by
  -- Each step leaves the future to the others as it is.
  induction turns with
  | nil => exact fun _ => rfl
  | cons turn rest ih =>
    intro session others
    have first := @handles_act { session with ready := turn.1 } turn.2 name
      (others turn List.mem_cons_self)
    exact (ih fun turn mem => others turn (List.mem_cons_of_mem _ mem)).trans first

/-- A step leaves alone the streams of other parties. -/
theorem queries_act_other {step : Step} {name : String}
    (other : step.party? ≠ some (.stream name)) :
    (session.act step).2.queries.get? name = session.queries.get? name := by
  have differs : ∀ id, step.party? = some (.stream id) → name ≠ id := fun id own same =>
    other (same ▸ own)
  cases calls : callsOnly step with
  | true =>
    -- Such a step is about management operations only.
    obtain ⟨handles, after⟩ := exists_act_eq session calls
    rw [after]
    exact congrArg (Dict.get? · name) (queries_placeAll _ session).2
  | false =>
    cases step with
    | reply engine reply =>
      obtain ⟨held, ledger, after⟩ := session.exists_reply_eq engine reply
      rw [after]
    | query id statement options =>
      simp only [act]
      rcases openQuery_cases session id statement options
        with ⟨-, request, query, -, submitted⟩ | ⟨error, -, refused⟩
      · rw [submitted.opened]
        exact (Dict.get?_insert _ _ _ _).trans (if_neg (differs id rfl))
      · rw [refused]
    | onQuery id inner =>
      simp only [act, stepQuery]
      split
      · rfl
      · exact (Dict.get?_insert _ _ _ _).trans (if_neg (differs id rfl))
    | _ => cases calls

/-- Orders draw one id each, in turn, and every request goes by the id drawn for it. -/
theorem placeAll_ids (orders : List Order) : ∀ session : Session,
    (session.placeAll orders).ids = ⟨session.ids.id, session.ids.drawn + orders.length⟩
      ∧ (session.placeAll orders).submissions = session.submissions
        ++ orders.mapIdx fun place order =>
          order.submission (session.ids.id (session.ids.drawn + place)) := by
  induction orders with
  | nil =>
    intro session
    exact ⟨rfl, (List.append_nil _).symm⟩
  | cons order rest ih =>
    intro session
    have ids : (session.place order).ids = ⟨session.ids.id, session.ids.drawn + 1⟩ := by
      cases ready : session.ready <;> simp [place, submitCommand, ready, IdSupply.draw]
    obtain ⟨ids', made'⟩ := ih (session.place order)
    constructor
    · rw [placeAll, ids', ids, List.length_cons]
      simp only [IdSupply.mk.injEq, true_and]
      omega
    · -- The ids of the others count on from one draw later.
      rw [placeAll, made', submissions_place, ids, List.append_assoc, List.mapIdx_cons]
      refine congrArg (session.submissions ++ ·) (congrArg (List.cons _) ?_)
      refine congrArg (List.mapIdx · rest) ?_
      funext place order
      rw [Nat.add_assoc, Nat.add_comm 1 place]

/-- A step draws as many ids as it should, from the same supply. -/
theorem ids_step (ready : List (Reply Output)) (step : Step) :
    (session.step ready step).2.ids
      = ⟨session.ids.id, session.ids.drawn + step.draws session.config⟩ := by
  cases calls : callsOnly step with
  | true =>
    obtain ⟨handles, after⟩ := exists_act_eq { session with ready } calls
    have draws : step.draws session.config = (step.orders session.config).length := by
      cases step <;> first | rfl | cases calls
    rw [draws]
    simp only [Session.step, after]
    exact (placeAll_ids (step.orders session.config) { session with ready }).1
  | false =>
    cases step with
    | reply engine reply =>
      obtain ⟨held, ledger, after⟩ := exists_reply_eq { session with ready } engine reply
      simp only [Session.step, after]
      rfl
    | query id statement options =>
      simp only [Session.step, act, openQuery, Step.draws]
      -- Faulty options and a blank statement draw nothing.
      cases options.resolve with
      | error error => rfl
      | ok options =>
        by_cases blank : Text.isBlankText statement = true
        · simp only [Except.bind, submitQuery, if_pos blank]
          rfl
        · simp only [Except.bind, submitQuery, if_neg blank, QueryRequest.make_eq]
    | onQuery id inner =>
      simp only [Session.step, act, stepQuery]
      split <;> rfl
    | _ => cases calls

end Session

end AnalyticsClient
