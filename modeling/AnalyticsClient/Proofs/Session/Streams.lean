import AnalyticsClient.Proofs.Query.Admission
import AnalyticsClient.Proofs.Query.Aftermath
import AnalyticsClient.Proofs.Session.Turn

/-! The streams of a session: room for no more events than configured, and an end that is final. -/

namespace AnalyticsClient

/-- Whatever a configuration says, the buffers are neither empty nor too large. -/
theorem Config.capacity_bounds (config : Config) :
    1 ≤ config.capacity ∧ config.capacity ≤ Config.maxRowBuffer.toNat := by
  have positive : 1 ≤ Config.maxRowBuffer.toNat := by decide
  unfold capacity
  omega

namespace LiveQuery

/-- What holds of a query in flight after any steps, with a buffer of a certain size. -/
structure Orderly (capacity : Nat) (query : LiveQuery) : Prop where
  size : query.stream.capacity = capacity
  /-- The buffer holds what was accepted and not taken, which is never more than it has room for. -/
  bounded : query.stream.buffered.length ≤ capacity
  accounted : query.producer.sent = query.stream.delivered + query.stream.rowCount
  /-- An event that is to go beyond a full buffer waits, and changes nothing. -/
  full : query.stream.isOpen = true → query.stream.producing = true →
    query.stream.buffered.length = capacity →
    ∀ action rest event, ProducerAction.event? action = some event →
      query.produce (action :: rest) = { query with
          producer.actions := query.producer.actions ++ action :: rest }
        ∧ (query.produce (action :: rest)).status = .waiting
  /-- A row for which there is room is taken at once. -/
  room : query.stream.isOpen = true → query.stream.producing = true →
    query.stream.buffered.length < capacity →
    ∀ row, query.produce [.send row] = { query with
      stream.buffered := query.stream.buffered ++ [.row row]
      producer.sent := query.producer.sent + 1 }
  /-- Nothing waits but for room in a full buffer from which events are still wanted. -/
  waiting : query.status = .waiting →
    query.stream.isOpen = true ∧ query.stream.buffered.length = capacity
  /-- The engine has ended its side of every stream that the caller saw done or failed. -/
  finished : query.stream.phase ≠ .streaming → query.stream.phase ≠ .closed →
    query.stream.producing = false
  /-- A caller that ends an open stream, or gives it up, has all refused that waits. -/
  closing : query.stream.isOpen = true →
    Refuses { query with stream := query.stream.close } (QueryStep.close.take query).2
  releasing : Refuses { query with stream := query.stream.release } (QueryStep.release.take query).2
  /-- Once nothing is wanted any more, that is final. -/
  absorbs : query.stream.isOpen = false → query.Absorbs

/-- Every query in flight is orderly, whatever steps were taken. -/
theorem orderly_run (clientContextId : String) (capacity : Nat) (steps : List QueryStep) :
    ((start (.start clientContextId capacity)).run steps).2.Orderly capacity := by
  have steady := (steady_start clientContextId capacity).run steps
  -- What the caller saw is that of a passage through the stream.
  obtain ⟨moves, -, stream, -, sound, -⟩ := exists_follows clientContextId capacity steps
  generalize ((start (.start clientContextId capacity)).run steps).2 = query at steady stream ⊢
  have bounded : query.stream.buffered.length ≤ capacity := by
    have within := sound.bounded
    rwa [stream, steady.capacity] at within
  refine ⟨steady.capacity, bounded, steady.accounted, ?_, ?_, ?_, ?_, ?_, refuses_release query,
    steady.absorbs⟩
  · intro opened producing full action rest event adds
    have full' : query.stream.capacity ≤ query.stream.buffered.length :=
      Nat.le_of_eq (steady.capacity.trans full.symm)
    exact steady.settled.produce_of_full producing opened full' adds rest
  · intro opened producing room row
    rw [← steady.capacity] at room
    exact steady.settled.produce_of_room producing opened room row
  · intro waiting
    obtain ⟨opened, full⟩ := steady.settled.of_waiting waiting
    rw [steady.capacity] at full
    exact ⟨opened, Nat.le_antisymm bounded full⟩
  · have finished := sound.finished
    rwa [stream] at finished
  · intro opened
    -- The caller of an open stream has its side.
    have held := (RowStream.isOpen_iff.1 opened).2
    simp only [QueryStep.take, held, if_true]
    exact refuses_close opened

/-- One more step comes after a run. -/
theorem run_concat (steps : List QueryStep) (step : QueryStep) :
    ∀ query : LiveQuery,
      (query.run (steps ++ [step])).2 = (step.take (query.run steps).2).2 := by
  induction steps with
  | nil => exact fun _ => rfl
  | cons first rest ih => exact fun query => ih _

end LiveQuery

namespace Session

variable {session : Session}

/-- Orders are nothing to the queries in flight, nor to the configuration. -/
theorem queries_placeAll (orders : List Order) :
    ∀ session : Session, (session.placeAll orders).config = session.config
      ∧ (session.placeAll orders).queries = session.queries := by
  -- Orders change neither the configuration nor the queries, one by one.
  induction orders with
  | nil => exact fun _ => ⟨rfl, rfl⟩
  | cons order rest ih =>
    intro session
    have queries : (session.place order).queries = session.queries := by
      cases ready : session.ready <;> simp [place, submitCommand, ready]
    obtain ⟨config', queries'⟩ := ih (session.place order)
    exact ⟨config'.trans (config_place order), queries'.trans queries⟩

/-- A step opens one query, or takes a step on one, or leaves all queries as they are. -/
theorem queries_act (session : Session) (step : Step) :
    (session.act step).2.config = session.config
      ∧ ((session.act step).2.queries = session.queries
        ∨ (∃ name id, (session.act step).2.queries
          = session.queries.insert name (.start (.start id session.config.capacity)))
        ∨ ∃ name inner before, session.queries.get? name = some before
          ∧ (session.act step).2.queries
            = session.queries.insert name (QueryStep.take before inner).2) := by
  cases calls : callsOnly step with
  | true =>
    -- Such a step is about management operations only.
    obtain ⟨handles, after⟩ := exists_act_eq session calls
    obtain ⟨config, queries⟩ := queries_placeAll (step.orders session.config) session
    rw [after]
    exact ⟨config, .inl queries⟩
  | false =>
    cases step with
    | reply engine reply =>
      simp only [act, reply?]
      split
      · -- The reply settles a request, if it is held.
        next found =>
        split at found
        · split at found
          · cases found
            exact ⟨rfl, .inl rfl⟩
          · cases found
        · cases found
      · exact ⟨rfl, .inl rfl⟩
    | query name statement options =>
      obtain ⟨_, _, _, _, after, -⟩ := exists_openQuery_eq session name statement options
      have config : (session.openQuery name statement options).2.config = session.config := by
        rw [after]
      refine ⟨config, ?_⟩
      simp only [act]
      rcases openQuery_cases session name statement options
        with ⟨-, request, query, -, submitted⟩ | ⟨error, -, refused⟩
      · refine .inr (.inl ⟨name, request.clientContextId, ?_⟩)
        rw [← submitted.fresh]
        exact submitted.opened
      · rw [refused]
        exact .inl rfl
    | onQuery name inner =>
      simp only [act, stepQuery]
      cases found : session.queries.get? name with
      | none => exact ⟨rfl, .inl rfl⟩
      | some before => exact ⟨rfl, .inr (.inr ⟨name, inner, before, found, rfl⟩)⟩
    | _ => cases calls

/-- Whether every query of a session came about by steps on a fresh one. -/
def Opened (config : Config) (session : Session) : Prop :=
  session.config = config ∧ ∀ name query, session.queries.get? name = some query →
    ∃ id steps, query = ((LiveQuery.start (.start id config.capacity)).run steps).2

/-- Every step keeps it that way. -/
theorem opened_step {config : Config} (opened : Opened config session) (turn : Turn) :
    Opened config (session.step turn.1 turn.2).2 := by
  obtain ⟨same, queries⟩ := opened
  obtain ⟨config', changed⟩ := queries_act { session with ready := turn.1 } turn.2
  refine ⟨config'.trans same, fun name query found => ?_⟩
  have found : (Session.act { session with ready := turn.1 } turn.2).2.queries.get? name
      = some query := found
  rcases changed with none_ | ⟨new, id, inserted⟩ | ⟨old, inner, before, held, inserted⟩
  · rw [none_] at found
    exact queries name query found
  · rw [inserted, Dict.get?_insert] at found
    split at found
    · -- The new query is fresh.
      cases found
      exact ⟨id, [], by rw [same]; rfl⟩
    · exact queries name query found
  · rw [inserted, Dict.get?_insert] at found
    split at found
    · -- The step comes after those that were taken on this query before.
      cases found
      obtain ⟨id, steps, rfl⟩ := queries old before held
      exact ⟨id, steps ++ [inner], (LiveQuery.run_concat steps inner _).symm⟩
    · exact queries name query found

/-- Every run keeps it that way. -/
theorem opened_run {config : Config} (turns : List Turn) :
    ∀ {session : Session}, Opened config session → Opened config (session.run turns).2 := by
  induction turns with
  | nil => exact fun opened => opened
  | cons turn rest ih => exact fun opened => ih (opened_step opened turn)

/-- The buffers have the size that the configuration asks for, brought between one and the largest
allowed. Whatever steps are taken on a query in flight, and in whatever session, it is orderly. -/
theorem queries_orderly (config : Config) :
    config.capacity = min (max config.stream.rowBuffer.toNat 1) Config.maxRowBuffer.toNat
      ∧ Config.maxRowBuffer.toNat = 1048576
      ∧ (1 ≤ config.capacity ∧ config.capacity ≤ Config.maxRowBuffer.toNat)
      ∧ (∀ id steps, LiveQuery.Orderly config.capacity
        ((LiveQuery.start (.start id config.capacity)).run steps).2)
      ∧ ∀ ids turns name query, ((start config ids).run turns).2.queries.get? name = some query →
        query.Orderly config.capacity := by
  refine ⟨rfl, rfl, config.capacity_bounds, ?_, ?_⟩
  · exact fun id steps => LiveQuery.orderly_run id config.capacity steps
  · intro ids turns name query found
    have fresh : Opened config (start config ids) := ⟨rfl, fun _ _ found => by cases found⟩
    obtain ⟨id, steps, rfl⟩ := (opened_run turns fresh).2 name query found
    exact LiveQuery.orderly_run id config.capacity steps

end Session

end AnalyticsClient
