import AnalyticsClient.Proofs.Query.Room

/-! What is left of a stream from which nothing is wanted any more: it stays as it is, whoever tries
to do something with it. -/

namespace AnalyticsClient

/-- Nothing is wanted from a stream that the caller gave up. -/
theorem RowStream.isOpen_release {stream : RowStream} : stream.release.isOpen = false := by
  simp [release, isOpen]

namespace LiveQuery

variable {capacity : Nat} {query after : LiveQuery}

/-- Whether the engine, from a query on, is refused whatever it still has to add, and waits for
nothing. -/
structure Refuses (query after : LiveQuery) : Prop where
  shut : after.stream.isOpen = false
  /-- Nothing is seen of it, be it rows or an ending. -/
  unseen : after.stream = { query.stream with producing := after.stream.producing }
  sent : after.producer.sent = query.producer.sent
  /-- Every row is refused, up to the action by which the engine ends its side. -/
  rejected : after.producer.rejected = query.producer.rejected
    + if query.stream.producing then ProducerAction.offered query.producer.actions else 0
  status : after.status ≠ .waiting

/-- What stays of a stream from which nothing is wanted any more. -/
structure Stays (query after : LiveQuery) : Prop where
  shut : after.stream.isOpen = false
  phase : after.stream.phase = query.stream.phase
  metadata : after.stream.metadata? = query.stream.metadata?
  delivered : after.stream.delivered = query.stream.delivered
  buffered : after.stream.buffered = query.stream.buffered
  log : after.stream.log = query.stream.log
  sent : after.producer.sent = query.producer.sent

/-- What the caller and the engine find out about a stream from which nothing is wanted any more. -/
structure Absorbs (query : LiveQuery) : Prop where
  next : ∀ count, (QueryStep.next count).take query
    = (.taken (if query.stream.held then List.replicate count .ended else []), query)
  rows : QueryStep.rows.take query
    = (if query.stream.held then .collected (some (.error .alreadyQueried)) else .nothing, query)
  close : QueryStep.close.take query = (.nothing, query)
  probe : (QueryStep.probe.take query).1 = .probed
    (if query.stream.producing then some ⟨true, query.stream.clientContextId⟩ else none)
  produce : ∀ actions, Refuses { query with producer.actions := actions }
    ((QueryStep.produce actions).take query).2
  stays : ∀ later, Stays query (query.run later).2

/-- A stream that stays as it is stays so later on. -/
theorem Stays.trans {between : LiveQuery} (first : Stays query between)
    (second : Stays between after) : Stays query after where
  shut := second.shut
  phase := second.phase.trans first.phase
  metadata := second.metadata.trans first.metadata
  delivered := second.delivered.trans first.delivered
  buffered := second.buffered.trans first.buffered
  log := second.log.trans first.log
  sent := second.sent.trans first.sent

/-- A stream from which nothing is wanted any more is as it is. -/
theorem Stays.here (shut : query.stream.isOpen = false) : Stays query query :=
  ⟨shut, rfl, rfl, rfl, rfl, rfl, rfl⟩

/-- An engine that works although nothing is wanted is refused all its rows, and at most ends its
side. -/
theorem refuses_pump (shut : query.stream.isOpen = false) : Refuses query query.pump := by
  cases producing : query.stream.producing with
  | false =>
    rw [pump_of_ended producing]
    refine ⟨shut, rfl, rfl, ?_, ?_⟩
    · simp [producing]
    · simp [status, producing]
  | true =>
    have works := pump_of_producing producing
    obtain ⟨unseen, sent, rejected⟩ := works.shut shut
    have shut' : query.pump.stream.isOpen = false := by
      rw [unseen]
      exact shut
    refine ⟨shut', unseen, sent, ?_, fun waiting => ?_⟩
    · rw [if_pos producing]
      exact rejected
    · -- Only where an event is wanted does the engine wait to add it.
      rw [(works.settled.of_waiting waiting).1] at shut'
      cases shut'

/-- A stream stays as it is while the engine works. -/
theorem stays_pump (shut : query.stream.isOpen = false) : Stays query query.pump := by
  have refused := refuses_pump shut
  -- The engine at most ends its side, on which nothing of this depends.
  have unseen := refused.unseen
  refine ⟨refused.shut, ?_, ?_, ?_, ?_, ?_, refused.sent⟩
  · rw [unseen]
  · rw [unseen]
    rfl
  · rw [unseen]
  · rw [unseen]
  · rw [unseen]

/-- A stream stays as it is while the engine is given more to do. -/
theorem stays_produce (shut : query.stream.isOpen = false) (actions : List ProducerAction) :
    Stays query (query.produce actions) := by
  have worked := @stays_pump
    { query with producer.actions := query.producer.actions ++ actions } shut
  exact ⟨worked.shut, worked.phase, worked.metadata, worked.delivered, worked.buffered,
    worked.log, worked.sent⟩

/-- A stream stays as it is while its caller gives it up. -/
theorem stays_release (shut : query.stream.release.isOpen = false) :
    Stays query query.release := by
  have worked := @stays_pump { query with stream := query.stream.release } shut
  exact ⟨worked.shut, worked.phase, worked.metadata, worked.delivered, worked.buffered,
    worked.log, worked.sent⟩

/-- Whatever waits is refused at the end of an open stream. -/
theorem refuses_close (opened : query.stream.isOpen = true) :
    Refuses { query with stream := query.stream.close } query.close := by
  have shut : query.stream.close.isOpen = false := by
    rw [RowStream.close_of_streaming (RowStream.isOpen_iff.1 opened).1]
    rfl
  exact refuses_pump shut

/-- An open query whose caller ends it is closed. -/
theorem phase_take_close (opened : query.stream.isOpen = true) :
    (QueryStep.close.take query).2.stream.phase = .closed := by
  obtain ⟨streaming, held⟩ := RowStream.isOpen_iff.1 opened
  simp only [QueryStep.take, held, if_true]
  -- The engine goes on after that, but the stream stays closed.
  rw [(refuses_close opened).unseen, RowStream.close_of_streaming streaming]
  rfl

/-- Whatever waits is refused when the caller gives its side up. -/
theorem refuses_release (query : LiveQuery) :
    Refuses { query with stream := query.stream.release } query.release :=
  refuses_pump RowStream.isOpen_release

/-- An engine that nobody keeps waiting has nothing left to do. -/
theorem Settled.actions_eq_nil (settled : query.Settled) (shut : query.stream.isOpen = false)
    (producing : query.stream.producing = true) : query.producer.actions = [] := by
  rcases settled producing with done | ⟨opened, -⟩
  · exact done
  · rw [opened] at shut
    cases shut

/-- An engine that can do nothing more with a stream leaves it to itself. -/
theorem Settled.pump_of_shut (settled : query.Settled) (shut : query.stream.isOpen = false) :
    query.pump = query := by
  cases producing : query.stream.producing with
  | false => exact pump_of_ended producing
  | true =>
    have done := settled.actions_eq_nil shut producing
    rw [pump, if_pos producing, done]
    exact congrArg (LiveQuery.mk query.stream ⟨·, _, _⟩) done.symm

/-- The caller of a stream that ended gets nothing more when it asks for a row. -/
theorem next_of_ended (settled : query.Settled) (shut : query.stream.isOpen = false)
    (ended : query.stream.phase ≠ .streaming) : query.next = (.ended, query) := by
  unfold next
  rw [RowStream.next_of_ended ended]
  exact congrArg (Prod.mk _) (settled.pump_of_shut shut)

/-- However often the caller asks, it gets nothing more. -/
theorem nextMany_of_ended (settled : query.Settled) (shut : query.stream.isOpen = false)
    (ended : query.stream.phase ≠ .streaming) (count : Nat) :
    query.nextMany count = (List.replicate count .ended, query) := by
  induction count with
  | zero => rfl
  | succ count ih => simp only [nextMany, next_of_ended settled shut ended, ih, List.replicate]

/-- A stream that a caller has, and from which nothing is wanted any more, has ended. -/
theorem ended_of_shut (shut : query.stream.isOpen = false) (held : query.stream.held = true) :
    query.stream.phase ≠ .streaming := by
  intro streaming
  rw [RowStream.isOpen_iff.2 ⟨streaming, held⟩] at shut
  cases shut

/-- Such a stream does not stream. -/
theorem isStreaming_of_shut (shut : query.stream.isOpen = false)
    (held : query.stream.held = true) : query.stream.isStreaming = false := by
  simpa [RowStream.isStreaming] using ended_of_shut shut held

/-- Asking for rows of such a stream gives the end over and over. -/
theorem take_next_of_shut (settled : query.Settled) (shut : query.stream.isOpen = false)
    (count : Nat) : (QueryStep.next count).take query
      = (.taken (if query.stream.held then List.replicate count .ended else []), query) := by
  cases held : query.stream.held with
  | false => simp [QueryStep.take, held]
  | true =>
    have nothing := nextMany_of_ended settled shut (ended_of_shut shut held) count
    simp [QueryStep.take, held, nothing]

/-- Asking for all rows of such a stream gives an error. -/
theorem take_rows_of_shut (shut : query.stream.isOpen = false) : QueryStep.rows.take query
    = (if query.stream.held then .collected (some (.error .alreadyQueried)) else .nothing,
        query) := by
  cases held : query.stream.held with
  | false => simp [QueryStep.take, held]
  | true =>
    have ended := isStreaming_of_shut shut held
    simp [QueryStep.take, held, rows, ended]

/-- Ending such a stream once more does nothing. -/
theorem take_close_of_shut (settled : query.Settled) (shut : query.stream.isOpen = false) :
    QueryStep.close.take query = (.nothing, query) := by
  cases held : query.stream.held with
  | false => simp [QueryStep.take, held]
  | true =>
    -- There is no phase left to close, and nothing for the engine to do.
    have ended := isStreaming_of_shut shut held
    have same : query.close = query := by
      simpa [close, RowStream.close, ended] using settled.pump_of_shut shut
    simp [QueryStep.take, held, same]

/-- Whatever step is taken, such a stream stays as it is. -/
theorem stays_take (settled : query.Settled) (shut : query.stream.isOpen = false)
    (step : QueryStep) : Stays query (step.take query).2 := by
  -- What the caller asks for changes nothing, and what the engine offers is refused.
  cases step with
  | produce actions => exact stays_produce shut actions
  | probe => exact stays_produce shut [.probe]
  | next count =>
    rw [take_next_of_shut settled shut]
    exact .here shut
  | rows =>
    rw [take_rows_of_shut shut]
    exact .here shut
  | close =>
    rw [take_close_of_shut settled shut]
    exact .here shut
  | release => exact stays_release RowStream.isOpen_release
  | look => exact .here shut

/-- Whatever steps are taken, such a stream stays as it is. -/
theorem stays_run (steps : List QueryStep) :
    ∀ {query : LiveQuery}, query.Steady capacity → query.stream.isOpen = false →
      Stays query (query.run steps).2 := by
  -- Each step keeps the engine steady, so the next one finds it idle again.
  induction steps with
  | nil => exact fun _ shut => .here shut
  | cons step rest ih =>
    intro query steady shut
    have first := stays_take steady.settled shut step
    exact first.trans (ih (steady.take step) first.shut)

/-- A stream from which nothing is wanted any more absorbs all that comes. -/
theorem Steady.absorbs (steady : query.Steady capacity) (shut : query.stream.isOpen = false) :
    query.Absorbs where
  next := take_next_of_shut steady.settled shut
  rows := take_rows_of_shut shut
  close := take_close_of_shut steady.settled shut
  probe := by
    simp only [QueryStep.take, LiveQuery.probe, shut]
    cases producing : query.stream.producing with
    | false => simp [status, producing]
    | true =>
      -- The engine has nothing left to do, so it looks at once.
      simp [status, producing, steady.settled.actions_eq_nil shut producing]
  produce actions := by
    have refused := @refuses_pump
      { query with producer.actions := query.producer.actions ++ actions } shut
    refine ⟨refused.shut, refused.unseen, refused.sent, refused.rejected.trans ?_,
      refused.status⟩
    cases producing : query.stream.producing with
    | false => rfl
    | true =>
      -- Nothing waited, so all that is refused is new.
      rw [steady.settled.actions_eq_nil shut producing, List.nil_append]
  stays later := stays_run later steady shut

end LiveQuery

end AnalyticsClient
