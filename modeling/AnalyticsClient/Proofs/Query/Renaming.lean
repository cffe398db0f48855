import AnalyticsClient.Session.Step

/-! A stream goes by its id only where it tells it: under another id it does the same. -/

namespace AnalyticsClient

/-- An event of a request that goes by another id. -/
def LogEvent.under (id : String) : LogEvent → LogEvent
  | .submitting operation _ timeoutMs => .submitting operation id timeoutMs
  | .completed operation _ => .completed operation id
  | .wrongKind operation _ output => .wrongKind operation id output
  | .failed operation _ error => .failed operation id error
  | .released label => .released label
  | .submittingQuery _ timeoutMs consistency tokens =>
    .submittingQuery id timeoutMs consistency tokens
  | .streamCompleted _ rows status => .streamCompleted id rows status
  | .streamFailed _ rows error => .streamFailed id rows error
  | .streamCutShort _ rows => .streamCutShort id rows
  | .streamClosed _ rows => .streamClosed id rows

/-- A log with more events, all under one id. -/
def toldUnder (id : String) (log events : List LogEvent) : List LogEvent :=
  log ++ events.map (LogEvent.under id)

/-- What is told in two parts is told one part after the other. -/
theorem toldUnder_append (id : String) (log first later : List LogEvent) :
    toldUnder id (toldUnder id log first) later = toldUnder id log (first ++ later) := by
  simp only [toldUnder, List.map_append, List.append_assoc]

/-- A log to which nothing is told stays as it is. -/
theorem toldUnder_nil (id : String) (log : List LogEvent) : toldUnder id log [] = log :=
  List.append_nil log

/-- The stream under another id, with another log. -/
def RowStream.under (stream : RowStream) (id : String) (log : List LogEvent) : RowStream :=
  { stream with clientContextId := id, log := log }

/-- What becomes of an event under another id. -/
def Offer.under (id : String) (log : List LogEvent) : Offer → Offer
  | .accepted stream => .accepted (stream.under id log)
  | .refused => .refused
  | .full => .full

namespace RowStream

variable (stream : RowStream)

/-- The id and the log play no part in whether an event is taken. -/
theorem offer_under (id : String) (log : List LogEvent) (event : StreamEvent) :
    (stream.under id log).offer event = (stream.offer event).under id log := by
  have opened : (stream.under id log).isOpen = stream.isOpen := rfl
  have room : (stream.under id log).buffered.length = stream.buffered.length := rfl
  have capacity : (stream.under id log).capacity = stream.capacity := rfl
  simp only [offer, opened, room, capacity]
  -- The event is refused, taken, or has to wait, on both sides.
  split
  · rfl
  · split <;> rfl

/-- The id and the log play no part in which event is taken out; only the log is told the id. -/
theorem next_under : ∃ events, ∀ id log,
    (stream.under id log).next
      = (stream.next.1, stream.next.2.under id (toldUnder id log events)) := by
  have streaming : ∀ id log, (stream.under id log).isStreaming = stream.isStreaming :=
    fun _ _ => rfl
  have buffered : ∀ id log, (stream.under id log).buffered = stream.buffered := fun _ _ => rfl
  have producing : ∀ id log, (stream.under id log).producing = stream.producing := fun _ _ => rfl
  let own := stream.clientContextId
  simp only [next, streaming, buffered, producing]
  by_cases past : ¬ stream.isStreaming
  · simp only [if_pos past]
    exact ⟨[], fun id log => by rw [toldUnder_nil]⟩
  · simp only [if_neg past]
    -- What comes out is the first event of the buffer, or tells that the buffer is empty.
    cases stream.buffered with
    | nil =>
      cases stream.producing with
      | true => exact ⟨[], fun id log => by rw [toldUnder_nil]; rfl⟩
      | false => exact ⟨[.streamCutShort own stream.delivered], fun _ _ => rfl⟩
    | cons event rest =>
      cases event with
      | row row => exact ⟨[], fun id log => by rw [toldUnder_nil]; rfl⟩
      | metadata metadata =>
        exact ⟨[.streamCompleted own stream.delivered metadata.status], fun _ _ => rfl⟩
      | failure error => exact ⟨[.streamFailed own stream.delivered error], fun _ _ => rfl⟩

/-- The caller ends a stream in the same way under another id. -/
theorem close_under : ∃ events, ∀ id log,
    (stream.under id log).close = stream.close.under id (toldUnder id log events) := by
  by_cases streaming : stream.isStreaming
  · refine ⟨[.streamClosed stream.clientContextId stream.delivered], fun id log => ?_⟩
    have same : (stream.under id log).isStreaming = stream.isStreaming := rfl
    rw [close, close, same, if_pos streaming, if_pos streaming]
    rfl
  · refine ⟨[], fun id log => ?_⟩
    have same : (stream.under id log).isStreaming = stream.isStreaming := rfl
    rw [close, close, same, if_neg streaming, if_neg streaming, toldUnder_nil]

end RowStream

namespace LiveQuery

/-- The query with its stream under another id. -/
def under (query : LiveQuery) (id : String) (log : List LogEvent) : LiveQuery :=
  { query with stream := query.stream.under id log }

variable (query : LiveQuery) (id : String) (log : List LogEvent)

/-- The engine works through its actions in the same way under another id. -/
theorem work_under (actions : List ProducerAction) : ∀ (stream : RowStream) (sent rejected : Nat),
    work (stream.under id log) sent rejected actions
      = (work stream sent rejected actions).under id log := by
  -- Every event that is taken changes the stream for the actions behind it.
  induction actions with
  | nil => exact fun _ _ _ => rfl
  | cons action rest ih =>
    intro stream sent rejected
    cases action with
    | send row =>
      simp only [work, RowStream.offer_under]
      cases stream.offer (.row row) with
      | accepted stream => exact ih stream (sent + 1) rejected
      | refused => exact ih stream sent (rejected + 1)
      | full => rfl
    | finish metadata =>
      simp only [work, RowStream.offer_under]
      cases stream.offer (.metadata metadata) <;> rfl
    | fail error =>
      simp only [work, RowStream.offer_under]
      cases stream.offer (.failure error) <;> rfl
    | vanish => rfl
    | probe => exact ih stream sent rejected

/-- The engine goes on in the same way under another id. -/
theorem pump_under : (query.under id log).pump = query.pump.under id log := by
  have producing : (query.under id log).stream.producing = query.stream.producing := rfl
  simp only [pump, producing]
  split
  · exact work_under id log _ _ _ _
  · rfl

/-- The engine gets more to do in the same way under another id. -/
theorem produce_under (actions : List ProducerAction) :
    (query.under id log).produce actions = (query.produce actions).under id log :=
  pump_under { query with
    producer.actions := query.producer.actions ++ actions } id log

/-- The caller gets the same row under another id. -/
theorem next_under : ∃ events, ∀ id log,
    (query.under id log).next
      = (query.next.1, query.next.2.under id (toldUnder id log events)) := by
  obtain ⟨events, next⟩ := query.stream.next_under
  refine ⟨events, fun id log => ?_⟩
  have stream : (query.under id log).stream = query.stream.under id log := rfl
  simp only [LiveQuery.next, stream, next]
  exact congrArg (Prod.mk _) (pump_under { query with stream := query.stream.next.2 } id _)

/-- The caller gets the same rows under another id. -/
theorem nextMany_under (count : Nat) : ∀ query : LiveQuery, ∃ events, ∀ id log,
    (query.under id log).nextMany count
      = ((query.nextMany count).1,
          (query.nextMany count).2.under id (toldUnder id log events)) := by
  induction count with
  | zero => exact fun _ => ⟨[], fun id log => by rw [toldUnder_nil]; rfl⟩
  | succ count ih =>
    intro query
    -- The log grows from one row to the next.
    obtain ⟨events, first⟩ := query.next_under
    obtain ⟨events', later⟩ := ih query.next.2
    refine ⟨events ++ events', fun id log => ?_⟩
    simp only [nextMany, first, later, toldUnder_append]

/-- Repeated steps give the same rows under another id. -/
theorem takeRows_under (turns : Nat) : ∀ query : LiveQuery, ∃ events, ∀ id log,
    RowStream.takeRows next turns (query.under id log)
      = ((RowStream.takeRows next turns query).1, (RowStream.takeRows next turns query).2.1,
          (RowStream.takeRows next turns query).2.2.under id (toldUnder id log events)) := by
  induction turns with
  | zero => exact fun _ => ⟨[], fun id log => by rw [toldUnder_nil]; rfl⟩
  | succ turns ih =>
    intro query
    obtain ⟨events, first⟩ := query.next_under
    simp only [RowStream.takeRows, first]
    -- Only a row lets the taking go on.
    cases step : query.next with
    | mk found after =>
      cases found with
      | row row =>
        obtain ⟨events', later⟩ := ih after
        refine ⟨events ++ events', fun id log => ?_⟩
        simp only [later, toldUnder_append]
      | ended => exact ⟨events, fun _ _ => rfl⟩
      | error error => exact ⟨events, fun _ _ => rfl⟩
      | pending => exact ⟨events, fun _ _ => rfl⟩

/-- The caller collects the same rows under another id. -/
theorem rows_under : ∃ events, ∀ id log,
    (query.under id log).rows
      = (query.rows.1, query.rows.2.under id (toldUnder id log events)) := by
  by_cases past : ¬ query.stream.isStreaming
  · refine ⟨[], fun id log => ?_⟩
    have streaming : (query.under id log).stream.isStreaming = query.stream.isStreaming := rfl
    rw [rows, rows, streaming, if_pos past, if_pos past, toldUnder_nil]
  · obtain ⟨events, taken⟩ := takeRows_under
      (query.stream.buffered.length + query.producer.actions.length + 1) query
    refine ⟨events, fun id log => ?_⟩
    have streaming : (query.under id log).stream.isStreaming = query.stream.isStreaming := rfl
    have buffered : (query.under id log).stream.buffered = query.stream.buffered := rfl
    have producer : (query.under id log).producer = query.producer := rfl
    simp only [rows, streaming, buffered, producer, if_neg past, taken]

end LiveQuery

/-- What a step on a query gives under another id: the engine that looks is told the other one. -/
def Got.under (id : String) : Got → Got
  | .probed found => .probed (found.map fun probe => { probe with clientContextId := id })
  | other => other

/-- A step on a query gives the same under another id, and does the same to the stream; it tells the
log the same, under that id. -/
theorem QueryStep.take_under (step : QueryStep) (query : LiveQuery) : ∃ events, ∀ id log,
    step.take (query.under id log)
      = ((step.take query).1.under id,
        (step.take query).2.under id (toldUnder id log events)) := by
  have held : ∀ id log, (query.under id log).stream.held = query.stream.held := fun _ _ => rfl
  cases step with
  | produce actions =>
    refine ⟨[], fun id log => ?_⟩
    rw [toldUnder_nil]
    exact congrArg (Prod.mk _) (query.produce_under id log actions)
  | probe =>
    refine ⟨[], fun id log => ?_⟩
    have status : (query.under id log).status = query.status := rfl
    have opened : (query.under id log).stream.isOpen = query.stream.isOpen := rfl
    simp only [take, LiveQuery.probe, LiveQuery.produce_under, status, opened, toldUnder_nil]
    split <;> rfl
  | next count =>
    -- A caller that gave its side up gets nothing, and tells nothing.
    by_cases holds : query.stream.held
    · obtain ⟨events, taken⟩ := LiveQuery.nextMany_under count query
      refine ⟨events, fun id log => ?_⟩
      simp only [take, held, holds, taken]
      rfl
    · refine ⟨[], fun id log => ?_⟩
      simp only [take, held, holds, toldUnder_nil]
      rfl
  | rows =>
    by_cases holds : query.stream.held
    · obtain ⟨events, taken⟩ := query.rows_under
      refine ⟨events, fun id log => ?_⟩
      simp only [take, held, holds, taken]
      rfl
    · refine ⟨[], fun id log => ?_⟩
      simp only [take, held, holds, toldUnder_nil]
      rfl
  | close =>
    by_cases holds : query.stream.held
    · obtain ⟨events, closed⟩ := query.stream.close_under
      refine ⟨events, fun id log => ?_⟩
      simp only [take, held, if_pos holds]
      refine congrArg (Prod.mk _) ?_
      have stream : (query.under id log).stream = query.stream.under id log := rfl
      rw [LiveQuery.close, stream, closed]
      exact LiveQuery.pump_under { query with stream := query.stream.close } id _
    · refine ⟨[], fun id log => ?_⟩
      simp only [take, held, if_neg holds, toldUnder_nil]
      rfl
  | release =>
    refine ⟨[], fun id log => ?_⟩
    rw [toldUnder_nil]
    exact congrArg (Prod.mk _)
      (LiveQuery.pump_under { query with stream := query.stream.release } id log)
  | look => exact ⟨[], fun id log => by rw [toldUnder_nil]; rfl⟩

end AnalyticsClient
