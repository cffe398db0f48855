import AnalyticsClient.Proofs.Query.Live

/-! The buffer of a query in flight: its size, what is in it, and when the engine waits for room. -/

namespace AnalyticsClient

namespace RowStream

/-- A caller that asks for a row gets one out of the buffer, or takes none. -/
theorem delivered_next (stream : RowStream) :
    stream.next.2.delivered + stream.next.2.rowCount = stream.delivered + stream.rowCount := by
  unfold next
  split
  · rfl
  · split
    · -- The row that was in the buffer is with the caller now.
      next buffered =>
        simp only [rowCount, buffered, List.filterMap_cons, StreamEvent.row?, List.length_cons]
        omega
    · -- An event that ends the stream is no row.
      next buffered => simp only [rowCount, buffered, note, List.filterMap_cons, StreamEvent.row?]
    · next buffered => simp only [rowCount, buffered, note, List.filterMap_cons, StreamEvent.row?]
    · split <;> rfl

/-- Asking for a row is nothing to the size of the buffer. -/
theorem capacity_next (stream : RowStream) : stream.next.2.capacity = stream.capacity := by
  unfold next
  split
  · rfl
  · split
    · rfl
    · rfl
    · rfl
    · split <;> rfl

/-- A caller that ends the stream changes nothing but that. -/
theorem close_eq (stream : RowStream) :
    stream.close = { stream with phase := stream.close.phase, log := stream.close.log } := by
  unfold close
  split <;> rfl

end RowStream

namespace LiveQuery

variable {capacity : Nat} {query after : LiveQuery}

section

variable {holds : LiveQuery → Prop}

/-- What asking for a row keeps, asking for several rows keeps. -/
theorem keeps_nextMany (next : ∀ {query : LiveQuery}, holds query → holds query.next.2)
    (count : Nat) : ∀ {query : LiveQuery}, holds query → holds (query.nextMany count).2 := by
  induction count with
  | zero => exact fun kept => kept
  | succ count ih => exact fun kept => ih (next kept)

/-- What asking for a row keeps, taking rows up to the end keeps. -/
theorem keeps_takeRows (next : ∀ {query : LiveQuery}, holds query → holds query.next.2)
    (turns : Nat) : ∀ {query : LiveQuery}, holds query →
      holds (RowStream.takeRows LiveQuery.next turns query).2.2 := by
  induction turns with
  | zero => exact fun kept => kept
  | succ turns ih =>
    intro query kept
    have first := next kept
    unfold RowStream.takeRows
    -- Only a row is followed by another turn.
    split
    · next found =>
      rw [found] at first
      exact ih first
    · next found =>
      rw [found] at first
      exact first

/-- What the single doings of the engine and of the caller keep, every step keeps. -/
theorem keeps_take (next : ∀ {query : LiveQuery}, holds query → holds query.next.2)
    (produce : ∀ {query : LiveQuery} (actions : List ProducerAction), holds query →
      holds (query.produce actions))
    (close : ∀ {query : LiveQuery}, holds query → holds query.close)
    (release : ∀ {query : LiveQuery}, holds query → holds query.release)
    {query : LiveQuery} (kept : holds query) (step : QueryStep) : holds (step.take query).2 := by
  -- A caller that gave its side up asks for nothing, and so changes nothing.
  cases step with
  | produce actions => exact produce actions kept
  | probe => exact produce [.probe] kept
  | next count =>
    simp only [QueryStep.take]
    split
    · exact keeps_nextMany next count kept
    · exact kept
  | rows =>
    simp only [QueryStep.take]
    split
    · -- A stream that ended gives no more than an error.
      simp only [rows]
      split
      · exact kept
      · exact keeps_takeRows next _ kept
    · exact kept
  | close =>
    simp only [QueryStep.take]
    split
    · exact close kept
    · exact kept
  | release => exact release kept
  | look => exact kept

end

/-- What a query in flight keeps to, with a buffer of a certain size. -/
structure Steady (capacity : Nat) (query : LiveQuery) : Prop where
  capacity : query.stream.capacity = capacity
  /-- Every row that was sent was taken, or is in the buffer. -/
  accounted : query.producer.sent = query.stream.delivered + query.stream.rowCount
  settled : query.Settled

/-- A query that was just submitted has an empty buffer, and an engine with nothing to do. -/
theorem steady_start (clientContextId : String) (capacity : Nat) :
    (start (.start clientContextId capacity)).Steady capacity where
  capacity := rfl
  accounted := rfl
  settled _ := .inl rfl

/-- The engine works until it has a reason to stand still. -/
theorem steady_pump (size : query.stream.capacity = capacity)
    (accounted : query.producer.sent = query.stream.delivered + query.stream.rowCount) :
    query.pump.Steady capacity := by
  cases producing : query.stream.producing with
  | false =>
    -- Nobody waits for an engine that ended its side.
    rw [pump_of_ended producing]
    refine ⟨size, accounted, fun going => ?_⟩
    rw [producing] at going
    cases going
  | true =>
    have works := pump_of_producing producing
    have same := works.stream_eq
    have added := works.sent_add
    have delivered : query.pump.stream.delivered = query.stream.delivered := by rw [same]
    have unchanged : query.pump.stream.capacity = query.stream.capacity := by rw [same]
    refine ⟨unchanged.trans size, ?_, works.settled⟩
    omega

/-- More for the engine to do leaves a query steady. -/
theorem Steady.produce (steady : query.Steady capacity) (actions : List ProducerAction) :
    (query.produce actions).Steady capacity :=
  steady_pump steady.capacity steady.accounted

/-- A caller that asks for a row leaves a query steady. -/
theorem Steady.next (steady : query.Steady capacity) : query.next.2.Steady capacity := by
  -- A row that the caller takes was in the buffer before.
  have moved := query.stream.delivered_next
  have accounted := steady.accounted
  refine steady_pump (query.stream.capacity_next.trans steady.capacity) ?_
  show query.producer.sent = query.stream.next.2.delivered + query.stream.next.2.rowCount
  omega

/-- Every step leaves a query steady. -/
theorem Steady.take (steady : query.Steady capacity) (step : QueryStep) :
    (step.take query).2.Steady capacity := by
  refine keeps_take (fun steady => steady.next) (fun actions steady => steady.produce actions)
    (fun steady => steady_pump ?_ ?_) (fun steady => steady_pump steady.capacity steady.accounted)
    steady step
  -- To end a stream is nothing to its buffer, nor to what was taken out of it.
  · rw [RowStream.close_eq]
    exact steady.capacity
  · rw [RowStream.close_eq]
    exact steady.accounted

/-- A run of steps leaves a query steady. -/
theorem Steady.run (steps : List QueryStep) :
    ∀ {query : LiveQuery}, query.Steady capacity → (query.run steps).2.Steady capacity := by
  induction steps with
  | nil => exact fun steady => steady
  | cons step rest ih => exact fun steady => ih (steady.take step)

/-- An engine that waits has an event to add, which is wanted, to a buffer that is full. -/
theorem Settled.of_waiting (settled : query.Settled) (waiting : query.status = .waiting) :
    query.stream.isOpen = true ∧ query.stream.capacity ≤ query.stream.buffered.length := by
  unfold status at waiting
  split at waiting
  · cases waiting
  · next producing =>
    split at waiting
    · cases waiting
    · next busy =>
      -- There is something left to do, so the buffer is what keeps the engine from it.
      rcases settled (Decidable.not_not.1 producing) with done | ⟨opened, full, -⟩
      · rw [done] at busy
        exact absurd rfl busy
      · exact ⟨opened, full⟩

/-- What the engine is to add beyond a full buffer has to wait behind what waits already. -/
theorem Settled.produce_of_full (settled : query.Settled)
    (producing : query.stream.producing = true) (opened : query.stream.isOpen = true)
    (full : query.stream.capacity ≤ query.stream.buffered.length) {action : ProducerAction}
    {event : StreamEvent} (adds : action.event? = some event) (rest : List ProducerAction) :
    query.produce (action :: rest) = { query with
        producer.actions := query.producer.actions ++ action :: rest }
      ∧ (query.produce (action :: rest)).status = .waiting := by
  have same : query.produce (action :: rest) = { query with
      producer.actions := query.producer.actions ++ action :: rest } := by
    simp only [produce, pump, producing, if_true]
    rcases settled producing with done | ⟨-, -, first, later, event', waits, adds'⟩
    · -- The first of the new actions finds no room.
      simp only [done, List.nil_append]
      exact work_of_full adds opened full _ _ _
    · simp only [waits, List.cons_append]
      exact work_of_full adds' opened full _ _ _
  refine ⟨same, ?_⟩
  rw [same]
  simp [status, producing]

/-- A row that is wanted goes into a buffer in which there is room. -/
theorem Settled.produce_of_room (settled : query.Settled)
    (producing : query.stream.producing = true) (opened : query.stream.isOpen = true)
    (room : query.stream.buffered.length < query.stream.capacity) (row : Json) :
    query.produce [.send row] = { query with
      stream.buffered := query.stream.buffered ++ [.row row]
      producer.sent := query.producer.sent + 1 } := by
  -- Nothing waits where there is room.
  rcases settled producing with done | ⟨-, full, -⟩
  · have offer : query.stream.offer (.row row)
        = .accepted { query.stream with buffered := query.stream.buffered ++ [.row row] } := by
      simp [RowStream.offer, opened, room]
    simp only [produce, pump, producing, if_true, done, List.nil_append, work, offer]
  · exact absurd room (Nat.not_lt.2 full)

end LiveQuery

end AnalyticsClient
