import AnalyticsClient.Proofs.Query.Aftermath

/-! What a query that is open still owes its caller: rows and then an ending, whenever the engine
gets to them. -/

namespace AnalyticsClient

namespace Ending

/-- What the log is told of an ending, after some rows. -/
def logged (clientContextId : String) (rows : Nat) : Ending → LogEvent
  | finished metadata => .streamCompleted clientContextId rows metadata.status
  | failed error => .streamFailed clientContextId rows error
  | vanished => .streamCutShort clientContextId rows

/-- Nobody waits for more who is shown an ending. -/
theorem shown_ne_pending (ending : Ending) : ending.shown ≠ .pending := by
  cases ending <;> exact nofun

/-- All rows together are given with the good end, and a bad one is given instead of them. -/
theorem collected_shown (rows : List Json) (ending : Option Ending) :
    RowStream.collected rows ((ending.map shown).getD .pending)
      = ending.map (collected rows) := by
  cases ending with
  | none => rfl
  | some ending => cases ending <;> rfl

end Ending

namespace RowStream

/-- A stream whose caller took some more rows and then learnt of an ending, if there was one. -/
def drained (stream : RowStream) (count : Nat) : Option Ending → RowStream
  | none => { stream with buffered := [], delivered := stream.delivered + count }
  | some ending =>
    { stream with
      buffered := []
      producing := false
      delivered := stream.delivered + count
      phase := ending.phase }.note
        (ending.logged stream.clientContextId (stream.delivered + count))

/-- A stream whose caller took some more rows, however far the engine got meanwhile. -/
def Onward (count : Nat) (before after : RowStream) : Prop :=
  after = { before with
    buffered := after.buffered
    producing := after.producing
    delivered := before.delivered + count }

namespace Onward

variable {before between after : RowStream} {count more : Nat}

/-- Rows that are taken one time after the other add up. -/
theorem trans (first : Onward count before between) (second : Onward more between after) :
    Onward (count + more) before after := by
  unfold Onward at first second ⊢
  rw [second, first, Nat.add_assoc]

/-- A stream of which rows are taken stays open. -/
theorem isOpen_eq (onward : Onward count before after) : after.isOpen = before.isOpen := by
  rw [onward]
  rfl

/-- A stream of which rows are taken is drained with those that are taken later. -/
theorem drained_eq (onward : Onward count before after) {ending : Option Ending}
    (going : ending = none → after.producing = before.producing) :
    after.drained more ending = before.drained (count + more) ending := by
  -- Rows add up; the engine's side matters only while there is no ending.
  cases ending with
  | none =>
    simp only [drained]
    rw [onward, going rfl, Nat.add_assoc]
  | some ending =>
    simp only [drained]
    rw [onward, Nat.add_assoc]

end Onward

variable {stream : RowStream}

/-- The caller of an open stream takes a row that is first in the buffer. -/
theorem next_of_row (opened : stream.isOpen = true) {row : Json} {rest : List StreamEvent}
    (buffered : stream.buffered = .row row :: rest) :
    stream.next = (.row row,
      { stream with buffered := rest, delivered := stream.delivered + 1 }) := by
  simp [next, isStreaming_of_isOpen opened, buffered]

/-- The caller of an open stream waits where there is nothing yet. -/
theorem next_of_empty (opened : stream.isOpen = true) (producing : stream.producing = true)
    (buffered : stream.buffered = []) : stream.next = (.pending, stream) := by
  simp [next, isStreaming_of_isOpen opened, buffered, producing]

/-- The caller of an open stream learns of an ending after the last row. -/
theorem next_of_ending (opened : stream.isOpen = true) (ended : stream.producing = false)
    {ending : Ending} (buffered : stream.buffered = ending.event?.toList) :
    stream.next = (ending.shown, stream.drained 0 (some ending)) := by
  obtain ⟨clientContextId, capacity, phase, events, producing, held, delivered, log⟩ := stream
  -- The stream has neither rows nor anybody who could add to it.
  obtain rfl : producing = false := ended
  obtain rfl : events = ending.event?.toList := buffered
  have streaming := isStreaming_of_isOpen opened
  cases ending with
  | finished | failed | vanished =>
    simp only [next, streaming, not_true_eq_false, if_false]
    rfl

end RowStream

namespace LiveQuery

open ProducerAction (rowsOf endingOf)

variable {later : List ProducerAction} {query after : LiveQuery} {left : List Json}
  {ending : Option Ending} {capacity : Nat}

/-- What is still to come from an open query whose engine gets `later` to do beside what it has to
do already. -/
inductive Owes (later : List ProducerAction) (query : LiveQuery) :
    List Json → Option Ending → Prop where
  /-- There are rows in the buffer, and then come those of the engine's actions. -/
  | going {held : List Json} (producing : query.stream.producing = true)
      (buffered : query.stream.buffered = held.map .row) :
    Owes later query (held ++ rowsOf (query.producer.actions ++ later))
      (endingOf (query.producer.actions ++ later))
  /-- There is all that comes in the buffer, and the engine has ended its side. -/
  | told {held : List Json} {ending : Ending} (ended : query.stream.producing = false)
      (buffered : query.stream.buffered = held.map .row ++ ending.event?.toList) :
    Owes later query held (some ending)

/-- The engine's work moves rows and the ending into the buffer, and what is owed stays the same. -/
theorem Works.owes (works : Works query after) (opened : query.stream.isOpen = true)
    (producing : query.stream.producing = true) {held : List Json}
    (buffered : query.stream.buffered = held.map .row) :
    Owes later after (held ++ rowsOf (query.producer.actions ++ later))
      (endingOf (query.producer.actions ++ later)) := by
  -- Rows come into the buffer one by one, so those that are in it stay quantified over.
  induction works generalizing held with
  | idle => exact .going producing buffered
  | waits => exact .going producing buffered
  | @sent stream row _ _ _ _ _ _ _ ih =>
    have more : stream.buffered ++ [.row row] = (held ++ [row]).map .row := by
      rw [List.map_append, ← buffered]
      rfl
    have moved := @ih opened producing (held ++ [row]) more
    simpa [rowsOf, endingOf] using moved
  | refused shut =>
    rw [opened] at shut
    cases shut
  | probed _ ih => exact ih opened producing buffered
  | @told stream action rest _ _ event last adds =>
    -- The last event comes behind the rows.
    obtain ⟨none, ending, ends, same⟩ := ProducerAction.of_isLast last (rest ++ later)
    rw [List.cons_append, none, ends, List.append_nil]
    refine .told rfl ?_
    rw [same, adds, ← buffered]
    rfl
  | @untold stream action rest _ _ last unheard =>
    obtain ⟨none, ending, ends, same⟩ := ProducerAction.of_isLast last (rest ++ later)
    rw [List.cons_append, none, ends, List.append_nil]
    refine .told rfl ?_
    rcases unheard with silent | shut
    · rw [same, silent, Option.toList_none, List.append_nil]
      exact buffered
    · rw [opened] at shut
      cases shut

/-- No more rows are owed than there are events and actions. -/
theorem Owes.length_le (owes : Owes later query left ending) :
    left.length
      ≤ query.stream.buffered.length + (query.producer.actions.length + later.length) := by
  -- Rows that are owed are in the buffer already, or each has an action that is still to send it.
  cases owes with
  | going _ buffered =>
    have offered := ProducerAction.length_rowsOf_le (query.producer.actions ++ later)
    rw [List.length_append] at offered
    rw [List.length_append, buffered, List.length_map]
    omega
  | told _ buffered =>
    rw [buffered, List.length_append, List.length_map]
    omega

/-- While the engine works, what is owed stays the same. -/
theorem Owes.pump (owes : Owes later query left ending) (opened : query.stream.isOpen = true) :
    Owes later query.pump left ending := by
  cases owes with
  | going producing buffered =>
    exact (pump_of_producing producing).owes opened producing buffered
  | told ended buffered =>
    rw [pump_of_ended ended]
    exact .told ended buffered

/-- What the engine gets to do is owed from then on. -/
theorem Owes.produce {burst : List ProducerAction} (owes : Owes (burst ++ later) query left ending)
    (opened : query.stream.isOpen = true) : Owes later (query.produce burst) left ending := by
  refine Owes.pump ?_ opened
  -- What is put behind the queue was owed as something that comes later.
  cases owes with
  | going producing buffered =>
    rw [← List.append_assoc]
    exact .going producing buffered
  | told ended buffered => exact .told ended buffered

/-- The engine takes no rows out of the buffer. -/
theorem onward_pump (query : LiveQuery) : RowStream.Onward 0 query.stream query.pump.stream := by
  cases producing : query.stream.producing with
  | false =>
    rw [pump_of_ended producing]
    rfl
  | true => exact (pump_of_producing producing).stream_eq

/-- An engine that has nothing to do leaves a query as it is. -/
theorem pump_of_done (done : query.producer.actions = []) : query.pump = query := by
  obtain ⟨stream, actions, sent, rejected⟩ := query
  obtain rfl : actions = [] := done
  unfold pump
  split <;> rfl

/-- A caller that asks an open query for a row gets the first one that is owed, or learns of the
ending after the last, or has to wait because the engine has nothing to do. -/
theorem Owes.next_cases (owes : Owes later query left ending) (opened : query.stream.isOpen = true)
    (steady : query.Steady capacity) (room : 1 ≤ capacity) :
    (∃ row rest, left = row :: rest ∧ query.next.1 = .row row
        ∧ RowStream.Onward 1 query.stream query.next.2.stream ∧ Owes later query.next.2 rest ending)
      ∨ (∃ last, left = [] ∧ ending = some last ∧ query.next.1 = last.shown
        ∧ query.next.2.stream = query.stream.drained 0 ending)
      ∨ query.next = (.pending, query) ∧ query.stream.producing = true
        ∧ query.stream.buffered = [] ∧ query.producer.actions = [] := by
  -- A row that is first in the buffer is taken in the same way, whether the engine goes on or not.
  have takes {row : Json} {rest : List StreamEvent} {others : List Json}
      (buffered : query.stream.buffered = .row row :: rest)
      (owes : Owes later { query with stream := { query.stream with
        buffered := rest, delivered := query.stream.delivered + 1 } } others ending) :
      query.next.1 = .row row ∧ RowStream.Onward 1 query.stream query.next.2.stream
        ∧ Owes later query.next.2 others ending := by
    have taken := RowStream.next_of_row opened buffered
    have onward : RowStream.Onward 1 query.stream { query.stream with
      buffered := rest, delivered := query.stream.delivered + 1 } := rfl
    generalize ({ query.stream with
      buffered := rest, delivered := query.stream.delivered + 1 } : RowStream) = stream
      at taken onward owes
    have opened' : stream.isOpen = true := onward.isOpen_eq.trans opened
    unfold next
    rw [taken]
    exact ⟨rfl, onward.trans (onward_pump { query with stream }), owes.pump opened'⟩
  cases owes with
  | @going held producing buffered =>
    cases held with
    | nil =>
      -- There is room in the buffer, so nothing is left to do for the engine.
      have done : query.producer.actions = [] := by
        rcases steady.settled producing with done | ⟨-, full, -⟩
        · exact done
        · rw [steady.capacity, buffered] at full
          exact absurd full (Nat.not_le.2 room)
      refine .inr (.inr ⟨?_, producing, buffered, done⟩)
      unfold next
      rw [RowStream.next_of_empty opened producing buffered]
      exact congrArg (Prod.mk _) (pump_of_done done)
    | cons row rest =>
      exact .inl ⟨row, _, rfl, takes buffered (.going producing rfl)⟩
  | @told _ last ended buffered =>
    cases left with
    | nil =>
      refine .inr (.inl ⟨last, rfl, rfl, ?_⟩)
      unfold next
      rw [RowStream.next_of_ending opened ended buffered]
      -- The engine has ended its side, and so it does no more.
      exact ⟨rfl, congrArg LiveQuery.stream (pump_of_ended rfl)⟩
    | cons row rest =>
      exact .inl ⟨row, rest, rfl, takes buffered (.told ended rfl)⟩

/-- How a caller gets from a query on by asking for rows. -/
inductive Asks : LiveQuery → LiveQuery → Prop where
  | done {query : LiveQuery} : Asks query query
  | next {query after : LiveQuery} (later : Asks query.next.2 after) : Asks query after

/-- A caller that asks for several rows asks for them one by one. -/
theorem asks_nextMany (count : Nat) : ∀ query : LiveQuery, Asks query (query.nextMany count).2 := by
  induction count with
  | zero => exact fun _ => .done
  | succ count ih => exact fun query => .next (ih query.next.2)

/-- A caller that takes all rows asks for them one by one. -/
theorem asks_takeRows (turns : Nat) :
    ∀ query : LiveQuery, Asks query (RowStream.takeRows next turns query).2.2 := by
  induction turns with
  | zero => exact fun _ => .done
  | succ turns ih =>
    intro query
    have later := ih query.next.2
    refine .next ?_
    simp only [RowStream.takeRows]
    cases outcome : query.next with
    | mk found after =>
      rw [outcome] at later
      -- Only a row is followed by another turn.
      cases found with
      | row => exact later
      | ended | error | pending => exact .done

/-- Asking for rows of a stream that ended changes nothing. -/
theorem Asks.eq_of_ended (asks : Asks query after) (settled : query.Settled)
    (shut : query.stream.isOpen = false) (ended : query.stream.phase ≠ .streaming) :
    after = query := by
  -- Every question is answered by the end.
  induction asks with
  | done => rfl
  | next _ ih =>
    have same := next_of_ended settled shut ended
    rw [same] at ih
    exact ih settled shut ended

/-- Asking for rows of an open stream takes the first ones that are owed, as long as it stays
open. -/
theorem Owes.asks (asks : Asks query after) (room : 1 ≤ capacity)
    (opened' : after.stream.isOpen = true) (opened : query.stream.isOpen = true)
    (steady : query.Steady capacity) (owes : Owes later query left ending) :
    ∃ count ≤ left.length, after.stream.delivered = query.stream.delivered + count
      ∧ Owes later after (left.drop count) ending := by
  -- Rows are taken one by one, so those that are owed stay quantified over.
  induction asks generalizing left with
  | done => exact ⟨0, Nat.zero_le _, rfl, owes⟩
  | @next query after asks ih =>
    rcases owes.next_cases opened steady room with ⟨row, rest, rfl, -, onward, owes'⟩
      | ⟨last, rfl, rfl, -, drained⟩ | ⟨found, -, -, -⟩
    · obtain ⟨count, enough, delivered, owes''⟩ :=
        ih opened' (onward.isOpen_eq.trans opened) steady.next owes'
      refine ⟨count + 1, Nat.succ_le_succ enough, ?_, owes''⟩
      have one : query.next.2.stream.delivered = query.stream.delivered + 1 := by rw [onward]
      omega
    · -- The stream ended, and nothing opens it again.
      have phase : query.next.2.stream.phase ≠ .streaming := by
        rw [drained]
        cases last <;> exact nofun
      have shut : query.next.2.stream.isOpen = false :=
        Bool.eq_false_iff.2 fun opened => phase (RowStream.isOpen_iff.1 opened).1
      rw [asks.eq_of_ended steady.next.settled shut phase, shut] at opened'
      cases opened'
    · rw [found] at ih
      exact ih opened' opened steady owes

/-- A step on an open query takes the first rows that are owed, as long as it stays open. -/
theorem Owes.take (step : QueryStep) (room : 1 ≤ capacity)
    (opened' : (step.take query).2.stream.isOpen = true) (opened : query.stream.isOpen = true)
    (steady : query.Steady capacity) (owes : Owes (step.actions ++ later) query left ending) :
    ∃ count ≤ left.length,
      (step.take query).2.stream.delivered = query.stream.delivered + count
        ∧ Owes later (step.take query).2 (left.drop count) ending := by
  have held := (RowStream.isOpen_iff.1 opened).2
  -- More to do for the engine takes no rows.
  have produces {actions : List ProducerAction} (owes : Owes (actions ++ later) query left ending) :
      ∃ count ≤ left.length,
        (query.produce actions).stream.delivered = query.stream.delivered + count
          ∧ Owes later (query.produce actions) (left.drop count) ending := by
    have onward := onward_pump { query with producer.actions := query.producer.actions ++ actions }
    refine ⟨0, Nat.zero_le _, ?_, owes.produce opened⟩
    rw [LiveQuery.produce, onward]
  cases step with
  | produce actions => exact produces owes
  | probe => exact produces owes
  | next count =>
    simp only [QueryStep.take, held, if_true] at opened' ⊢
    exact owes.asks (asks_nextMany count query) room opened' opened steady
  | rows =>
    have streaming := RowStream.isStreaming_of_isOpen opened
    simp only [QueryStep.take, held, if_true, rows, streaming, not_true_eq_false, if_false]
      at opened' ⊢
    exact owes.asks (asks_takeRows _ query) room opened' opened steady
  | close =>
    simp only [QueryStep.take, held, if_true] at opened'
    rw [(refuses_close opened).shut] at opened'
    cases opened'
  | release =>
    have shut : (QueryStep.release.take query).2.stream.isOpen = false :=
      (refuses_release query).shut
    rw [shut] at opened'
    cases opened'
  | look => exact ⟨0, Nat.zero_le _, rfl, owes⟩

/-- A run of steps on an open query takes the first rows that are owed, as long as it stays open. -/
theorem Owes.run (room : 1 ≤ capacity) (steps : List QueryStep) :
    ∀ {query : LiveQuery} {left : List Json}, (query.run steps).2.stream.isOpen = true →
      query.stream.isOpen = true → query.Steady capacity →
      Owes (steps.flatMap QueryStep.actions ++ later) query left ending →
      ∃ count ≤ left.length,
        (query.run steps).2.stream.delivered = query.stream.delivered + count
          ∧ Owes later (query.run steps).2 (left.drop count) ending := by
  induction steps with
  | nil => exact fun _ _ _ owes => ⟨0, Nat.zero_le _, rfl, owes⟩
  | cons step rest ih =>
    intro query left opened'' opened steady owes
    -- What is not open after the first step is not open at the end.
    have opened' : (step.take query).2.stream.isOpen = true := by
      refine Decidable.byContradiction fun shut => ?_
      have stays := stays_run rest (steady.take step) (Bool.eq_false_iff.2 shut)
      exact absurd opened'' (Bool.eq_false_iff.1 stays.shut)
    rw [List.flatMap_cons, List.append_assoc] at owes
    obtain ⟨first, enough, delivered, owes'⟩ := owes.take step room opened' opened steady
    obtain ⟨count, enough', delivered', owes''⟩ := ih opened'' opened' (steady.take step) owes'
    rw [List.length_drop] at enough'
    refine ⟨first + count, by omega, ?_, ?_⟩
    · have total : (query.run (step :: rest)).2.stream.delivered
          = (step.take query).2.stream.delivered + count := delivered'
      omega
    · rw [← List.drop_drop]
      exact owes''

/-- After any steps on a fresh query, as long as it is open, its caller is owed what the engine was
given to do, less the rows that were taken. -/
theorem owes_run (clientContextId : String) (room : 1 ≤ capacity) (steps : List QueryStep)
    (later : List ProducerAction)
    (opened : ((start (.start clientContextId capacity)).run steps).2.stream.isOpen = true) :
    let query := ((start (.start clientContextId capacity)).run steps).2
    let actions := steps.flatMap QueryStep.actions ++ later
    query.stream.delivered ≤ (rowsOf actions).length
      ∧ Owes later query ((rowsOf actions).drop query.stream.delivered) (endingOf actions) := by
  have fresh : Owes (steps.flatMap QueryStep.actions ++ later)
      (start (.start clientContextId capacity))
      (rowsOf (steps.flatMap QueryStep.actions ++ later))
      (endingOf (steps.flatMap QueryStep.actions ++ later)) :=
    @Owes.going _ _ [] rfl rfl
  obtain ⟨count, enough, delivered, owes⟩ :=
    fresh.run room steps opened rfl (steady_start clientContextId capacity)
  -- Nothing was taken before the first step.
  have all : ((start (.start clientContextId capacity)).run steps).2.stream.delivered = count :=
    delivered.trans (Nat.zero_add count)
  rw [← all] at enough owes
  exact ⟨enough, owes⟩

end LiveQuery

end AnalyticsClient
