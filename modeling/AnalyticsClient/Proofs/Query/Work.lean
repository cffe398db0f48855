import AnalyticsClient.Proofs.Query.Order
import AnalyticsClient.Query.Producer

/-! How far the engine gets with a query: as long as rows are wanted, no further than there is room,
and through all of its actions once nothing is wanted any more. -/

namespace AnalyticsClient

/-- The event that an action adds to the buffer, if it adds one. -/
def ProducerAction.event? : ProducerAction → Option StreamEvent
  | .send row => some (.row row)
  | .finish metadata => some (.metadata metadata)
  | .fail error => some (.failure error)
  | .vanish | .probe => none

/-- Whether the engine ends its side by an action. -/
def ProducerAction.isLast : ProducerAction → Bool
  | .finish _ | .fail _ | .vanish => true
  | .send _ | .probe => false

/-- How many rows the engine offers before it ends its side. -/
def ProducerAction.offered : List ProducerAction → Nat
  | [] => 0
  | .send _ :: rest => offered rest + 1
  | .probe :: rest => offered rest
  | .finish _ :: _ | .fail _ :: _ | .vanish :: _ => 0

namespace ProducerAction

/-- The rows that the engine offers before it ends its side. -/
def rowsOf : List ProducerAction → List Json
  | [] => []
  | .send row :: rest => row :: rowsOf rest
  | .probe :: rest => rowsOf rest
  | .finish _ :: _ | .fail _ :: _ | .vanish :: _ => []

/-- How the engine ends its side, if it does. -/
def endingOf : List ProducerAction → Option Ending
  | [] => none
  | .send _ :: rest | .probe :: rest => endingOf rest
  | .finish metadata :: _ => some (.finished metadata)
  | .fail error :: _ => some (.failed error)
  | .vanish :: _ => some .vanished

/-- There are no more rows than actions. -/
theorem length_rowsOf_le (actions : List ProducerAction) :
    (rowsOf actions).length ≤ actions.length := by
  -- Nothing is counted behind an action that ends the engine's side.
  induction actions with
  | nil => exact Nat.le_refl _
  | cons action rest ih =>
    cases action with
    | send row => exact Nat.succ_le_succ ih
    | probe => exact Nat.le_succ_of_le ih
    | finish | fail | vanish => exact Nat.zero_le _

/-- By its last action the engine ends its side, and tells of it by the event of the action. -/
theorem of_isLast {action : ProducerAction} (last : action.isLast = true)
    (rest : List ProducerAction) : rowsOf (action :: rest) = []
      ∧ ∃ ending, endingOf (action :: rest) = some ending ∧ ending.event? = action.event? := by
  cases action with
  | send | probe => cases last
  | finish | fail | vanish => exact ⟨rfl, _, rfl, rfl⟩

end ProducerAction

/-- The row that an event brings, if it brings one. -/
def StreamEvent.row? : StreamEvent → Option Json
  | .row brought => some brought
  | .metadata _ | .failure _ => none

/-- How many rows are in the buffer. -/
def RowStream.rowCount (stream : RowStream) : Nat :=
  (stream.buffered.filterMap StreamEvent.row?).length

namespace LiveQuery

/-- How the engine gets from a query on to where it stops: it has done all it had to do, it waits
for room, or it ended its side. -/
inductive Works : LiveQuery → LiveQuery → Prop where
  | idle {stream : RowStream} {sent rejected : Nat} :
    Works ⟨stream, ⟨[], sent, rejected⟩⟩ ⟨stream, ⟨[], sent, rejected⟩⟩
  | waits {stream : RowStream} {action : ProducerAction} {rest : List ProducerAction}
      {sent rejected : Nat} {event : StreamEvent} (adds : action.event? = some event)
      (opened : stream.isOpen = true) (full : stream.capacity ≤ stream.buffered.length) :
    Works ⟨stream, ⟨action :: rest, sent, rejected⟩⟩ ⟨stream, ⟨action :: rest, sent, rejected⟩⟩
  | sent {stream : RowStream} {row : Json} {rest : List ProducerAction} {sent rejected : Nat}
      {after : LiveQuery} (opened : stream.isOpen = true)
      (room : stream.buffered.length < stream.capacity)
      (later : Works ⟨{ stream with buffered := stream.buffered ++ [.row row] },
        ⟨rest, sent + 1, rejected⟩⟩ after) :
    Works ⟨stream, ⟨.send row :: rest, sent, rejected⟩⟩ after
  | refused {stream : RowStream} {row : Json} {rest : List ProducerAction} {sent rejected : Nat}
      {after : LiveQuery} (shut : stream.isOpen = false)
      (later : Works ⟨stream, ⟨rest, sent, rejected + 1⟩⟩ after) :
    Works ⟨stream, ⟨.send row :: rest, sent, rejected⟩⟩ after
  | probed {stream : RowStream} {rest : List ProducerAction} {sent rejected : Nat}
      {after : LiveQuery} (later : Works ⟨stream, ⟨rest, sent, rejected⟩⟩ after) :
    Works ⟨stream, ⟨.probe :: rest, sent, rejected⟩⟩ after
  /-- The last event goes into the buffer. -/
  | told {stream : RowStream} {action : ProducerAction} {rest : List ProducerAction}
      {sent rejected : Nat} {event : StreamEvent} (last : action.isLast = true)
      (adds : action.event? = some event) (opened : stream.isOpen = true)
      (room : stream.buffered.length < stream.capacity) :
    Works ⟨stream, ⟨action :: rest, sent, rejected⟩⟩
      ⟨{ stream with buffered := stream.buffered ++ [event], producing := false },
        ⟨rest, sent, rejected⟩⟩
  /-- There is no last event, or nobody wants it. -/
  | untold {stream : RowStream} {action : ProducerAction} {rest : List ProducerAction}
      {sent rejected : Nat} (last : action.isLast = true)
      (unheard : action.event? = none ∨ stream.isOpen = false) :
    Works ⟨stream, ⟨action :: rest, sent, rejected⟩⟩
      ⟨stream.endProducing, ⟨rest, sent, rejected⟩⟩

/-- The engine's work takes it as far as it can get. -/
theorem works_work (actions : List ProducerAction) :
    ∀ (stream : RowStream) (sent rejected : Nat),
      Works ⟨stream, ⟨actions, sent, rejected⟩⟩ (work stream sent rejected actions) := by
  -- Each action changes the stream for those after it, so the stream stays quantified over.
  induction actions with
  | nil =>
    intro stream sent rejected
    exact .idle
  | cons action rest ih =>
    intro stream sent rejected
    cases action with
    | send row =>
      -- The row finds room, or is not wanted any more, or has to wait.
      simp only [work]
      rcases RowStream.offer_cases stream (.row row)
        with ⟨opened, room, offer⟩ | ⟨shut, offer⟩ | ⟨opened, full, offer⟩ <;> rw [offer]
      · exact .sent opened room (ih _ _ _)
      · exact .refused shut (ih _ _ _)
      · exact .waits rfl opened full
    | finish metadata =>
      -- An ending goes the same ways, and is the last event unless it has to wait.
      simp only [work]
      rcases RowStream.offer_cases stream (.metadata metadata)
        with ⟨opened, room, offer⟩ | ⟨shut, offer⟩ | ⟨opened, full, offer⟩ <;> rw [offer]
      · exact .told rfl rfl opened room
      · exact .untold rfl (.inr shut)
      · exact .waits rfl opened full
    | fail error =>
      simp only [work]
      rcases RowStream.offer_cases stream (.failure error)
        with ⟨opened, room, offer⟩ | ⟨shut, offer⟩ | ⟨opened, full, offer⟩ <;> rw [offer]
      · exact .told rfl rfl opened room
      · exact .untold rfl (.inr shut)
      · exact .waits rfl opened full
    | vanish => exact .untold rfl (.inl rfl)
    | probe => exact .probed (ih _ _ _)

variable {query after : LiveQuery}

/-- Whether the engine stands still for a reason: it has done all it had to do, or it has an event
to add to a buffer that is full. -/
def Settled (query : LiveQuery) : Prop :=
  query.stream.producing = true → query.producer.actions = []
    ∨ query.stream.isOpen = true ∧ query.stream.capacity ≤ query.stream.buffered.length
      ∧ ∃ action rest event, query.producer.actions = action :: rest ∧ action.event? = some event

namespace Works

/-- The engine does nothing to a stream but add to the buffer and end its own side. -/
theorem stream_eq (works : Works query after) :
    after.stream = { query.stream with
      buffered := after.stream.buffered, producing := after.stream.producing } := by
  -- Only a row that is taken and the last action change the stream, in these two places.
  induction works with
  | idle => rfl
  | waits => rfl
  | sent _ _ _ ih => exact ih
  | refused _ _ ih => exact ih
  | probed _ ih => exact ih
  | told => rfl
  | untold => rfl

/-- Every row that the engine counts as sent is in the buffer. -/
theorem sent_add (works : Works query after) :
    after.producer.sent + query.stream.rowCount
      = query.producer.sent + after.stream.rowCount := by
  induction works with
  | idle => rfl
  | waits => rfl
  | sent _ _ _ ih =>
    -- One row more is counted, and it is one more in the buffer.
    simp only [RowStream.rowCount, List.filterMap_append, List.length_append] at ih ⊢
    simp only [List.filterMap_cons, StreamEvent.row?, List.filterMap_nil,
      List.length_singleton] at ih
    omega
  | refused _ _ ih => exact ih
  | probed _ ih => exact ih
  | @told _ action _ _ _ event last adds =>
    -- The last event is no row.
    have other : event.row? = none := by
      cases action <;> cases adds <;> first | rfl | cases last
    simp only [RowStream.rowCount, List.filterMap_append, List.filterMap_cons, other,
      List.filterMap_nil, List.append_nil]
  | untold => rfl

/-- The engine stands still only for a reason. -/
theorem settled (works : Works query after) : after.Settled := by
  induction works with
  | idle => exact fun _ => .inl rfl
  | waits adds opened full => exact fun _ => .inr ⟨opened, full, _, _, _, rfl, adds⟩
  | sent _ _ _ ih => exact ih
  | refused _ _ ih => exact ih
  | probed _ ih => exact ih
  -- Whoever ended its side is not expected to go on.
  | told => exact fun producing => nomatch producing
  | untold => exact fun producing => nomatch producing

/-- Where nothing is wanted any more, the engine changes nothing that anybody could see, and each
row that it offers is refused. -/
theorem shut (works : Works query after) (shut : query.stream.isOpen = false) :
    after.stream = { query.stream with producing := after.stream.producing }
      ∧ after.producer.sent = query.producer.sent
      ∧ after.producer.rejected
        = query.producer.rejected + ProducerAction.offered query.producer.actions := by
  induction works with
  | idle => exact ⟨rfl, rfl, rfl⟩
  | waits _ opened =>
    rw [opened] at shut
    cases shut
  | sent opened =>
    rw [opened] at shut
    cases shut
  | refused _ _ ih =>
    obtain ⟨same, sent, rejected⟩ := ih shut
    refine ⟨same, sent, ?_⟩
    simp only [ProducerAction.offered] at rejected ⊢
    omega
  | probed _ ih => exact ih shut
  | told _ _ opened =>
    rw [opened] at shut
    cases shut
  | @untold _ action _ _ _ last =>
    -- No row is offered after the engine ended its side.
    refine ⟨rfl, rfl, ?_⟩
    cases action <;> first | rfl | cases last

end Works

/-- An event that finds no room keeps the engine from going on. -/
theorem work_of_full {stream : RowStream} {action : ProducerAction} {event : StreamEvent}
    (adds : action.event? = some event) (opened : stream.isOpen = true)
    (full : stream.capacity ≤ stream.buffered.length) (rest : List ProducerAction)
    (sent rejected : Nat) :
    work stream sent rejected (action :: rest)
      = ⟨stream, ⟨action :: rest, sent, rejected⟩⟩ := by
  -- What would add to a buffer that is full is put off, with all that comes behind it.
  have offer : ∀ event, stream.offer event = .full := by
    intro event
    simp [RowStream.offer, opened, Nat.not_lt.2 full]
  cases action with
  | send row => simp only [work, offer]
  | finish metadata => simp only [work, offer]
  | fail error => simp only [work, offer]
  | vanish => cases adds
  | probe => cases adds

/-- The engine works on where it has not ended its side. -/
theorem pump_of_producing (producing : query.stream.producing = true) :
    Works query query.pump := by
  rw [pump, if_pos producing]
  exact works_work _ _ _ _

/-- An engine that ended its side does no more. -/
theorem pump_of_ended (ended : query.stream.producing = false) : query.pump = query := by
  rw [pump, ended]
  rfl

end LiveQuery

end AnalyticsClient
