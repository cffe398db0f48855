import AnalyticsClient.Log
import AnalyticsClient.Query.Metadata

/-! The stream of a query's rows: a buffer of bounded size between the engine and the caller. -/

namespace AnalyticsClient

/-- What goes through the buffer. -/
inductive StreamEvent where
  | row (row : Json)
  /-- The good end. -/
  | metadata (metadata : QueryMetadata)
  /-- The bad end. -/
  | failure (error : EngineError)
deriving DecidableEq

/-- How far the caller got with a stream. -/
inductive StreamPhase where
  /-- More may come. -/
  | streaming
  /-- All rows were taken and the metadata came after them. -/
  | done (metadata : QueryMetadata)
  | failed
  /-- The caller wants no more. -/
  | closed
deriving DecidableEq

/-- A stream of rows. -/
structure RowStream where
  clientContextId : String
  /-- How many events the buffer takes. -/
  capacity : Nat
  phase : StreamPhase
  /-- What the engine added and the caller has not taken. -/
  buffered : List StreamEvent
  /-- Whether the engine has not yet ended its side. -/
  producing : Bool
  /-- Whether the caller still has its side. -/
  held : Bool
  /-- How many rows the caller took. -/
  delivered : Nat
  /-- What the stream told the log. -/
  log : List LogEvent
deriving DecidableEq

/-- What the caller gets when it asks for a row. -/
inductive Next where
  | row (row : Json)
  /-- Nothing any more. -/
  | ended
  | error (error : Error)
  /-- Nothing yet. -/
  | pending
deriving DecidableEq

/-- What becomes of an event that the engine adds. -/
inductive Offer where
  | accepted (stream : RowStream)
  /-- The caller takes no more events. -/
  | refused
  /-- The engine has to wait until the caller takes an event. -/
  | full

namespace RowStream

/-- A stream with nothing in it yet. -/
def start (clientContextId : String) (capacity : Nat) : RowStream where
  clientContextId := clientContextId
  capacity := capacity
  phase := .streaming
  buffered := []
  producing := true
  held := true
  delivered := 0
  log := []

/-- Whether more events may still reach the caller. -/
def isStreaming (stream : RowStream) : Bool := stream.phase = .streaming

/-- Whether the caller ended the stream. -/
def isClosed (stream : RowStream) : Bool := stream.phase = .closed

/-- Whether the engine's events are still wanted. -/
def isOpen (stream : RowStream) : Bool := stream.isStreaming && stream.held

/-- The metadata, once every row was taken. -/
def metadata? (stream : RowStream) : Option QueryMetadata :=
  match stream.phase with
  | .done metadata => some metadata
  | _ => none

/-- Adds an event at the end of the buffer, if it is wanted and there is room. -/
def offer (stream : RowStream) (event : StreamEvent) : Offer :=
  if ¬ stream.isOpen then .refused
  else if stream.buffered.length < stream.capacity then
    .accepted { stream with buffered := stream.buffered ++ [event] }
  else .full

/-- The engine ends its side. -/
def endProducing (stream : RowStream) : RowStream := { stream with producing := false }

/-- The stream with one more event in the log. -/
def note (stream : RowStream) (event : LogEvent) : RowStream :=
  { stream with log := stream.log ++ [event] }

/-- The failure of a stream that ends with nothing. -/
def cutShortError : EngineError := .dropped "row stream ended without metadata"

/-- Takes the next event out of the buffer. -/
def next (stream : RowStream) : Next × RowStream :=
  if ¬ stream.isStreaming then (.ended, stream)
  else
    let id := stream.clientContextId
    let rows := stream.delivered
    match stream.buffered with
    | .row row :: rest => (.row row, { stream with buffered := rest, delivered := rows + 1 })
    | .metadata metadata :: rest =>
      (.ended, { stream with buffered := rest, phase := .done metadata }.note
        (.streamCompleted id rows metadata.status))
    | .failure error :: rest =>
      (.error (.engine error), { stream with buffered := rest, phase := .failed }.note
        (.streamFailed id rows error))
    | [] =>
      -- An empty buffer is the end only where nothing can come any more.
      if stream.producing then (.pending, stream)
      else
        (.error (.engine cutShortError), { stream with phase := .failed }.note
          (.streamCutShort id rows))

/-- The caller ends the stream; a stream that ended already stays as it is. -/
def close (stream : RowStream) : RowStream :=
  if stream.isStreaming then
    { stream with phase := .closed }.note (.streamClosed stream.clientContextId stream.delivered)
  else stream

/-- The caller gives its side up. -/
def release (stream : RowStream) : RowStream := { stream with held := false }

/-- The rows that repeated steps give, what the last step gives instead of a row, and the state
after it. -/
def takeRows {τ : Type} (step : τ → Next × τ) : (turns : Nat) → τ → List Json × Next × τ
  | 0, state => ([], .pending, state)
  | turns + 1, state =>
    match step state with
    | (.row row, state) =>
      let (rows, last, state) := takeRows step turns state
      (row :: rows, last, state)
    | (other, state) => ([], other, state)

/-- The outcome of taking all rows; none if more may come. -/
def collected (rows : List Json) : Next → Option (Outcome (List Json))
  | .ended => some (.ok rows)
  | .error error => some (.error error)
  | .row _ | .pending => none

/-- Takes all rows that are left. -/
def rows (stream : RowStream) : Option (Outcome (List Json)) × RowStream :=
  if ¬ stream.isStreaming then (some (.error .alreadyQueried), stream)
  else
    -- One turn more than there are events shows what stands behind them.
    let (rows, last, stream) := takeRows next (stream.buffered.length + 1) stream
    (collected rows last, stream)

end RowStream

end AnalyticsClient
