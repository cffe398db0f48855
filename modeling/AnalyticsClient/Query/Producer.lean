import AnalyticsClient.Query.Stream

/-! Queries in flight: the engine works through its actions as far as the stream has room. -/

namespace AnalyticsClient

/-- Something the engine does with a stream, one after the other. -/
inductive ProducerAction where
  | send (row : Json)
  | finish (metadata : QueryMetadata)
  | fail (error : EngineError)
  /-- It ends its side without a word. -/
  | vanish
  /-- It looks whether the caller still takes rows. -/
  | probe
deriving DecidableEq

/-- The engine's side of a stream. -/
structure Producer where
  /-- The actions to come. -/
  actions : List ProducerAction
  /-- How many rows the stream took. -/
  sent : Nat
  /-- How many rows the stream refused. -/
  rejected : Nat
deriving DecidableEq

/-- What the engine does. -/
inductive ProducerStatus where
  | idle
  /-- It waits for room in the buffer. -/
  | waiting
  | ended
deriving DecidableEq, Repr

/-- The name of what the engine does. -/
def ProducerStatus.name : ProducerStatus → String
  | .idle => "idle"
  | .waiting => "waiting"
  | .ended => "ended"

/-- A query in flight. -/
structure LiveQuery where
  stream : RowStream
  producer : Producer
deriving DecidableEq

namespace LiveQuery

/-- A query that was just submitted. -/
def start (stream : RowStream) : LiveQuery := ⟨stream, ⟨[], 0, 0⟩⟩

/-- Works through actions until one has to wait or ends the engine's side. -/
def work (stream : RowStream) (sent rejected : Nat) : List ProducerAction → LiveQuery
  | [] => ⟨stream, ⟨[], sent, rejected⟩⟩
  | .send row :: rest =>
    match stream.offer (.row row) with
    | .accepted stream => work stream (sent + 1) rejected rest
    -- A row that nobody wants does not keep the engine from going on.
    | .refused => work stream sent (rejected + 1) rest
    | .full => ⟨stream, ⟨.send row :: rest, sent, rejected⟩⟩
  | .finish metadata :: rest =>
    match stream.offer (.metadata metadata) with
    | .accepted stream => ⟨stream.endProducing, ⟨rest, sent, rejected⟩⟩
    -- The engine ends its side even where nobody is told.
    | .refused => ⟨stream.endProducing, ⟨rest, sent, rejected⟩⟩
    | .full => ⟨stream, ⟨.finish metadata :: rest, sent, rejected⟩⟩
  | .fail error :: rest =>
    match stream.offer (.failure error) with
    | .accepted stream => ⟨stream.endProducing, ⟨rest, sent, rejected⟩⟩
    | .refused => ⟨stream.endProducing, ⟨rest, sent, rejected⟩⟩
    | .full => ⟨stream, ⟨.fail error :: rest, sent, rejected⟩⟩
  | .vanish :: rest => ⟨stream.endProducing, ⟨rest, sent, rejected⟩⟩
  | .probe :: rest => work stream sent rejected rest

/-- Lets the engine work as far as it can. -/
def pump (query : LiveQuery) : LiveQuery :=
  if query.stream.producing then
    work query.stream query.producer.sent query.producer.rejected query.producer.actions
  else query

/-- What the engine does, after it worked as far as it could. -/
def status (query : LiveQuery) : ProducerStatus :=
  if ¬ query.stream.producing then .ended
  else if query.producer.actions.isEmpty then .idle
  else .waiting

/-- How many actions are still to come, the one that waits left aside. -/
def queued (query : LiveQuery) : Nat :=
  match query.status with
  | .waiting => query.producer.actions.length - 1
  | .idle | .ended => query.producer.actions.length

/-- The engine gets more to do. -/
def produce (query : LiveQuery) (actions : List ProducerAction) : LiveQuery :=
  let producer := { query.producer with actions := query.producer.actions ++ actions }
  { query with producer }.pump

/-- What the engine finds out about the caller. -/
structure Probe where
  isClosed : Bool
  clientContextId : String
deriving DecidableEq

/-- The engine looks whether the caller still takes rows; none if it cannot do so yet. -/
def probe (query : LiveQuery) : Option Probe × LiveQuery :=
  let found :=
    if query.status = .idle then
      some ⟨! query.stream.isOpen, query.stream.clientContextId⟩
    else none
  (found, query.produce [.probe])

/-- The caller asks for a row, and the engine goes on. -/
def next (query : LiveQuery) : Next × LiveQuery :=
  let (found, stream) := query.stream.next
  (found, { query with stream }.pump)

/-- The caller asks for a row several times. -/
def nextMany : (count : Nat) → LiveQuery → List Next × LiveQuery
  | 0, query => ([], query)
  | count + 1, query =>
    let (first, query) := query.next
    let (later, query) := nextMany count query
    (first :: later, query)

/-- The caller takes all rows; none if more may come. -/
def rows (query : LiveQuery) : Option (Outcome (List Json)) × LiveQuery :=
  if ¬ query.stream.isStreaming then (some (.error .alreadyQueried), query)
  else
    -- A turn for each event in the buffer, for each that may still come, and for the end.
    let turns := query.stream.buffered.length + query.producer.actions.length + 1
    let (rows, last, query) := RowStream.takeRows next turns query
    (RowStream.collected rows last, query)

/-- The caller ends the stream. -/
def close (query : LiveQuery) : LiveQuery := { query with stream := query.stream.close }.pump

/-- The caller gives its side up. -/
def release (query : LiveQuery) : LiveQuery := { query with stream := query.stream.release }.pump

end LiveQuery

end AnalyticsClient
