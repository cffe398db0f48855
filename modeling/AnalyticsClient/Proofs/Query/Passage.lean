import AnalyticsClient.Query.Stream

/-! The passage of rows through a stream, with a record of what was accepted and what was got. -/

namespace AnalyticsClient

/-- How the engine ends its side of a stream. -/
inductive Ending where
  | finished (metadata : QueryMetadata)
  | failed (error : EngineError)
  /-- It goes without a word. -/
  | vanished

namespace Ending

/-- The event that tells of an ending, if anything does. -/
def event? : Ending → Option StreamEvent
  | finished metadata => some (.metadata metadata)
  | failed error => some (.failure error)
  | vanished => none

/-- What a caller gets who has taken all rows before an ending. -/
def shown : Ending → Next
  | finished _ => .ended
  | failed error => .error (.engine error)
  | vanished => .error (.engine RowStream.cutShortError)

/-- How far a caller got with a stream who has learnt of an ending. -/
def phase : Ending → StreamPhase
  | finished metadata => .done metadata
  | failed _ | vanished => .failed

/-- What a caller gets who takes all rows up to an ending. -/
def collected (rows : List Json) : Ending → Outcome (List Json)
  | finished _ => .ok rows
  | failed error => .error (.engine error)
  | vanished => .error (.engine RowStream.cutShortError)

end Ending

/-- Something that the engine or the caller does with a stream. Where the buffer is full, the engine
goes on waiting, which is to say that it tries again later. -/
inductive Move where
  | send (row : Json)
  | stop (ending : Ending)
  /-- The caller asks for a row; where there is none yet, it asks again later. -/
  | next
  /-- The caller takes all rows. -/
  | rows
  | close
  | release

/-- The row that a caller gets, if it gets one. -/
def Next.row? : Next → Option Json
  | .row taken => some taken
  | .ended | .error _ | .pending => none

/-- What a caller has seen for good; one that has to wait has seen nothing. -/
def Next.seen : Next → List Next
  | .pending => []
  | found => [found]

/-- A stream with the record of what went through it. -/
structure Passage where
  stream : RowStream
  /-- The rows that the buffer accepted, in order. -/
  accepted : List Json
  /-- How the engine ended its side, once it did. -/
  ending : Option Ending
  /-- What the caller got, in order. -/
  got : List Next

namespace Passage

/-- A stream through which nothing went yet. -/
def start (clientContextId : String) (capacity : Nat) : Passage :=
  ⟨.start clientContextId capacity, [], none, []⟩

/-- The rows that the caller took, in order. -/
def taken (passage : Passage) : List Json := passage.got.filterMap Next.row?

/-- The rows that were accepted and are still to be taken. -/
def left (passage : Passage) : List Json := passage.accepted.drop passage.taken.length

/-- The engine adds a row. -/
def send (passage : Passage) (row : Json) : Passage :=
  match passage.stream.offer (.row row) with
  | .accepted stream => { passage with stream, accepted := passage.accepted ++ [row] }
  | .refused | .full => passage

/-- The engine ends its side, and nothing but a full buffer keeps it from doing so. -/
def stop (passage : Passage) (ending : Ending) : Passage :=
  let finish (stream : RowStream) : Passage :=
    { passage with stream := stream.endProducing, ending := some ending }
  match ending.event? with
  | none => finish passage.stream
  | some event =>
    match passage.stream.offer event with
    | .accepted stream => finish stream
    | .refused => finish passage.stream
    | .full => passage

/-- The caller asks for a row. -/
def take (passage : Passage) : Passage :=
  let (found, stream) := passage.stream.next
  { passage with stream, got := passage.got ++ found.seen }

/-- The caller takes rows, up to a number of turns. -/
def takeMany (passage : Passage) (turns : Nat) : Passage :=
  let (rows, last, stream) := RowStream.takeRows RowStream.next turns passage.stream
  { passage with stream, got := passage.got ++ (rows.map .row ++ last.seen) }

/-- Makes a move; each side makes moves only as long as it is there. -/
def step (passage : Passage) : Move → Passage
  | .send row => if passage.stream.producing then passage.send row else passage
  | .stop ending => if passage.stream.producing then passage.stop ending else passage
  | .next => if passage.stream.held then passage.take else passage
  | .rows =>
    -- A stream that ended gives no more than an error.
    if passage.stream.isOpen then passage.takeMany (passage.stream.buffered.length + 1)
    else passage
  | .close =>
    if passage.stream.held then { passage with stream := passage.stream.close } else passage
  | .release => { passage with stream := passage.stream.release }

/-- Makes moves one after the other. -/
def run (passage : Passage) (moves : List Move) : Passage := moves.foldl step passage

/-- Whether what the caller got fits how far it got. -/
def Shown (passage : Passage) : Prop :=
  let rows := passage.taken.map Next.row
  match passage.stream.phase with
  | .streaming => passage.got = rows
  | .done metadata =>
    passage.ending = some (.finished metadata) ∧ passage.taken = passage.accepted
      ∧ ∃ more, passage.got = rows ++ .ended :: List.replicate more .ended
  | .failed =>
    passage.taken = passage.accepted
      ∧ ∃ error more, (passage.ending = some (.failed error)
          ∨ passage.ending = some .vanished ∧ error.kind = .dropped)
        ∧ passage.got = rows ++ .error (.engine error) :: List.replicate more .ended
  | .closed => ∃ more, passage.got = rows ++ List.replicate more .ended

/-- What every passage keeps to. -/
structure Sound (passage : Passage) : Prop where
  producing : passage.stream.producing = passage.ending.isNone
  bounded : passage.stream.buffered.length ≤ passage.stream.capacity
  delivered : passage.stream.delivered = passage.taken.length
  /-- The caller takes rows in the order in which they were accepted. -/
  ordered : passage.taken <+: passage.accepted
  /-- As long as the caller is to get more, it is in the buffer: the rows that are left and, once
  the engine ended its side, the event that tells so. -/
  buffered : passage.stream.isOpen = true → passage.stream.buffered
    = passage.left.map StreamEvent.row ++ (passage.ending.bind Ending.event?).toList
  shown : passage.Shown

end Passage

end AnalyticsClient
