import AnalyticsClient.Proofs.Query.Work
import AnalyticsClient.Session.Step

/-! What happens to a query in flight is one of the passages through its stream. -/

namespace AnalyticsClient

/-- What a step gives the engine to do. -/
def QueryStep.actions : QueryStep → List ProducerAction
  | .produce actions => actions
  | .probe => [.probe]
  | .next _ | .rows | .close | .release | .look => []

/-- Whether a step on a query that shows a caller something is one that gives this. -/
def Got.Shows : Got → List Next → Prop
  | .nothing, seen | .probed _, seen => seen = []
  | .taken found, seen => seen = found.flatMap Next.seen
  | .collected (some (.ok rows)), seen => seen = rows.map .row ++ [.ended]
  | .collected (some (.error error)), seen =>
    error = .alreadyQueried ∧ seen = [] ∨ ∃ rows : List Json, seen = rows.map .row ++ [.error error]
  | .collected none, seen => ∃ rows : List Json, seen = rows.map .row

/-- Whether steps on a query show a caller this in turn. -/
def Got.AllShow : List Got → List Next → Prop
  | [], seen => seen = []
  | got :: rest, seen => ∃ first later, seen = first ++ later ∧ got.Shows first ∧ AllShow rest later

open ProducerAction (rowsOf endingOf)

/-- Whether a passage took in what the engine was given to do, as far as the engine got: `rest` is
what it is still to do, and `rejected` counts the rows that were refused. -/
structure Passage.TakesIn (given rest : List ProducerAction) (rejected : Nat) (passage : Passage) :
    Prop where
  /-- The rows that were accepted come first, then those that were refused, and behind them those
  that are still to be offered. -/
  rows : ∃ refused : List Json, refused.length = rejected
    ∧ rowsOf given
      = passage.accepted ++ refused ++ if passage.ending.isNone then rowsOf rest else []
  /-- The engine ended its side as it was to do. -/
  ending : endingOf given = (passage.ending <|> endingOf rest)
  /-- Rows are refused only where the caller ended the stream or gave its side up. -/
  wanted : passage.stream.phase ≠ .closed → passage.stream.held = true → rejected = 0

namespace Passage.TakesIn

variable {given rest : List ProducerAction} {rejected : Nat} {passage : Passage}

/-- Nothing of what the engine is given to do was taken in at the start. -/
theorem start (clientContextId : String) (capacity : Nat) (given : List ProducerAction) :
    (Passage.start clientContextId capacity).TakesIn given given 0 where
  rows := ⟨[], rfl, rfl⟩
  ending := rfl
  wanted _ _ := rfl

/-- Whatever the caller does, nothing that was taken in is lost. -/
theorem moved (takes : passage.TakesIn given rest rejected) {stream : RowStream} (got : List Next)
    (wanted : stream.phase ≠ .closed → stream.held = true →
      passage.stream.phase ≠ .closed ∧ passage.stream.held = true) :
    ({ passage with stream, got } : Passage).TakesIn given rest rejected where
  rows := takes.rows
  ending := takes.ending
  wanted unclosed held := takes.wanted (wanted unclosed held).1 (wanted unclosed held).2

/-- A row that is accepted is the next one of those that were to be offered. -/
theorem send {row : Json} (takes : passage.TakesIn given (.send row :: rest) rejected)
    (going : passage.ending = none) (opened : passage.stream.isOpen = true)
    (buffered : List StreamEvent) :
    ({ passage with
      stream := { passage.stream with buffered }
      accepted := passage.accepted ++ [row] } : Passage).TakesIn given rest rejected where
  rows := by
    obtain ⟨refused, length, rows⟩ := takes.rows
    -- Where rows are still wanted, none was refused before.
    obtain ⟨streaming, held⟩ := RowStream.isOpen_iff.1 opened
    have none_ : rejected = 0 := takes.wanted (by simp [streaming]) held
    obtain rfl : refused = [] := List.length_eq_zero_iff.1 (length.trans none_)
    exact ⟨[], length, by simp [rows, rowsOf, going]⟩
  ending := takes.ending
  wanted := takes.wanted

/-- A row that is refused is the next one, too. -/
theorem refuse {row : Json} (takes : passage.TakesIn given (.send row :: rest) rejected)
    (going : passage.ending = none)
    (unwanted : passage.stream.phase ≠ .closed → passage.stream.held ≠ true) :
    passage.TakesIn given rest (rejected + 1) where
  rows := by
    -- It comes behind the rows that were refused before.
    obtain ⟨refused, length, rows⟩ := takes.rows
    exact ⟨refused ++ [row], by simp [length], by simp [rows, rowsOf, going]⟩
  ending := takes.ending
  wanted unclosed held := absurd held (unwanted unclosed)

/-- A look at the stream is nothing to what is taken in. -/
theorem probe (takes : passage.TakesIn given (.probe :: rest) rejected) :
    passage.TakesIn given rest rejected :=
  ⟨takes.rows, takes.ending, takes.wanted⟩

/-- With its last action the engine ends its side as it was to do, and offers no more rows. -/
theorem stop {action : ProducerAction} (takes : passage.TakesIn given (action :: rest) rejected)
    (going : passage.ending = none) {ending : Ending} (none_ : rowsOf (action :: rest) = [])
    (ends : endingOf (action :: rest) = some ending) (rest' : List ProducerAction)
    (buffered : List StreamEvent) :
    ({ passage with
      stream := { passage.stream with buffered, producing := false }
      ending := some ending } : Passage).TakesIn given rest' rejected where
  rows := by
    -- No rows were left to be offered.
    obtain ⟨refused, length, rows⟩ := takes.rows
    exact ⟨refused, length, by simp [rows, none_, going]⟩
  ending := by
    rw [takes.ending, going, ends]
    rfl
  wanted := takes.wanted

end Passage.TakesIn

namespace LiveQuery

/-- Takes steps one after the other. -/
def run : LiveQuery → List QueryStep → List Got × LiveQuery
  | query, [] => ([], query)
  | query, step :: rest =>
    let (got, query) := step.take query
    let (later, query) := run query rest
    (got :: later, query)

/-- Whether a passage has the stream of a query whose engine was or will be `given` all its actions,
of which those in `later` are still to come; all rows are counted that the engine sent. -/
structure Follows (given later : List ProducerAction) (query : LiveQuery) (passage : Passage) :
    Prop where
  stream : passage.stream = query.stream
  sent : passage.accepted.length = query.producer.sent
  sound : passage.Sound
  takesIn : passage.TakesIn given (query.producer.actions ++ later) query.producer.rejected

/-- Whether moves lead on to a query, while the caller sees something. -/
def Reaches (given later : List ProducerAction) (passage : Passage) (seen : List Next)
    (query : LiveQuery) : Prop :=
  ∃ moves, query.Follows given later (passage.run moves)
    ∧ (passage.run moves).got = passage.got ++ seen

variable {given later : List ProducerAction} {passage : Passage} {query : LiveQuery}

/-- A query that is there already is reached without a move. -/
theorem Reaches.here (follows : query.Follows given later passage) :
    Reaches given later passage [] query :=
  ⟨[], follows, (List.append_nil _).symm⟩

/-- A query that is reached after a move is reached. -/
theorem Reaches.after (move : Move) (first : List Next) {more : List Next}
    (got : (passage.step move).got = passage.got ++ first)
    (reaches : Reaches given later (passage.step move) more query) :
    Reaches given later passage (first ++ more) query := by
  -- The move comes in front of those that lead on.
  obtain ⟨moves, follows, got'⟩ := reaches
  refine ⟨move :: moves, follows, ?_⟩
  rw [← List.append_assoc, ← got]
  exact got'

/-- Where a query is reached from one that is reached, it is reached from the beginning. -/
theorem Reaches.trans {later' : List ProducerAction} {first more : List Next} {query' : LiveQuery}
    (reaches : Reaches given later passage first query)
    (onward : ∀ {between : Passage}, query.Follows given later between →
      Reaches given later' between more query') :
    Reaches given later' passage (first ++ more) query' := by
  -- The moves are made one after the other, and what they show adds up.
  obtain ⟨moves, follows, got⟩ := reaches
  obtain ⟨moves', follows', got'⟩ := onward follows
  refine ⟨moves ++ moves', ?_, ?_⟩
  · rwa [Passage.run, List.foldl_append]
  · rw [Passage.run, List.foldl_append, ← List.append_assoc, ← got]
    exact got'

/-- A stream on which the engine goes on refuses rows only where the caller ended it or gave its
side up. -/
theorem unwanted_of_shut (sound : passage.Sound) (producing : passage.stream.producing = true)
    (shut : passage.stream.isOpen = false) :
    passage.stream.phase ≠ .closed → passage.stream.held ≠ true := by
  intro unclosed held
  -- The engine has ended its side of every other stream that is not open.
  have ended : passage.stream.phase ≠ .streaming := fun streaming =>
    absurd (RowStream.isOpen_iff.2 ⟨streaming, held⟩) (by simp [shut])
  have finished := sound.finished ended unclosed
  rw [producing] at finished
  cases finished

/-- What the engine does are moves, none of which shows the caller anything. -/
theorem Works.reaches {query' : LiveQuery} (works : Works query query') : ∀ {passage : Passage},
    query.Follows given later passage → query.stream.producing = true →
      Reaches given later passage [] query' := by
  -- Each action changes the passage for those after it, so the passage stays quantified over.
  induction works with
  | idle => exact fun follows _ => .here follows
  | waits => exact fun follows _ => .here follows
  | @sent stream row rest sent rejected after opened room _ ih =>
    intro passage follows producing
    obtain ⟨same, count, sound, takes⟩ := follows
    obtain rfl : passage.stream = stream := same
    have step : passage.step (.send row) = { passage with
        stream := { passage.stream with buffered := passage.stream.buffered ++ [.row row] }
        accepted := passage.accepted ++ [row] } := by
      have going : passage.stream.producing = true := producing
      simp [Passage.step, Passage.send, going, RowStream.offer, opened, room]
    have going := sound.ending_eq_none producing
    have sound' := sound.step (.send row)
    rw [step] at sound'
    refine .after (.send row) [] (by rw [step, List.append_nil]) ?_
    rw [step]
    refine ih ⟨rfl, ?_, sound', takes.send going opened _⟩ producing
    rw [List.length_append, count]
    rfl
  | @refused stream row rest sent rejected after shut _ ih =>
    -- A row that is refused leaves no trace in the stream.
    intro passage follows producing
    obtain ⟨same, count, sound, takes⟩ := follows
    obtain rfl : passage.stream = stream := same
    have going := sound.ending_eq_none producing
    have unwanted := unwanted_of_shut sound producing shut
    exact ih ⟨rfl, count, sound, takes.refuse going unwanted⟩ producing
  | probed _ ih =>
    intro passage follows producing
    obtain ⟨same, count, sound, takes⟩ := follows
    exact ih ⟨same, count, sound, takes.probe⟩ producing
  | @told stream action rest sent rejected event last adds opened room =>
    intro passage follows producing
    obtain ⟨same, count, sound, takes⟩ := follows
    obtain rfl : passage.stream = stream := same
    obtain ⟨none_, ending, ends, tells⟩ := ProducerAction.of_isLast last (rest ++ later)
    have step : passage.step (.stop ending) = { passage with
        stream := { passage.stream with
          buffered := passage.stream.buffered ++ [event], producing := false }
        ending := some ending } := by
      have going : passage.stream.producing = true := producing
      simp [Passage.step, Passage.stop, going, tells, adds, RowStream.offer, opened, room,
        RowStream.endProducing]
    have sound' := sound.step (.stop ending)
    rw [step] at sound'
    refine .after (.stop ending) [] (by rw [step, List.append_nil]) ?_
    rw [step]
    exact .here ⟨rfl, count, sound',
      takes.stop (sound.ending_eq_none producing) none_ ends _ _⟩
  | @untold stream action rest sent rejected last unheard =>
    intro passage follows producing
    obtain ⟨same, count, sound, takes⟩ := follows
    obtain rfl : passage.stream = stream := same
    obtain ⟨none_, ending, ends, tells⟩ := ProducerAction.of_isLast last (rest ++ later)
    have step : passage.step (.stop ending) = { passage with
        stream := passage.stream.endProducing, ending := some ending } := by
      have going : passage.stream.producing = true := producing
      rcases unheard with silent | shut
      · simp [Passage.step, Passage.stop, going, tells, silent]
      · simp only [Passage.step, Passage.stop, going, if_true, RowStream.offer, shut]
        cases ending.event? <;> rfl
    have sound' := sound.step (.stop ending)
    rw [step] at sound'
    refine .after (.stop ending) [] (by rw [step, List.append_nil]) ?_
    rw [step]
    exact .here ⟨rfl, count, sound',
      takes.stop (sound.ending_eq_none producing) none_ ends _ _⟩

/-- Where the engine can work on, it makes moves. -/
theorem reaches_pump (follows : query.Follows given later passage) :
    Reaches given later passage [] query.pump := by
  -- An engine that ended its side has nothing more to do.
  cases producing : query.stream.producing with
  | true => exact (pump_of_producing producing).reaches follows producing
  | false =>
    rw [pump_of_ended producing]
    exact .here follows

/-- The engine's work is nothing to whether the caller has its side. -/
theorem held_work (actions : List ProducerAction) :
    ∀ (stream : RowStream) (sent rejected : Nat),
      (work stream sent rejected actions).stream.held = stream.held := by
  intro stream sent rejected
  rw [(works_work actions stream sent rejected).stream_eq]

/-- Asking for a row is nothing to whether the caller has its side. -/
theorem held_next (query : LiveQuery) : query.next.2.stream.held = query.stream.held := by
  simp only [next, pump]
  split
  · rw [held_work, RowStream.held_next]
  · exact RowStream.held_next _

/-- Where the caller does something to the stream, the engine works on. -/
theorem reaches_move (move : Move) (stream : RowStream)
    (follows : query.Follows given later passage) {seen : List Next}
    (step : passage.step move = { passage with stream, got := passage.got ++ seen })
    (wanted : stream.phase ≠ .closed → stream.held = true →
      query.stream.phase ≠ .closed ∧ query.stream.held = true) :
    Reaches given later passage seen { query with stream }.pump := by
  obtain ⟨same, sent, sound, takes⟩ := follows
  have sound' := sound.step move
  rw [step] at sound'
  rw [← same] at wanted
  have moved : Follows given later { query with stream } (passage.step move) := by
    rw [step]
    exact ⟨rfl, sent, sound', takes.moved _ wanted⟩
  -- The caller's move comes first, and the engine's moves show nothing more.
  have whole := Reaches.after move seen (by rw [step]) (reaches_pump moved)
  rwa [List.append_nil] at whole

/-- A caller that asks for a row makes a move, and the engine works on. -/
theorem reaches_next (follows : query.Follows given later passage)
    (held : query.stream.held = true) :
    Reaches given later passage query.next.1.seen query.next.2 := by
  refine reaches_move .next query.stream.next.2 follows ?_ fun unclosed _ =>
    ⟨fun closed => ?_, held⟩
  · simp only [Passage.step, follows.stream, held, if_true, Passage.take]
    rfl
  · -- A stream that was closed stays so.
    rw [RowStream.next_of_ended (by simp [closed])] at unclosed
    exact unclosed closed

/-- A caller that asks for several rows makes moves, between which the engine works on. -/
theorem reaches_nextMany (count : Nat) : ∀ {passage : Passage} {query : LiveQuery},
    query.Follows given later passage → query.stream.held = true →
      Reaches given later passage ((query.nextMany count).1.flatMap Next.seen)
        (query.nextMany count).2 := by
  -- Each time the query is another one, so it stays quantified over.
  induction count with
  | zero =>
    intro passage query follows _
    exact .here follows
  | succ count ih =>
    intro passage query follows held
    exact (reaches_next follows held).trans fun follows' =>
      ih follows' ((held_next query).trans held)

/-- A caller that takes all rows makes moves, between which the engine works on. -/
theorem reaches_takeRows (turns : Nat) : ∀ {passage : Passage} {query : LiveQuery},
    query.Follows given later passage → query.stream.held = true →
      Reaches given later passage
        ((RowStream.takeRows next turns query).1.map .row
          ++ (RowStream.takeRows next turns query).2.1.seen)
        (RowStream.takeRows next turns query).2.2 := by
  induction turns with
  | zero =>
    intro passage query follows _
    exact .here follows
  | succ turns ih =>
    intro passage query follows held
    have first := reaches_next follows held
    have held' := (held_next query).trans held
    cases found : query.next with
    | mk shown query' =>
      simp only [found] at first held'
      simp only [RowStream.takeRows, found]
      -- Only a row is followed by another turn.
      cases shown with
      | row row => exact first.trans fun follows' => ih follows' held'
      | ended => exact first
      | error error => exact first
      | pending => exact first

/-- All rows together show the rows one by one, and what came after them. -/
theorem shows_collected (rows : List Json) (last : Next) :
    (Got.collected (RowStream.collected rows last)).Shows (rows.map .row ++ last.seen) := by
  -- What came after the rows decides how they are given together.
  cases last with
  | ended => rfl
  | error error => exact .inr ⟨rows, rfl⟩
  | row row => exact ⟨rows ++ [row], by simp [Next.seen]⟩
  | pending => exact ⟨rows, List.append_nil _⟩

/-- What the engine gets to do is no longer still to come. -/
theorem Follows.produce {actions : List ProducerAction}
    (follows : query.Follows given (actions ++ later) passage) :
    ({ query with producer.actions := query.producer.actions ++ actions } : LiveQuery).Follows
      given later passage := by
  obtain ⟨same, sent, sound, takes⟩ := follows
  rw [← List.append_assoc] at takes
  exact ⟨same, sent, sound, takes⟩

/-- Every step on a query makes moves, and gives what they show. -/
theorem reaches_step (step : QueryStep)
    (follows : query.Follows given (step.actions ++ later) passage) :
    ∃ seen, (step.take query).1.Shows seen
      ∧ Reaches given later passage seen (step.take query).2 := by
  -- A caller that gave its side up makes no move, and sees nothing.
  cases step with
  | produce actions => exact ⟨[], rfl, reaches_pump follows.produce⟩
  | probe => exact ⟨[], rfl, reaches_pump follows.produce⟩
  | next count =>
    simp only [QueryStep.take]
    split
    · next held => exact ⟨_, rfl, reaches_nextMany count follows held⟩
    · exact ⟨[], rfl, .here follows⟩
  | rows =>
    simp only [QueryStep.take]
    split
    · next held =>
      simp only [rows]
      split
      · exact ⟨[], .inl ⟨rfl, rfl⟩, .here follows⟩
      · exact ⟨_, shows_collected _ _, reaches_takeRows _ follows held⟩
    · exact ⟨[], rfl, .here follows⟩
  | close =>
    simp only [QueryStep.take]
    split
    · next held =>
      refine ⟨[], rfl, reaches_move .close query.stream.close follows ?_ fun unclosed _ =>
        ⟨?_, held⟩⟩
      · simp [Passage.step, follows.stream, held]
      · -- To close a stream that is closed changes nothing.
        intro closed
        simp [RowStream.close, RowStream.isStreaming, closed] at unclosed
    · exact ⟨[], rfl, .here follows⟩
  | release =>
    refine ⟨[], rfl, reaches_move .release query.stream.release follows ?_ fun _ held => ?_⟩
    · simp [Passage.step, follows.stream]
    · simp [RowStream.release] at held
  | look => exact ⟨[], rfl, .here follows⟩

/-- A run of steps on a query makes moves, and gives what they show. -/
theorem reaches_run (steps : List QueryStep) : ∀ {passage : Passage} {query : LiveQuery},
    query.Follows given (steps.flatMap QueryStep.actions ++ later) passage →
      ∃ seen, Got.AllShow (query.run steps).1 seen
        ∧ Reaches given later passage seen (query.run steps).2 := by
  -- What each step shows is a part of what is seen in all.
  induction steps with
  | nil =>
    intro passage query follows
    exact ⟨[], rfl, .here follows⟩
  | cons step rest ih =>
    intro passage query follows
    rw [List.flatMap_cons, List.append_assoc] at follows
    obtain ⟨first, shows_, moves, follows', got⟩ := reaches_step step follows
    obtain ⟨more, allShow, reaches⟩ := ih follows'
    refine ⟨first ++ more, ⟨first, more, rfl, shows_, allShow⟩, ?_⟩
    obtain ⟨moves', follows'', got'⟩ := reaches
    refine ⟨moves ++ moves', ?_, ?_⟩
    · rwa [Passage.run, List.foldl_append]
    · rw [Passage.run, List.foldl_append, ← List.append_assoc, ← got]
      exact got'

/-- What happens to a fresh query are moves, of which its caller is shown what it gets. -/
theorem exists_follows (clientContextId : String) (capacity : Nat) (steps : List QueryStep) :
    ∃ moves,
      let passage := (Passage.start clientContextId capacity).run moves
      let (gots, query) := (start (.start clientContextId capacity)).run steps
      Got.AllShow gots passage.got
        ∧ query.Follows (steps.flatMap QueryStep.actions) [] passage := by
  have follows : (start (.start clientContextId capacity)).Follows
      (steps.flatMap QueryStep.actions) (steps.flatMap QueryStep.actions ++ [])
      (.start clientContextId capacity) := by
    refine ⟨rfl, rfl, Passage.sound_start clientContextId capacity, ?_⟩
    rw [List.append_nil]
    exact .start clientContextId capacity _
  obtain ⟨seen, allShow, moves, follows', got⟩ := reaches_run steps follows
  refine ⟨moves, ?_, follows'⟩
  -- The caller saw nothing before the first step.
  rwa [got, show (Passage.start clientContextId capacity).got = [] from rfl, List.nil_append]

end LiveQuery

end AnalyticsClient
