import AnalyticsClient.Proofs.Query.Passage

/-! Whatever the engine and the caller do, and in whatever order, a passage stays sound. -/

namespace AnalyticsClient

namespace RowStream

variable {stream : RowStream}

/-- A stream is open while it has not ended and the caller has its side. -/
theorem isOpen_iff :
    stream.isOpen = true ↔ stream.phase = .streaming ∧ stream.held = true := by
  simp [isOpen, isStreaming]

/-- A stream that is open has not ended. -/
theorem isStreaming_of_isOpen (opened : stream.isOpen = true) : stream.isStreaming = true := by
  simp [isStreaming, (isOpen_iff.1 opened).1]

/-- An event is taken where it is wanted and there is room, and comes last. -/
theorem offer_cases (stream : RowStream) (event : StreamEvent) :
    stream.isOpen = true ∧ stream.buffered.length < stream.capacity
        ∧ stream.offer event = .accepted { stream with buffered := stream.buffered ++ [event] }
      ∨ stream.isOpen = false ∧ stream.offer event = .refused
      ∨ stream.isOpen = true ∧ stream.capacity ≤ stream.buffered.length
        ∧ stream.offer event = .full := by
  simp only [offer]
  cases opened : stream.isOpen with
  | false => exact .inr (.inl ⟨rfl, by simp⟩)
  | true =>
    -- The event is wanted, so all depends on the room for it.
    by_cases room : stream.buffered.length < stream.capacity
    · exact .inl ⟨rfl, room, by simp [room]⟩
    · exact .inr (.inr ⟨rfl, Nat.not_lt.1 room, by simp [room]⟩)

/-- A stream that ended gives nothing more and stays as it is. -/
theorem next_of_ended (ended : stream.phase ≠ .streaming) : stream.next = (.ended, stream) := by
  simp [next, isStreaming, ended]

/-- A caller that ends a stream closes it, and the log is told so. -/
theorem close_of_streaming (streaming : stream.phase = .streaming) :
    stream.close = { stream with phase := .closed }.note
      (.streamClosed stream.clientContextId stream.delivered) := by
  simp [close, isStreaming, streaming]

/-- The caller has its side after it asked for a row. -/
theorem held_next (stream : RowStream) : stream.next.2.held = stream.held := by
  -- No branch touches the caller's side.
  simp only [next]
  split
  · rfl
  · split
    · rfl
    · rfl
    · rfl
    · split <;> rfl

end RowStream

namespace Passage

variable {passage : Passage}

/-- A sound passage is of the rows that were taken and those that are left. -/
theorem Sound.accepted_eq (sound : passage.Sound) :
    passage.accepted = passage.taken ++ passage.left :=
  List.prefix_iff_eq_append.1 sound.ordered |>.symm

/-- As long as the engine has its side, there is no ending. -/
theorem Sound.ending_eq_none (sound : passage.Sound)
    (producing : passage.stream.producing = true) : passage.ending = none := by
  -- The stream and the record agree on whether the engine ended its side.
  have same := sound.producing
  rw [producing] at same
  simpa using same.symm

/-- Where a caller saw a stream done or failed, the engine had ended its side. -/
theorem Sound.finished (sound : passage.Sound) (ended : passage.stream.phase ≠ .streaming)
    (unclosed : passage.stream.phase ≠ .closed) :
    passage.stream.producing = false := by
  -- Both ways to end show that the record has an ending.
  have shown := sound.shown
  rw [sound.producing]
  unfold Shown at shown
  cases phase : passage.stream.phase with
  | streaming => exact absurd phase ended
  | closed => exact absurd phase unclosed
  | done metadata =>
    simp only [phase] at shown
    rw [shown.1]
    rfl
  | failed =>
    simp only [phase] at shown
    obtain ⟨-, error, more, failed | ⟨vanished, -⟩, -⟩ := shown
    · rw [failed]
      rfl
    · rw [vanished]
      rfl

/-- What the caller got from an open stream are the rows that it took. -/
theorem Sound.got_eq (sound : passage.Sound) (opened : passage.stream.isOpen = true) :
    passage.got = passage.taken.map Next.row := by
  have shown := sound.shown
  simpa only [Shown, (RowStream.isOpen_iff.1 opened).1] using shown

/-- Nothing went wrong before anything happened. -/
theorem sound_start (clientContextId : String) (capacity : Nat) :
    (start clientContextId capacity).Sound where
  producing := rfl
  bounded := Nat.zero_le _
  delivered := rfl
  ordered := List.prefix_refl _
  buffered _ := rfl
  shown := rfl

/-- A row that the engine adds keeps a passage sound. -/
theorem Sound.send (sound : passage.Sound) (producing : passage.stream.producing = true)
    (row : Json) : (passage.send row).Sound := by
  rcases RowStream.offer_cases passage.stream (.row row)
    with ⟨opened, room, offer⟩ | ⟨-, offer⟩ | ⟨-, -, offer⟩
  · -- The row goes into the buffer, behind all others.
    have noEnd := sound.ending_eq_none producing
    have before := sound.buffered opened
    have got := sound.got_eq opened
    simp only [Passage.send, offer]
    refine ⟨sound.producing, ?_, sound.delivered, ?_, fun _ => ?_, ?_⟩
    · simp only [List.length_append, List.length_singleton]
      omega
    · exact sound.ordered.trans (List.prefix_append _ _)
    · -- The new row is the last of those that are left.
      have later : (passage.accepted ++ [row]).drop passage.taken.length
          = passage.left ++ [row] := List.drop_append_of_le_length sound.ordered.length_le
      simp only [noEnd, Option.bind_none, Option.toList_none, List.append_nil] at before ⊢
      simp only [left, taken] at later ⊢
      simp only [before, later, List.map_append, List.map_cons, List.map_nil, left, taken]
    · simpa only [Shown, (RowStream.isOpen_iff.1 opened).1, taken] using got
  · simpa only [Passage.send, offer] using sound
  · simpa only [Passage.send, offer] using sound

/-- The end of the engine's side keeps a passage sound, with the event that tells of it, if any, in
the buffer of an open stream. -/
theorem Sound.finish (sound : passage.Sound) (producing : passage.stream.producing = true)
    (ending : Ending) (last : List StreamEvent)
    (room : (passage.stream.buffered ++ last).length ≤ passage.stream.capacity)
    (told : passage.stream.isOpen = true → last = ending.event?.toList) :
    Sound { passage with
      stream := { passage.stream with buffered := passage.stream.buffered ++ last }.endProducing
      ending := some ending } where
  producing := rfl
  bounded := room
  delivered := sound.delivered
  ordered := sound.ordered
  buffered opened := by
    have opened : passage.stream.isOpen = true := opened
    have before := sound.buffered opened
    simp only [sound.ending_eq_none producing, Option.bind_none, Option.toList_none,
      List.append_nil] at before
    simp only [RowStream.endProducing, before, told opened, Option.bind_some]
    rfl
  shown := by
    have shown := sound.shown
    simp only [Shown, RowStream.endProducing, taken] at shown ⊢
    -- A stream of which the engine had not ended its side has shown no end of it.
    have noEnd := sound.ending_eq_none producing
    cases phase : passage.stream.phase with
    | streaming => simpa only [phase] using shown
    | done metadata =>
      simp only [phase, noEnd] at shown
      cases shown.1
    | failed =>
      simp only [phase, noEnd] at shown
      obtain ⟨-, error, more, impossible | ⟨impossible, -⟩, -⟩ := shown
      · cases impossible
      · cases impossible
    | closed => simpa only [phase] using shown

/-- The end of the engine's side keeps a passage sound. -/
theorem Sound.stop (sound : passage.Sound) (producing : passage.stream.producing = true)
    (ending : Ending) : (passage.stop ending).Sound := by
  have quiet := sound.finish producing ending [] (by simpa using sound.bounded)
  simp only [List.append_nil] at quiet
  simp only [Passage.stop]
  cases told : ending.event? with
  | none =>
    have nothing : [] = ending.event?.toList := by
      rw [told]
      rfl
    exact quiet fun _ => nothing
  | some event =>
    have one : [event] = ending.event?.toList := by
      rw [told]
      rfl
    rcases RowStream.offer_cases passage.stream event
      with ⟨opened, room, offer⟩ | ⟨shut, offer⟩ | ⟨-, -, offer⟩
    · simp only [offer]
      refine sound.finish producing ending [event] ?_ fun _ => one
      rw [List.length_append, List.length_singleton]
      omega
    · -- Nobody wants the event, so it need not be told.
      simp only [offer]
      refine quiet fun opened => ?_
      rw [shut] at opened
      cases opened
    · -- The engine waits, and nothing happened.
      simpa only [offer] using sound

/-- What the caller gets next from an open stream: the first row that is left or, when none is, what
shows the ending, if there is one. -/
def upcoming (passage : Passage) : Next :=
  match passage.left with
  | row :: _ => .row row
  | [] => (passage.ending.map Ending.shown).getD .pending

/-- As long as rows are left, asking for one gives the first of them. -/
theorem Sound.next_row (sound : passage.Sound) (opened : passage.stream.isOpen = true) {row : Json}
    {rest : List Json} (left : passage.left = row :: rest) :
    passage.stream.next = (.row row, { passage.stream with
      buffered := rest.map StreamEvent.row ++ (passage.ending.bind Ending.event?).toList
      delivered := passage.stream.delivered + 1 }) := by
  -- The row stands in front in the buffer.
  have streaming := RowStream.isStreaming_of_isOpen opened
  have buffered := sound.buffered opened
  simp only [left, List.map_cons, List.cons_append] at buffered
  simp [RowStream.next, streaming, buffered]

/-- Where no row is left and the engine can go on, the caller has to wait. -/
theorem Sound.next_waiting (sound : passage.Sound) (opened : passage.stream.isOpen = true)
    (left : passage.left = []) (unended : passage.ending = none) :
    passage.stream.next = (.pending, passage.stream) := by
  -- The buffer is empty, and the engine has its side.
  have streaming := RowStream.isStreaming_of_isOpen opened
  have buffered : passage.stream.buffered = [] := by
    simpa [left, unended] using sound.buffered opened
  have producing : passage.stream.producing = true := by
    simpa [unended] using sound.producing
  simp [RowStream.next, streaming, buffered, producing]

/-- Where no row is left before an ending, the caller learns of it. -/
theorem Sound.next_ending (sound : passage.Sound) (opened : passage.stream.isOpen = true)
    (left : passage.left = []) {ending : Ending} (stopped : passage.ending = some ending) :
    ∃ log, passage.stream.next
      = (ending.shown, { passage.stream with buffered := [], phase := ending.phase, log }) := by
  have streaming := RowStream.isStreaming_of_isOpen opened
  have buffered : passage.stream.buffered = ending.event?.toList := by
    simpa [left, stopped] using sound.buffered opened
  have producing : passage.stream.producing = false := by
    simpa [stopped] using sound.producing
  -- The event that tells of the ending, if any, is all that the buffer holds.
  cases ending with
  | finished metadata =>
    simp only [Ending.event?, Option.toList_some] at buffered
    simp only [RowStream.next, streaming, buffered]
    exact ⟨_, rfl⟩
  | failed error =>
    simp only [Ending.event?, Option.toList_some] at buffered
    simp only [RowStream.next, streaming, buffered]
    exact ⟨_, rfl⟩
  | vanished =>
    simp only [Ending.event?, Option.toList_none] at buffered
    simp only [RowStream.next, streaming, buffered, producing]
    exact ⟨_, by rw [← buffered]; rfl⟩

/-- What the caller gets next is what is upcoming. -/
theorem Sound.next_fst (sound : passage.Sound) (opened : passage.stream.isOpen = true) :
    passage.stream.next.1 = passage.upcoming := by
  -- There is a row, or the caller has to wait, or an ending is shown.
  cases left : passage.left with
  | cons row rest =>
    rw [sound.next_row opened left]
    simp only [upcoming, left]
  | nil =>
    cases stopped : passage.ending with
    | none =>
      rw [sound.next_waiting opened left stopped]
      simp only [upcoming, left, stopped]
      rfl
    | some ending =>
      obtain ⟨log, next⟩ := sound.next_ending opened left stopped
      rw [next]
      simp only [upcoming, left, stopped]
      rfl

/-- The rows that were taken after the caller asked for one. -/
theorem taken_take (passage : Passage) :
    passage.take.taken = passage.taken ++ passage.stream.next.1.row?.toList := by
  simp only [taken, take, List.filterMap_append]
  cases passage.stream.next.1 <;> rfl

/-- The caller takes the first of the rows that are left. -/
theorem Sound.taken_take_row (sound : passage.Sound) (opened : passage.stream.isOpen = true)
    {row : Json} {rest : List Json} (left : passage.left = row :: rest) :
    passage.take.taken = passage.taken ++ [row]
      ∧ passage.accepted = passage.take.taken ++ rest := by
  -- What was accepted is what was taken with the row, and then the rest.
  have taken : passage.take.taken = passage.taken ++ [row] := by
    rw [taken_take, sound.next_fst opened, upcoming, left]
    rfl
  exact ⟨taken, by rw [taken, sound.accepted_eq, left]; simp⟩

/-- Taking a row leaves the others to be taken. -/
theorem Sound.left_take (sound : passage.Sound) (opened : passage.stream.isOpen = true) {row : Json}
    {rest : List Json} (left : passage.left = row :: rest) : passage.take.left = rest := by
  simp only [Passage.left, show passage.take.accepted = passage.accepted from rfl]
  rw [(sound.taken_take_row opened left).2, List.drop_left]

/-- A row that the caller takes out of the buffer keeps a passage sound. -/
theorem Sound.take_row (sound : passage.Sound) (opened : passage.stream.isOpen = true) {row : Json}
    {rest : List Json} (left : passage.left = row :: rest) : passage.take.Sound := by
  -- The row goes over from those that are left to those that were taken.
  have next := sound.next_row opened left
  obtain ⟨taken, accepted⟩ := sound.taken_take_row opened left
  have buffered := sound.buffered opened
  refine ⟨?_, ?_, ?_, ?_, fun _ => ?_, ?_⟩
  · simpa only [Passage.take, next] using sound.producing
  · have bounded := sound.bounded
    simp only [buffered, left, List.map_cons, List.cons_append, List.length_cons] at bounded
    simp only [Passage.take, next]
    omega
  · rw [taken, List.length_append, List.length_singleton, ← sound.delivered]
    simp only [Passage.take, next]
  · exact ⟨rest, accepted.symm⟩
  · rw [sound.left_take opened left]
    simp only [Passage.take, next]
  · have streaming : passage.take.stream.phase = .streaming := by
      simpa only [Passage.take, next] using (RowStream.isOpen_iff.1 opened).1
    simp only [Shown, streaming, taken]
    simp only [Passage.take, next, Next.seen, sound.got_eq opened, List.map_append,
      List.map_cons, List.map_nil]

/-- A caller that learns of an ending has taken all rows, which keeps a passage sound. -/
theorem Sound.take_ending (sound : passage.Sound) (opened : passage.stream.isOpen = true)
    (left : passage.left = []) {ending : Ending} (stopped : passage.ending = some ending) :
    passage.take.Sound := by
  obtain ⟨log, next⟩ := sound.next_ending opened left stopped
  have all : passage.taken = passage.accepted := by
    rw [sound.accepted_eq, left, List.append_nil]
  have got := sound.got_eq opened
  have same : passage.take.taken = passage.taken := by
    rw [taken_take, sound.next_fst opened, upcoming, left, stopped]
    cases ending <;> exact List.append_nil _
  have after : passage.take = { passage with
      stream := { passage.stream with buffered := [], phase := ending.phase, log }
      got := passage.got ++ [ending.shown] } := by
    simp only [Passage.take, next]
    cases ending <;> rfl
  rw [after] at same ⊢
  refine ⟨sound.producing, Nat.zero_le _, ?_, ?_, fun still => ?_, ?_⟩
  · rw [same]
    exact sound.delivered
  · rw [same]
    exact sound.ordered
  · -- The stream is not open any more.
    have streaming := (RowStream.isOpen_iff.1 still).1
    cases ending <;> cases streaming
  · have shows_ : passage.got ++ [ending.shown]
        = passage.taken.map Next.row ++ [ending.shown] := by
      rw [got]
    simp only [Shown, same]
    cases ending with
    | finished metadata => exact ⟨stopped, all, 0, shows_⟩
    | failed error => exact ⟨all, error, 0, .inl stopped, shows_⟩
    | vanished => exact ⟨all, RowStream.cutShortError, 0, .inr ⟨stopped, rfl⟩, shows_⟩

/-- A caller that goes on asking after the end sees the end again, which keeps a passage sound. -/
theorem Sound.take_ended (sound : passage.Sound) (ended : passage.stream.phase ≠ .streaming) :
    passage.take.Sound := by
  have next := RowStream.next_of_ended ended
  have same : passage.take.taken = passage.taken := by
    rw [taken_take, next]
    exact List.append_nil _
  have after : passage.take = { passage with got := passage.got ++ [.ended] } := by
    simp only [Passage.take, next, Next.seen]
  rw [after] at same ⊢
  refine ⟨sound.producing, sound.bounded, ?_, ?_, fun opened => ?_, ?_⟩
  · rw [same]
    exact sound.delivered
  · rw [same]
    exact sound.ordered
  · exact absurd (RowStream.isOpen_iff.1 opened).1 ended
  · -- One more sight of the end comes after those there were.
    have shown := sound.shown
    have more : ∀ count, List.replicate count Next.ended ++ [.ended]
        = List.replicate (count + 1) .ended := fun count => List.replicate_succ'.symm
    simp only [Shown] at shown ⊢
    rw [same]
    cases phase : passage.stream.phase with
    | streaming => exact absurd phase ended
    | done metadata =>
      simp only [phase] at shown
      obtain ⟨stopped, all, count, got⟩ := shown
      exact ⟨stopped, all, count + 1, by simp [got, more]⟩
    | failed =>
      simp only [phase] at shown
      obtain ⟨all, error, count, source, got⟩ := shown
      exact ⟨all, error, count + 1, source, by simp [got, more]⟩
    | closed =>
      simp only [phase] at shown
      obtain ⟨count, got⟩ := shown
      exact ⟨count + 1, by simp [got, more]⟩

/-- A caller that asks for a row keeps a passage sound. -/
theorem Sound.take (sound : passage.Sound) (held : passage.stream.held = true) :
    passage.take.Sound := by
  by_cases streaming : passage.stream.phase = .streaming
  · have opened := RowStream.isOpen_iff.2 ⟨streaming, held⟩
    cases left : passage.left with
    | cons row rest => exact sound.take_row opened left
    | nil =>
      cases stopped : passage.ending with
      | some ending => exact sound.take_ending opened left stopped
      | none =>
        -- The caller has to wait, and nothing changes.
        have next := sound.next_waiting opened left stopped
        simpa only [Passage.take, next, Next.seen, List.append_nil] using sound
  · exact sound.take_ended streaming

/-- Several turns are a first one and, where that gives a row, the others. -/
theorem takeMany_succ (passage : Passage) (turns : Nat) :
    passage.takeMany (turns + 1)
      = match passage.stream.next.1 with
        | .row _ => passage.take.takeMany turns
        | .ended | .error _ | .pending => passage.take := by
  -- Anything but a row is the last that is seen.
  cases next : passage.stream.next with
  | mk found stream =>
    simp only [takeMany, RowStream.takeRows, take, next]
    cases found <;> simp [Next.seen]

/-- A caller that takes several rows keeps a passage sound. -/
theorem Sound.takeMany (turns : Nat) :
    ∀ {passage : Passage}, passage.Sound → passage.stream.held = true →
      (passage.takeMany turns).Sound := by
  -- Each turn changes the passage for the next one, so the passage stays quantified over.
  induction turns with
  | zero =>
    intro passage sound _
    simpa [Passage.takeMany, RowStream.takeRows, Next.seen] using sound
  | succ turns ih =>
    intro passage sound held
    have first := sound.take held
    have still : passage.take.stream.held = true := (RowStream.held_next _).trans held
    rw [takeMany_succ]
    cases passage.stream.next.1 with
    | row row => exact ih first still
    | ended => exact first
    | error error => exact first
    | pending => exact first

/-- A caller that ends the stream keeps a passage sound. -/
theorem Sound.close (sound : passage.Sound) :
    Sound { passage with stream := passage.stream.close } := by
  -- A stream that ended already stays as it is.
  by_cases streaming : passage.stream.phase = .streaming
  · rw [RowStream.close_of_streaming streaming]
    refine ⟨sound.producing, sound.bounded, sound.delivered, sound.ordered, fun opened => ?_, ?_⟩
    · exact absurd (RowStream.isOpen_iff.1 opened).1 (by simp [RowStream.note])
    · have shown := sound.shown
      simp only [Shown, streaming] at shown
      exact ⟨0, by simpa [taken] using shown⟩
  · have same : passage.stream.close = passage.stream := by
      simp [RowStream.close, RowStream.isStreaming, streaming]
    rw [same]
    exact sound

/-- A caller that gives its side up keeps a passage sound. -/
theorem Sound.release (sound : passage.Sound) :
    Sound { passage with stream := passage.stream.release } where
  -- A stream without its caller is not open, so its buffer need not fit.
  producing := sound.producing
  bounded := sound.bounded
  delivered := sound.delivered
  ordered := sound.ordered
  buffered opened := by cases (RowStream.isOpen_iff.1 opened).2
  shown := sound.shown

/-- Every move keeps a passage sound. -/
theorem Sound.step (sound : passage.Sound) (move : Move) : (passage.step move).Sound := by
  -- A side that is gone makes no move.
  cases move with
  | send row =>
    simp only [Passage.step]
    split
    · next producing => exact sound.send producing row
    · exact sound
  | stop ending =>
    simp only [Passage.step]
    split
    · next producing => exact sound.stop producing ending
    · exact sound
  | next =>
    simp only [Passage.step]
    split
    · next held => exact sound.take held
    · exact sound
  | rows =>
    simp only [Passage.step]
    split
    · next opened => exact Sound.takeMany _ sound (RowStream.isOpen_iff.1 opened).2
    · exact sound
  | close =>
    simp only [Passage.step]
    split
    · exact sound.close
    · exact sound
  | release => exact sound.release

/-- Every passage is sound. -/
theorem sound_run (clientContextId : String) (capacity : Nat) (moves : List Move) :
    ((start clientContextId capacity).run moves).Sound := by
  -- The moves made so far keep what held at the start.
  suffices kept : ∀ {passage : Passage}, passage.Sound → (passage.run moves).Sound from
    kept (sound_start clientContextId capacity)
  induction moves with
  | nil =>
    intro passage sound
    exact sound
  | cons move rest ih =>
    intro passage sound
    exact ih (sound.step move)

end Passage

end AnalyticsClient
