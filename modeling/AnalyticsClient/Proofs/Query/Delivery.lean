import AnalyticsClient.Proofs.Query.Aftermath

/-! What a caller can rely on at any point of a stream, whatever happened before. -/

namespace AnalyticsClient.Passage

variable {passage : Passage}

/-- An open stream from which a row was taken is open still. -/
theorem Sound.isOpen_take (sound : passage.Sound) (opened : passage.stream.isOpen = true)
    {row : Json} {rest : List Json} (left : passage.left = row :: rest) :
    passage.take.stream.isOpen = true := by
  -- Taking a row moves the buffer on, and neither side goes.
  have next := sound.next_row opened left
  refine RowStream.isOpen_iff.2 ?_
  simpa only [Passage.take, next] using RowStream.isOpen_iff.1 opened

/-- Enough turns take all rows that are left, and then show the ending, if there is one. -/
theorem Sound.takeRows_eq (turns : Nat) :
    ∀ {passage : Passage}, passage.Sound → passage.stream.isOpen = true →
      passage.left.length < turns →
      (RowStream.takeRows RowStream.next turns passage.stream).1 = passage.left
        ∧ (RowStream.takeRows RowStream.next turns passage.stream).2.1
          = (passage.ending.map Ending.shown).getD .pending := by
  induction turns with
  | zero =>
    intro passage _ _ short
    exact absurd short (Nat.not_lt_zero _)
  | succ turns ih =>
    intro passage sound opened short
    have found := sound.next_fst opened
    have sound' := sound.take (RowStream.isOpen_iff.1 opened).2
    have after : passage.take.stream = passage.stream.next.2 := rfl
    have unmoved : passage.take.ending = passage.ending := rfl
    cases next : passage.stream.next with
    | mk found' stream =>
      simp only [next] at found after
      subst found
      simp only [RowStream.takeRows, next]
      cases left : passage.left with
      | cons row rest =>
        -- The first turn takes the first row, and the others are left for the other turns.
        rw [left, List.length_cons] at short
        have rest_eq := sound.left_take opened left
        have short' : passage.take.left.length < turns := by
          rw [rest_eq]
          omega
        have later := ih sound' (sound.isOpen_take opened left) short'
        rw [rest_eq, after, unmoved] at later
        simp only [upcoming, left, later, and_self]
      | nil =>
        -- No row is left, so the first turn is the last.
        cases ending : passage.ending with
        | none =>
          simp only [upcoming, left, ending]
          exact ⟨rfl, rfl⟩
        | some ending' =>
          simp only [upcoming, left, ending]
          cases ending' <;> exact ⟨rfl, rfl⟩

/-- The buffer of an open stream holds at least the rows that are left. -/
theorem Sound.length_left_le (sound : passage.Sound) (opened : passage.stream.isOpen = true) :
    passage.left.length ≤ passage.stream.buffered.length := by
  rw [sound.buffered opened, List.length_append, List.length_map]
  exact Nat.le_add_right _ _

/-- All rows of an open stream are those that are left, unless the engine can still go on. -/
theorem Sound.rows_fst (sound : passage.Sound) (opened : passage.stream.isOpen = true) :
    passage.stream.rows.1 = passage.ending.map (Ending.collected passage.left) := by
  -- There are turns enough for all that is in the buffer.
  have short : passage.left.length < passage.stream.buffered.length + 1 :=
    Nat.lt_succ_of_le (sound.length_left_le opened)
  obtain ⟨rows, last⟩ := sound.takeRows_eq _ opened short
  have streaming := RowStream.isStreaming_of_isOpen opened
  simp only [RowStream.rows, streaming, not_true_eq_false, if_false]
  rw [rows, last]
  cases passage.ending with
  | none => rfl
  | some ending => cases ending <;> rfl

/-- The end is something that the caller sees only where there is one. -/
theorem Sound.ended_mem (sound : passage.Sound) (seen : .ended ∈ passage.got) :
    passage.stream.phase ≠ .streaming := by
  -- Before the end the caller has got rows only.
  intro streaming
  have shown := sound.shown
  simp only [Shown, streaming] at shown
  rw [shown] at seen
  simp at seen

/-- A move does nothing to how a stream ended, and takes no row out of it. -/
theorem phase_step (ended : passage.stream.phase ≠ .streaming) (move : Move) :
    (passage.step move).stream.phase = passage.stream.phase
      ∧ (passage.step move).taken = passage.taken := by
  -- Nothing is wanted any more, so the engine can add nothing.
  have shut : passage.stream.isOpen = false := by
    simp [RowStream.isOpen, RowStream.isStreaming, ended]
  have refused : ∀ event, passage.stream.offer event = .refused := by
    intro event
    simp [RowStream.offer, shut]
  cases move with
  | send row =>
    simp only [step, send, refused]
    split <;> exact ⟨rfl, rfl⟩
  | stop ending =>
    simp only [step, stop, refused]
    split
    · split <;> exact ⟨rfl, rfl⟩
    · exact ⟨rfl, rfl⟩
  | next =>
    simp only [step]
    split
    · -- The caller sees the end again, which is no row.
      refine ⟨by simp only [take, RowStream.next_of_ended ended], ?_⟩
      rw [taken_take, RowStream.next_of_ended ended]
      exact List.append_nil _
    · exact ⟨rfl, rfl⟩
  | rows =>
    simp only [step, shut]
    exact ⟨rfl, rfl⟩
  | close =>
    simp only [step, RowStream.close, RowStream.isStreaming, ended]
    split <;> exact ⟨rfl, rfl⟩
  | release => exact ⟨rfl, rfl⟩

/-- Whatever happens later, a stream stays ended as it ended. -/
theorem phase_run (moves : List Move) :
    ∀ {passage : Passage}, passage.stream.phase ≠ .streaming →
      (passage.run moves).stream.phase = passage.stream.phase
        ∧ (passage.run moves).taken = passage.taken := by
  -- The moves come one after the other, and none of them undoes the end.
  induction moves with
  | nil =>
    intro passage _
    exact ⟨rfl, rfl⟩
  | cons move rest ih =>
    intro passage ended
    obtain ⟨phase, taken⟩ := phase_step ended move
    have still : (passage.step move).stream.phase ≠ .streaming := by
      rw [phase]
      exact ended
    have later := ih still
    rw [phase, taken] at later
    exact later

/-- What a caller can rely on at a point of a passage. -/
structure Reliable (passage : Passage) : Prop where
  /-- Rows are taken in the order in which they were accepted, none lost and none twice. -/
  ordered : passage.taken <+: passage.accepted
  counted : passage.stream.delivered = passage.taken.length
  /-- What was accepted and is still to be taken never exceeds the size of the buffer. -/
  bounded : passage.stream.buffered.length ≤ passage.stream.capacity
  /-- All rows were taken before the end is seen, unless the caller ended the stream. -/
  complete : .ended ∈ passage.got → passage.stream.phase ≠ .closed →
    passage.taken = passage.accepted
  /-- A good end shows as nothing more to come, a bad one as one error before that. -/
  shown : passage.Shown
  /-- The metadata is that of the good end, once that was seen, and there is none otherwise. -/
  metadata : ∀ metadata, passage.stream.metadata? = some metadata
    ↔ passage.ending = some (.finished metadata) ∧ .ended ∈ passage.got
      ∧ passage.stream.phase ≠ .closed
  /-- The rows that are left come next, one by one, and then the ending. -/
  next : passage.stream.isOpen = true → passage.stream.next.1 = passage.upcoming
  /-- Taken together, the rows that are left come at once, with the error of a bad end instead. -/
  rows : passage.stream.isOpen = true →
    passage.stream.rows.1 = passage.ending.map (Ending.collected passage.left)
  /-- A caller that closes the stream before it sees an end ends it. -/
  closes : passage.stream.isOpen = true → (passage.step .close).stream.phase = .closed
  /-- After the end nothing comes any more. -/
  ended : passage.stream.phase ≠ .streaming → passage.stream.next.1 = .ended
    ∧ passage.stream.rows.1 = some (.error .alreadyQueried)
  /-- Nothing that happens later undoes an end, or adds to the rows that were taken before it. -/
  lasting : passage.stream.phase ≠ .streaming → ∀ later,
    (passage.run later).stream.phase = passage.stream.phase
      ∧ (passage.run later).stream.metadata? = passage.stream.metadata?
      ∧ (passage.run later).taken = passage.taken

/-- A stream that has metadata is done with it. -/
theorem metadata?_eq_some {stream : RowStream} {metadata : QueryMetadata} :
    stream.metadata? = some metadata ↔ stream.phase = .done metadata := by
  simp only [RowStream.metadata?]
  cases stream.phase <;> simp

/-- All that a caller relies on follows from soundness. -/
theorem Sound.reliable (sound : passage.Sound) : passage.Reliable where
  ordered := sound.ordered
  counted := sound.delivered
  bounded := sound.bounded
  complete seen unclosed := by
    -- Only a stream that is done or failed shows an end without being closed.
    have shown := sound.shown
    simp only [Shown] at shown
    cases phase : passage.stream.phase with
    | streaming => exact absurd phase (sound.ended_mem seen)
    | done metadata =>
      simp only [phase] at shown
      exact shown.2.1
    | failed =>
      simp only [phase] at shown
      exact shown.1
    | closed => exact absurd phase unclosed
  shown := sound.shown
  metadata metadata := by
    rw [metadata?_eq_some]
    have shown := sound.shown
    simp only [Shown] at shown
    constructor
    · intro phase
      simp only [phase] at shown
      obtain ⟨stopped, -, more, got⟩ := shown
      exact ⟨stopped, by simp [got], by simp [phase]⟩
    · intro holds
      obtain ⟨stopped, seen, unclosed⟩ := holds
      cases phase : passage.stream.phase with
      | streaming => exact absurd phase (sound.ended_mem seen)
      | done metadata' =>
        simp only [phase, stopped] at shown
        cases shown.1
        rfl
      | failed =>
        -- The ending was a good one, and a failure needs another.
        simp only [phase, stopped] at shown
        obtain ⟨-, error, more, impossible | ⟨impossible, -⟩, -⟩ := shown
        · cases impossible
        · cases impossible
      | closed => exact absurd phase unclosed
  next := sound.next_fst
  rows := sound.rows_fst
  closes opened := by
    obtain ⟨streaming, held⟩ := RowStream.isOpen_iff.1 opened
    simp only [Passage.step, held, if_true, RowStream.close_of_streaming streaming]
    rfl
  ended past := by
    rw [RowStream.next_of_ended past]
    simp [RowStream.rows, RowStream.isStreaming, past]
  lasting ended later := by
    obtain ⟨phase, taken⟩ := phase_run later ended
    exact ⟨phase, by simp only [RowStream.metadata?, phase], taken⟩

/-- A stream can be relied on whatever its size and whatever happens, and what happens to a query in
flight is no more than that: the engine's rows go into its stream in their order, and then the
ending; the engine stands still only where it has nothing to do or finds no room; and the caller of
an open stream gets what comes next, or closes it. -/
theorem stream_reliable (clientContextId : String) (capacity : Nat) :
    (∀ moves, ((start clientContextId capacity).run moves).Reliable)
      ∧ ∀ steps, ∃ moves,
        let passage := (start clientContextId capacity).run moves
        let (gots, query) := (LiveQuery.start (.start clientContextId capacity)).run steps
        passage.stream = query.stream ∧ passage.accepted.length = query.producer.sent
          ∧ Got.AllShow gots passage.got
          ∧ passage.TakesIn (steps.flatMap QueryStep.actions) query.producer.actions
            query.producer.rejected
          ∧ query.Settled
          ∧ (query.stream.isOpen = true → query.next.1 = passage.upcoming
            ∧ (QueryStep.close.take query).2.stream.phase = .closed) := by
  refine ⟨fun moves => (sound_run clientContextId capacity moves).reliable, fun steps => ?_⟩
  have steady := (LiveQuery.steady_start clientContextId capacity).run steps
  obtain ⟨moves, allShow, stream, sent, sound, takesIn⟩ :=
    LiveQuery.exists_follows clientContextId capacity steps
  rw [List.append_nil] at takesIn
  refine ⟨moves, stream, sent, allShow, takesIn, steady.settled, fun opened => ⟨?_, ?_⟩⟩
  · rw [← stream] at opened
    -- The engine goes on only after the caller got its row.
    have given := sound.next_fst opened
    rwa [stream] at given
  · exact LiveQuery.phase_take_close opened

end AnalyticsClient.Passage
