import AnalyticsClient.Proofs.Query.Aftermath

/-! What a stream tells the log: nothing while rows may come, and one line when it ends. -/

namespace AnalyticsClient

/-- What a stream of an id has told the log, by how far its caller got with it and by how many rows
it took: nothing while more may come, and else one event that says how the stream ended. -/
def StreamPhase.Told (clientContextId : String) (rows : Nat) (log : List LogEvent) :
    StreamPhase → Prop
  | .streaming => log = []
  | .done metadata => log = [.streamCompleted clientContextId rows metadata.status]
  | .failed => (∃ error, log = [.streamFailed clientContextId rows error])
    ∨ log = [.streamCutShort clientContextId rows]
  | .closed => log = [.streamClosed clientContextId rows]

namespace RowStream

/-- Whether a stream of an id told the log what it should. -/
structure Candid (clientContextId : String) (stream : RowStream) : Prop where
  id : stream.clientContextId = clientContextId
  told : stream.phase.Told clientContextId stream.delivered stream.log

variable {clientContextId : String} {stream : RowStream}

/-- A stream has nothing to tell before anything happened. -/
theorem candid_start (clientContextId : String) (capacity : Nat) :
    (start clientContextId capacity).Candid clientContextId :=
  ⟨rfl, rfl⟩

/-- A stream from which rows may come has told nothing. -/
theorem Candid.log_eq_nil (candid : stream.Candid clientContextId)
    (streaming : stream.phase = .streaming) : stream.log = [] := by
  have told := candid.told
  rwa [streaming] at told

/-- A caller that asks for a row lets the stream tell its end, if it is one. -/
theorem Candid.next (candid : stream.Candid clientContextId) :
    stream.next.2.Candid clientContextId := by
  -- A stream that ended tells nothing more, and an open one has told nothing so far.
  by_cases streaming : stream.phase = .streaming
  · have nothing := candid.log_eq_nil streaming
    obtain ⟨rfl, -⟩ := candid
    have still : stream.isStreaming = true := by simp [isStreaming, streaming]
    have quiet (rows : Nat) : stream.phase.Told stream.clientContextId rows stream.log := by
      rwa [streaming]
    simp only [RowStream.next, still, not_true_eq_false, if_false]
    -- Each event that ends the stream adds its own line to an empty log.
    split
    · exact ⟨rfl, quiet _⟩
    · exact ⟨rfl, congrArg (· ++ _) nothing⟩
    · exact ⟨rfl, .inl ⟨_, congrArg (· ++ _) nothing⟩⟩
    · split
      · exact ⟨rfl, quiet _⟩
      · exact ⟨rfl, .inr (congrArg (· ++ _) nothing)⟩
  · rw [next_of_ended streaming]
    exact candid

/-- A caller that ends a stream lets it tell so, unless it had ended. -/
theorem Candid.close (candid : stream.Candid clientContextId) :
    stream.close.Candid clientContextId := by
  unfold RowStream.close
  split
  · next still =>
    have streaming : stream.phase = .streaming := by simpa [isStreaming] using still
    have nothing := candid.log_eq_nil streaming
    exact ⟨candid.id, candid.id ▸ congrArg (· ++ _) nothing⟩
  · exact candid

end RowStream

namespace LiveQuery

variable {clientContextId : String} {query : LiveQuery}

/-- The engine's work tells the log nothing. -/
theorem candid_pump (candid : query.stream.Candid clientContextId) :
    query.pump.stream.Candid clientContextId := by
  cases producing : query.stream.producing with
  | false =>
    -- An engine that ended its side does no more.
    rwa [pump_of_ended producing]
  | true =>
    -- The engine does nothing to a stream but add to the buffer and end its own side.
    rw [(pump_of_producing producing).stream_eq]
    exact ⟨candid.id, candid.told⟩

/-- Every step leaves a stream candid. -/
theorem candid_take (candid : query.stream.Candid clientContextId) (step : QueryStep) :
    (step.take query).2.stream.Candid clientContextId := by
  -- Only asking for rows and ending the stream may tell something; the engine just works on after.
  refine @keeps_take (fun query => query.stream.Candid clientContextId) (fun candid => ?_)
    (fun actions candid => ?_) (fun candid => ?_) (fun candid => ?_) query candid step
  · exact candid_pump candid.next
  · exact candid_pump candid
  · exact candid_pump candid.close
  · -- A handle that is dropped tells nothing.
    exact candid_pump ⟨candid.id, candid.told⟩

/-- Every run of steps leaves a stream candid. -/
theorem candid_run (steps : List QueryStep) :
    ∀ {query : LiveQuery}, query.stream.Candid clientContextId →
      (query.run steps).2.stream.Candid clientContextId := by
  induction steps with
  | nil => exact fun candid => candid
  | cons step rest ih => exact fun candid => ih (candid_take candid step)

/-- A stream does not take back what it told the log. -/
theorem log_prefix_take {capacity : Nat} (steady : query.Steady capacity)
    (candid : query.stream.Candid clientContextId) (step : QueryStep) :
    query.stream.log <+: (step.take query).2.stream.log := by
  cases opened : query.stream.isOpen with
  | false =>
    -- Once nothing is wanted any more, nothing is told any more.
    have same := (stays_take steady.settled opened step).log
    exact same ▸ List.prefix_refl _
  | true =>
    -- An open stream has told nothing so far.
    rw [candid.log_eq_nil (RowStream.isOpen_iff.1 opened).1]
    exact List.nil_prefix

end LiveQuery

end AnalyticsClient
