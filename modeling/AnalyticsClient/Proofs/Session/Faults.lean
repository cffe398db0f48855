import AnalyticsClient.Proofs.Query.Admission
import AnalyticsClient.Proofs.Session.Handover

/-! Which errors there are when: faults of the caller before anything happens, and failures of the
engine only after something was submitted. -/

namespace AnalyticsClient

namespace Error

/-- Whether an error tells of a fault of the caller, and of nothing that the engine did. -/
def Early (error : Error) : Prop := error.isValidation = true ∧ error.engineKind? = none

/-- Whether an error tells of what the engine did, and of no fault of the caller. -/
def Late (error : Error) : Prop :=
  (∃ failure, error = .engine failure) ∧ error.isValidation = false

/-- Every failure of the engine is late. -/
theorem late_engine (failure : EngineError) : Late (.engine failure) := ⟨⟨failure, rfl⟩, rfl⟩

end Error

/-! ## Faults that are found before anything happens -/

/-- Arguments that cannot be read are a fault of the caller. -/
theorem Descriptor.early_of_readArguments {descriptor : Descriptor} {error : Error}
    (refused : descriptor.readArguments = .error error) : error.Early := by
  -- Given arguments belong to no known operation, or are not what that needs.
  have given : ∀ {operation : Operation} {payload : Json},
      readGiven operation payload = .error error → error.Early := by
    intro operation payload failed
    unfold readGiven at failed
    split at failed
    · cases failed
      exact ⟨rfl, rfl⟩
    · split at failed
      · cases failed
      · cases failed
        exact ⟨rfl, rfl⟩
  simp only [readArguments] at refused
  split at refused
  · exact given refused
  · -- The arguments may be left out, but if they are there they count.
    split at refused
    · cases refused
    · split at refused
      · exact given refused
      · split at refused
        · cases refused
        · cases refused
          exact ⟨rfl, rfl⟩

/-- A descriptor is refused for a fault of the caller only. -/
theorem Descriptor.early_of_resolve {descriptor : Descriptor} {error : Error}
    (refused : descriptor.resolve = .error error) : error.Early := by
  unfold resolve at refused
  cases read : descriptor.readArguments with
  | error fault =>
    rw [read] at refused
    cases refused
    exact early_of_readArguments read
  | ok command =>
    -- The arguments were read, but do not go together.
    rw [read] at refused
    simp only [bind, Except.bind] at refused
    split at refused
    · cases refused
    · cases refused
      exact ⟨rfl, rfl⟩

/-- The first fault of options is a fault of the caller. -/
theorem RawQueryOptions.FirstFault.early {options : RawQueryOptions} {error : Error}
    (fault : options.FirstFault error) : error.Early := by
  cases fault <;> exact ⟨rfl, rfl⟩

/-- Options are refused for a fault of the caller only. -/
theorem RawQueryOptions.early_of_resolve {options : RawQueryOptions} {error : Error}
    (refused : options.resolve = .error error) : error.Early := by
  rcases options.resolve_cases with ⟨_, _, _, -, -, -, resolved⟩ | ⟨fault, first, failed⟩
  · rw [resolved] at refused
    cases refused
  · rw [failed] at refused
    cases refused
    exact first.early

/-- What is wrong with a query that cannot be sent is a fault of the caller. -/
theorem Unsendable.early {options : RawQueryOptions} {statement : String} {error : Error}
    (fault : Unsendable options statement error) : error.Early := by
  cases fault with
  | options fault => exact fault.early
  | statement => exact ⟨rfl, rfl⟩

/-- A statement is refused for a fault of the caller only. -/
theorem Session.early_of_submitQuery {session : Session} {statement : String}
    {options : QueryOptions} {error : Error}
    (refused : session.submitQuery statement options = .error error) : error.Early := by
  unfold submitQuery at refused
  split at refused
  · cases refused
    exact ⟨rfl, rfl⟩
  · cases refused

/-! ## Failures that follow something that was submitted -/

/-- What a submission hands over as an error is a failure of the engine. -/
theorem Submission.late_settled {submission : Submission} {reply : Reply Output} {error : Error}
    (settled : submission.settled reply = .error error) : error.Late := by
  -- An output that passes its check is no error.
  have passes : ∀ {operation : Operation} {id : String} {output : Output},
      checked operation id (.ok output) = .error error → error.Late := by
    intro operation id output failed
    simp only [checked] at failed
    split at failed
    · cases failed
    · cases failed
      exact Error.late_engine _
  simp only [Submission.settled] at settled
  cases reply with
  | succeed value => exact passes settled
  | fail failure =>
    cases settled
    exact Error.late_engine _
  | complete result =>
    cases result with
    | error failure =>
      cases settled
      exact Error.late_engine _
    | ok value => exact passes settled
  | release =>
    cases settled
    exact Error.late_engine _

/-- Whether all errors that were handed over are failures of the engine. -/
def Ledger.Late (ledger : Ledger) : Prop :=
  ∀ delivery ∈ ledger.deliveries, ∀ error, delivery.outcome = .error error → error.Late

/-- An error that is found in the ledger was handed over. -/
theorem Ledger.Late.outcome? {ledger : Ledger} (late : ledger.Late) {engine : Nat} {error : Error}
    (found : ledger.outcome? engine = some (.error error)) : error.Late := by
  unfold Ledger.outcome? at found
  obtain ⟨delivery, found, outcome⟩ := Option.map_eq_some_iff.1 found
  exact late delivery (List.mem_of_find?_eq_some found) error outcome

/-- All errors that a run hands over are failures of the engine. -/
theorem Session.late_run (config : Config) (id : Nat → String) (turns : List Turn) :
    ((start config id).run turns).2.ledger.Late := by
  intro delivery mem error failed
  obtain ⟨submission, reply, -, -, same⟩ := exists_delivery_eq config id turns mem
  rw [same] at failed
  exact Submission.late_settled failed

/-- The error that a stream gives in place of a row is a failure of the engine. -/
theorem RowStream.late_next {stream : RowStream} {error : Error}
    (found : stream.next.1 = .error error) : error.Late := by
  unfold RowStream.next at found
  split at found
  · cases found
  · split at found
    · cases found
    · cases found
    · cases found
      exact Error.late_engine _
    · split at found
      · cases found
      · -- The stream ended with nothing, which counts as a failure.
        cases found
        exact Error.late_engine _

namespace LiveQuery

/-- The same holds however often a row is asked for. -/
theorem late_nextMany {error : Error} (count : Nat) :
    ∀ {query : LiveQuery}, .error error ∈ (query.nextMany count).1 → error.Late := by
  -- Each of the answers comes from a row that was asked for.
  induction count with
  | zero =>
    intro query mem
    cases mem
  | succ count ih =>
    intro query mem
    rcases List.mem_cons.1 mem with here | later
    · exact RowStream.late_next here.symm
    · exact ih later

/-- The same holds for what comes behind the rows that were taken. -/
theorem late_takeRows {error : Error} (turns : Nat) :
    ∀ {query : LiveQuery}, (RowStream.takeRows next turns query).2.1 = .error error →
      error.Late := by
  -- The faults come from the rows that are asked for, one at each turn.
  induction turns with
  | zero =>
    intro query last
    cases last
  | succ turns ih =>
    intro query last
    unfold RowStream.takeRows at last
    split at last
    · exact ih last
    · next found =>
      have first : query.next.1 = .error error := by
        rw [found]
        exact last
      exact RowStream.late_next first

/-- Taking all rows fails with a failure of the engine, or because the stream has ended. -/
theorem rows_error {query : LiveQuery} {error : Error}
    (failed : query.rows.1 = some (.error error)) :
    error.Late ∨ error = .alreadyQueried ∧ query.stream.isStreaming = false := by
  simp only [rows] at failed
  split at failed
  · next ended =>
    cases failed
    exact .inr ⟨rfl, by simpa using ended⟩
  · -- The error is what came behind the rows.
    have behind := @late_takeRows error
      (query.stream.buffered.length + query.producer.actions.length + 1) query
    generalize (RowStream.takeRows next _ query).2.1 = last at failed behind
    cases last with
    | error found =>
      cases failed
      exact .inl (behind rfl)
    | ended => cases failed
    | row row => cases failed
    | pending => cases failed

end LiveQuery

end AnalyticsClient
