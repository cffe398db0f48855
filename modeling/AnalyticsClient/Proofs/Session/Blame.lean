import AnalyticsClient.Proofs.Session.Faults

/-! To what the errors go back that the steps of a session give. -/

namespace AnalyticsClient

/-- The error of an outcome, if it is one. -/
def errorOf? {α : Type} : Outcome α → Option Error
  | .ok _ => none
  | .error error => some error

/-- The error that a caller gets instead of a row, if it gets one. -/
def Next.error? : Next → Option Error
  | .error found => some found
  | .row _ | .ended | .pending => none

/-- The errors that a step on a query gives. -/
def Got.errors : Got → List Error
  | .nothing | .probed _ => []
  | .taken found => found.filterMap Next.error?
  | .collected found => (found.bind errorOf?).toList

/-- The errors in an answer. -/
def Answer.errors : Answer → List Error
  | .refused error => [error]
  | .query got _ => got.errors
  | answer => answer.given.filterMap errorOf?

/-- Whether a step makes one call, which is refused or goes to the engine. -/
def Step.isCall : Step → Bool
  | .submit _ _ | .dispatch _ _ | .execute _ _ | .query _ _ _ => true
  | .executeMany _ _ | .reply _ _ | .tryResult _ | .await _ | .cancel _ | .onQuery _ _ => false

/-- Whether a caller learns by a step what became of something that was submitted. -/
def Step.learns (step : Step) : Prop :=
  step.awaited?.isSome = true ∨ ∃ name inner, step = .onQuery name inner

/-- To what an error goes back that a step gives between two states of a session. -/
inductive Blamed (before after : Session) : Step → Error → Prop where
  /-- A call is refused, and nothing happens. -/
  | refused {step : Step} {error : Error} (call : step.isCall = true) (early : error.Early)
      (same : after = before) : Blamed before after step error
  /-- One of several commands is refused. -/
  | among {name : String} {commands : List Command} {command : Command} {error : Error}
      (mem : command ∈ commands) (fault : (Descriptor.ofCommand command).resolve = .error error)
      (early : error.Early) : Blamed before after (.executeMany name commands) error
  /-- One of several commands was refused before, and the others were waited for. -/
  | kept {name : String} {parts : List (Outcome Nat)} {error : Error}
      (held : before.handles.get? name = some (.awaitedMany parts)) (mem : .error error ∈ parts)
      (early : error.Early) : Blamed before after (.await name) error
  /-- Something failed that was submitted. -/
  | failed {step : Step} {error : Error} (learns : step.learns) (late : error.Late) :
    Blamed before after step error
  /-- All rows were asked for of a stream that had ended. -/
  | again {name : String} {query : LiveQuery} (found : before.queries.get? name = some query)
      (ended : query.stream.isStreaming = false) :
    Blamed before after (.onQuery name .rows) .alreadyQueried

/-- A call with a descriptor that does not resolve is refused. -/
theorem Blamed.of_resolve {session : Session} {step : Step} {descriptor : Descriptor}
    {fault error : Error} (call : step.isCall = true)
    (resolved : descriptor.resolve = .error fault) (mem : error ∈ [fault]) :
    Blamed session session step error := by
  obtain rfl := List.mem_singleton.1 mem
  exact .refused call (Descriptor.early_of_resolve resolved) rfl

/-- The errors among outcomes are those of the outcomes. -/
theorem mem_filterMap_errorOf? {α : Type} {outcomes : List (Outcome α)} {error : Error} :
    error ∈ outcomes.filterMap errorOf? ↔ .error error ∈ outcomes := by
  rw [List.mem_filterMap]
  constructor
  · rintro ⟨outcome, mem, same⟩
    cases outcome with
    | ok value => cases same
    | error found =>
      cases same
      exact mem
  · intro mem
    exact ⟨_, mem, rfl⟩

/-- A step on a query gives failures of the engine, and one other error where the stream ended. -/
theorem QueryStep.error_cases {step : QueryStep} {query : LiveQuery} {error : Error}
    (mem : error ∈ (step.take query).1.errors) :
    error.Late ∨ step = .rows ∧ error = .alreadyQueried ∧ query.stream.isStreaming = false := by
  cases step with
  | next count =>
    simp only [take] at mem
    split at mem
    · -- Each of the errors stands in the place of a row.
      obtain ⟨found, among, same⟩ := List.mem_filterMap.1 mem
      cases found with
      | error failure =>
        cases same
        exact .inl (LiveQuery.late_nextMany count among)
      | row row => cases same
      | ended => cases same
      | pending => cases same
    · cases mem
  | rows =>
    simp only [take] at mem
    split at mem
    · simp only [Got.errors, Option.mem_toList, Option.bind_eq_some_iff] at mem
      obtain ⟨outcome, found, same⟩ := mem
      cases outcome with
      | ok rows => cases same
      | error failure =>
        cases same
        rcases LiveQuery.rows_error found with late | ⟨rfl, ended⟩
        · exact .inl late
        · exact .inr ⟨rfl, rfl, ended⟩
    · cases mem
  | produce actions => cases mem
  | probe => cases mem
  | close => cases mem
  | release => cases mem
  | look => cases mem

namespace Session

variable {session : Session}

/-- An error that a look at parts finds is a failure of the engine, or one of the parts. -/
theorem late_of_polled {parts : List (Outcome Nat)} {id : String} {after : Session}
    {answer : Answer} {error : Error} (polled : Polled parts id session after answer)
    (late : after.ledger.Late) (mem : .error error ∈ answer.given) :
    error.Late ∨ .error error ∈ parts := by
  obtain ⟨same, part, mem', found⟩ := polled.given _ mem
  subst same
  cases part with
  | ok engine => exact .inl (late.outcome? found)
  | error refusal =>
    -- A refusal is its own outcome.
    cases found
    exact .inr mem'

/-- The errors of a look are among what it gives. -/
theorem errors_pollOne (id : String) (engine : Nat) :
    (session.pollOne id engine).1.errors
      = (session.pollOne id engine).1.given.filterMap errorOf? := by
  unfold pollOne
  split <;> rfl

/-- The errors of a look are among what it gives. -/
theorem errors_pollMany (id : String) (parts : List (Outcome Nat)) :
    (session.pollMany id parts).1.errors
      = (session.pollMany id parts).1.given.filterMap errorOf? := by
  unfold pollMany
  split <;> rfl

/-- A look at one request finds failures of the engine only. -/
theorem late_pollOne {id : String} {engine : Nat} {error : Error}
    (late : (session.pollOne id engine).2.ledger.Late)
    (mem : error ∈ (session.pollOne id engine).1.errors) : error.Late := by
  rw [errors_pollOne, mem_filterMap_errorOf?] at mem
  rcases late_of_polled (polled_pollOne id engine) late mem with failed | among
  · exact failed
  · cases List.mem_singleton.1 among

/-- A look at several commands finds failures of the engine, and the refusals among them. -/
theorem late_pollMany {id : String} {parts : List (Outcome Nat)} {error : Error}
    (late : (session.pollMany id parts).2.ledger.Late)
    (mem : error ∈ (session.pollMany id parts).1.errors) :
    error.Late ∨ .error error ∈ parts := by
  rw [errors_pollMany, mem_filterMap_errorOf?] at mem
  exact late_of_polled (polled_pollMany id parts) late mem

/-- One more look at an operation finds failures of the engine only. -/
theorem late_tryHandle {name : String} {error : Error}
    (late : (session.tryHandle name).2.ledger.Late)
    (mem : error ∈ (session.tryHandle name).1.errors) : error.Late := by
  have same : (session.tryHandle name).2.ledger = session.ledger := by
    simp only [tryHandle]
    split
    · split <;> rfl
    · rfl
  rw [same] at late
  unfold tryHandle at mem
  split at mem
  · next engine pending held =>
    obtain ⟨taken⟩ := pending
    cases taken with
    | true =>
      -- The outcome was taken before, and is lost for that.
      obtain rfl := List.mem_singleton.1 mem
      exact Error.late_engine _
    | false =>
      cases found : session.ledger.outcome? engine with
      | none => simp [PendingOperation.tryResult, found, Answer.errors, Answer.given] at mem
      | some outcome =>
        have given : error ∈ [outcome].filterMap errorOf? := by
          simp only [PendingOperation.tryResult, found] at mem
          exact mem
        rw [mem_filterMap_errorOf?] at given
        rw [← List.mem_singleton.1 given] at found
        exact late.outcome? found
  · cases mem

/-- One more step on what a caller waits for finds failures of the engine, and refusals that were
kept with it. -/
theorem blamed_await {name : String} {error : Error} {after : Session}
    (early : ∀ error, .error error ∈ session.parts name → error.Early)
    (late : (session.awaitHandle name).2.ledger.Late)
    (mem : error ∈ (session.awaitHandle name).1.errors) :
    Blamed session after (.await name) error := by
  have learns : Step.learns (.await name) := .inl rfl
  unfold awaitHandle at mem late
  cases held : session.handles.get? name with
  | none =>
    simp only [held] at mem
    cases mem
  | some handle =>
    simp only [held] at mem late
    cases handle with
    | submitted engine pending =>
      simp only at mem late
      split at mem
      · cases mem
      · next waits =>
        rw [if_neg waits] at late
        exact .failed learns (late_pollOne late mem)
    | awaited engine => exact .failed learns (late_pollOne late mem)
    | awaitedMany parts =>
      rcases late_pollMany late mem with failed | among
      · exact .failed learns failed
      · -- The refusal was there from the start.
        exact .kept held among (early error (parts_eq held ▸ among))

/-- To what the errors of a step go back, as long as all that was handed over are failures of the
engine. -/
theorem blamed_act {step : Step} {error : Error}
    (early : ∀ name error, .error error ∈ session.parts name → error.Early)
    (late : (session.act step).2.ledger.Late) (mem : error ∈ (session.act step).1.errors) :
    Blamed session (session.act step).2 step error := by
  -- A call is refused on the spot, or else has no error to give; the other steps look for what
  -- became of calls that went through.
  cases step with
  | submit name descriptor =>
    simp only [act, submitDescriptor_eq] at mem ⊢
    cases resolved : descriptor.resolve with
    | error fault =>
      simp only [resolved] at mem ⊢
      exact .of_resolve rfl resolved mem
    | ok command =>
      simp only [resolved] at mem
      cases mem
  | dispatch name descriptor =>
    simp only [act, submitDescriptor_eq] at mem ⊢
    cases resolved : descriptor.resolve with
    | error fault =>
      simp only [resolved] at mem ⊢
      exact .of_resolve rfl resolved mem
    | ok command =>
      simp only [resolved] at mem
      cases mem
  | execute name command =>
    simp only [act, submitDescriptor_eq] at mem late ⊢
    cases resolved : (Descriptor.ofCommand command).resolve with
    | error fault =>
      simp only [resolved] at mem ⊢
      exact .of_resolve rfl resolved mem
    | ok _ =>
      simp only [resolved] at mem late
      exact .failed (.inl rfl) (late_pollOne late mem)
  | executeMany name commands =>
    simp only [act] at mem late
    rcases late_pollMany late mem with failed | among
    · exact .failed (.inl rfl) failed
    · obtain ⟨call, called, fault⟩ := opens_submitAll name commands session _ among
      obtain ⟨command, mem', rfl⟩ := List.mem_map.1 called
      exact .among mem' fault (Descriptor.early_of_resolve fault)
  | reply engine reply =>
    simp only [act] at mem
    split at mem <;> cases mem
  | tryResult name => exact .failed (.inl rfl) (late_tryHandle late mem)
  | await name => exact blamed_await (early name) late mem
  | cancel name =>
    simp only [act] at mem
    split at mem <;> cases mem
  | query name statement options =>
    simp only [act] at mem ⊢
    rcases openQuery_cases session name statement options
      with ⟨-, request, query, answer, -⟩ | ⟨fault, unsendable, refused⟩
    · rw [answer] at mem
      cases mem
    · rw [refused] at mem
      obtain rfl := List.mem_singleton.1 mem
      exact .refused rfl unsendable.early (congrArg Prod.snd refused)
  | onQuery name inner =>
    simp only [act, stepQuery] at mem
    cases found : session.queries.get? name with
    | none =>
      simp only [found] at mem
      cases mem
    | some before =>
      simp only [found] at mem
      rcases QueryStep.error_cases mem with failed | ⟨rfl, rfl, ended⟩
      · exact .failed (.inr ⟨name, inner, rfl⟩) failed
      · exact .again found ended

/-- No reply is ready any more after a run. -/
theorem ready_run (turns : List Turn) :
    ∀ {session : Session}, session.ready = [] → (session.run turns).2.ready = [] := by
  -- Each step loses what was not used.
  induction turns with
  | nil => exact fun nothing => nothing
  | cons turn rest ih => exact fun _ => ih rfl

/-- To what the errors of a step go back, with the replies that are ready while it is taken. -/
theorem blamed_step {turn : Turn} {error : Error} (nothing : session.ready = [])
    (early : ∀ name error, .error error ∈ session.parts name → error.Early)
    (late : (session.step turn.1 turn.2).2.ledger.Late)
    (mem : error ∈ (session.step turn.1 turn.2).1.errors) :
    Blamed session (session.step turn.1 turn.2).2 turn.2 error := by
  obtain ⟨ready, step⟩ := turn
  have blamed : Blamed { session with ready } (Session.act { session with ready } step).2 step
      error := blamed_act early late mem
  cases blamed with
  | refused call early same =>
    -- The replies were not used, and are lost.
    have after : (session.step ready step).2 = session := by
      have lost : (session.step ready step).2
          = { (Session.act { session with ready } step).2 with ready := [] } := rfl
      rw [lost, same, ← nothing]
    exact .refused call early after
  | among listed fault early => exact .among listed fault early
  | kept held listed early => exact .kept held listed early
  | failed learns failed => exact .failed learns failed
  | again found ended => exact .again found ended

/-- A call with a descriptor that does not resolve gives its error, and nothing happens. -/
theorem step_of_resolve (nothing : session.ready = []) {descriptor : Descriptor} {error : Error}
    (resolved : descriptor.resolve = .error error) (ready : List (Reply Output)) (name : String) :
    session.step ready (.submit name descriptor) = (.refused error, session)
      ∧ session.step ready (.dispatch name descriptor) = (.refused error, session) := by
  have unchanged : { session with ready := [] } = session := by rw [← nothing]
  simp only [Session.step, act, submitDescriptor_eq, resolved]
  exact ⟨congrArg (Prod.mk _) unchanged, congrArg (Prod.mk _) unchanged⟩

/-- Several commands do what those among them do that are not refused. -/
theorem submitAll_filter (commands : List Command) (session : Session) :
    (session.submitAll commands).2 = (session.submitAll (commands.filter fun command =>
      (Descriptor.ofCommand command).resolve.isOk)).2 := by
  rw [submitAll_snd, submitAll_snd]
  congr 1
  induction commands with
  | nil => rfl
  | cons command rest ih =>
    -- A refused command has no order, so leaving it out makes no difference.
    cases resolved : (Descriptor.ofCommand command).resolve with
    | error fault => simpa [Call.order?, resolved, Except.isOk, Except.toBool] using ih
    | ok _ => simpa [Call.order?, resolved, Except.isOk, Except.toBool] using ih

/-- What is refused, and which errors there are when, of a session and of each step in it. -/
theorem errors_split (config : Config) (id : Nat → String) :
    (∀ descriptor error, Descriptor.resolve descriptor = .error error → error.Early)
      ∧ (∀ options error, RawQueryOptions.resolve options = .error error → error.Early)
      ∧ (∀ session statement options error,
        submitQuery session statement options = .error error → error.Early)
      ∧ (∀ session commands, (submitAll session commands).2
        = (submitAll session (commands.filter fun command =>
          (Descriptor.ofCommand command).resolve.isOk)).2)
      ∧ ∀ (earlier : List Turn) (turn : Turn),
        let before := ((start config id).run earlier).2
        let (answer, after) := before.step turn.1 turn.2
        (∀ error ∈ answer.errors, Blamed before after turn.2 error) ∧ after.ledger.Late
          ∧ ∀ name descriptor error, Descriptor.resolve descriptor = .error error →
            before.step turn.1 (.submit name descriptor) = (.refused error, before)
              ∧ before.step turn.1 (.dispatch name descriptor) = (.refused error, before) := by
  refine ⟨?_, ?_, ?_, ?_, ?_⟩
  · exact fun _ _ refused => Descriptor.early_of_resolve refused
  · exact fun _ _ refused => RawQueryOptions.early_of_resolve refused
  · exact fun _ _ _ _ refused => early_of_submitQuery refused
  · exact fun session commands => submitAll_filter commands session
  · intro earlier turn
    -- The step ends a run of its own, of which the ledger is known.
    have late := late_run config id (earlier ++ [turn])
    rw [run_append_cons] at late
    have nothing : ((start config id).run earlier).2.ready = [] := ready_run earlier rfl
    have backed := (allBacked_start config id earlier).2
    refine ⟨fun error mem => blamed_step nothing (fun name error kept => ?_) late mem, late, ?_⟩
    · obtain ⟨descriptor, resolved⟩ := backed name _ kept
      exact Descriptor.early_of_resolve resolved
    · exact fun name descriptor error resolved => step_of_resolve nothing resolved turn.1 name

end Session

end AnalyticsClient
