import AnalyticsClient.Proofs.Session.Turn

/-! The futures that callers keep: what each waits for, and what it gives. -/

namespace AnalyticsClient.Session

variable {session : Session}

@[simp] theorem parts_keep (id name : String) (handle : Handle) :
    (session.keep id handle).parts name
      = if name = id then handle.parts else session.parts name := by
  simp only [parts, keep, Dict.get?_insert]
  split <;> rfl

@[simp] theorem parts_forget (id name : String) :
    (session.forget id).parts name = if name = id then [] else session.parts name := by
  simp only [parts, forget, Dict.get?_erase]
  split <;> rfl

/-- Nothing new is waited for when a future is given up. -/
theorem mem_parts_forget {id name : String} {part : Outcome Nat}
    (mem : part ∈ (session.forget id).parts name) : part ∈ session.parts name := by
  -- Under the name given up nothing is left, and elsewhere nothing changed.
  rw [parts_forget] at mem
  split at mem
  · cases mem
  · exact mem

/-- The parts under a name are those of its handle. -/
theorem parts_eq {name : String} {handle : Handle}
    (found : session.handles.get? name = some handle) : session.parts name = handle.parts := by
  simp [parts, found]

/-- An order leaves the futures as they are. -/
theorem handles_placeAll (orders : List Order) :
    ∀ session : Session, (session.placeAll orders).handles = session.handles := by
  induction orders with
  | nil =>
    intro session
    rfl
  | cons order rest ih =>
    intro session
    -- No order touches the futures, whether it is answered at once or not.
    rw [placeAll, ih]
    cases ready : session.ready <;> simp [place, submitCommand, ready]

/-- An order makes one submission. -/
theorem length_place (order : Order) :
    (session.place order).submissions.length = session.submissions.length + 1 := by
  cases ready : session.ready <;> simp [place, submitCommand, ready]

/-- Each of several commands is refused, or gets one of the next numbers. -/
theorem opens_submitAll (id : String) (commands : List Command) :
    ∀ session : Session, ∀ part ∈ (session.submitAll commands).1,
      (Step.executeMany id commands).Opens session.config session.submissions.length part := by
  induction commands with
  | nil =>
    intro session part mem
    cases mem
  | cons command rest ih =>
    intro session part mem
    cases resolved : (Descriptor.ofCommand command).resolve with
    | error error =>
      have orders : (Step.executeMany id (command :: rest)).orders session.config
          = (Step.executeMany id rest).orders session.config := by
        simp [Step.orders, Step.calls, Call.order?, resolved]
      simp only [submitAll, submitDescriptor_eq, resolved, List.mem_cons] at mem
      -- The part is that of the first command, or one of the others.
      rcases mem with rfl | mem
      · exact ⟨_, List.mem_cons_self, resolved⟩
      · have opened := ih session part mem
        cases part with
        | ok engine =>
          simp only [Step.Opens, orders]
          exact opened
        | error error' =>
          obtain ⟨call, called, refused⟩ := opened
          exact ⟨call, List.mem_cons_of_mem _ called, refused⟩
    | ok _ =>
      have orders : ((Step.executeMany id (command :: rest)).orders session.config).length
          = ((Step.executeMany id rest).orders session.config).length + 1 := by
        simp [Step.orders, Step.calls, Call.order?, resolved]
      simp only [submitAll, submitDescriptor_eq, resolved, List.mem_cons] at mem
      rcases mem with rfl | mem
      · exact ⟨Nat.le_refl _, by omega⟩
      · have opened := ih _ part mem
        cases part with
        | ok engine =>
          -- The others count on from one number later.
          simp only [Step.Opens, config_place, length_place] at opened
          simp only [Step.Opens]
          omega
        | error error' =>
          obtain ⟨call, called, refused⟩ := opened
          exact ⟨call, List.mem_cons_of_mem _ called, refused⟩

/-- Where all parts have an outcome, each outcome is that of a part. -/
theorem exists_part_of_mapM {parts : List (Outcome Nat)} :
    ∀ {outcomes : List (Outcome Output)}, parts.mapM session.partOutcome? = some outcomes →
      ∀ outcome ∈ outcomes, ∃ part ∈ parts, session.partOutcome? part = some outcome := by
  induction parts with
  | nil =>
    intro outcomes found outcome mem
    obtain rfl : [] = outcomes := by simpa using found
    cases mem
  | cons part rest ih =>
    intro outcomes found outcome mem
    simp only [List.mapM_cons, Option.bind_eq_bind, Option.bind_eq_some_iff, Option.pure_def,
      Option.some.injEq] at found
    obtain ⟨first, here, later, there, rfl⟩ := found
    -- The outcomes stand in the order of the parts.
    rcases List.mem_cons.1 mem with rfl | mem
    · exact ⟨part, List.mem_cons_self, here⟩
    · obtain ⟨part', mem', found'⟩ := ih there outcome mem
      exact ⟨part', List.mem_cons_of_mem _ mem', found'⟩

/-- What a look at parts under a name gives, and what is kept for later. -/
structure Polled (parts : List (Outcome Nat)) (id : String) (session after : Session)
    (answer : Answer) : Prop where
  /-- What is given comes from the parts, and then nothing is kept. -/
  given : ∀ outcome ∈ answer.given, after = session
    ∧ ∃ part ∈ parts, session.partOutcome? part = some outcome
  /-- What is kept under the name are the parts. -/
  kept : ∀ name, ∀ part ∈ after.parts name,
    part ∈ session.parts name ∨ name = id ∧ part ∈ parts

/-- A look that gives nothing keeps what it looks for. -/
theorem Polled.pending (id : String) (handle : Handle) :
    Polled handle.parts id session (session.keep id handle) .pending where
  given outcome mem := by cases mem
  kept name part mem := by
    rw [parts_keep] at mem
    -- Under other names nothing changes.
    split at mem
    · next own => exact .inr ⟨own, mem⟩
    · exact .inl mem

/-- A look at the outcome of one request. -/
theorem polled_pollOne (id : String) (engine : Nat) :
    Polled [.ok engine] id session (session.pollOne id engine).2
      (session.pollOne id engine).1 := by
  -- The outcome is given if it is there, and waited for if it is not.
  simp only [pollOne]
  split
  · next outcome found =>
    refine ⟨fun given mem => ⟨rfl, .ok engine, List.mem_cons_self, ?_⟩, fun _ _ mem => .inl mem⟩
    obtain rfl := List.mem_singleton.1 mem
    exact found
  · exact .pending id (.awaited engine)

/-- A look at the outcomes of several commands. -/
theorem polled_pollMany (id : String) (parts : List (Outcome Nat)) :
    Polled parts id session (session.pollMany id parts).2 (session.pollMany id parts).1 := by
  -- All outcomes are given together, or waited for together.
  simp only [pollMany]
  split
  · next outcomes found =>
    exact ⟨fun given mem => ⟨rfl, exists_part_of_mapM found given mem⟩, fun _ _ mem => .inl mem⟩
  · exact .pending id (.awaitedMany parts)

/-- What a step gives to a caller who waits, and what callers keep after it. -/
structure Waited (step : Step) (session after : Session) (answer : Answer) : Prop where
  /-- What is given comes from what was kept under the name, of which then nothing is left, or from
  what the calls of the step open; only an outcome that was taken before is lost. -/
  given : ∀ outcome ∈ answer.given,
    (∃ name engine, step = .tryResult name
      ∧ session.handles.get? name = some (.submitted engine ⟨true⟩)
      ∧ outcome = .error PendingOperation.lostError)
    ∨ ∃ name part, step.awaited? = some name ∧ after.partOutcome? part = some outcome
      ∧ (part ∈ session.parts name ∧ after.parts name = []
        ∨ step.future? = some name
          ∧ step.Opens session.config session.submissions.length part
          ∧ ∀ other, after.parts other = session.parts other)
  /-- What is kept was kept under the same name before, or is opened by the calls of the step. -/
  kept : ∀ name, ∀ part ∈ after.parts name, part ∈ session.parts name
    ∨ step.future? = some name ∧ step.Opens session.config session.submissions.length part

/-- A step that gives nothing and keeps nothing that was not kept before. -/
theorem Waited.silent {step : Step} {after : Session} {answer : Answer}
    (silent : answer.given = [])
    (kept : ∀ name, ∀ part ∈ after.parts name, part ∈ session.parts name) :
    Waited step session after answer where
  given outcome mem := by
    rw [silent] at mem
    cases mem
  kept name part mem := .inl (kept name part mem)

/-- A step that gives nothing and changes no future. -/
theorem Waited.idle {step : Step} {after : Session} {answer : Answer} (silent : answer.given = [])
    (same : after.handles = session.handles) : Waited step session after answer := by
  refine .silent silent fun name part mem => ?_
  simpa only [parts, same] using mem

/-- A step that gives nothing and keeps under a name what its calls open. -/
theorem Waited.opening {step : Step} {after : Session} {answer : Answer} {id : String}
    {handle : Handle} (silent : answer.given = []) (own : step.future? = some id)
    (handles : after.handles = session.handles)
    (opens : ∀ part ∈ handle.parts,
      step.Opens session.config session.submissions.length part) :
    Waited step session (after.keep id handle) answer where
  given outcome mem := by
    rw [silent] at mem
    cases mem
  kept name part mem := by
    rw [parts_keep] at mem
    split at mem
    · next same => exact .inr ⟨same ▸ own, opens part mem⟩
    · exact .inl (by simpa only [parts, handles] using mem)

/-- A step that looks at once for what its calls open. -/
theorem Waited.polling {step : Step} {placed after : Session} {answer : Answer} {id : String}
    {parts : List (Outcome Nat)} (own : step.awaited? = some id) (own' : step.future? = some id)
    (handles : placed.handles = session.handles)
    (opens : ∀ part ∈ parts, step.Opens session.config session.submissions.length part)
    (polled : Polled parts id placed after answer) : Waited step session after answer where
  -- What the look finds, the calls of the step opened.
  given outcome mem := by
    obtain ⟨rfl, part, mem', found⟩ := polled.given outcome mem
    refine .inr ⟨id, part, own, found, .inr ⟨own', opens part mem', fun other => ?_⟩⟩
    simp only [Session.parts, handles]
  kept name part mem := by
    rcases polled.kept name part mem with old | ⟨rfl, new⟩
    · exact .inl (by simpa only [Session.parts, handles] using old)
    · exact .inr ⟨own', opens part new⟩

/-- A step that looks for what was kept under a name, which it keeps no longer than need be. -/
theorem Waited.taking {step : Step} {after : Session} {answer : Answer} {id : String}
    {parts : List (Outcome Nat)} (own : step.awaited? = some id)
    (held : session.parts id = parts)
    (polled : Polled parts id (session.forget id) after answer) :
    Waited step session after answer where
  -- The future is given up before the look, and kept again only if nothing was found.
  given outcome mem := by
    obtain ⟨rfl, part, mem', found⟩ := polled.given outcome mem
    exact .inr ⟨id, part, own, found, .inl ⟨held ▸ mem', by simp⟩⟩
  kept name part mem := by
    rcases polled.kept name part mem with old | ⟨rfl, new⟩
    · exact .inl (mem_parts_forget old)
    · exact .inl (held ▸ new)

/-- A step that looks once more for the outcome of one operation keeps its future, with or without
the outcome. -/
theorem waited_tryResult {id : String} {engine : Nat} {pending : PendingOperation}
    (found : session.handles.get? id = some (.submitted engine pending)) :
    Waited (.tryResult id) session (session.tryHandle id).2 (session.tryHandle id).1 := by
  have held := parts_eq found
  -- A future that is kept as it was waits for nothing new.
  have same : ∀ name, ∀ part ∈ (session.keep id (.submitted engine pending)).parts name,
      part ∈ session.parts name := by
    intro name part mem
    rw [parts_keep, ← held] at mem
    split at mem
    · next own => exact own ▸ mem
    · exact mem
  obtain ⟨taken⟩ := pending
  cases taken with
  | true =>
    have after : session.tryHandle id = (.outcome (.error PendingOperation.lostError),
        session.keep id (.submitted engine ⟨true⟩)) := by
      simp [tryHandle, found, PendingOperation.tryResult]
    rw [after]
    refine ⟨fun outcome mem => .inl ?_, fun name part mem => .inl (same name part mem)⟩
    exact ⟨id, engine, rfl, found, List.mem_singleton.1 mem⟩
  | false =>
    cases arrived : session.ledger.outcome? engine with
    | none =>
      have after : session.tryHandle id
          = (.pending, session.keep id (.submitted engine ⟨false⟩)) := by
        simp [tryHandle, found, arrived, PendingOperation.tryResult]
      rw [after]
      exact .silent rfl same
    | some outcome =>
      have after : session.tryHandle id
          = (.outcome outcome, session.keep id (.submitted engine ⟨true⟩)) := by
        simp [tryHandle, found, arrived, PendingOperation.tryResult]
      have none_left : (session.keep id (.submitted engine ⟨true⟩)).parts id = [] := by
        rw [parts_keep, if_pos rfl]
        rfl
      rw [after]
      refine ⟨fun outcome' mem => .inr ⟨id, .ok engine, rfl, ?_, .inl ⟨?_, none_left⟩⟩,
        fun name part mem => .inl ?_⟩
      · obtain rfl := List.mem_singleton.1 mem
        exact arrived
      · simp [held, Handle.parts]
      · -- Under the name nothing is kept any more, and elsewhere nothing changed.
        rw [parts_keep] at mem
        split at mem
        · cases mem
        · exact mem

/-- What a step gives that looks for the outcome of a future without waiting. -/
theorem waited_tryHandle (id : String) :
    Waited (.tryResult id) session (session.tryHandle id).2 (session.tryHandle id).1 := by
  -- Only the future of one operation can be looked at without waiting.
  cases found : session.handles.get? id with
  | none =>
    simp only [tryHandle, found]
    exact .idle rfl rfl
  | some handle =>
    cases handle with
    | submitted engine pending => exact waited_tryResult found
    | awaited engine =>
      simp only [tryHandle, found]
      exact .idle rfl rfl
    | awaitedMany parts =>
      simp only [tryHandle, found]
      exact .idle rfl rfl

/-- What a step gives that waits for a future. -/
theorem waited_awaitHandle (id : String) :
    Waited (.await id) session (session.awaitHandle id).2 (session.awaitHandle id).1 := by
  cases found : session.handles.get? id with
  | none =>
    simp only [awaitHandle, found]
    exact .idle rfl rfl
  | some handle =>
    have held := parts_eq found
    simp only [awaitHandle, found]
    cases handle with
    | awaited engine => exact .taking rfl held (polled_pollOne id engine)
    | awaitedMany parts => exact .taking rfl held (polled_pollMany id parts)
    | submitted engine pending =>
      obtain ⟨taken⟩ := pending
      cases taken with
      | true =>
        -- The outcome was taken before, and the future is given up.
        exact .silent rfl fun name part mem => mem_parts_forget mem
      | false => exact .taking rfl held (polled_pollOne id engine)

/-- A single call that is not refused opens the next number. -/
theorem opens_of_calls_eq {step : Step} {descriptor : Descriptor} {recipient : Recipient}
    {command : Command} (calls : step.calls = [⟨descriptor, recipient⟩])
    (resolved : descriptor.resolve = .ok command) (config : Config) (made : Nat) :
    step.Opens config made (.ok made) := by
  -- The one order gets the one new number.
  have one : (step.orders config).length = 1 := by
    simp [Step.orders, calls, Call.order?, resolved]
  exact ⟨Nat.le_refl _, by omega⟩

/-- What a step gives and keeps that hands a descriptor to the engine, its future kept. -/
theorem waited_submit (id : String) (descriptor : Descriptor) :
    Waited (.submit id descriptor) session (session.act (.submit id descriptor)).2
      (session.act (.submit id descriptor)).1 := by
  -- A refusal is told at once, and keeps no future.
  cases resolved : descriptor.resolve with
  | error error =>
    simp only [act, submitDescriptor_eq, resolved]
    exact .idle rfl rfl
  | ok command =>
    simp only [act, submitDescriptor_eq, resolved]
    refine .opening rfl rfl (handles_placeAll [_] session) fun part mem => ?_
    obtain rfl := List.mem_singleton.1 mem
    exact opens_of_calls_eq rfl resolved _ _

/-- What a step gives and keeps that hands a descriptor to the engine, its outcome to callbacks. -/
theorem waited_dispatch (id : String) (descriptor : Descriptor) :
    Waited (.dispatch id descriptor) session (session.act (.dispatch id descriptor)).2
      (session.act (.dispatch id descriptor)).1 := by
  -- Callbacks get the outcome, so no future is kept.
  cases resolved : descriptor.resolve with
  | error error =>
    simp only [act, submitDescriptor_eq, resolved]
    exact .idle rfl rfl
  | ok command =>
    simp only [act, submitDescriptor_eq, resolved]
    exact .idle rfl (handles_placeAll [_] session)

/-- What a step gives and keeps that waits for a command from the start. -/
theorem waited_execute (id : String) (command : Command) :
    Waited (.execute id command) session (session.act (.execute id command)).2
      (session.act (.execute id command)).1 := by
  cases resolved : (Descriptor.ofCommand command).resolve with
  | error error =>
    -- The refusal itself is the outcome.
    simp only [act, submitDescriptor_eq, resolved]
    refine ⟨fun outcome mem => .inr ?_, fun _ _ mem => .inl mem⟩
    obtain rfl := List.mem_singleton.1 mem
    exact ⟨id, .error error, rfl, rfl,
      .inr ⟨rfl, ⟨_, List.mem_cons_self, resolved⟩, fun _ => rfl⟩⟩
  | ok _ =>
    simp only [act, submitDescriptor_eq, resolved]
    refine .polling rfl rfl (handles_placeAll [_] session) (fun part mem => ?_)
      (polled_pollOne id _)
    obtain rfl := List.mem_singleton.1 mem
    exact opens_of_calls_eq rfl resolved _ _

/-- A reply gives callers nothing directly: the outcome waits in the ledger. -/
theorem waited_reply (engine : Nat) (reply : Reply Output) :
    Waited (.reply engine reply) session (session.act (.reply engine reply)).2
      (session.act (.reply engine reply)).1 := by
  -- A reply is written to the ledger, where the futures are not.
  simp only [act]
  cases answers : session.reply? engine reply with
  | none => exact .idle rfl rfl
  | some after =>
    refine .idle rfl ?_
    simp only [reply?] at answers
    split at answers
    · split at answers
      · cases answers
        rfl
      · cases answers
    · cases answers

/-- A step that opens a query leaves the futures of operations alone. -/
theorem waited_query (id statement : String) (options : RawQueryOptions) :
    Waited (.query id statement options) session
      (session.act (.query id statement options)).2
      (session.act (.query id statement options)).1 := by
  obtain ⟨ids, ledger, queryRequests, queries, after, -⟩ :=
    exists_openQuery_eq session id statement options
  have opened : session.act (.query id statement options)
      = session.openQuery id statement options := rfl
  refine .idle ?_ ?_
  · simp only [opened, openQuery]
    split <;> rfl
  · rw [opened, after]

/-- What each step gives and keeps. -/
theorem waited_act (step : Step) :
    Waited step session (session.act step).2 (session.act step).1 := by
  -- Steps that concern no future are idle, and those that let one go are silent.
  cases step with
  | submit id descriptor => exact waited_submit id descriptor
  | dispatch id descriptor => exact waited_dispatch id descriptor
  | execute id command => exact waited_execute id command
  | executeMany id commands =>
    simp only [act]
    refine .polling rfl rfl ?_ (opens_submitAll id commands session) (polled_pollMany id _)
    rw [submitAll_snd, handles_placeAll]
  | reply engine reply => exact waited_reply engine reply
  | tryResult id => exact waited_tryHandle id
  | await id => exact waited_awaitHandle id
  | cancel id =>
    simp only [act]
    split
    · exact .silent rfl fun name part mem => mem_parts_forget mem
    · exact .idle rfl rfl
  | query id statement options => exact waited_query id statement options
  | onQuery id inner =>
    simp only [act, Session.stepQuery]
    split <;> exact .idle rfl rfl

end AnalyticsClient.Session
