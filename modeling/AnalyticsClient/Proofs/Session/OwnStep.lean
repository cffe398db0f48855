import AnalyticsClient.Proofs.Session.Mirror

/-! The same step of one party, taken in two sessions in which the party sees the same. -/

namespace AnalyticsClient.Session

/-- The numbers of the next requests of two sessions, paired in order. -/
def paired (made made' count : Nat) : List (Nat × Nat) :=
  (List.range count).map fun place => (made + place, made' + place)

variable {made made' count : Nat}

theorem map_fst_paired : (paired made made' count).map Prod.fst = List.range' made count := by
  simp only [paired, List.map_map, List.range'_eq_map_range]
  rfl

theorem map_snd_paired : (paired made made' count).map Prod.snd = List.range' made' count := by
  simp only [paired, List.map_map, List.range'_eq_map_range]
  rfl

/-- Numbers that follow one another are paired in turn. -/
theorem zip_range' : (List.range' made count).zip (List.range' made' count)
    = paired made made' count :=
  (List.zip_of_prod map_fst_paired map_snd_paired).symm

theorem mem_paired {pair : Nat × Nat} :
    pair ∈ paired made made' count ↔ ∃ place < count, (made + place, made' + place) = pair := by
  simp only [paired, List.mem_map, List.mem_range]

theorem paired_zero : paired made made' 0 = [] := rfl

/-- The first of several numbers is paired with the first. -/
theorem head_mem_paired : (made, made') ∈ paired made made' (count + 1) :=
  mem_paired.2 ⟨0, Nat.succ_pos count, rfl⟩

/-- The others are paired as well. -/
theorem tail_subset_paired :
    paired (made + 1) (made' + 1) count ⊆ paired made made' (count + 1) := by
  intro pair mem
  obtain ⟨place, within, rfl⟩ := mem_paired.1 mem
  refine mem_paired.2 ⟨place + 1, Nat.succ_lt_succ within, ?_⟩
  simp only [Prod.mk.injEq]
  omega

variable {R : String → String → Prop} {party : Party} {pairs : List (Nat × Nat)} {a b : Session}

variable (R party) in
/-- Whether two steps give alike, and leave the party seeing the same. -/
structure Concur (pairs : List (Nat × Nat)) (one other : Answer × Session) : Prop where
  answers : one.1.Alike R other.1
  after : Mirrors R party pairs one.2 other.2

/-- The paired requests together with those that a step makes in both sessions. -/
abbrev grown (pairs : List (Nat × Nat)) (a b : Session) (step : Step) : List (Nat × Nat) :=
  pairs ++ paired a.submissions.length b.submissions.length (step.orders a.config).length

variable (R) in
/-- Whether two sessions are ready alike for several orders: the ids that are drawn for them are
related, and those that are replied to at once get the same replies. -/
structure Primed (count : Nat) (a b : Session) : Prop where
  ids : ∀ place < count, R (a.ids.id (a.ids.drawn + place)) (b.ids.id (b.ids.drawn + place))
  ready : a.ready.take count = b.ready.take count

/-- The replies that are ready for paired requests are the same. -/
theorem readyFor_paired {ready ready' : List (Reply Output)}
    (same : ready.take count = ready'.take count) {pair : Nat × Nat}
    (mem : pair.1 < made ∧ pair.2 < made' ∨ pair ∈ paired made made' count) :
    readyFor ready made count pair.1 = readyFor ready' made' count pair.2 := by
  rcases mem with ⟨below, below'⟩ | mem
  · -- A request that was made before is given none of them.
    simp only [readyFor]
    rw [if_neg (by omega), if_neg (by omega)]
  · -- A new one is given the reply of its place, if there are as many.
    obtain ⟨place, within, rfl⟩ := mem_paired.1 mem
    have here := congrArg (·[place]?) same
    simp only [List.getElem?_take, if_pos within] at here
    simp only [readyFor, Nat.add_sub_cancel_left]
    rw [if_pos (by omega), if_pos (by omega), here]

/-- A step that places no orders pairs no more requests. -/
theorem Concur.unpaired {one other : Answer × Session} (concur : Concur R party pairs one other)
    {orders : List Order} (none_ : orders = []) :
    Concur R party (pairs ++ paired made made' orders.length) one other := by
  rw [none_, List.length_nil, paired_zero, List.append_nil]
  exact concur

/-- A reply to a request that was made is taken if the request is held. -/
theorem act_reply {session : Session} {engine : Nat}
    (made : engine < session.submissions.length) (reply : Reply Output) :
    session.act (.reply engine reply)
      = (if engine ∈ session.held then .done else .gone,
          (session.reply? engine reply).getD session) := by
  simp only [act, reply?, List.getElem?_eq_getElem made]
  -- A request that is not held was answered before.
  by_cases held : engine ∈ session.held
  · simp only [if_pos held, Option.getD_some]
  · simp only [if_neg held, Option.getD_none]

namespace Mirrors

/-- The same orders under related ids, answered at once by the same replies, are paired. -/
theorem placeAll (mirrors : Mirrors R party pairs a b) (orders : List Order)
    (primed : Primed R orders.length a b) :
    Mirrors R party (pairs ++ paired a.submissions.length b.submissions.length orders.length)
      (a.placeAll orders) (b.placeAll orders) := by
  have first := Advance.placeAll orders mirrors.sound.held
  have second := Advance.placeAll orders mirrors.sound'.held
  refine mirrors.grow first second ?_ ?_ ?_ ?_ ?_ ?_ ?_
  · intro pair mem
    obtain ⟨place, -, rfl⟩ := mem_paired.1 mem
    exact ⟨Nat.le_add_right _ _, Nat.le_add_right _ _⟩
  · rw [map_fst_paired]
    exact List.nodup_range'
  · rw [map_snd_paired]
    exact List.nodup_range'
  · -- Each order is submitted in both sessions, under the id that is drawn for it there.
    intro pair mem
    obtain ⟨place, within, rfl⟩ := mem_paired.1 mem
    refine ⟨orders[place].submission (a.ids.id (a.ids.drawn + place)),
      orders[place].submission (b.ids.id (b.ids.drawn + place)), ?_, ?_, rfl,
      primed.ids place within⟩
    · simp [(placeAll_ids orders a).2, within]
    · simp [(placeAll_ids orders b).2, within]
  · -- Requests that were made before get no reply, and new ones get those that are ready.
    intro pair mem
    refine readyFor_paired primed.ready ?_
    rcases List.mem_append.1 mem with old | new
    · exact .inl (mirrors.made old)
    · exact .inr new
  · -- What callers keep stays as it is, and more requests are paired.
    intro name own
    have alike := mirrors.handle name own
    rw [handles_placeAll, handles_placeAll]
    generalize a.handles.get? name = kept, b.handles.get? name = kept' at alike ⊢
    cases alike with
    | none => exact .none
    | some alike => exact .some (alike.mono (List.subset_append_left _ _))
  · intro name own
    rw [(queries_placeAll orders a).2, (queries_placeAll orders b).2]
    exact mirrors.query name own

/-- A look for the outcomes of paired requests gives alike. -/
theorem pollOne (mirrors : Mirrors R party pairs a b) (id : String) {engine engine' : Nat}
    (mem : (engine, engine') ∈ pairs) :
    Concur R party pairs (a.pollOne id engine) (b.pollOne id engine') := by
  have found := mirrors.outcome? mem
  simp only [Session.pollOne]
  -- The outcome is there in both sessions, or waited for in both.
  generalize a.ledger.outcome? engine = one, b.ledger.outcome? engine' = other at found ⊢
  cases found with
  | none => exact ⟨.same _, mirrors.keep id (.awaited mem)⟩
  | some alike => exact ⟨.outcome alike, mirrors⟩

/-- A look for the outcomes of several paired requests gives alike. -/
theorem pollMany (mirrors : Mirrors R party pairs a b) (id : String)
    {parts parts' : List (Outcome Nat)} (alike : List.Forall₂ (PartAlike pairs) parts parts') :
    Concur R party pairs (a.pollMany id parts) (b.pollMany id parts') := by
  have found := mirrors.partOutcomes? alike
  simp only [Session.pollMany]
  generalize parts.mapM a.partOutcome? = one, parts'.mapM b.partOutcome? = other at found ⊢
  cases found with
  | none => exact ⟨.same _, mirrors.keep id (.awaitedMany alike)⟩
  | some alike => exact ⟨.outcomes alike, mirrors⟩

/-- A look without waiting gives alike. -/
theorem tryHandle (mirrors : Mirrors R party pairs a b) {id : String}
    (own : party = .future id) : Concur R party pairs (a.tryHandle id) (b.tryHandle id) := by
  have kept := mirrors.handle id own
  simp only [Session.tryHandle]
  generalize a.handles.get? id = one, b.handles.get? id = other at kept ⊢
  cases kept with
  | none => exact ⟨.same _, mirrors⟩
  | some alike =>
    -- Only what was submitted can be looked at without waiting.
    cases alike with
    | awaited mem => exact ⟨.same _, mirrors⟩
    | awaitedMany alike => exact ⟨.same _, mirrors⟩
    | @submitted engine engine' mem pending =>
      obtain ⟨taken⟩ := pending
      cases taken with
      | true =>
        -- The outcome was taken before in both sessions.
        exact ⟨.same _, mirrors.keep id (.submitted mem _)⟩
      | false =>
        have found := mirrors.outcome? mem
        simp only [PendingOperation.tryResult]
        generalize a.ledger.outcome? engine = here, b.ledger.outcome? engine' = there at found ⊢
        cases found with
        | none => exact ⟨.same _, mirrors.keep id (.submitted mem _)⟩
        | some alike => exact ⟨.outcome alike, mirrors.keep id (.submitted mem _)⟩

/-- Waiting gives alike. -/
theorem awaitHandle (mirrors : Mirrors R party pairs a b) {id : String}
    (own : party = .future id) : Concur R party pairs (a.awaitHandle id) (b.awaitHandle id) := by
  have kept := mirrors.handle id own
  have without := mirrors.forget id
  simp only [Session.awaitHandle]
  generalize a.handles.get? id = one, b.handles.get? id = other at kept ⊢
  cases kept with
  | none => exact ⟨.same _, mirrors⟩
  | some alike =>
    cases alike with
    | awaited mem => exact without.pollOne id mem
    | awaitedMany alike => exact without.pollMany id alike
    | submitted mem pending =>
      obtain ⟨taken⟩ := pending
      cases taken with
      | true =>
        -- There is nothing left to wait for in either session.
        exact ⟨.same _, without⟩
      | false => exact without.pollOne id mem

/-- What is waited for is given up alike. -/
theorem cancel (mirrors : Mirrors R party pairs a b) {id : String} (own : party = .future id) :
    Concur R party pairs (a.act (.cancel id)) (b.act (.cancel id)) := by
  have kept := mirrors.handle id own
  have without := mirrors.forget id
  simp only [act]
  generalize a.handles.get? id = one, b.handles.get? id = other at kept ⊢
  cases kept with
  | none => exact ⟨.same _, mirrors⟩
  | some alike => exact ⟨.same _, without⟩

/-- A call that is refused in both sessions makes no request to be paired. -/
theorem refused (mirrors : Mirrors R party pairs a b) {step : Step} {descriptor : Descriptor}
    {recipient : Recipient} (calls : step.calls = [⟨descriptor, recipient⟩]) {error : Error}
    (resolved : descriptor.resolve = .error error) (answer : Answer) :
    Concur R party (grown pairs a b step) (answer, a) (answer, b) := by
  have orders : step.orders a.config = [] := by
    simp [Step.orders, calls, Call.order?, resolved]
  exact Concur.unpaired ⟨.same answer, mirrors⟩ orders

/-- A call that is not refused places the same order in both sessions, and its requests are
paired. -/
theorem placed (mirrors : Mirrors R party pairs a b) {step : Step} {descriptor : Descriptor}
    {recipient : Recipient} (calls : step.calls = [⟨descriptor, recipient⟩])
    (primed : Primed R (step.orders a.config).length a b) {command : Command}
    (resolved : descriptor.resolve = .ok command) :
    let order : Order :=
      ⟨command, descriptor.timeout.getD a.config.managementTimeout, recipient⟩
    Mirrors R party (grown pairs a b step) (a.place order) (b.place order)
      ∧ (a.submissions.length, b.submissions.length) ∈ grown pairs a b step := by
  -- A single call that is resolved makes a single order.
  have orders : step.orders a.config
      = [⟨command, descriptor.timeout.getD a.config.managementTimeout, recipient⟩] := by
    simp [Step.orders, calls, Call.order?, resolved]
  rw [orders] at primed
  rw [grown, orders]
  exact ⟨mirrors.placeAll _ primed, List.mem_append_right _ head_mem_paired⟩

/-- A descriptor is submitted alike, its future kept. -/
theorem submit (mirrors : Mirrors R party pairs a b) {id : String} {descriptor : Descriptor}
    (primed : Primed R ((Step.submit id descriptor).orders a.config).length a b) :
    Concur R party (grown pairs a b (.submit id descriptor))
      (a.act (.submit id descriptor)) (b.act (.submit id descriptor)) := by
  -- Whether the descriptor is refused does not depend on the session.
  cases resolved : descriptor.resolve with
  | error error =>
    simp only [act, submitDescriptor_eq, resolved]
    exact mirrors.refused rfl resolved _
  | ok command =>
    obtain ⟨after, mem⟩ := mirrors.placed rfl primed resolved
    simp only [act, submitDescriptor_eq, resolved, mirrors.config]
    exact ⟨.same _, after.keep id (.submitted mem .start)⟩

/-- A descriptor is submitted alike, its outcome to callbacks. -/
theorem dispatch (mirrors : Mirrors R party pairs a b) {id : String} {descriptor : Descriptor}
    (primed : Primed R ((Step.dispatch id descriptor).orders a.config).length a b) :
    Concur R party (grown pairs a b (.dispatch id descriptor))
      (a.act (.dispatch id descriptor)) (b.act (.dispatch id descriptor)) := by
  -- Whether the call is refused is a matter of its descriptor, which is the same on both sides.
  cases resolved : descriptor.resolve with
  | error error =>
    simp only [act, submitDescriptor_eq, resolved]
    exact mirrors.refused rfl resolved _
  | ok command =>
    obtain ⟨after, -⟩ := mirrors.placed rfl primed resolved
    simp only [act, submitDescriptor_eq, resolved, mirrors.config]
    exact ⟨.same _, after⟩

/-- A command is executed alike. -/
theorem execute (mirrors : Mirrors R party pairs a b) {id : String} {command : Command}
    (primed : Primed R ((Step.execute id command).orders a.config).length a b) :
    Concur R party (grown pairs a b (.execute id command))
      (a.act (.execute id command)) (b.act (.execute id command)) := by
  -- The caller looks for the outcome at once, and finds it if a reply was ready.
  cases resolved : (Descriptor.ofCommand command).resolve with
  | error error =>
    simp only [act, submitDescriptor_eq, resolved]
    exact mirrors.refused rfl resolved _
  | ok _ =>
    obtain ⟨after, mem⟩ := mirrors.placed rfl primed resolved
    simp only [act, submitDescriptor_eq, resolved, mirrors.config]
    exact after.pollOne id mem

/-- The parts of several commands are paired, or refused alike. -/
theorem parts_submitAll (id : String) (commands : List Command) :
    ∀ a b : Session, b.config = a.config →
      List.Forall₂ (PartAlike (paired a.submissions.length b.submissions.length
          ((Step.executeMany id commands).orders a.config).length))
        (a.submitAll commands).1 (b.submitAll commands).1 := by
  induction commands with
  | nil => exact fun _ _ _ => .nil
  | cons command rest ih =>
    intro a b config
    cases resolved : (Descriptor.ofCommand command).resolve with
    | error error =>
      have orders : (Step.executeMany id (command :: rest)).orders a.config
          = (Step.executeMany id rest).orders a.config := by
        simp [Step.orders, Step.calls, Call.order?, resolved]
      simp only [submitAll, submitDescriptor_eq, resolved, orders]
      exact .cons (.refused error) (ih a b config)
    | ok _ =>
      have orders : ((Step.executeMany id (command :: rest)).orders a.config).length
          = ((Step.executeMany id rest).orders a.config).length + 1 := by
        simp [Step.orders, Step.calls, Call.order?, resolved]
      simp only [submitAll, submitDescriptor_eq, resolved, orders]
      -- The requests of the other commands have the numbers after that of the first.
      have later := fun order order' : Order =>
        ih (a.place order) (b.place order') (by rw [config_place, config_place, config])
      simp only [length_place, config_place] at later
      refine .cons (.paired head_mem_paired) ((later _ _).imp fun _ _ part => ?_)
      exact part.mono tail_subset_paired

/-- Several commands are executed alike. -/
theorem executeMany (mirrors : Mirrors R party pairs a b) {id : String} {commands : List Command}
    (primed : Primed R ((Step.executeMany id commands).orders a.config).length a b) :
    Concur R party (grown pairs a b (.executeMany id commands))
      (a.act (.executeMany id commands)) (b.act (.executeMany id commands)) := by
  have after := mirrors.placeAll _ primed
  have parts := parts_submitAll id commands a b mirrors.config
  have placed : (a.submitAll commands).2
      = a.placeAll ((Step.executeMany id commands).orders a.config) := submitAll_snd commands a
  have placed' : (b.submitAll commands).2
      = b.placeAll ((Step.executeMany id commands).orders a.config) := by
    rw [submitAll_snd, mirrors.config]
    rfl
  -- The caller waits for all requests together.
  simp only [act, placed, placed']
  exact after.pollMany id (parts.imp fun _ _ part => part.mono (List.subset_append_right _ _))

/-- A query is opened alike. -/
theorem openQuery (mirrors : Mirrors R party pairs a b) {id statement : String}
    {options : RawQueryOptions} (reflexive : ∀ id, R id id)
    (ids : ∀ place < (Step.query id statement options).draws a.config,
      R (a.ids.id (a.ids.drawn + place)) (b.ids.id (b.ids.drawn + place))) :
    Concur R party pairs (a.openQuery id statement options)
      (b.openQuery id statement options) := by
  have first := Advance.openQuery mirrors.sound.held id statement options
  have second := Advance.openQuery mirrors.sound'.held id statement options
  revert first second
  simp only [Session.openQuery]
  -- Faulty options and a blank statement are refused alike.
  cases resolved : options.resolve with
  | error error => exact fun _ _ => ⟨.same _, mirrors⟩
  | ok options =>
    by_cases blank : Text.isBlankText statement = true
    · simp only [Except.bind, submitQuery, if_pos blank]
      exact fun _ _ => ⟨.same _, mirrors⟩
    · -- The request goes by its own id, which is the same for both, or by the next one drawn.
      have related : R (options.clientContextId.getD (a.ids.id a.ids.drawn))
          (options.clientContextId.getD (b.ids.id b.ids.drawn)) := by
        cases named : options.clientContextId with
        | some id => exact reflexive id
        | none =>
          refine ids 0 ?_
          simp [Step.draws, resolved, blank, named]
      have alike := QueryRequest.alike_build related statement options a.config.queryTimeout
      have fresh := LiveQuery.alike_start related a.config.capacity
      simp only [Except.bind, submitQuery, if_neg blank, QueryRequest.make_eq, mirrors.config]
      intro first second
      -- Under the name stands the fresh query, and under any other what stood there before.
      refine ⟨.submittedQuery alike fresh, mirrors.ensue first second (fun _ _ => rfl)
        (fun _ _ => ⟨rfl, rfl⟩) fun name own => ?_⟩
      rw [Dict.get?_insert, Dict.get?_insert]
      split
      · exact .some fresh
      · exact mirrors.query name own

/-- A step on the party's stream gives alike. -/
theorem stepQuery (mirrors : Mirrors R party pairs a b) {id : String} (own : party = .stream id)
    (step : QueryStep) : Concur R party pairs (a.stepQuery id step) (b.stepQuery id step) := by
  have first := Advance.stepQuery mirrors.sound.held id step
  have second := Advance.stepQuery mirrors.sound'.held id step
  have kept := mirrors.query id own
  -- Both sessions have a query of the name, or neither has one.
  revert first second
  simp only [Session.stepQuery]
  generalize a.queries.get? id = one, b.queries.get? id = other at kept ⊢
  cases kept with
  | none => exact fun _ _ => ⟨.same _, mirrors⟩
  | some alike =>
    obtain ⟨gots, queries⟩ := alike.take step
    intro first second
    refine ⟨.query gots queries, mirrors.ensue first second (fun _ _ => rfl)
      (fun _ _ => ⟨rfl, rfl⟩) fun name own => ?_⟩
    rw [Dict.get?_insert, Dict.get?_insert]
    split
    · exact .some queries
    · exact mirrors.query name own

/-- The same reply to paired requests is taken alike. -/
theorem reply (mirrors : Mirrors R party pairs a b) {engine engine' : Nat}
    (mem : (engine, engine') ∈ pairs) (reply : Reply Output) :
    Concur R party pairs (a.act (.reply engine reply)) (b.act (.reply engine' reply)) := by
  obtain ⟨made, made'⟩ := mirrors.made mem
  have held : engine ∈ a.held ↔ engine' ∈ b.held := by
    have unanswered := (mirrors.requests _ mem).unanswered
    simpa only [Unanswered, Nat.not_le.2 made, Nat.not_le.2 made', or_false] using unanswered
  have first := Advance.reply mirrors.sound.held engine reply
  have second := Advance.reply mirrors.sound'.held engine' reply
  obtain ⟨_, _, after⟩ := a.exists_reply_eq engine reply
  obtain ⟨_, _, after'⟩ := b.exists_reply_eq engine' reply
  rw [act_reply made] at after ⊢
  rw [act_reply made'] at after' ⊢
  constructor
  · simp only [held]
    exact .same _
  · refine mirrors.ensue first second (fun pair old => ?_) (fun name _ => ?_) fun name own => ?_
    · -- Of paired requests, one is answered if and only if the other is.
      have same := mirrors.fst_eq_iff mem old
      obtain ⟨below, below'⟩ := mirrors.made old
      simp only [if_neg (Nat.not_le.2 below), if_neg (Nat.not_le.2 below'), same]
    · -- Only the ledger, and what is held, may change.
      rw [after, after']
      exact ⟨rfl, rfl⟩
    · rw [after, after']
      exact mirrors.query name own

/-- Whatever a party does itself gives alike. -/
theorem act (mirrors : Mirrors R party pairs a b) {step : Step} (own : step.party? = some party)
    (reflexive : ∀ id, R id id)
    (ids : ∀ place < step.draws a.config,
      R (a.ids.id (a.ids.drawn + place)) (b.ids.id (b.ids.drawn + place)))
    (ready : a.ready.take (step.orders a.config).length
      = b.ready.take (step.orders a.config).length) :
    Concur R party (grown pairs a b step) (a.act step) (b.act step) := by
  -- The name of the step is that of the party.
  cases step with
  | submit id descriptor => exact mirrors.submit ⟨ids, ready⟩
  | dispatch id descriptor => exact mirrors.dispatch ⟨ids, ready⟩
  | execute id command => exact mirrors.execute ⟨ids, ready⟩
  | executeMany id commands => exact mirrors.executeMany ⟨ids, ready⟩
  | tryResult id =>
    exact (mirrors.tryHandle (Option.some.inj own).symm).unpaired rfl
  | await id => exact (mirrors.awaitHandle (Option.some.inj own).symm).unpaired rfl
  | cancel id => exact (mirrors.cancel (Option.some.inj own).symm).unpaired rfl
  | query id statement options => exact (mirrors.openQuery reflexive ids).unpaired rfl
  | onQuery id inner => exact (mirrors.stepQuery (Option.some.inj own).symm inner).unpaired rfl
  | reply engine reply => cases own

end Mirrors

end AnalyticsClient.Session
