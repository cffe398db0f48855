import AnalyticsClient.Proofs.Session.Serving
import AnalyticsClient.Proofs.Session.Waiting

/-! Every call that resolves reaches the engine once, and every request hands over one outcome. -/

namespace AnalyticsClient

namespace Session

/-- The account of a run: what its calls came to, by the requests made and the replies given. -/
structure Accounted (config : Config) (id : Nat → String) (turns : List Turn)
    (reports : List StepReport) (session : Session) : Prop where
  /-- While a step is taken, each of its calls that resolves makes one request, in order, with its
  command and its timeout; the others make none. -/
  submitted : reports.map (fun report => report.submissions.map fun made => made.1.order)
    = turns.map fun turn => turn.2.orders config
  /-- There are no other requests. -/
  total : session.submissions.map Submission.order = (asked config turns).map Prod.snd
  /-- Wherever the run is cut, the ids of later requests are drawn later, and each but once. -/
  fresh : ∀ earlier later, turns = earlier ++ later →
    let between := ((start config id).run earlier).2
    ∃ draws : List Nat, draws.Pairwise (· < ·)
      ∧ (∀ draw ∈ draws, between.ids.drawn ≤ draw ∧ draw < session.ids.drawn)
      ∧ (session.submissions.drop between.submissions.length).map (·.request.clientContextId)
        = draws.map id
  /-- A request hands over nothing before it is replied to, and then one outcome, which is the one
  that its first reply brings. -/
  settled : ∀ engine submission, session.submissions[engine]? = some submission →
    match replyTo? config engine 0 turns with
    | some reply => ∃ outcome, submission.request.Settles outcome reply
      ∧ session.deliveriesOf engine = [⟨engine, submission.recipient, outcome⟩]
      ∧ session.ledger.outcome? engine = some outcome
    | none => session.deliveriesOf engine = [] ∧ session.ledger.outcome? engine = none
  /-- Nothing is handed over but to the recipient of a request that was made. -/
  owned : ∀ delivery ∈ session.ledger.deliveries, ∃ submission,
    session.submissions[delivery.engine]? = some submission
      ∧ delivery.recipient = submission.recipient
  /-- The callbacks of calls that did not resolve are never invoked. -/
  uninvoked : ∀ name, (∀ order ∈ (asked config turns).map Prod.snd,
      order.recipient ≠ .callbacks name) →
    ∀ delivery ∈ session.ledger.deliveries, delivery.recipient ≠ .callbacks name
  /-- A future that is kept waits for requests that calls made under its own name. -/
  futures : ∀ name, ∀ part ∈ session.parts name, Backed (asked config turns) name part
  /-- What a caller gets who waits is the outcome of a request that was made under the name of the
  future, or of a command that was refused, and an outcome is not waited for again once it was got;
  whoever looks for it once more under that name learns that it is lost. -/
  given : ∀ earlier turn later, turns = earlier ++ turn :: later →
    let between := ((start config id).run earlier).2
    ∀ outcome ∈ (between.step turn.1 turn.2).1.given,
      (∃ name engine, turn.2 = .tryResult name
        ∧ between.handles.get? name = some (.submitted engine ⟨true⟩)
        ∧ outcome = .error PendingOperation.lostError)
      ∨ ∃ name part, turn.2.awaited? = some name ∧ Backed (asked config turns) name part
        ∧ session.partOutcome? part = some outcome
        ∧ ∀ engine, part = .ok engine → ∀ other, .ok engine ∉ session.parts other
  /-- Wherever the run is cut, a step under the name of a future serves its caller as the replies
  until then tell: whoever calls for what is accepted keeps the future of its own request, or gets
  the outcome at once; and whoever looks for an outcome that was not taken gets the one that is due,
  from the reply on. -/
  served : ∀ earlier turn later name, turns = earlier ++ turn :: later →
    turn.2.party? = some (.future name) →
    let between := ((start config id).run earlier).2
    let (answer, after) := between.step turn.1 turn.2
    Serves config (earlier ++ [turn]) after between.submissions.length name
      (between.handles.get? name) turn.2 answer (after.handles.get? name)
  /-- As long as no step is taken under the name of a future, it is kept as it is. -/
  undisturbed : ∀ earlier middle later name, turns = earlier ++ middle ++ later →
    (∀ turn ∈ middle, turn.2.party? ≠ some (.future name)) →
    ((start config id).run (earlier ++ middle)).2.handles.get? name
      = ((start config id).run earlier).2.handles.get? name

variable {session before after : Session} {orders : List Order}
  {given : Nat → Option (Reply Output)}

/-- From submissions made of orders and of draws both are read off again. -/
theorem map_zipWith_submission (id : Nat → String) {orders : List Order} {draws : List Nat}
    (length : draws.length = orders.length) :
    let made := List.zipWith (fun order draw => Order.submission order (id draw)) orders draws
    made.map Submission.order = orders
      ∧ made.map (·.request.clientContextId) = draws.map id := by
  -- The submissions are those of pairs, of which each half is told by one of the two.
  simp only [List.map_zipWith]
  constructor
  · calc List.zipWith (fun order draw => (Order.submission order (id draw)).order) orders draws
        = (orders.zip draws).map Prod.fst := (List.map_zip_eq_zipWith (f := Prod.fst)).symm
      _ = orders := List.map_fst_zip (by omega)
  · calc List.zipWith (fun order draw =>
          (Order.submission order (id draw)).request.clientContextId) orders draws
        = (orders.zip draws).map (fun pair => id pair.2) :=
          (List.map_zip_eq_zipWith (f := fun pair => id pair.2)).symm
      _ = ((orders.zip draws).map Prod.snd).map id := by rw [List.map_map]; rfl
      _ = draws.map id := by rw [List.map_snd_zip (by omega)]

/-- The submissions made between two states are those of the orders placed in between. -/
theorem Advance.map_order (advance : Advance orders given before after) :
    (after.submissions.drop before.submissions.length).map Submission.order = orders := by
  obtain ⟨draws, length, -, -, submissions⟩ := advance.placed
  rw [submissions, List.drop_left, (map_zipWith_submission _ length).1]

/-- The submissions made between two states have ids that are drawn in between, each but once. -/
theorem Advance.map_id (advance : Advance orders given before after) :
    ∃ draws : List Nat, draws.Pairwise (· < ·)
      ∧ (∀ draw ∈ draws, before.ids.drawn ≤ draw ∧ draw < after.ids.drawn)
      ∧ (after.submissions.drop before.submissions.length).map (·.request.clientContextId)
        = draws.map before.ids.id := by
  -- Each submission goes by the id of its own draw.
  obtain ⟨draws, length, increasing, range, submissions⟩ := advance.placed
  refine ⟨draws, increasing, range, ?_⟩
  rw [submissions, List.drop_left, (map_zipWith_submission _ length).2]

/-- The orders of a run, without the names under which callers keep futures. -/
theorem map_snd_asked (config : Config) (turns : List Turn) :
    (asked config turns).map Prod.snd = turns.flatMap fun turn => turn.2.orders config := by
  simp [asked, Step.asked, List.map_flatMap, Function.comp_def]

/-- A report lists the requests that were made for the orders of its step. -/
theorem map_order_report (bounded : ∀ engine ∈ session.held, engine < session.submissions.length)
    (turn : Turn) :
    (session.report turn.1 turn.2).1.submissions.map (fun made => made.1.order)
      = turn.2.orders session.config := by
  have made := (Advance.step bounded turn).map_order
  -- The numbers that the report adds are no part of the orders.
  calc (session.report turn.1 turn.2).1.submissions.map (fun made => made.1.order)
      = ((((session.step turn.1 turn.2).2.submissions.drop session.submissions.length).zipIdx
          session.submissions.length).map Prod.fst).map Submission.order := by
        rw [List.map_map]; rfl
    _ = turn.2.orders session.config := by rw [List.zipIdx_map_fst, made]

/-- The reports of a run list the requests that were made for the orders of each step. -/
theorem map_order_run (turns : List Turn) :
    ∀ {session : Session}, (∀ engine ∈ session.held, engine < session.submissions.length) →
      (session.run turns).1.map (fun report =>
          report.submissions.map fun made => made.1.order)
        = turns.map fun turn => turn.2.orders session.config := by
  induction turns with
  | nil =>
    intro session bounded
    rfl
  | cons turn rest ih =>
    intro session bounded
    have first := Advance.step bounded turn
    have later := ih first.bounded
    -- The step left the configuration as it was, so later orders have the same timeouts.
    rw [first.config] at later
    simp only [Session.run, List.map_cons]
    rw [map_order_report bounded turn]
    exact congrArg (_ :: ·) later

/-- A delivery of a run is that of a request and of the first reply to it. -/
theorem exists_delivery_eq (config : Config) (id : Nat → String) (turns : List Turn)
    {delivery : Delivery}
    (mem : delivery ∈ ((start config id).run turns).2.ledger.deliveries) :
    ∃ submission reply,
      ((start config id).run turns).2.submissions[delivery.engine]? = some submission
        ∧ replyTo? config delivery.engine 0 turns = some reply
        ∧ delivery = submission.delivery delivery.engine reply := by
  have advance := advance_start config id turns
  have own : delivery ∈ ((start config id).run turns).2.deliveriesOf delivery.engine :=
    List.mem_filter.2 ⟨mem, by simp⟩
  cases gave : replyTo? config delivery.engine 0 turns with
  | none =>
    -- Without a reply nothing is delivered, but something was.
    rw [(advance.of_unreplied gave).1] at own
    cases own
  | some reply =>
    obtain ⟨submission, made, one, -⟩ := advance.of_replied gave
    rw [one] at own
    exact ⟨submission, reply, made, rfl, List.mem_singleton.1 own⟩

/-- An outcome that was found once is found ever after. -/
theorem outcome?_run (config : Config) (id : Nat → String) (earlier later : List Turn)
    {engine : Nat} {outcome : Outcome Output}
    (found : ((start config id).run earlier).2.ledger.outcome? engine = some outcome) :
    (((start config id).run earlier).2.run later).2.ledger.outcome? engine = some outcome := by
  have first := advance_start config id earlier
  have second := Advance.run later first.bounded
  -- Only the first reply to a request is handed over, and it was given before.
  have answered : ¬ ((start config id).run earlier).2.Unanswered engine := by
    intro unanswered
    have none_ := ((first.unanswered engine).1 unanswered).2
    rw [(first.of_unreplied none_).2] at found
    cases found
  rw [outcome?_eq, second.kept engine fun unanswered => absurd unanswered answered, ← outcome?_eq]
  exact found

/-- Futures are backed along a run from the start. -/
theorem allBacked_start (config : Config) (id : Nat → String) (turns : List Turn) :
    AllBacked (asked config turns) ((start config id).run turns).2 := by
  have nothing : AllBacked [] (start config id) := ⟨rfl, fun name part mem => by cases mem⟩
  exact allBacked_run turns (bounded_start config id) nothing

/-- What a step of a run gives to a caller who waits, seen from the end of the run. -/
theorem given_run (config : Config) (id : Nat → String) (earlier : List Turn) (turn : Turn)
    (later : List Turn) :
    let between := ((start config id).run earlier).2
    let session := ((start config id).run (earlier ++ turn :: later)).2
    ∀ outcome ∈ (between.step turn.1 turn.2).1.given,
      (∃ name engine, turn.2 = .tryResult name
        ∧ between.handles.get? name = some (.submitted engine ⟨true⟩)
        ∧ outcome = .error PendingOperation.lostError)
      ∨ ∃ name part, turn.2.awaited? = some name
        ∧ Backed (asked config (earlier ++ turn :: later)) name part
        ∧ session.partOutcome? part = some outcome
        ∧ ∀ engine, part = .ok engine → ∀ other, .ok engine ∉ session.parts other := by
  intro between session outcome mem
  have first := advance_start config id earlier
  have backed := allBacked_start config id earlier
  have config_eq : between.config = config := first.config
  have asked_eq : asked config (earlier ++ turn :: later)
      = asked config earlier ++ turn.2.asked config ++ asked config later := by
    simp [asked]
  have session_eq : session = ((between.step turn.1 turn.2).2.run later).2 :=
    run_append_cons earlier turn later
  rcases (waited_step turn).given outcome mem with lost | ⟨name, part, own, found, source⟩
  · exact .inl lost
  refine .inr ⟨name, part, own, ?_, ?_, ?_⟩
  · -- What was kept before was asked for before, and what is new is asked for by the step.
    rw [asked_eq]
    refine backed_append ?_ _
    rcases source with ⟨held, -⟩ | ⟨kept, opens, -⟩
    · exact backed_append (backed.2 name part held) _
    · rw [config_eq, ← backed.1] at opens
      exact backed_of_opens kept opens
  · cases part with
    | error error =>
      -- A refusal does not depend on the state.
      exact found
    | ok engine =>
      -- The step ends a run of its own, which finds the outcome for good.
      have upTo : ((start config id).run (earlier ++ [turn])).2
          = (between.step turn.1 turn.2).2 := run_append_cons earlier turn []
      have found' : ((start config id).run (earlier ++ [turn])).2.ledger.outcome? engine
          = some outcome := by
        rw [upTo]
        exact found
      have ever := outcome?_run config id (earlier ++ [turn]) later found'
      rw [upTo, ← session_eq] at ever
      exact ever
  · -- From the step on nobody waits for the request, so nobody does at the end.
    intro engine same other
    subst same
    rw [session_eq]
    have released := released_of_given first.bounded backed turn source
    exact (released_run later (Advance.step first.bounded turn).bounded released).2 other

/-- A step of a run that is taken under the name of a future serves its caller. -/
theorem served_run (config : Config) (id : Nat → String) (earlier : List Turn) (turn : Turn)
    {name : String} (own : turn.2.party? = some (.future name)) :
    let between := ((start config id).run earlier).2
    let (answer, after) := between.step turn.1 turn.2
    Serves config (earlier ++ [turn]) after between.submissions.length name
      (between.handles.get? name) turn.2 answer (after.handles.get? name) := by
  intro between
  -- The step is the last one of a run of its own.
  have since : Since config id (earlier ++ [turn]) (between.step turn.1 turn.2).2 := by
    have led := advance_start config id (earlier ++ [turn])
    rw [run_append_cons] at led
    exact led
  exact @serves_act config id (earlier ++ [turn]) { between with ready := turn.1 } _ since turn.2
    name own rfl

/-- Every run can be accounted for. -/
theorem run_accounted (config : Config) (id : Nat → String) (turns : List Turn) :
    Accounted config id turns ((start config id).run turns).1 ((start config id).run turns).2 where
  submitted := map_order_run turns (bounded_start config id)
  total := by
    rw [map_snd_asked]
    exact (advance_start config id turns).map_order
  fresh earlier later split := by
    subst split
    rw [run_append]
    have first := advance_start config id earlier
    have drawn := (Advance.run later first.bounded).map_id
    rwa [first.id] at drawn
  settled engine submission made := by
    have advance := advance_start config id turns
    cases gave : replyTo? config engine 0 turns with
    | none => exact advance.of_unreplied gave
    | some reply =>
      obtain ⟨submission', made', one, found⟩ := advance.of_replied gave
      -- The request that was answered is the one that was asked for.
      obtain rfl : submission' = submission := Option.some.inj (made'.symm.trans made)
      exact ⟨submission'.settled reply, submission'.settles_settled reply, one, found⟩
  owned delivery mem := by
    obtain ⟨submission, reply, made, -, same⟩ := exists_delivery_eq config id turns mem
    exact ⟨submission, made, congrArg Delivery.recipient same⟩
  uninvoked name unresolved delivery mem toName := by
    obtain ⟨submission, reply, made, -, same⟩ := exists_delivery_eq config id turns mem
    -- The recipient is that of an order, and there is no order for the name.
    have ordered : submission.order
        ∈ ((start config id).run turns).2.submissions.map Submission.order :=
      List.mem_map_of_mem (List.mem_of_getElem? made)
    have orders := (advance_start config id turns).map_order
    rw [← map_snd_asked] at orders
    refine unresolved submission.order (orders ▸ ordered) ?_
    rw [← toName, same]
    rfl
  futures := (allBacked_start config id turns).2
  given earlier turn later split := by
    subst split
    exact given_run config id earlier turn later
  served earlier turn _ _ _ own := served_run config id earlier turn own
  undisturbed earlier middle later name _ others := by
    rw [run_append]
    exact handles_run middle others

end Session

end AnalyticsClient
