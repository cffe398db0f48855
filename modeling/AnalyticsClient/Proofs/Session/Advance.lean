import AnalyticsClient.Proofs.Completion.Outcome
import AnalyticsClient.Proofs.Session.Calls

/-! What a step does to the operations in flight, and what a run of steps does to them. -/

namespace AnalyticsClient.Session

/-- What became of the operations in flight between two states of a session, told by the orders
that were placed in between and by the reply that each request was given. -/
structure Advance (orders : List Order) (given : Nat → Option (Reply Output))
    (before after : Session) : Prop where
  config : after.config = before.config
  id : after.ids.id = before.ids.id
  drawn : before.ids.drawn ≤ after.ids.drawn
  /-- Only requests that were made are held. -/
  bounded : ∀ engine ∈ after.held, engine < after.submissions.length
  /-- Every order became a submission of its own, each under an id drawn in between. -/
  placed : ∃ draws : List Nat, draws.length = orders.length ∧ draws.Pairwise (· < ·)
    ∧ (∀ draw ∈ draws, before.ids.drawn ≤ draw ∧ draw < after.ids.drawn)
    ∧ after.submissions = before.submissions
      ++ List.zipWith (fun order draw => order.submission (before.ids.id draw)) orders draws
  unanswered : ∀ engine, after.Unanswered engine ↔ before.Unanswered engine ∧ given engine = none
  /-- The first reply to a request makes its one delivery. -/
  delivered : ∀ engine reply, before.Unanswered engine → given engine = some reply →
    ∃ submission, after.submissions[engine]? = some submission
      ∧ after.deliveriesOf engine
        = before.deliveriesOf engine ++ [submission.delivery engine reply]
  /-- Nothing else is delivered. -/
  kept : ∀ engine, (before.Unanswered engine → given engine = none) →
    after.deliveriesOf engine = before.deliveriesOf engine

namespace Advance

variable {orders orders' : List Order} {given given' : Nat → Option (Reply Output)}
  {before between after : Session}

/-- The number of requests grows by the number of orders. -/
theorem length_submissions (advance : Advance orders given before after) :
    after.submissions.length = before.submissions.length + orders.length := by
  obtain ⟨draws, length, -, -, submissions⟩ := advance.placed
  simp [submissions, length]

/-- A submission that was made stays as it is. -/
theorem getElem?_submissions (advance : Advance orders given before after) {engine : Nat}
    {submission : Submission} (made : before.submissions[engine]? = some submission) :
    after.submissions[engine]? = some submission := by
  -- New submissions come behind those that were made.
  obtain ⟨draws, -, -, -, submissions⟩ := advance.placed
  obtain ⟨within, -⟩ := List.getElem?_eq_some_iff.1 made
  rw [submissions, List.getElem?_append_left within, made]

/-- A change that leaves the operations in flight alone. -/
theorem quiet (bounded : ∀ engine ∈ before.held, engine < before.submissions.length)
    (config : after.config = before.config) (id : after.ids.id = before.ids.id)
    (drawn : before.ids.drawn ≤ after.ids.drawn)
    (submissions : after.submissions = before.submissions) (held : after.held = before.held)
    (deliveries : after.ledger.deliveries = before.ledger.deliveries) :
    Advance [] (fun _ => none) before after where
  config := config
  id := id
  drawn := drawn
  bounded := by rwa [held, submissions]
  placed := ⟨[], rfl, .nil, by simp, by simp [submissions]⟩
  unanswered engine := by simp [Unanswered, held, submissions]
  delivered engine reply _ gave := by simp at gave
  kept engine _ := by simp [deliveriesOf, deliveries]

/-- Two changes one after the other; of two replies to one request the first counts. -/
theorem trans (first : Advance orders given before between)
    (second : Advance orders' given' between after) :
    Advance (orders ++ orders') (fun engine => given engine <|> given' engine) before after where
  config := second.config.trans first.config
  id := second.id.trans first.id
  drawn := Nat.le_trans first.drawn second.drawn
  bounded := second.bounded
  placed := by
    obtain ⟨draws, length, increasing, range, submissions⟩ := first.placed
    obtain ⟨draws', length', increasing', range', submissions'⟩ := second.placed
    refine ⟨draws ++ draws', by simp [length, length'], ?_, ?_, ?_⟩
    · -- The first draws end below the place at which the second ones begin.
      refine List.pairwise_append.2 ⟨increasing, increasing', fun draw mem draw' mem' => ?_⟩
      exact Nat.lt_of_lt_of_le (range draw mem).2 (range' draw' mem').1
    · intro draw mem
      have drawn := first.drawn
      have drawn' := second.drawn
      rcases List.mem_append.1 mem with mem | mem
      · have within := range draw mem
        omega
      · have within := range' draw mem
        omega
    · rw [submissions', submissions, first.id, List.zipWith_append length.symm, List.append_assoc]
  unanswered engine := by
    rw [second.unanswered, first.unanswered, and_assoc]
    cases given engine <;> simp
  delivered engine reply open_ gave := by
    cases gave₁ : given engine with
    | some reply₁ =>
      -- The reply came in the first part; after it the second part delivers nothing.
      have same : reply₁ = reply := by simpa [gave₁] using gave
      subst same
      obtain ⟨submission, made, deliveries⟩ := first.delivered engine reply₁ open_ gave₁
      refine ⟨submission, second.getElem?_submissions made, ?_⟩
      rw [second.kept engine, deliveries]
      intro stillOpen
      simp [((first.unanswered engine).1 stillOpen).2] at gave₁
    | none =>
      -- The first part left the request alone, so the second part answers it.
      have gave₂ : given' engine = some reply := by simpa [gave₁] using gave
      have stillOpen := (first.unanswered engine).2 ⟨open_, gave₁⟩
      obtain ⟨submission, made, deliveries⟩ := second.delivered engine reply stillOpen gave₂
      exact ⟨submission, made, by rw [deliveries, first.kept engine fun _ => gave₁]⟩
  kept engine none_ := by
    -- Neither part gave a reply to a request that was open to it.
    have none₁ : before.Unanswered engine → given engine = none := fun open_ => by
      cases gave : given engine with
      | none => rfl
      | some reply => simp [gave] at none_; exact absurd open_ none_
    have none₂ : between.Unanswered engine → given' engine = none := fun stillOpen => by
      obtain ⟨open_, gave⟩ := (first.unanswered engine).1 stillOpen
      simpa [gave] using none_ open_
    rw [second.kept engine none₂, first.kept engine none₁]

end Advance

/-- The session after an order was handed to the engine, which holds its request. -/
def hold (session : Session) (order : Order) : Session :=
  { session with
    ids := ⟨session.ids.id, session.ids.drawn + 1⟩
    submissions := session.submissions ++ [order.submission (session.ids.id session.ids.drawn)]
    held := session.held ++ [session.submissions.length]
    ledger := Logging.log (.submitting order.command.operation (session.ids.id session.ids.drawn)
      order.timeout.millisWord) session.ledger }

/-- The session after the submission of a number was answered. -/
def answer (session : Session) (engine : Nat) (submission : Submission) (reply : Reply Output) :
    Session :=
  { session with
    held := session.held.filter (· ≠ engine)
    ledger := (submission.completion engine).answer reply session.ledger }

/-- The session after an order was handed to the engine. -/
def place (session : Session) (order : Order) : Session :=
  (session.submitCommand order.command order.timeout order.recipient).2

/-- The session after several orders were handed to the engine. -/
def placeAll : Session → List Order → Session
  | session, [] => session
  | session, order :: rest => placeAll (session.place order) rest

/-- The replies that orders get at once when `made` requests were made before them. -/
def readyFor (ready : List (Reply Output)) (made count engine : Nat) : Option (Reply Output) :=
  if made ≤ engine ∧ engine < made + count then ready[engine - made]? else none

/-- Where there is no order, or no reply is ready, none is given. -/
theorem readyFor_eq_none {ready : List (Reply Output)} {made count : Nat}
    (nothing : ready = [] ∨ count = 0) : readyFor ready made count = fun _ => none := by
  funext engine
  rcases nothing with rfl | rfl
  · simp [readyFor]
  · exact if_neg (by omega)

/-- A single order gets the first of the replies that are ready. -/
theorem readyFor_one (reply : Reply Output) (rest : List (Reply Output)) (made : Nat) :
    readyFor (reply :: rest) made 1 = fun engine => if engine = made then some reply else none := by
  funext engine
  by_cases same : engine = made
  · simp [readyFor, same]
  · have outside : ¬(made ≤ engine ∧ engine < made + 1) := by omega
    rw [readyFor, if_neg outside, if_neg same]

/-- The reply to the first order is the head of those that are ready, and the others get the
tail. -/
theorem readyFor_succ (ready : List (Reply Output)) (made count : Nat) :
    (fun engine => readyFor ready made 1 engine <|> readyFor ready.tail (made + 1) count engine)
      = readyFor ready made (count + 1) := by
  funext engine
  simp only [readyFor]
  by_cases here : engine = made
  · -- The request is that of the first order, so no later one has its number.
    subst here
    rw [if_pos (by omega), if_neg (by omega), if_pos (by omega)]
    simp
  · rw [if_neg (by omega)]
    by_cases later : made < engine ∧ engine < made + (count + 1)
    · -- Among the others the request stands one place further to the front.
      have shift : engine - made = engine - (made + 1) + 1 := by omega
      rw [if_pos (by omega), if_pos (by omega), shift]
      cases ready <;> simp
    · -- The request is none of these.
      rw [if_neg (by omega), if_neg (by omega)]
      simp

variable {session : Session}

/-- Where all replies miss, nothing happens. -/
theorem Advance.missed (bounded : ∀ engine ∈ session.held, engine < session.submissions.length)
    {given : Nat → Option (Reply Output)}
    (misses : ∀ engine, session.Unanswered engine → given engine = none) :
    Advance [] given session session where
  config := rfl
  id := rfl
  drawn := Nat.le_refl _
  bounded := bounded
  placed := ⟨[], rfl, .nil, by simp, by simp⟩
  -- Whatever is open stays open, since nothing is replied to it.
  unanswered engine := by
    constructor
    · intro open_
      exact ⟨open_, misses engine open_⟩
    · intro both
      exact both.1
  delivered engine reply open_ gave := by
    rw [misses engine open_] at gave
    cases gave
  kept _ _ := rfl

/-- A request that the engine holds is one more that nobody answered. -/
theorem Advance.hold (bounded : ∀ engine ∈ session.held, engine < session.submissions.length)
    (order : Order) : Advance [order] (fun _ => none) session (session.hold order) where
  config := rfl
  id := rfl
  drawn := Nat.le_succ _
  bounded := by
    intro engine mem
    show engine < (session.submissions ++ [_]).length
    rw [List.length_append, List.length_singleton]
    rcases List.mem_append.1 mem with mem | mem
    · exact Nat.lt_succ_of_lt (bounded engine mem)
    · rw [List.mem_singleton.1 mem]
      exact Nat.lt_succ_self _
  placed := by
    refine ⟨[session.ids.drawn], rfl, by simp, ?_, rfl⟩
    intro draw mem
    rw [List.mem_singleton.1 mem]
    exact ⟨Nat.le_refl _, Nat.lt_succ_self _⟩
  unanswered engine := by
    -- The new request was still to be made before, and now it is held.
    have now : (session.hold order).Unanswered engine
        ↔ (engine ∈ session.held ∨ engine = session.submissions.length)
          ∨ session.submissions.length + 1 ≤ engine := by
      simp [Unanswered, Session.hold]
    rw [now]
    constructor
    · intro holds
      rcases holds with (mem | same) | above
      · exact ⟨.inl mem, rfl⟩
      · exact ⟨.inr (by omega), rfl⟩
      · exact ⟨.inr (by omega), rfl⟩
    · intro holds
      rcases holds.1 with mem | above
      · exact .inl (.inl mem)
      · rcases Nat.eq_or_lt_of_le above with same | below
        · exact .inl (.inr same.symm)
        · exact .inr below
  delivered engine reply _ gave := by cases gave
  kept _ _ := rfl

/-- A reply to a request that is held makes its delivery. -/
theorem Advance.answer (bounded : ∀ engine ∈ session.held, engine < session.submissions.length)
    {engine : Nat} {submission : Submission}
    (made : session.submissions[engine]? = some submission) (mem : engine ∈ session.held)
    (reply : Reply Output) :
    Advance [] (fun asked => if asked = engine then some reply else none) session
      (session.answer engine submission reply) := by
  have within : engine < session.submissions.length := bounded engine mem
  have deliveries : ∀ asked, (session.answer engine submission reply).deliveriesOf asked
      = session.deliveriesOf asked ++ [submission.delivery engine reply].filter
          fun delivery => delivery.engine = asked := by
    intro asked
    simp only [Session.answer, deliveriesOf, Submission.deliveries_answer, List.filter_append]
  refine ⟨rfl, rfl, Nat.le_refl _, ?_, ⟨[], rfl, .nil, by simp, ?_⟩, ?_, ?_, ?_⟩
  · intro other still
    exact bounded other (List.mem_filter.1 still).1
  · exact (List.append_nil _).symm
  · intro asked
    -- No request is held any more that was answered, and it was made before.
    have now : (session.answer engine submission reply).Unanswered asked
        ↔ asked ∈ session.held ∧ asked ≠ engine ∨ session.submissions.length ≤ asked := by
      simp [Unanswered, Session.answer]
    rw [now]
    by_cases same : asked = engine
    · subst same
      simp [Nat.not_le.2 within]
    · simp [Unanswered, same]
  · intro asked reply' _ gave
    by_cases same : asked = engine
    · rw [if_pos same] at gave
      cases gave
      subst same
      refine ⟨submission, made, ?_⟩
      rw [deliveries]
      simp [Submission.delivery]
    · rw [if_neg same] at gave
      cases gave
  · intro asked none_
    -- The only new delivery is that of the request itself.
    have other : engine ≠ asked := by
      intro same
      have gave := none_ (.inl (same ▸ mem))
      rw [if_pos same.symm] at gave
      cases gave
    rw [deliveries]
    simp [Submission.delivery, other]

/-- What callers keep of their operations, and the replies that are still ready, are no part of the
operations in flight. -/
theorem Advance.frame {orders : List Order} {given : Nat → Option (Reply Output)}
    {before after : Session} (advance : Advance orders given before after) (handles : Dict Handle)
    (unused used : List (Reply Output)) :
    Advance orders given { before with ready := unused }
      { after with handles, ready := used } :=
  ⟨advance.config, advance.id, advance.drawn, advance.bounded, advance.placed, advance.unanswered,
    advance.delivered, advance.kept⟩

/-- Without a reply that is ready, an order is held. -/
theorem place_of_nil (ready : session.ready = []) (order : Order) :
    session.place order = session.hold order := by
  simp [Session.place, Session.hold, submitCommand, ready, IdSupply.draw, Order.submission]

/-- A reply that is ready answers an order as if that had been held first. -/
theorem place_of_cons (bounded : ∀ engine ∈ session.held, engine < session.submissions.length)
    {reply : Reply Output} {rest : List (Reply Output)} (ready : session.ready = reply :: rest)
    (order : Order) :
    session.place order
      = { (session.hold order).answer session.submissions.length
            (order.submission (session.ids.id session.ids.drawn)) reply with ready := rest } := by
  -- The number of the request is new, so it was not held before.
  have kept : session.held.filter (· ≠ session.submissions.length) = session.held := by
    refine List.filter_eq_self.2 fun engine mem => ?_
    have below := bounded engine mem
    simp only [decide_eq_true_eq]
    omega
  have held : (session.held ++ [session.submissions.length]).filter
      (· ≠ session.submissions.length) = session.held := by
    rw [List.filter_append, kept]
    simp
  simp only [Session.answer, Session.hold, held]
  simp [Session.place, submitCommand, ready, IdSupply.draw, Order.submission]

/-- The request of an order gets the next number. -/
theorem getElem?_hold (order : Order) :
    (session.hold order).submissions[session.submissions.length]?
      = some (order.submission (session.ids.id session.ids.drawn)) :=
  List.getElem?_concat_length

/-- The request of an order is held. -/
theorem mem_held_hold (order : Order) :
    session.submissions.length ∈ (session.hold order).held :=
  List.mem_append_right _ (List.mem_singleton_self _)

/-- Placing an order makes one submission, which is answered at once if a reply is ready. -/
theorem Advance.place (bounded : ∀ engine ∈ session.held, engine < session.submissions.length)
    (order : Order) :
    Advance [order] (readyFor session.ready session.submissions.length 1) session
      (session.place order) := by
  have holds := Advance.hold bounded order
  cases ready : session.ready with
  | nil =>
    rw [readyFor_eq_none (.inl rfl), place_of_nil ready]
    exact holds
  | cons reply rest =>
    -- The request is held and then answered, as if the reply had come later.
    have both := holds.trans
      (Advance.answer holds.bounded (getElem?_hold order) (mem_held_hold order) reply)
    have gives : (fun engine => (none : Option (Reply Output))
          <|> if engine = session.submissions.length then some reply else none)
        = readyFor (reply :: rest) session.submissions.length 1 :=
      (readyFor_one reply rest _).symm
    rw [gives] at both
    rw [place_of_cons bounded ready]
    exact both.frame _ session.ready rest

/-- An order uses up at most one of the replies that are ready. -/
theorem ready_place (order : Order) : (session.place order).ready = session.ready.tail := by
  cases ready : session.ready <;> simp [place, submitCommand, ready]

/-- An order leaves the configuration as it is. -/
theorem config_place (order : Order) : (session.place order).config = session.config := by
  cases ready : session.ready <;> simp [place, submitCommand, ready]

/-- Placing orders makes one submission each, answered at once as far as replies are ready. -/
theorem Advance.placeAll (orders : List Order) :
    ∀ {session : Session}, (∀ engine ∈ session.held, engine < session.submissions.length) →
      Advance orders (readyFor session.ready session.submissions.length orders.length) session
        (session.placeAll orders) := by
  -- Each order changes the session for the others, so the session stays quantified over.
  induction orders with
  | nil =>
    intro session bounded
    rw [List.length_nil, readyFor_eq_none (.inr rfl)]
    exact .quiet bounded rfl rfl (Nat.le_refl _) rfl rfl rfl
  | cons order rest ih =>
    intro session bounded
    have first := Advance.place bounded order
    have whole := first.trans (ih first.bounded)
    rw [ready_place, first.length_submissions, List.length_singleton, readyFor_succ] at whole
    exact whole

/-- A descriptor that resolves becomes an order, and one that does not goes nowhere. -/
theorem submitDescriptor_eq (descriptor : Descriptor) (recipient : Recipient) :
    session.submitDescriptor descriptor recipient
      = match descriptor.resolve with
        | .ok command =>
          .ok (session.submissions.length, session.place
            ⟨command, descriptor.timeout.getD session.config.managementTimeout, recipient⟩)
        | .error error => .error error := by
  -- Without a command nothing is placed.
  cases resolved : descriptor.resolve with
  | error error => simp [submitDescriptor, resolved, bind, Except.bind]
  | ok command =>
    simp only [submitDescriptor, resolved, bind, Except.bind, pure, Except.pure, place]
    cases ready : session.ready <;> simp [submitCommand, ready]

/-- Several commands become the orders of those among them that resolve. -/
theorem submitAll_snd (commands : List Command) :
    ∀ session : Session, (session.submitAll commands).2
      = session.placeAll ((commands.map fun command =>
          (⟨.ofCommand command, .pending⟩ : Call)).filterMap (Call.order? session.config)) := by
  induction commands with
  | nil =>
    intro session
    rfl
  | cons command rest ih =>
    intro session
    -- A refused command leaves the session to the others as it is.
    cases resolved : (Descriptor.ofCommand command).resolve with
    | error error =>
      simp only [submitAll, submitDescriptor_eq, resolved]
      simp [ih, Call.order?, resolved]
    | ok _ =>
      simp only [submitAll, submitDescriptor_eq, resolved]
      simp [ih, Call.order?, resolved, placeAll, config_place]

/-- A call whose descriptor does not resolve places nothing. -/
theorem placeAll_of_error {descriptor : Descriptor} {error : Error}
    (resolved : descriptor.resolve = .error error) (recipient : Recipient) :
    session.placeAll ([(⟨descriptor, recipient⟩ : Call)].filterMap (Call.order? session.config))
      = session := by
  simp [Call.order?, resolved, placeAll]

/-- A call whose descriptor resolves places its order. -/
theorem placeAll_of_ok {descriptor : Descriptor} {command : Command}
    (resolved : descriptor.resolve = .ok command) (recipient : Recipient) :
    session.placeAll ([(⟨descriptor, recipient⟩ : Call)].filterMap (Call.order? session.config))
      = session.place ⟨command, descriptor.timeout.getD session.config.managementTimeout,
          recipient⟩ := by
  simp [Call.order?, resolved, placeAll]

/-- Whether a step is one of those that make no use of the engine but by the calls in it. -/
def callsOnly : Step → Bool
  | .reply _ _ | .query _ _ _ | .onQuery _ _ => false
  | _ => true

/-- A look at an outcome changes nothing but what callers keep. -/
theorem exists_pollOne_eq (session : Session) (name : String) (engine : Nat) :
    ∃ handles, (session.pollOne name engine).2 = { session with handles } := by
  simp only [pollOne]
  split <;> exact ⟨_, rfl⟩

/-- A look at several outcomes changes nothing but what callers keep. -/
theorem exists_pollMany_eq (session : Session) (name : String) (parts : List (Outcome Nat)) :
    ∃ handles, (session.pollMany name parts).2 = { session with handles } := by
  simp only [pollMany]
  split <;> exact ⟨_, rfl⟩

/-- An attempt to take an outcome changes nothing but what callers keep. -/
theorem exists_tryHandle_eq (session : Session) (name : String) :
    ∃ handles, (session.tryHandle name).2 = { session with handles } := by
  simp only [tryHandle]
  split
  · split <;> exact ⟨_, rfl⟩
  · exact ⟨_, rfl⟩

/-- Who waits for a future changes nothing but what callers keep. -/
theorem exists_awaitHandle_eq (session : Session) (name : String) :
    ∃ handles, (session.awaitHandle name).2 = { session with handles } := by
  -- The future is taken away, and a look that comes too early brings it back.
  simp only [awaitHandle]
  split
  · split
    · exact ⟨_, rfl⟩
    · exact exists_pollOne_eq (session.forget name) name _
  · exact exists_pollOne_eq (session.forget name) name _
  · exact exists_pollMany_eq (session.forget name) name _
  · exact ⟨_, rfl⟩

/-- Such a step places the orders of its calls, and changes else nothing but what callers keep. -/
theorem exists_act_eq (session : Session) {step : Step} (kind : callsOnly step = true) :
    ∃ handles, (session.act step).2
      = { session.placeAll (step.orders session.config) with handles } := by
  cases step with
  | submit id descriptor =>
    -- A call that is refused places no order, and the step makes no other call.
    cases resolved : descriptor.resolve with
    | error error =>
      simp only [act, submitDescriptor_eq, resolved, Step.orders, Step.calls,
        placeAll_of_error resolved]
      exact ⟨_, rfl⟩
    | ok command =>
      simp only [act, submitDescriptor_eq, resolved, Step.orders, Step.calls,
        placeAll_of_ok resolved]
      exact ⟨_, rfl⟩
  | dispatch id descriptor =>
    cases resolved : descriptor.resolve with
    | error error =>
      simp only [act, submitDescriptor_eq, resolved, Step.orders, Step.calls,
        placeAll_of_error resolved]
      exact ⟨_, rfl⟩
    | ok command =>
      simp only [act, submitDescriptor_eq, resolved, Step.orders, Step.calls,
        placeAll_of_ok resolved]
      exact ⟨_, rfl⟩
  | execute id command =>
    cases resolved : (Descriptor.ofCommand command).resolve with
    | error error =>
      simp only [act, submitDescriptor_eq, resolved, Step.orders, Step.calls,
        placeAll_of_error resolved]
      exact ⟨_, rfl⟩
    | ok _ =>
      simp only [act, submitDescriptor_eq, resolved, Step.orders, Step.calls,
        placeAll_of_ok resolved]
      -- The order is placed first, and then there is a look for its outcome.
      exact exists_pollOne_eq _ id _
  | executeMany id commands =>
    simp only [act, Step.orders, Step.calls, ← submitAll_snd]
    exact exists_pollMany_eq _ id _
  | tryResult id =>
    -- From here on nothing is called, and only what is kept under the name may change.
    exact exists_tryHandle_eq session id
  | await id => exact exists_awaitHandle_eq session id
  | cancel id =>
    simp only [act]
    split <;> exact ⟨_, rfl⟩
  | reply engine reply => cases kind
  | query id statement options => cases kind
  | onQuery id inner => cases kind

/-- A reply to a request that is held answers it. -/
theorem getD_reply?_of_held {answered : Nat} (within : answered < session.submissions.length)
    (mem : answered ∈ session.held) (reply : Reply Output) :
    (session.reply? answered reply).getD session
      = session.answer answered session.submissions[answered] reply := by
  simp only [reply?, List.getElem?_eq_getElem within, if_pos mem, Option.getD_some, Session.answer]

/-- A reply to a request that was answered before, or was never made, changes nothing. -/
theorem getD_reply?_of_not_held {answered : Nat} (free : answered ∉ session.held)
    (reply : Reply Output) : (session.reply? answered reply).getD session = session := by
  simp only [reply?, if_neg free]
  split <;> rfl

/-- The one request that gets a reply of its own is one that was made. -/
theorem ite_answered {made answered : Nat} (within : answered < made) (reply : Reply Output)
    (engine : Nat) :
    (if made ≤ engine then none else if answered = engine then some reply else none)
      = if engine = answered then some reply else none := by
  by_cases same : engine = answered
  · rw [if_neg (by omega), if_pos same.symm, if_pos same]
  · have other : ¬ answered = engine := fun back => same back.symm
    rw [if_neg other, if_neg same, ite_self]

/-- A request that is open gets none of the replies to those that are not held. -/
theorem eq_none_of_unanswered {answered : Nat} (free : answered ∉ session.held)
    (reply : Reply Output) (engine : Nat) (unanswered : session.Unanswered engine) :
    (if session.submissions.length ≤ engine then none
      else if answered = engine then some reply else none) = none := by
  rcases unanswered with held | above
  · have other : answered ≠ engine := fun same => free (same ▸ held)
    simp [other]
  · exact if_pos above

/-- A reply to a request that is held answers it; any other one changes nothing. -/
theorem Advance.reply (bounded : ∀ engine ∈ session.held, engine < session.submissions.length)
    (answered : Nat) (reply : Reply Output) :
    Advance [] (fun engine => if session.submissions.length ≤ engine then none
        else if answered = engine then some reply else none)
      session ((session.reply? answered reply).getD session) := by
  by_cases mem : answered ∈ session.held
  · have within : answered < session.submissions.length := bounded answered mem
    simp only [ite_answered within, getD_reply?_of_held within mem]
    exact .answer bounded (List.getElem?_eq_getElem within) mem reply
  · rw [getD_reply?_of_not_held mem]
    exact .missed bounded (eq_none_of_unanswered mem reply)

end AnalyticsClient.Session
