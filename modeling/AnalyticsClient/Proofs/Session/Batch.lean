import AnalyticsClient.Proofs.Session.Handover
import AnalyticsClient.Proofs.Session.Party
import AnalyticsClient.Proofs.Session.Waves

/-! What a caller gets that has several commands executed together: all outcomes at once, each that
of its own command. -/

namespace AnalyticsClient.Session

/-- The first look at several commands, which submits them. -/
def firstLook (session : Session) (name : String) (waves : List Wave) : Answer × Session :=
  let (parts, submitted) := session.submitWaves waves
  submitted.pollMany name parts

/-- What comes of a command among several ones: what comes of it when it is executed alone and gets
the reply that its own request got. -/
inductive Earns (config : Config) (history : List Turn) (session : Session) :
    Command × Outcome Nat → Outcome Output → Prop
  | refused {command : Command} {defect : Defect} {error : Error}
    (faulty : command.validate = .error defect)
    (own : error = .invalidArguments command.operation.name defect.reason)
    (alone : ∀ id ready name,
      ((start config id).step ready (.execute name command)).1 = .outcome (.error error)) :
    Earns config history session (command, .error error) (.error error)
  | replied {command : Command} {engine : Nat} {submission : Submission} {reply : Reply Output}
    {outcome : Outcome Output} (fit : command.validate = .ok ())
    (made : session.submissions[engine]? = some submission)
    (own : submission.order = .ofCommand config command)
    (gave : replyTo? config engine 0 history = some reply)
    (alone : ∀ name, ((start config fun _ => submission.request.clientContextId).step [reply]
      (.execute name command)).1 = .outcome outcome) :
    Earns config history session (command, .ok engine) outcome

/-- What a look at several commands gives: all outcomes, or nothing while a request is left to which
there was no reply. -/
inductive Looked (config : Config) (history : List Turn) (session : Session)
    (entries : List (Command × Outcome Nat)) : Answer → Prop
  | pending {command : Command} {engine : Nat} (mem : (command, .ok engine) ∈ entries)
    (unreplied : replyTo? config engine 0 history = none) :
    Looked config history session entries .pending
  | outcomes {results : List (Outcome Output)}
    (earned : List.Forall₂ (Earns config history session) entries results) :
    Looked config history session entries (.outcomes results)

variable {config : Config} {ids : Nat → String} {session : Session} {orders : List Order}
  {given : Nat → Option (Reply Output)}

/-- A command that is fit and executed alone comes to what its reply brings. -/
theorem execute_fit {command : Command} (fit : command.validate = .ok ()) (config : Config)
    (id : Nat → String) (reply : Reply Output) (name : String) :
    ((start config id).step [reply] (.execute name command)).1
      = .outcome (((Order.ofCommand config command).submission (id 0)).settled reply) := by
  have resolved := Descriptor.resolve_ofCommand command
  rw [fit] at resolved
  let primed : Session := { start config id with ready := [reply] }
  let order := Order.ofCommand config command
  have bounded : ∀ engine ∈ primed.held, engine < primed.submissions.length := by
    intro engine mem
    cases mem
  -- The reply is ready, so the outcome is there when it is looked for.
  have deliveries : (primed.place order).ledger.deliveries
      = [(order.submission (id 0)).delivery 0 reply] := by
    rw [place_of_cons bounded rfl]
    exact Submission.deliveries_answer (order.submission (id 0)) 0 reply _
  have found : (primed.place order).ledger.outcome? 0
      = some ((order.submission (id 0)).settled reply) := by
    rw [Ledger.outcome?, deliveries]
    rfl
  show (primed.act (.execute name command)).1 = _
  simp only [act, submitDescriptor_eq, resolved]
  show ((primed.place order).pollOne name 0).1 = _
  rw [pollOne, found]

/-- A command that is faulty and executed alone comes to its refusal. -/
theorem execute_faulty {command : Command} {defect : Defect}
    (faulty : command.validate = .error defect) (config : Config) (id : Nat → String)
    (ready : List (Reply Output)) (name : String) :
    ((start config id).step ready (.execute name command)).1
      = .outcome (.error (.invalidArguments command.operation.name defect.reason)) := by
  have resolved := Descriptor.resolve_ofCommand command
  rw [faulty] at resolved
  simp only [step, act, submitDescriptor_eq, resolved]

/-- What has no outcome after a while had none before. -/
theorem Advance.outcome?_mono {before after : Session} (advance : Advance orders given before after)
    {engine : Nat} (none_ : after.ledger.outcome? engine = none) :
    before.ledger.outcome? engine = none := by
  rw [outcome?_eq, Option.map_eq_none_iff, List.head?_eq_none_iff] at none_ ⊢
  by_cases answered : before.Unanswered engine → given engine = none
  · rw [← advance.kept engine answered, none_]
  · -- A reply that was taken in between would have left a delivery.
    obtain ⟨open_, gave⟩ := Classical.not_imp.1 answered
    obtain ⟨reply, gave⟩ := Option.ne_none_iff_exists'.1 gave
    obtain ⟨submission, -, deliveries⟩ := advance.delivered engine reply open_ gave
    rw [none_] at deliveries
    exact absurd deliveries.symm (List.append_ne_nil_of_right_ne_nil _ (List.cons_ne_nil _ _))

/-- The order of the request of an entry is that of its command. -/
theorem Advance.order_of_enrolled (advance : Advance orders given (start config ids) session)
    {command : Command} {engine : Nat} (enrolled : Enrolled config 0 orders (command, .ok engine))
    {submission : Submission} (made : session.submissions[engine]? = some submission) :
    submission.order = .ofCommand config command := by
  obtain ⟨-, -, found⟩ := enrolled
  have all : session.submissions.map Submission.order = orders := advance.map_order
  rw [← all, Nat.sub_zero, List.getElem?_map, made] at found
  exact Option.some.inj found

section

variable {history : List Turn} {entries : List (Command × Outcome Nat)}

/-- The outcome that is found for an entry is what its command earns. -/
theorem Advance.earns (advance : Since config ids history session) {entry : Command × Outcome Nat}
    (enrolled : Enrolled config 0 (ordersOf config history) entry)
    {result : Outcome Output} (found : session.partOutcome? entry.2 = some result) :
    Earns config history session entry result := by
  obtain ⟨command, part⟩ := entry
  cases part with
  | error error =>
    -- The refusal is the command's own, and is given for it alone as well.
    obtain ⟨defect, faulty, rfl⟩ := enrolled
    cases found
    exact .refused faulty rfl (execute_faulty faulty config)
  | ok engine =>
    cases gave : replyTo? config engine 0 history with
    | none =>
      have none_ : session.ledger.outcome? engine = none := (advance.of_unreplied gave).2
      rw [partOutcome?, none_] at found
      cases found
    | some reply =>
      obtain ⟨submission, made, -, outcome⟩ := advance.of_replied gave
      have own := advance.order_of_enrolled enrolled made
      have same : result = submission.settled reply := by
        rw [partOutcome?, outcome] at found
        exact (Option.some.inj found).symm
      -- The submission is that of the command's order under its own id.
      have submission_eq : submission
          = (Order.ofCommand config command).submission submission.request.clientContextId := by
        rw [← own]
        rfl
      refine .replied enrolled.1 made own gave fun name => ?_
      rw [execute_fit enrolled.1, same, ← submission_eq]

/-- A look at several commands gives what they earn, or nothing. -/
theorem Advance.looked (advance : Since config ids history session)
    (enrolled : ∀ entry ∈ entries, Enrolled config 0 (ordersOf config history) entry)
    (name : String) :
    Looked config history session entries (session.pollMany name (entries.map Prod.snd)).1 := by
  -- Either all have outcomes, each of which was earned, or a request among them is without one.
  rcases outcomes_cases session (entries.map Prod.snd)
    with ⟨results, found, each⟩ | ⟨none_, engine, mem, open_⟩
  · simp only [pollMany, found]
    rw [List.forall₂_map_left_iff] at each
    refine .outcomes ?_
    have both : List.Forall₂ (fun entry result => entry ∈ entries
        ∧ session.partOutcome? entry.2 = some result) entries results :=
      (List.forall₂_and_left _ _).2 ⟨fun _ mem => mem, each⟩
    exact both.imp fun entry result holds => advance.earns (enrolled entry holds.1) holds.2
  · simp only [pollMany, none_]
    obtain ⟨⟨command, part⟩, mem', same⟩ := List.mem_map.1 mem
    cases same
    exact .pending mem' (advance.unreplied open_)

/-- A history goes on with the turns that lead from where it led. -/
theorem Advance.extend {between after : Session} {turns : List Turn}
    (first : Since config ids history between)
    (second : Advance (ordersOf between.config turns)
      (fun engine => replyTo? between.config engine between.submissions.length turns) between
      after) :
    Since config ids (history ++ turns) after := by
  rw [first.config, first.length_submissions] at second
  rw [Since, ordersOf_append]
  -- The requests of the history are counted before those of the turns.
  simp only [replyTo?_append]
  exact first.trans second

/-- The requests of a history are those that its turns ask for. -/
theorem Advance.map_order_since (advance : Since config ids history session) :
    session.submissions.map Submission.order = ordersOf config history :=
  advance.map_order

end

/-- Parts have the outcomes that the ledger has. -/
theorem partOutcome?_congr {a b : Session} (ledger : a.ledger = b.ledger) :
    a.partOutcome? = b.partOutcome? := by
  funext part
  cases part with
  | ok engine => exact congrArg (Ledger.outcome? · engine) ledger
  | error error => rfl

/-- What a look gives depends on the ledger only. -/
theorem pollMany_congr {a b : Session} (ledger : a.ledger = b.ledger) (name : String)
    (parts : List (Outcome Nat)) : (a.pollMany name parts).1 = (b.pollMany name parts).1 := by
  simp only [pollMany, partOutcome?_congr ledger]
  split <;> rfl

/-- A look that gives nothing keeps what is waited for. -/
theorem pollMany_of_open {parts : List (Outcome Nat)} {engine : Nat} (mem : .ok engine ∈ parts)
    (open_ : session.ledger.outcome? engine = none) (name : String) :
    session.pollMany name parts = (.pending, session.keep name (.awaitedMany parts)) := by
  rcases outcomes_cases session parts with ⟨results, found, each⟩ | ⟨none_, -⟩
  · -- Were all outcomes found, that of the open request would be.
    obtain ⟨place, within, same⟩ := List.getElem_of_mem mem
    have outcome := each.get within (each.length_eq ▸ within)
    simp only [List.get_eq_getElem, same, partOutcome?, open_] at outcome
    cases outcome
  · simp only [pollMany, none_]

/-- What is waited for under a name. -/
def Awaits (session : Session) (name : String) (parts : List (Outcome Nat)) : Prop :=
  session.handles.get? name = some (.awaitedMany parts)

/-- What gives nothing can be waited for again. -/
theorem awaits_pollMany {parts : List (Outcome Nat)} {engine : Nat} (mem : .ok engine ∈ parts)
    (open_ : session.ledger.outcome? engine = none) (name : String) :
    (session.pollMany name parts).2.Awaits name parts := by
  rw [pollMany_of_open mem open_, Awaits]
  exact handles_keep name (.awaitedMany parts)

/-- Who waits for several commands takes the future away, and looks for the outcomes. -/
theorem Awaits.awaitHandle_eq {name : String} {parts : List (Outcome Nat)}
    (awaits : session.Awaits name parts) :
    session.awaitHandle name = (session.forget name).pollMany name parts := by
  have found : session.handles.get? name = some (.awaitedMany parts) := awaits
  simp only [awaitHandle, found]

/-- Who waits for several commands gets what a look at them gives. -/
theorem Awaits.step_await {name : String} {parts : List (Outcome Nat)}
    (awaits : session.Awaits name parts) (ready : List (Reply Output)) :
    (session.step ready (.await name)).1 = (session.pollMany name parts).1 := by
  have primed : Awaits { session with ready } name parts := awaits
  show (awaitHandle { session with ready } name).1 = _
  rw [primed.awaitHandle_eq]
  exact pollMany_congr (a := forget { session with ready } name) (b := session) rfl name parts

/-- Steps of others, and looks that come too early, change nothing about what is waited for. -/
theorem Awaits.step {name : String} {parts : List (Outcome Nat)}
    (awaits : session.Awaits name parts) {turn : Turn}
    (kind : turn.2 = .await name ∨ turn.2.party? ≠ some (.future name))
    {engine : Nat} (mem : .ok engine ∈ parts) (open_ : session.ledger.outcome? engine = none) :
    (session.step turn.1 turn.2).2.Awaits name parts := by
  obtain ⟨ready, step⟩ := turn
  rcases kind with same | other
  · -- The future is taken away for the look, and put back after it.
    obtain rfl : step = .await name := same
    have primed : Awaits { session with ready } name parts := awaits
    show Awaits (awaitHandle { session with ready } name).2 name parts
    have still : (forget { session with ready } name).ledger.outcome? engine = none := open_
    rw [primed.awaitHandle_eq]
    exact awaits_pollMany mem still name
  · exact (handles_act other).trans awaits

/-- As long as a request has no outcome, its batch is waited for. -/
theorem Awaits.run {name : String} {parts : List (Outcome Nat)} {engine : Nat}
    (mem : .ok engine ∈ parts) (turns : List Turn) :
    ∀ {session : Session}, (∀ engine ∈ session.held, engine < session.submissions.length) →
      session.Awaits name parts →
      (∀ turn ∈ turns, turn.2 = .await name ∨ turn.2.party? ≠ some (.future name)) →
      (session.run turns).2.ledger.outcome? engine = none →
      (session.run turns).2.Awaits name parts := by
  induction turns with
  | nil => exact fun _ awaits _ _ => awaits
  | cons turn rest ih =>
    intro session bounded awaits kinds open_
    have first := Advance.step bounded turn
    -- What has no outcome at the end had none before any of the steps.
    have still : (session.step turn.1 turn.2).2.ledger.outcome? engine = none :=
      (Advance.run rest first.bounded).outcome?_mono open_
    have next := awaits.step (kinds turn List.mem_cons_self) mem (first.outcome?_mono still)
    exact ih first.bounded next (fun turn mem => kinds turn (List.mem_cons_of_mem _ mem)) open_

/-- A step that executes several commands at once is the first look at a single wave of them. -/
theorem step_executeMany (session : Session) (ready : List (Reply Output)) (name : String)
    (commands : List Command) :
    session.step ready (.executeMany name commands)
      = session.firstLook name [⟨commands, ready, []⟩] := by
  let placed : Session := (submitAll { session with ready } commands).2
  let parts : List (Outcome Nat) := (submitAll { session with ready } commands).1
  have first : session.firstLook name [⟨commands, ready, []⟩]
      = pollMany { placed with ready := [] } name (parts ++ []) := rfl
  have same : partOutcome? { placed with ready := [] } = placed.partOutcome? :=
    partOutcome?_congr rfl
  rw [first, List.append_nil]
  show ((placed.pollMany name parts).1, { (placed.pollMany name parts).2 with ready := [] }) = _
  -- The replies that are left over are lost, before the look or after it.
  simp only [pollMany, same]
  split <;> rfl

/-- What a step that executes several commands asks the engine for: those of them that are fit, each
once and in their order. -/
theorem orders_executeMany (config : Config) (name : String) (commands : List Command) :
    (Step.executeMany name commands).orders config
      = commands.filterMap fun command =>
          match command.validate with
          | .ok () => some (.ofCommand config command)
          | .error _ => none := by
  -- Whether a command is fit depends on it alone.
  induction commands with
  | nil => rfl
  | cons command rest ih =>
    rw [orders_executeMany_cons, List.filterMap_cons, ih]
    cases command.validate <;> rfl

section

variable {earlier : List Turn} (name : String) (waves : List Wave)

/-- The first look is one at the parts that the roster tells. -/
theorem Advance.firstLook_eq (started : Since config ids earlier session) :
    session.firstLook name waves = (session.submitWaves waves).2.pollMany name
      ((roster config name session.submissions.length waves).map Prod.snd) := by
  have same : session.config = config := started.config
  have parts := submitWaves_fst name waves started.bounded
  rw [same] at parts
  rw [← parts]
  rfl

/-- The first look changes nothing but what callers keep, once the commands are submitted. -/
theorem exists_firstLook_eq (session : Session) (name : String) (waves : List Wave) :
    ∃ handles, (session.firstLook name waves).2
      = { (session.submitWaves waves).2 with handles } :=
  exists_pollMany_eq (session.submitWaves waves).2 name (session.submitWaves waves).1

/-- The first look leads to where the turns of its waves lead. -/
theorem Advance.since_firstLook (started : Since config ids earlier session) :
    Since config ids (earlier ++ Wave.turns name waves) (session.firstLook name waves).2 := by
  have placed : Since config ids (earlier ++ Wave.turns name waves) (session.submitWaves waves).2 :=
    started.extend (Advance.waves name waves started.bounded)
  -- The look itself only keeps the future.
  obtain ⟨handles, after⟩ := exists_firstLook_eq session name waves
  rw [after]
  exact placed.frame handles (start config ids).ready (session.submitWaves waves).2.ready

/-- Seen from the start, the requests of waves are those after all that were made before. -/
theorem Advance.enrolled_since (started : Since config ids earlier session) :
    ∀ entry ∈ roster config name session.submissions.length waves,
      Enrolled config 0 (ordersOf config (earlier ++ Wave.turns name waves)) entry := by
  intro entry mem
  -- As many requests were made before as orders were placed.
  have length : session.submissions.length = (ordersOf config earlier).length := by
    rw [← started.map_order_since, List.length_map]
  have own := (enrolled_roster config name waves session.submissions.length).1 entry mem
  rw [ordersOf_append]
  refine Enrolled.append_left ?_
  rwa [Nat.zero_add, ← length]

/-- What the first look gives is found again by a look right after it. -/
theorem Advance.firstLook_again (started : Since config ids earlier session) :
    (session.firstLook name waves).1
      = ((session.firstLook name waves).2.pollMany name
          ((roster config name session.submissions.length waves).map Prod.snd)).1 := by
  -- Both looks find the same ledger.
  obtain ⟨handles, after⟩ := exists_firstLook_eq session name waves
  calc (session.firstLook name waves).1
      = ((session.submitWaves waves).2.pollMany name
          ((roster config name session.submissions.length waves).map Prod.snd)).1 := by
        rw [started.firstLook_eq]
    _ = _ := pollMany_congr (by rw [after]) name _

/-- Where a request is left without an outcome, the first look keeps the future. -/
theorem Advance.awaits_firstLook (started : Since config ids earlier session) {engine : Nat}
    (mem : .ok engine ∈ (roster config name session.submissions.length waves).map Prod.snd)
    (open_ : (session.firstLook name waves).2.ledger.outcome? engine = none) :
    (session.firstLook name waves).2.Awaits name
      ((roster config name session.submissions.length waves).map Prod.snd) := by
  obtain ⟨handles, after⟩ := exists_firstLook_eq session name waves
  -- The outcome was not there before the look either.
  have before : (session.submitWaves waves).2.ledger.outcome? engine = none := by
    rw [after] at open_
    exact open_
  rw [started.firstLook_eq]
  exact awaits_pollMany mem before name

/-- As long as a request is left without a reply, looks come too early; so the future is there for a
look after them. -/
theorem Advance.awaits_later (started : Since config ids earlier session) {middle quiet : List Turn}
    (kinds : ∀ turn ∈ middle, turn.2 = .await name ∨ turn.2.party? ≠ some (.future name))
    (others : ∀ turn ∈ quiet, turn.2.party? ≠ some (.future name))
    {command : Command} {engine : Nat}
    (mem : (command, .ok engine) ∈ roster config name session.submissions.length waves)
    (unreplied : replyTo? config engine 0 (earlier ++ Wave.turns name waves ++ middle) = none) :
    ((session.firstLook name waves).2.run (middle ++ quiet)).2.Awaits name
      ((roster config name session.submissions.length waves).map Prod.snd) := by
  have looked := started.since_firstLook name waves
  have part : .ok engine ∈ (roster config name session.submissions.length waves).map Prod.snd :=
    List.mem_map_of_mem mem
  have between := Advance.run middle looked.bounded
  have open_ := ((looked.extend between).of_unreplied unreplied).2
  -- The first look gave nothing, nor did any of those in the middle.
  have kept := started.awaits_firstLook name waves part (between.outcome?_mono open_)
  have still := Awaits.run part middle looked.bounded kept kinds open_
  rw [run_append]
  exact (handles_run quiet others).trans still

end

/-- The account of several commands that are executed together, from some turns before the first
look at them to a look after some later turns: some in which the caller may look again, and then
some in which it does not. -/
structure Batched (config : Config) (name : String) (earlier : List Turn) (waves : List Wave)
    (middle quiet : List Turn) (before : Session) (first : Answer × Session) (last : Session)
    (answer : Answer) : Prop where
  /-- Before the first look the engine was asked for nothing but what the steps until then ask
  for. -/
  unsubmitted : before.submissions.map Submission.order = ordersOf config earlier
  /-- With the first look it is asked for every command that is fit, once and in order, whatever is
  replied meanwhile. -/
  submitted : first.2.submissions.map Submission.order
    = ordersOf config (earlier ++ Wave.turns name waves)
  fit : ∀ commands, (Step.executeMany name commands).orders config
    = commands.filterMap fun command =>
        match command.validate with
        | .ok () => some (.ofCommand config command)
        | .error _ => none
  /-- No later look asks for anything. -/
  resubmitted : last.submissions.map Submission.order
    = ordersOf config (earlier ++ Wave.turns name waves ++ (middle ++ quiet))
  /-- The entries tell of each command, in order, which request is its own, or its refusal. -/
  listed : (roster config name before.submissions.length waves).map Prod.fst
    = waves.flatMap Wave.commands
  enrolled : ∀ entry ∈ roster config name before.submissions.length waves,
    Enrolled config before.submissions.length (ordersOf config (Wave.turns name waves)) entry
  ascending : (roster config name before.submissions.length waves).Pairwise Ascends
  /-- The first look gives all outcomes, or nothing while a request is left without a reply. -/
  first : Looked config (earlier ++ Wave.turns name waves) first.2
    (roster config name before.submissions.length waves) first.1
  /-- So does a look after later turns, unless an earlier one gave all outcomes. -/
  later :
    (∃ command engine, (command, .ok engine) ∈ roster config name before.submissions.length waves
      ∧ replyTo? config engine 0 (earlier ++ Wave.turns name waves ++ middle) = none) →
    Looked config (earlier ++ Wave.turns name waves ++ (middle ++ quiet)) last
      (roster config name before.submissions.length waves) answer
  /-- The step that executes several commands is such a first look. -/
  single : ∀ ready commands, before.step ready (.executeMany name commands)
    = before.firstLook name [⟨commands, ready, []⟩]

/-- Whatever happened before, and whatever the engine replies and others do while several commands
are submitted and while they are waited for: the first look asks the engine for exactly the commands
that are fit, and a look gives either nothing, as long as a request of theirs is left without a
reply, or for each command what comes of it when it is executed alone and gets the reply that its
own request got. -/
theorem batch_exact (config : Config) (ids : Nat → String) (name : String) (earlier : List Turn)
    (waves : List Wave) (middle quiet : List Turn) (ready : List (Reply Output))
    (kinds : ∀ turn ∈ middle, turn.2 = .await name ∨ turn.2.party? ≠ some (.future name))
    (others : ∀ turn ∈ quiet, turn.2.party? ≠ some (.future name)) :
    let before := ((start config ids).run earlier).2
    let first := before.firstLook name waves
    let last := (first.2.run (middle ++ quiet)).2
    Batched config name earlier waves middle quiet before first last
      (last.step ready (.await name)).1 := by
  intro before first last
  have started : Since config ids earlier before := advance_start config ids earlier
  have looked : Since config ids (earlier ++ Wave.turns name waves) first.2 :=
    started.since_firstLook name waves
  have ended : Since config ids (earlier ++ Wave.turns name waves ++ (middle ++ quiet)) last :=
    looked.extend (Advance.run (middle ++ quiet) looked.bounded)
  have all := started.enrolled_since name waves
  obtain ⟨enrolled, ascending⟩ := enrolled_roster config name waves before.submissions.length
  exact {
    unsubmitted := started.map_order_since
    submitted := looked.map_order_since
    fit := orders_executeMany config name
    resubmitted := ended.map_order_since
    listed := map_fst_roster config name waves before.submissions.length
    enrolled := enrolled
    ascending := ascending
    first := by
      rw [started.firstLook_again name waves]
      exact looked.looked all name
    later := by
      intro unready
      obtain ⟨command, engine, mem, unreplied⟩ := unready
      have awaits : last.Awaits name
          ((roster config name before.submissions.length waves).map Prod.snd) :=
        started.awaits_later name waves kinds others mem unreplied
      rw [awaits.step_await]
      refine ended.looked (fun entry mem => ?_) name
      rw [ordersOf_append]
      exact (all entry mem).append_right
    single := fun ready commands => step_executeMany before ready name commands }

/-- Three commands of which the engine gives up the last while it gets it, and one is faulty. -/
def three : List Wave :=
  [⟨[.getAllDatasets], [], []⟩, ⟨[.dropDataverse ⟨"", false⟩, .getAllIndexes], [.release], []⟩]

/-- A caller that looks too early gets nothing, and after the last reply gets all outcomes. -/
theorem batch_three :
    let ids (draw : Nat) : String := if draw = 0 then "first" else "second"
    let first := (start default ids).firstLook "batch" three
    let early : List Turn := [([], .await "batch")]
    let reply : List Turn := [([], .reply 0 (.succeed (.datasets [])))]
    let last := (first.2.run (early ++ reply)).2
    let answer := (last.step [] (.await "batch")).1
    first.1 = .pending
      ∧ answer = .outcomes [.ok (.datasets []),
        .error (.invalidArguments "DROP_DATAVERSE" "`dataverse_name` must not be empty"),
        .error (.engine (Completion.releaseError "GET_ALL_INDEXES"))]
      ∧ Batched default "batch" [] three early reply (start default ids) first last answer := by
  intro ids first early reply last answer
  refine ⟨rfl, rfl, ?_⟩
  refine batch_exact default ids "batch" [] three early reply [] (fun turn mem => ?_)
    fun turn mem => ?_
  · rw [List.mem_singleton.1 mem]
    exact .inl rfl
  · rw [List.mem_singleton.1 mem]
    exact nofun

end AnalyticsClient.Session
