import AnalyticsClient.Proofs.Operation.RoundTrip
import AnalyticsClient.Proofs.Session.Turn
import Mathlib.Data.List.Forall2

/-! Several commands that are submitted together, while the engine replies and others take steps. -/

namespace AnalyticsClient

/-- Some of several commands, submitted in one go. -/
structure Wave where
  commands : List Command
  /-- The replies that the engine gives at once to the first requests made of them. -/
  ready : List (Reply Output)
  /-- What happens before the next commands are submitted: the engine replies to requests of its
  choice, and others take steps. -/
  between : List Turn

/-- The turns that waves of commands for one name are made of. -/
def Wave.turns (name : String) (waves : List Wave) : List Turn :=
  waves.flatMap fun wave => (wave.ready, .executeMany name wave.commands) :: wave.between

/-- What the engine is asked for by turns. -/
def ordersOf (config : Config) (turns : List Turn) : List Order :=
  turns.flatMap fun turn => turn.2.orders config

/-- The order of a command that is executed. -/
def Order.ofCommand (config : Config) (command : Command) : Order :=
  ⟨command, config.managementTimeout, .pending⟩

/-- Commands, each with the number of its request or its refusal, when `made` requests were made
before. -/
def numbered (made : Nat) : List Command → List (Command × Outcome Nat)
  | [] => []
  | command :: rest =>
    match (Descriptor.ofCommand command).resolve with
    | .ok _ => (command, .ok made) :: numbered (made + 1) rest
    | .error error => (command, .error error) :: numbered made rest

/-- The commands of waves, each with the number of its request or its refusal, when `made` requests
were made before. -/
def roster (config : Config) (name : String) (made : Nat) :
    List Wave → List (Command × Outcome Nat)
  | [] => []
  | wave :: rest =>
    numbered made wave.commands
      ++ roster config name (made + (ordersOf config (Wave.turns name [wave])).length) rest

/-- Whether an entry tells what became of its command: the request of that number is the one that
was ordered for it, or it was refused. -/
def Enrolled (config : Config) (made : Nat) (orders : List Order) :
    Command × Outcome Nat → Prop
  | (command, .ok engine) => command.validate = .ok () ∧ made ≤ engine
    ∧ orders[engine - made]? = some (.ofCommand config command)
  | (command, .error error) => ∃ defect, command.validate = .error defect
    ∧ error = .invalidArguments command.operation.name defect.reason

/-- Whether two entries are in the order of their requests. -/
def Ascends (first later : Command × Outcome Nat) : Prop :=
  ∀ engine engine', first.2 = .ok engine → later.2 = .ok engine' → engine < engine'

section

variable {config : Config} {made : Nat} {orders later : List Order}
  {entry : Command × Outcome Nat}

/-- Orders that come later change nothing. -/
theorem Enrolled.append_right (enrolled : Enrolled config made orders entry) :
    Enrolled config made (orders ++ later) entry := by
  obtain ⟨command, part⟩ := entry
  cases part with
  | error error => exact enrolled
  | ok engine =>
    obtain ⟨fit, above, found⟩ := enrolled
    obtain ⟨within, -⟩ := List.getElem?_eq_some_iff.1 found
    exact ⟨fit, above, by rw [List.getElem?_append_left within, found]⟩

/-- Orders that came before shift the numbers. -/
theorem Enrolled.append_left
    (enrolled : Enrolled config (made + orders.length) later entry) :
    Enrolled config made (orders ++ later) entry := by
  obtain ⟨command, part⟩ := entry
  cases part with
  | error error => exact enrolled
  | ok engine =>
    obtain ⟨fit, above, found⟩ := enrolled
    refine ⟨fit, by omega, ?_⟩
    -- Behind the orders that come first, places count from their end.
    rw [List.getElem?_append_right (by omega), ← found]
    congr 1
    omega

/-- The number of a request is one of those that orders get. -/
theorem Enrolled.bounds {command : Command} {engine : Nat}
    (enrolled : Enrolled config made orders (command, .ok engine)) :
    made ≤ engine ∧ engine < made + orders.length := by
  obtain ⟨-, above, found⟩ := enrolled
  obtain ⟨within, -⟩ := List.getElem?_eq_some_iff.1 found
  omega

/-- Entries with the first numbers ascend to those with the numbers after that. -/
theorem Enrolled.ascends {entry' : Command × Outcome Nat}
    (first : Enrolled config made orders entry)
    (second : Enrolled config (made + orders.length) later entry') : Ascends entry entry' := by
  -- The first number is below the bound from which the second ones start.
  obtain ⟨command, part⟩ := entry
  obtain ⟨command', part'⟩ := entry'
  intro engine engine' same same'
  cases same
  cases same'
  have below := first.bounds.2
  have above := second.bounds.1
  omega

end

/-- The orders of the first of several turns come first. -/
theorem ordersOf_cons (config : Config) (turn : Turn) (rest : List Turn) :
    ordersOf config (turn :: rest) = turn.2.orders config ++ ordersOf config rest :=
  List.flatMap_cons

/-- Turns one after the other ask for their orders one after the other. -/
theorem ordersOf_append (config : Config) (first later : List Turn) :
    ordersOf config (first ++ later) = ordersOf config first ++ ordersOf config later :=
  List.flatMap_append

/-- Waves one after the other are made of their turns one after the other. -/
theorem Wave.turns_cons (name : String) (wave : Wave) (rest : List Wave) :
    turns name (wave :: rest) = turns name [wave] ++ turns name rest := by
  simp [turns]

/-- The numbers belong to the commands in their order. -/
theorem map_fst_numbered (commands : List Command) :
    ∀ made, (numbered made commands).map Prod.fst = commands := by
  induction commands with
  | nil => exact fun _ => rfl
  | cons command rest ih =>
    intro made
    rw [numbered]
    split
    · rw [List.map_cons, ih]
    · rw [List.map_cons, ih]

/-- The orders of several commands are those of the ones that are fit. -/
theorem orders_executeMany_cons (config : Config) (name : String) (command : Command)
    (rest : List Command) :
    (Step.executeMany name (command :: rest)).orders config
      = (match command.validate with
          | .ok () => [.ofCommand config command]
          | .error _ => [])
        ++ (Step.executeMany name rest).orders config := by
  have resolved := Descriptor.resolve_ofCommand command
  -- A descriptor that is made of a command is resolved where the command is valid.
  cases checked : command.validate with
  | ok =>
    rw [checked] at resolved
    simp only [Step.orders, Step.calls, List.map_cons, List.filterMap_cons, Call.order?, resolved]
    rfl
  | error defect =>
    rw [checked] at resolved
    simp only [Step.orders, Step.calls, List.map_cons, List.filterMap_cons, Call.order?, resolved]
    rfl

/-- Every command has its own request among those ordered for all of them, or was refused; and the
requests are in the order of the commands. -/
theorem enrolled_numbered (config : Config) (name : String) (commands : List Command) :
    ∀ made, (∀ entry ∈ numbered made commands,
        Enrolled config made ((Step.executeMany name commands).orders config) entry)
      ∧ (numbered made commands).Pairwise Ascends := by
  induction commands with
  | nil => exact fun _ => ⟨fun _ mem => absurd mem List.not_mem_nil, .nil⟩
  | cons command rest ih =>
    intro made
    have resolved := Descriptor.resolve_ofCommand command
    rw [numbered, orders_executeMany_cons]
    cases checked : command.validate with
    | error defect =>
      -- A refused command takes no number away from the others.
      rw [checked] at resolved
      obtain ⟨enrolled, ascends⟩ := ih made
      simp only [resolved, List.nil_append]
      have refused : ∀ entry ∈ numbered made rest,
          Ascends (command, .error (.invalidArguments command.operation.name defect.reason))
            entry :=
        fun entry _ engine engine' same => absurd same nofun
      exact ⟨List.forall_mem_cons.2 ⟨⟨defect, checked, rfl⟩, enrolled⟩,
        List.pairwise_cons.2 ⟨refused, ascends⟩⟩
    | ok =>
      rw [checked] at resolved
      obtain ⟨enrolled, ascends⟩ := ih (made + 1)
      have own : Enrolled config made [.ofCommand config command] (command, .ok made) := by
        refine ⟨checked, Nat.le_refl _, ?_⟩
        rw [Nat.sub_self]
        rfl
      simp only [resolved]
      refine ⟨List.forall_mem_cons.2 ⟨own.append_right, fun entry mem => ?_⟩, ?_⟩
      · exact Enrolled.append_left (enrolled entry mem)
      · exact List.pairwise_cons.2 ⟨fun entry mem => own.ascends (enrolled entry mem), ascends⟩

/-- The commands of a roster are those of the waves. -/
theorem map_fst_roster (config : Config) (name : String) (waves : List Wave) :
    ∀ made, (roster config name made waves).map Prod.fst = waves.flatMap Wave.commands := by
  induction waves with
  | nil => exact fun _ => rfl
  | cons wave rest ih =>
    intro made
    rw [roster, List.map_append, map_fst_numbered, ih, List.flatMap_cons]

/-- Every command of waves has its own request among those ordered in their turns, or was refused;
and the requests are in the order of the commands. -/
theorem enrolled_roster (config : Config) (name : String) (waves : List Wave) :
    ∀ made, (∀ entry ∈ roster config name made waves,
        Enrolled config made (ordersOf config (Wave.turns name waves)) entry)
      ∧ (roster config name made waves).Pairwise Ascends := by
  induction waves with
  | nil => exact fun _ => ⟨fun _ mem => absurd mem List.not_mem_nil, .nil⟩
  | cons wave rest ih =>
    intro made
    obtain ⟨first, ascends⟩ := enrolled_numbered config name wave.commands made
    obtain ⟨later, ascends'⟩ := ih (made + (ordersOf config (Wave.turns name [wave])).length)
    -- The orders of the wave itself come before those of the steps taken after it.
    have own : ∀ entry ∈ numbered made wave.commands,
        Enrolled config made (ordersOf config (Wave.turns name [wave])) entry := by
      intro entry mem
      have turns : Wave.turns name [wave]
          = (wave.ready, .executeMany name wave.commands) :: wave.between := by
        simp [Wave.turns]
      rw [turns, ordersOf_cons]
      exact (first entry mem).append_right
    rw [roster, Wave.turns_cons name wave rest, ordersOf_append]
    refine ⟨fun entry mem => ?_, ?_⟩
    · rcases List.mem_append.1 mem with mem | mem
      · exact (own entry mem).append_right
      · exact Enrolled.append_left (later entry mem)
    · refine List.pairwise_append.2 ⟨ascends, ascends', fun entry mem entry' mem' => ?_⟩
      exact (own entry mem).ascends (later entry' mem')

/-- Of the replies to a request those in the first of two parts of a run come first. -/
theorem replyTo?_append (config : Config) (engine : Nat) (first later : List Turn) :
    ∀ made, replyTo? config engine made (first ++ later)
      = (replyTo? config engine made first
        <|> replyTo? config engine (made + (ordersOf config first).length) later) := by
  induction first with
  | nil =>
    intro made
    simp [replyTo?, ordersOf]
  | cons turn rest ih =>
    intro made
    -- The requests of the first turn are counted before those of the rest.
    have counted : made + (turn.2.orders config).length + (ordersOf config rest).length
        = made + (ordersOf config (turn :: rest)).length := by
      rw [ordersOf_cons, List.length_append]
      omega
    rw [List.cons_append, replyTo?, replyTo?, ih, counted]
    cases turn.replyTo? config engine made <;> rfl

namespace Session

variable {session : Session}

/-- Submits the commands of a wave, and lets happen what happens before the next ones. -/
def submitWave (session : Session) (wave : Wave) : List (Outcome Nat) × Session :=
  let (parts, placed) := submitAll { session with ready := wave.ready } wave.commands
  (parts, (run { placed with ready := [] } wave.between).2)

/-- Submits the commands of waves one wave after the other. -/
def submitWaves : Session → List Wave → List (Outcome Nat) × Session
  | session, [] => ([], session)
  | session, wave :: rest =>
    let (parts, session) := session.submitWave wave
    let (later, session) := submitWaves session rest
    (parts ++ later, session)

/-- Commands that are submitted get the next numbers. -/
theorem submitAll_fst (commands : List Command) : ∀ session : Session,
    (session.submitAll commands).1
      = (numbered session.submissions.length commands).map Prod.snd := by
  induction commands with
  | nil => exact fun _ => rfl
  | cons command rest ih =>
    intro session
    simp only [submitAll, submitDescriptor_eq, numbered]
    cases (Descriptor.ofCommand command).resolve with
    | error error => simp [ih]
    | ok _ =>
      -- The request of the first command is one more that was made before the others.
      have more (order : Order) : (session.place order).submissions.length
          = session.submissions.length + 1 := by
        rw [submissions_place, List.length_append, List.length_singleton]
      simp [ih, more]

/-- A wave advances the operations in flight by its own commands, and by what happens before the
next one. -/
theorem Advance.wave (name : String)
    (bounded : ∀ engine ∈ session.held, engine < session.submissions.length) (wave : Wave) :
    Advance (ordersOf session.config (Wave.turns name [wave]))
      (fun engine => replyTo? session.config engine session.submissions.length
        (Wave.turns name [wave]))
      session (session.submitWave wave).2 := by
  have turns : Wave.turns name [wave]
      = (wave.ready, .executeMany name wave.commands) :: wave.between := by
    simp [Wave.turns]
  let primed : Session := { session with ready := wave.ready }
  have placed : Advance ((Step.executeMany name wave.commands).orders session.config)
      (readyFor wave.ready session.submissions.length
        ((Step.executeMany name wave.commands).orders session.config).length)
      session { (primed.submitAll wave.commands).2 with ready := [] } := by
    rw [submitAll_snd]
    have all := @Advance.placeAll ((Step.executeMany name wave.commands).orders session.config)
      primed bounded
    exact all.frame _ session.ready []
  have later := Advance.run wave.between placed.bounded
  rw [placed.config, placed.length_submissions] at later
  -- A reply comes at once, or with what happens before the next wave.
  have gives : (fun engine => replyTo? session.config engine session.submissions.length
        (Wave.turns name [wave]))
      = fun engine => readyFor wave.ready session.submissions.length
            ((Step.executeMany name wave.commands).orders session.config).length engine
          <|> replyTo? session.config engine (session.submissions.length
            + ((Step.executeMany name wave.commands).orders session.config).length)
            wave.between := by
    have calls : callsOnly (.executeMany name wave.commands) = true := rfl
    rw [turns, ← Turn.replyTo?_calls calls]
    rfl
  rw [gives, turns, ordersOf_cons]
  exact placed.trans later

/-- Waves advance the operations in flight as their turns tell. -/
theorem Advance.waves (name : String) (waves : List Wave) :
    ∀ {session : Session}, (∀ engine ∈ session.held, engine < session.submissions.length) →
      Advance (ordersOf session.config (Wave.turns name waves))
        (fun engine => replyTo? session.config engine session.submissions.length
          (Wave.turns name waves))
        session (session.submitWaves waves).2 := by
  -- Each wave changes the session for the others, so the session stays quantified over.
  induction waves with
  | nil =>
    intro session bounded
    exact .quiet bounded rfl rfl (Nat.le_refl _) rfl rfl rfl
  | cons wave rest ih =>
    intro session bounded
    have first := Advance.wave name bounded wave
    have later := ih first.bounded
    rw [first.config, first.length_submissions] at later
    rw [Wave.turns_cons name wave rest, ordersOf_append]
    simp only [replyTo?_append]
    exact first.trans later

/-- What waves give their caller to wait for are the entries of the roster. -/
theorem submitWaves_fst (name : String) (waves : List Wave) :
    ∀ {session : Session}, (∀ engine ∈ session.held, engine < session.submissions.length) →
      (session.submitWaves waves).1
        = (roster session.config name session.submissions.length waves).map Prod.snd := by
  -- Each wave is numbered from where the one before it ended.
  induction waves with
  | nil => exact fun _ => rfl
  | cons wave rest ih =>
    intro session bounded
    have first := Advance.wave name bounded wave
    have parts : (session.submitWave wave).1
        = (numbered session.submissions.length wave.commands).map Prod.snd :=
      submitAll_fst wave.commands { session with ready := wave.ready }
    have later := ih first.bounded
    rw [first.config, first.length_submissions] at later
    rw [submitWaves, roster, List.map_append, ← later, ← parts]

end Session

end AnalyticsClient
