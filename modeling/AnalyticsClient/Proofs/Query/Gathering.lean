import AnalyticsClient.Proofs.Query.Owed
import AnalyticsClient.Proofs.Session.Streams

/-! Taking all rows that are left of a query is taking them one by one, up to the ending. -/

namespace AnalyticsClient

namespace RowStream

variable {τ : Type} {step : τ → Next × τ} {state between after : τ} {last : Next}

/-- Takes several steps, whatever each of them gives. -/
def stepMany (step : τ → Next × τ) : (count : Nat) → τ → List Next × τ
  | 0, state => ([], state)
  | count + 1, state =>
    let (first, state) := step state
    let (later, state) := stepMany step count state
    (first :: later, state)

/-- Steps that are taken after others come behind them. -/
theorem stepMany_add (more : Nat) : ∀ (count : Nat) (state : τ),
    stepMany step (count + more) state
      = ((stepMany step count state).1 ++ (stepMany step more (stepMany step count state).2).1,
        (stepMany step more (stepMany step count state).2).2) := by
  -- The state changes with each step, so it stays quantified over.
  intro count
  induction count with
  | zero =>
    intro state
    rw [Nat.zero_add]
    rfl
  | succ count ih =>
    intro state
    rw [Nat.succ_add]
    simp only [stepMany, ih, List.cons_append]

/-- Rows are taken up to the first step that does not give one. -/
theorem takeRows_of_stepMany (noRow : ∀ row, last ≠ .row row) {rows : List Json} :
    ∀ {turns : Nat} {state : τ}, rows.length < turns →
      stepMany step (rows.length + 1) state = (rows.map .row ++ [last], after) →
      takeRows step turns state = (rows, last, after) := by
  -- The first step gives the first row, or what comes instead of one.
  induction rows with
  | nil =>
    intro turns state enough steps
    obtain ⟨turns, rfl⟩ := Nat.exists_eq_add_of_lt enough
    simp only [List.length_nil, stepMany, List.map_nil, List.nil_append, Prod.mk.injEq,
      List.cons.injEq, and_true] at steps
    obtain ⟨found, rfl⟩ := steps
    simp only [List.length_nil, Nat.zero_add, takeRows]
    cases outcome : step state with
    | mk first after =>
      rw [outcome] at found
      obtain rfl : first = last := found
      cases first with
      | row row => exact absurd rfl (noRow row)
      | ended | error | pending => rfl
  | cons row rest ih =>
    intro turns state enough steps
    obtain ⟨turns, rfl⟩ : ∃ fewer, turns = fewer + 1 := ⟨turns - 1, by omega⟩
    cases outcome : step state with
    | mk first between =>
      rw [List.length_cons, stepMany, outcome] at steps
      simp only [List.map_cons, List.cons_append, Prod.mk.injEq, List.cons.injEq] at steps
      obtain ⟨⟨rfl, later⟩, same⟩ := steps
      have rest_ := ih (Nat.lt_of_succ_lt_succ enough) (Prod.ext later same)
      simp only [takeRows, outcome, rest_]

end RowStream

namespace LiveQuery

variable {capacity : Nat} {query : LiveQuery} {bursts : List (List ProducerAction)}
  {left : List Json} {ending : Option Ending}

/-- The caller asks for a row and waits for it, while the engine gets one burst of actions after the
other to do. -/
def awaitNext : List (List ProducerAction) → LiveQuery →
    Next × List (List ProducerAction) × LiveQuery
  | [], query => (query.next.1, [], query.next.2)
  | burst :: rest, query =>
    match query.next with
    | (.pending, query) => awaitNext rest (query.produce burst)
    | (found, query) => (found, burst :: rest, query)

/-- The caller takes all rows and waits for them; none if more may come after the last burst. -/
def awaitRows (bursts : List (List ProducerAction)) (query : LiveQuery) :
    Option (Outcome (List Json)) × LiveQuery :=
  if ¬ query.stream.isStreaming then (some (.error .alreadyQueried), query)
  else
    -- A turn for each event that is there, for each that may still come, and for the end.
    let turns := query.stream.buffered.length
      + (query.producer.actions.length + bursts.flatten.length) + 1
    let (rows, last, _, query) :=
      RowStream.takeRows (fun state => awaitNext state.1 state.2) turns (bursts, query)
    (RowStream.collected rows last, query)

/-- Where no bursts come, a caller who waits takes the rows that there are. -/
theorem takeRows_awaitNext_nil (turns : Nat) : ∀ query : LiveQuery,
    RowStream.takeRows (fun state => awaitNext state.1 state.2) turns ([], query)
      = ((RowStream.takeRows next turns query).1, (RowStream.takeRows next turns query).2.1, [],
        (RowStream.takeRows next turns query).2.2) := by
  induction turns with
  | zero => exact fun _ => rfl
  | succ turns ih =>
    intro query
    simp only [RowStream.takeRows, awaitNext]
    cases query.next with
    | mk shown query' =>
      -- Only a row is followed by another turn.
      cases shown with
      | row row => simp only [ih]
      | ended | error | pending => rfl

/-- Where no bursts come, a caller who waits asks as often as one who does not. -/
theorem stepMany_awaitNext_nil (count : Nat) : ∀ query : LiveQuery,
    RowStream.stepMany (fun state => awaitNext state.1 state.2) count ([], query)
      = ((query.nextMany count).1, [], (query.nextMany count).2) := by
  induction count with
  | zero => exact fun _ => rfl
  | succ count ih =>
    intro query
    simp only [RowStream.stepMany, awaitNext, ih, nextMany]

/-- All rows that there are, are those for which nobody waits. -/
theorem rows_eq_awaitRows (query : LiveQuery) : query.rows = query.awaitRows [] := by
  simp only [rows, awaitRows, takeRows_awaitNext_nil, List.flatten_nil, List.length_nil,
    Nat.add_zero]

/-- Whoever is owed no ending has an engine that goes on. -/
theorem Owes.producing_of_none {later : List ProducerAction} (owes : Owes later query left none) :
    query.stream.producing = true := by
  generalize same : (none : Option Ending) = ending at owes
  cases owes with
  | going producing => exact producing
  | told => cases same

/-- A caller who gets something at once does not wait. -/
theorem awaitNext_of_found {found : Next} (same : query.next.1 = found)
    (atOnce : found ≠ .pending) :
    awaitNext bursts query = (found, bursts, query.next.2) := by
  subst same
  cases bursts with
  | nil => rfl
  | cons burst later =>
    unfold awaitNext
    cases outcome : query.next with
    | mk found after =>
      rw [outcome] at atOnce
      cases found with
      | row | ended | error => rfl
      | pending => exact absurd rfl atOnce

/-- Nothing is owed where the buffer is empty and the engine has nothing to do. -/
theorem Owes.nothing (owes : Owes [] query left ending)
    (producing : query.stream.producing = true) (buffered : query.stream.buffered = [])
    (done : query.producer.actions = []) : left = [] ∧ ending = none := by
  cases owes with
  | going _ held =>
    rw [buffered] at held
    rw [List.map_eq_nil_iff.1 held.symm, done]
    exact ⟨rfl, rfl⟩
  | told ended =>
    rw [producing] at ended
    cases ended

/-- A caller who waits for a row gets the first one that is owed, or learns of the ending after the
last, or waits in vain for what comes after the last burst. -/
theorem Owes.awaitNext_cases (room : 1 ≤ capacity) :
    ∀ {query : LiveQuery} {left : List Json}, Owes bursts.flatten query left ending →
      query.stream.isOpen = true → query.Steady capacity →
      (∃ row rest waiting after, left = row :: rest
          ∧ awaitNext bursts query = (.row row, waiting, after)
          ∧ RowStream.Onward 1 query.stream after.stream ∧ after.Steady capacity
          ∧ Owes waiting.flatten after rest ending)
        ∨ left = [] ∧ ∃ waiting after,
          awaitNext bursts query = ((ending.map Ending.shown).getD .pending, waiting, after)
          ∧ after.stream = query.stream.drained 0 ending := by
  -- Each burst changes the query for those after it, so the query stays quantified over.
  induction bursts with
  | nil =>
    intro query left owes opened steady
    rcases owes.next_cases opened steady room with ⟨row, rest, rfl, found, onward, owes'⟩
      | ⟨last, rfl, rfl, found, drained⟩ | ⟨found, producing, buffered, done⟩
    · exact .inl ⟨row, rest, [], query.next.2, rfl, awaitNext_of_found found nofun, onward,
        steady.next, owes'⟩
    · exact .inr ⟨rfl, [], query.next.2, awaitNext_of_found found last.shown_ne_pending, drained⟩
    · -- The caller waits, and there is nothing to wait for.
      obtain ⟨rfl, rfl⟩ := owes.nothing producing buffered done
      refine .inr ⟨rfl, [], query, by rw [awaitNext, found]; rfl, ?_⟩
      simp only [RowStream.drained, ← buffered, Nat.add_zero]
  | cons burst later ih =>
    intro query left owes opened steady
    rcases owes.next_cases opened steady room with ⟨row, rest, rfl, found, onward, owes'⟩
      | ⟨last, rfl, rfl, found, drained⟩ | ⟨found, producing, -, -⟩
    · exact .inl ⟨row, rest, burst :: later, query.next.2, rfl, awaitNext_of_found found nofun,
        onward, steady.next, owes'⟩
    · exact .inr ⟨rfl, burst :: later, query.next.2,
        awaitNext_of_found found last.shown_ne_pending, drained⟩
    · -- The caller waits until the engine has done what the next burst brings.
      have next : awaitNext (burst :: later) query = awaitNext later (query.produce burst) := by
        rw [awaitNext, found]
      have onward := onward_pump
        { query with producer.actions := query.producer.actions ++ burst }
      have owes' : Owes later.flatten (query.produce burst) left ending := by
        rw [List.flatten_cons] at owes
        exact owes.produce opened
      rw [next]
      rcases ih owes' (onward.isOpen_eq.trans opened) (steady.produce burst)
        with ⟨row, rest, waiting, after, rfl, found, onward', steady', owes''⟩
        | ⟨rfl, waiting, after, found, drained⟩
      · exact .inl ⟨row, rest, waiting, after, rfl, found, onward.trans onward', steady', owes''⟩
      · refine .inr ⟨rfl, waiting, after, found, drained.trans (onward.drained_eq ?_)⟩
        rintro rfl
        exact owes'.producing_of_none.trans producing.symm

/-- A caller who waits for rows one by one gets those that are owed first, and the rest stays
owed. -/
theorem Owes.stepMany_take (room : 1 ≤ capacity) (count : Nat) :
    ∀ {bursts : List (List ProducerAction)} {query : LiveQuery} {left : List Json},
      Owes bursts.flatten query left ending → query.stream.isOpen = true → query.Steady capacity →
      count ≤ left.length → ∃ waiting between,
        RowStream.stepMany (fun state => awaitNext state.1 state.2) count (bursts, query)
            = ((left.take count).map .row, waiting, between)
          ∧ RowStream.Onward count query.stream between.stream ∧ between.Steady capacity
          ∧ Owes waiting.flatten between (left.drop count) ending := by
  -- Each row changes the query for those after it, so the query stays quantified over.
  induction count with
  | zero =>
    intro bursts query left owes _ steady _
    exact ⟨bursts, query, rfl, rfl, steady, owes⟩
  | succ count ih =>
    intro bursts query left owes opened steady enough
    rcases owes.awaitNext_cases room opened steady
      with ⟨row, rest, waiting, after, rfl, found, onward, steady', owes'⟩ | ⟨rfl, -⟩
    · obtain ⟨waiting', between, steps, onward', steady'', owes''⟩ :=
        ih owes' (onward.isOpen_eq.trans opened) steady' (Nat.le_of_succ_le_succ enough)
      refine ⟨waiting', between, ?_, ?_, steady'', owes''⟩
      · simp only [RowStream.stepMany, found, steps, List.take_succ_cons, List.map_cons]
      · rw [Nat.add_comm]
        exact onward.trans onward'
    · cases enough

/-- A caller who waits for one thing more than there are rows learns of the ending. -/
theorem Owes.stepMany_all (room : 1 ≤ capacity) (owes : Owes bursts.flatten query left ending)
    (opened : query.stream.isOpen = true) (steady : query.Steady capacity) :
    ∃ waiting after,
      RowStream.stepMany (fun state => awaitNext state.1 state.2) (left.length + 1) (bursts, query)
          = (left.map .row ++ [(ending.map Ending.shown).getD .pending], waiting, after)
        ∧ after.stream = query.stream.drained left.length ending := by
  obtain ⟨waiting, between, steps, onward, steady', owes'⟩ :=
    owes.stepMany_take room left.length opened steady (Nat.le_refl _)
  rw [List.drop_length] at owes'
  -- All rows are taken, so there is nothing but the ending.
  rcases owes'.awaitNext_cases room (onward.isOpen_eq.trans opened) steady'
    with ⟨_, _, _, _, impossible, -⟩ | ⟨-, waiting', after, found, drained⟩
  · cases impossible
  · refine ⟨waiting', after, ?_, drained.trans (onward.drained_eq ?_)⟩
    · rw [RowStream.stepMany_add, steps, List.take_length]
      simp only [RowStream.stepMany, found]
    · rintro rfl
      exact owes'.producing_of_none.trans owes.producing_of_none.symm

/-- What a caller has of taking all rows that are `left`, and waiting for them while the engine gets
bursts of actions to do, up to an ending if there is one. -/
structure Gathers (bursts : List (List ProducerAction)) (query : LiveQuery) (left : List Json)
    (ending : Option Ending) : Prop where
  /-- The rows are given at the good end, and a bad one is given instead of them. -/
  outcome : (query.awaitRows bursts).1 = ending.map (Ending.collected left)
  /-- The rows are taken, the ending is learnt, and nothing more. -/
  drained : (query.awaitRows bursts).2.stream = query.stream.drained left.length ending
  /-- It is the same to ask for the rows one by one and then once more. -/
  oneByOne : ∃ waiting,
    RowStream.stepMany (fun state => awaitNext state.1 state.2) (left.length + 1) (bursts, query)
      = (left.map .row ++ [(ending.map Ending.shown).getD .pending], waiting,
        (query.awaitRows bursts).2)
  /-- Rows are given exactly where metadata came after them, and then these are the rows. -/
  given : ∀ rows, (query.awaitRows bursts).1 = some (.ok rows)
    ↔ rows = left ∧ (query.awaitRows bursts).2.stream.metadata?.isSome = true
  /-- Where an error is given, it is that of the ending, and the stream failed. -/
  failed : ∀ error, (query.awaitRows bursts).1 = some (.error error)
    ↔ ending.map Ending.shown = some (.error error)
      ∧ (query.awaitRows bursts).2.stream.phase = .failed
      ∧ (query.awaitRows bursts).2.stream.metadata? = none
  /-- All rows that were taken on the way are counted. -/
  delivered : (query.awaitRows bursts).2.stream.delivered
    = query.stream.delivered + left.length

/-- Whoever takes all rows has those that are owed. -/
theorem Owes.gathers (room : 1 ≤ capacity) (owes : Owes bursts.flatten query left ending)
    (opened : query.stream.isOpen = true) (steady : query.Steady capacity) :
    Gathers bursts query left ending := by
  obtain ⟨waiting, after, steps, drained⟩ := owes.stepMany_all room opened steady
  have noRow : ∀ row, (ending.map Ending.shown).getD .pending ≠ .row row := by
    intro row
    cases ending with
    | none => exact nofun
    | some ending => cases ending <;> exact nofun
  have taken := RowStream.takeRows_of_stepMany noRow (Nat.lt_succ_of_le owes.length_le) steps
  have gathered : query.awaitRows bursts = (ending.map (Ending.collected left), after) := by
    simp only [awaitRows, RowStream.isStreaming_of_isOpen opened, taken,
      Ending.collected_shown]
    rfl
  have streaming : query.stream.phase = .streaming := (RowStream.isOpen_iff.1 opened).1
  constructor
  case oneByOne =>
    rw [gathered]
    exact ⟨waiting, steps⟩
  -- All else is read off the outcome and the stream.
  all_goals rw [gathered]
  case drained => exact drained
  case given =>
    intro rows
    rw [drained]
    rcases ending with _ | (_ | _ | _) <;>
      simp [Ending.collected, RowStream.drained, RowStream.note, RowStream.metadata?,
        Ending.phase, streaming, eq_comm]
  case failed =>
    intro error
    rw [drained]
    rcases ending with _ | (_ | _ | _) <;>
      simp [Ending.collected, Ending.shown, RowStream.drained, RowStream.note,
        RowStream.metadata?, Ending.phase]
  case delivered =>
    rw [drained]
    cases ending <;> rfl

/-- Whoever takes some rows one by one before all others has no row twice. -/
theorem Owes.gathers_after (room : 1 ≤ capacity) (owes : Owes bursts.flatten query left ending)
    (opened : query.stream.isOpen = true) (steady : query.Steady capacity) {count : Nat}
    (enough : count ≤ left.length) : ∃ waiting between,
      RowStream.stepMany (fun state => awaitNext state.1 state.2) count (bursts, query)
          = ((left.take count).map .row, waiting, between)
        ∧ Gathers waiting between (left.drop count) ending
        ∧ (between.awaitRows waiting).2 = (query.awaitRows bursts).2 := by
  obtain ⟨waiting, between, steps, onward, steady', owes'⟩ :=
    owes.stepMany_take room count opened steady enough
  have later := owes'.gathers room (onward.isOpen_eq.trans opened) steady'
  refine ⟨waiting, between, steps, later, ?_⟩
  -- Both come to the same query, since all in all they ask equally often.
  obtain ⟨_, all⟩ := (owes.gathers room opened steady).oneByOne
  obtain ⟨_, rest⟩ := later.oneByOne
  have total : count + ((left.drop count).length + 1) = left.length + 1 := by
    rw [List.length_drop]
    omega
  rw [← total, RowStream.stepMany_add, steps, rest] at all
  exact congrArg (fun result => result.2.2) all

open ProducerAction (rowsOf endingOf)

/-- Whatever steps were taken on a query that is open, and whatever the engine gets to do while the
caller waits, taking all rows is taking those that were sent and not taken before, one by one up to
the ending, wherever the caller begins to take all of those that are left. A stream that ended gives
no more than an error and stays as it is. Who does not wait is one for whom no bursts come. -/
theorem awaitRows_gathers (config : Config) (id : String) (steps : List QueryStep)
    (bursts : List (List ProducerAction)) :
    let query := ((start (.start id config.capacity)).run steps).2
    let actions := steps.flatMap QueryStep.actions ++ bursts.flatten
    let left := (rowsOf actions).drop query.stream.delivered
    (query.stream.isOpen = true →
      query.stream.delivered ≤ (rowsOf actions).length
        ∧ Gathers bursts query left (endingOf actions)
        ∧ ∀ count ≤ left.length, ∃ waiting between,
          RowStream.stepMany (fun state => awaitNext state.1 state.2) count (bursts, query)
              = ((left.take count).map .row, waiting, between)
            ∧ Gathers waiting between (left.drop count) (endingOf actions)
            ∧ (between.awaitRows waiting).2 = (query.awaitRows bursts).2)
    ∧ (query.stream.phase ≠ .streaming →
      query.awaitRows bursts = (some (.error .alreadyQueried), query))
    ∧ query.rows = query.awaitRows []
    ∧ ∀ count, RowStream.stepMany (fun state => awaitNext state.1 state.2) count ([], query)
      = ((query.nextMany count).1, [], (query.nextMany count).2) := by
  intro query actions left
  refine ⟨fun opened => ?_, fun ended => ?_, query.rows_eq_awaitRows,
    fun count => stepMany_awaitNext_nil count query⟩
  · have room : 1 ≤ config.capacity := config.capacity_bounds.1
    have steady := (steady_start id config.capacity).run steps
    obtain ⟨enough, owes⟩ := owes_run id room steps bursts.flatten opened
    exact ⟨enough, owes.gathers room opened steady,
      fun count within => owes.gathers_after room opened steady within⟩
  · have past : query.stream.isStreaming = false := by
      simpa [RowStream.isStreaming] using ended
    simp [awaitRows, past]

end LiveQuery

end AnalyticsClient
