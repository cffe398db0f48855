import AnalyticsClient.Proofs.Session.Futures

/-! Futures along a run: each waits for requests of its own caller, and gives each outcome once. -/

namespace AnalyticsClient.Session

variable {session : Session} {history : List (Option String × Order)} {name : String}
  {part : Outcome Nat}

/-- Only what goes to the caller's side is kept under the name of a future. -/
theorem recipient_of_future? {config : Config} {step : Step} (kept : step.future? = some name)
    {order : Order} (mem : order ∈ step.orders config) : order.recipient = .pending := by
  obtain ⟨call, called, made⟩ := List.mem_filterMap.1 mem
  -- The order goes where its call wants it to go.
  have same : order.recipient = call.recipient := by
    simp only [Call.order?] at made
    split at made
    · cases made
      rfl
    · cases made
  rw [same]
  -- The steps that keep a future are those whose calls go to the caller's side.
  cases step with
  | submit => rw [List.mem_singleton.1 called]
  | execute => rw [List.mem_singleton.1 called]
  | executeMany =>
    obtain ⟨command, -, rfl⟩ := List.mem_map.1 called
    rfl
  | dispatch => cases kept
  | reply => cases kept
  | tryResult => cases kept
  | await => cases kept
  | cancel => cases kept
  | query => cases kept
  | onQuery => cases kept

/-- What is asked for later changes nothing about what was asked for. -/
theorem backed_append (backed : Backed history name part)
    (later : List (Option String × Order)) : Backed (history ++ later) name part := by
  cases part with
  | error error => exact backed
  | ok engine =>
    -- Its request stands where it stood.
    obtain ⟨order, found, recipient⟩ := backed
    obtain ⟨within, -⟩ := List.getElem?_eq_some_iff.1 found
    refine ⟨order, ?_, recipient⟩
    rw [List.getElem?_append_left within, found]

/-- What the calls of a step open under a name, they ask for under it. -/
theorem backed_of_opens {config : Config} {step : Step} (kept : step.future? = some name)
    (opens : step.Opens config history.length part) :
    Backed (history ++ step.asked config) name part := by
  cases part with
  | error error =>
    obtain ⟨call, -, refused⟩ := opens
    exact ⟨call.descriptor, refused⟩
  | ok engine =>
    -- The number counts on from the history, into what the step asks for.
    obtain ⟨above, below⟩ := opens
    have within : engine - history.length < (step.orders config).length := by omega
    refine ⟨(step.orders config)[engine - history.length], ?_,
      recipient_of_future? kept (List.getElem_mem within)⟩
    rw [List.getElem?_append_right above, Step.asked, List.getElem?_map,
      List.getElem?_eq_getElem within, kept]
    rfl

/-- A step asks for one thing for each of its orders. -/
theorem length_asked (config : Config) (step : Step) :
    (step.asked config).length = (step.orders config).length := by
  simp [Step.asked]

/-- Whether futures wait for nothing but what was asked for under their names. -/
def AllBacked (history : List (Option String × Order)) (session : Session) : Prop :=
  history.length = session.submissions.length
    ∧ ∀ name, ∀ part ∈ session.parts name, Backed history name part

/-- What a step gives and keeps, the replies aside that are ready for it. -/
theorem waited_step (turn : Turn) :
    Waited turn.2 session (session.step turn.1 turn.2).2 (session.step turn.1 turn.2).1 := by
  have waited := @waited_act { session with ready := turn.1 } turn.2
  exact ⟨waited.given, waited.kept⟩

/-- A step keeps futures backed. -/
theorem allBacked_step (bounded : ∀ engine ∈ session.held, engine < session.submissions.length)
    (backed : AllBacked history session) (turn : Turn) :
    AllBacked (history ++ turn.2.asked session.config) (session.step turn.1 turn.2).2 := by
  obtain ⟨length, backed⟩ := backed
  constructor
  · have grown := (Advance.step bounded turn).length_submissions
    simp only [List.length_append, length_asked]
    omega
  · intro name part mem
    -- What is kept was kept before, or was opened by the step.
    rcases (waited_step turn).kept name part mem with old | ⟨kept, opens⟩
    · exact backed_append (backed name part old) _
    · exact backed_of_opens kept (length ▸ opens)

/-- A run keeps futures backed. -/
theorem allBacked_run (turns : List Turn) :
    ∀ {session : Session} {history : List (Option String × Order)},
      (∀ engine ∈ session.held, engine < session.submissions.length) →
      AllBacked history session →
      AllBacked (history ++ asked session.config turns) (session.run turns).2 := by
  -- The history grows with each step, so it stays quantified over.
  induction turns with
  | nil =>
    intro session history _ backed
    rwa [asked, List.flatMap_nil, List.append_nil]
  | cons turn rest ih =>
    intro session history bounded backed
    have first := Advance.step bounded turn
    have later := ih first.bounded (allBacked_step bounded backed turn)
    rw [first.config, List.append_assoc] at later
    exact later

/-- Whether nobody waits for the outcome of a request that was made. -/
def Released (engine : Nat) (session : Session) : Prop :=
  engine < session.submissions.length ∧ ∀ name, .ok engine ∉ session.parts name

/-- A step lets nobody wait for a request of old that nobody waits for. -/
theorem released_step (bounded : ∀ engine ∈ session.held, engine < session.submissions.length)
    {engine : Nat} (released : Released engine session) (turn : Turn) :
    Released engine (session.step turn.1 turn.2).2 := by
  obtain ⟨made, nobody⟩ := released
  constructor
  · have grown := (Advance.step bounded turn).length_submissions
    omega
  · intro name mem
    rcases (waited_step turn).kept name _ mem with old | ⟨-, opens⟩
    · exact nobody name old
    · -- A step opens new requests only.
      exact absurd made (Nat.not_lt.2 opens.1)

/-- A request that nobody waits for is never waited for again. -/
theorem released_run (turns : List Turn) {engine : Nat} :
    ∀ {session : Session}, (∀ engine ∈ session.held, engine < session.submissions.length) →
      Released engine session → Released engine (session.run turns).2 := by
  -- No step of the run takes the request up again.
  induction turns with
  | nil =>
    intro session _ released
    exact released
  | cons turn rest ih =>
    intro session bounded released
    exact ih (Advance.step bounded turn).bounded (released_step bounded released turn)

/-- Once a step gave the outcome of a request, nobody waits for that request any more. -/
theorem released_of_given
    (bounded : ∀ engine ∈ session.held, engine < session.submissions.length)
    (backed : AllBacked history session) (turn : Turn) {engine : Nat}
    (source : .ok engine ∈ session.parts name ∧ (session.step turn.1 turn.2).2.parts name = []
      ∨ turn.2.future? = some name
        ∧ turn.2.Opens session.config session.submissions.length (.ok engine)
        ∧ ∀ other, (session.step turn.1 turn.2).2.parts other = session.parts other) :
    Released engine (session.step turn.1 turn.2).2 := by
  obtain ⟨length, backed⟩ := backed
  have grown := (Advance.step bounded turn).length_submissions
  -- A request that is waited for was made before.
  have old : ∀ {other}, .ok engine ∈ session.parts other → engine < session.submissions.length := by
    intro other mem
    obtain ⟨order, found, -⟩ := backed other _ mem
    obtain ⟨within, -⟩ := List.getElem?_eq_some_iff.1 found
    omega
  rcases source with ⟨mem, emptied⟩ | ⟨-, ⟨above, below⟩, same⟩
  · have made := old mem
    refine ⟨by omega, fun other mem' => ?_⟩
    rcases (waited_step turn).kept other _ mem' with kept | ⟨-, opens⟩
    · -- Both names are the one under which the request was asked for, and nothing is left there.
      obtain ⟨order, found, -⟩ := backed name _ mem
      obtain ⟨order', found', -⟩ := backed other _ kept
      obtain rfl : name = other := by
        rw [found] at found'
        exact Option.some.inj (Prod.mk.inj (Option.some.inj found')).1
      rw [emptied] at mem'
      cases mem'
    · exact absurd made (Nat.not_lt.2 opens.1)
  · -- The request is one of the step itself, so no future of old waits for it.
    refine ⟨by omega, fun other mem' => ?_⟩
    rw [same] at mem'
    exact absurd (old mem') (Nat.not_lt.2 above)

end AnalyticsClient.Session
