import AnalyticsClient.Proofs.Completion.Ownership

/-! What runs when an operation ends whose completion was wrapped: every change once, the last one
first, and then, once, what is to get the outcome. -/

namespace AnalyticsClient

variable {α ω : Type}

/-- Something that ran, and what it got. -/
inductive Ran (α : Type) where
  /-- The change that was added in a place. -/
  | change (place : Nat) (got : Outcome α)
  | resolver (got : Outcome α)
  | onSuccess (value : α)
  | onError (error : Error)

/-- A world with the record of what ran in it. -/
structure Recorded (α ω : Type) where
  world : ω
  ran : List (Ran α)

namespace Recorded

/-- The record goes on with one more thing that ran and left a world behind. -/
def following (recorded : Recorded α ω) (next : Ran α) (world : ω) : Recorded α ω :=
  ⟨world, recorded.ran ++ [next]⟩

instance [Logging ω] : Logging (Recorded α ω) where
  log event recorded := { recorded with world := Logging.log event recorded.world }

/-- A resolver that is recorded when it runs. -/
def resolver (resolver : Resolver α ω) : Resolver α (Recorded α ω) := fun outcome recorded =>
  recorded.following (.resolver outcome) (resolver outcome recorded.world)

/-- Callbacks that are recorded when they run. -/
def callbacks (callbacks : Callbacks α ω) : Callbacks α (Recorded α ω) where
  onSuccess value recorded :=
    recorded.following (.onSuccess value) (callbacks.onSuccess value recorded.world)
  onError error recorded :=
    recorded.following (.onError error) (callbacks.onError error recorded.world)

/-- A change that is recorded when it runs. -/
def change (place : Nat) (change : Change α ω) : Change α (Recorded α ω) := fun outcome recorded =>
  let (changed, world) := change outcome recorded.world
  (changed, recorded.following (.change place outcome) world)

/-- Changes that are recorded when they run; `place` counts them. -/
def changes (place : Nat) : List (Change α ω) → List (Change α (Recorded α ω))
  | [] => []
  | first :: rest => change place first :: changes (place + 1) rest

end Recorded

/-- What runs of changes that an outcome passes through, from the last to the first. Each gets what
came out of those after it. -/
def passage (place : Nat) : List (Change α ω) → Outcome α → ω → List (Ran α)
  | [], _, _ => []
  | _ :: rest, outcome, world =>
    passage (place + 1) rest outcome world
      ++ [.change place (passThrough rest outcome world).1]

/-- Changes that are recorded change an outcome and the world as they do without it. -/
theorem passThrough_recorded (changes : List (Change α ω)) (outcome : Outcome α) (world : ω)
    (ran : List (Ran α)) :
    ∀ place, passThrough (Recorded.changes place changes) outcome ⟨world, ran⟩
      = ((passThrough changes outcome world).1,
        ⟨(passThrough changes outcome world).2, ran ++ passage place changes outcome world⟩) := by
  -- The places of the later changes are counted on, so the first place stays quantified over.
  induction changes with
  | nil =>
    intro place
    simp [Recorded.changes, passThrough, passage]
  | cons first rest ih =>
    intro place
    have later := ih (place + 1)
    simp only [Recorded.changes, passThrough, later, Recorded.change, Recorded.following, passage,
      List.append_assoc]

/-- Every change runs once, the last one first, and gets what came out of those after it. -/
theorem passage_eq (changes : List (Change α ω)) (outcome : Outcome α) (world : ω) :
    ∀ place, passage place changes outcome world
      = (List.range changes.length).reverse.map fun index =>
          .change (place + index) (passThrough (changes.drop (index + 1)) outcome world).1 := by
  induction changes with
  | nil => exact fun _ => rfl
  | cons first rest ih =>
    intro place
    have places : (List.range (rest.length + 1)).reverse
        = ((List.range rest.length).map (· + 1)).reverse ++ [0] := by
      rw [List.range_succ_eq_map, List.reverse_cons]
    -- The first change runs last, after what was added behind it.
    rw [passage, ih (place + 1), List.length_cons, places, List.map_append, ← List.map_reverse,
      List.map_map]
    congr 1
    refine List.map_congr_left fun index _ => ?_
    have counted : place + 1 + index = place + (index + 1) := by omega
    show Ran.change (place + 1 + index) _ = Ran.change (place + (index + 1)) _
    rw [counted]
    rfl

/-- A change that leaves the world as it is. -/
def still (map : Outcome α → Outcome α) : Change α ω := fun outcome world => (map outcome, world)

/-- Changes that leave the world as it is are applied each to what the next one gives. -/
theorem passThrough_still (maps : List (Outcome α → Outcome α)) (outcome : Outcome α) (world : ω) :
    passThrough (maps.map still) outcome world
      = (maps.foldr (fun map given => map given) outcome, world) := by
  induction maps with
  | nil => rfl
  | cons map rest ih =>
    have later := ih
    simp only [List.map_cons, passThrough, later, still, List.foldr_cons]

/-- The change that makes every failure a success. -/
def recovering (recover : Error → α) : Outcome α → Outcome α
  | .ok value => .ok value
  | .error error => .ok (recover error)

namespace Owned

/-- What ran, and the world after it, once a completion was wrapped in changes and ended. -/
def ended [Logging ω] (label : String) (resolver : Resolver α (Recorded α ω))
    (changes : List (Change α ω)) (reply : Reply α) (world : ω) : Recorded α ω :=
  let (wrapped, recorded) :=
    (new label resolver).wrapAll (Recorded.changes 0 changes) ⟨world, []⟩
  wrapped.answer reply recorded

/-- The resolver of a wrapped completion runs once, after all changes, on what came out of them. -/
theorem ended_eq [Logging ω] (label : String) (resolver : Resolver α (Recorded α ω))
    (changes : List (Change α ω)) (reply : Reply α) (world : ω) :
    let brought := reply.outcome label
    let noticed := reply.noticed label world
    ended label resolver changes reply world
      = resolver (passThrough changes brought noticed).1
          ⟨(passThrough changes brought noticed).2, passage 0 changes brought noticed⟩ := by
  intro brought noticed
  let completion : Completion α (Recorded α ω) := ⟨label, resolver⟩
  have quiet := completion.wrapAll_owned (Recorded.changes 0 changes) ⟨world, []⟩
  -- A release is told to the log of the world, and nothing is recorded for that.
  have heard : reply.noticed label (⟨world, []⟩ : Recorded α ω) = ⟨noticed, []⟩ := by
    cases reply <;> rfl
  have passed := passThrough_recorded changes brought noticed [] 0
  calc ended label resolver changes reply world
      = (completion.wrapAll (Recorded.changes 0 changes)).owned.answer reply ⟨world, []⟩ := by
        show ((completion.owned.wrapAll _ _).1).answer reply (completion.owned.wrapAll _ _).2 = _
        rw [quiet]
    _ = completion.settle (passThrough (Recorded.changes 0 changes) brought ⟨noticed, []⟩).1
          (passThrough (Recorded.changes 0 changes) brought ⟨noticed, []⟩).2 := by
        rw [Completion.answer_owned, Completion.answer_eq, Completion.settle_wrapAll,
          Completion.label_wrapAll, heard]
    _ = _ := by
        rw [passed]
        rfl

/-- What comes out of a change that makes every failure a success is a success. -/
theorem exists_passThrough_recovering (recover : Error → α) (later : List (Change α ω))
    (outcome : Outcome α) (world : ω) :
    ∃ value, (passThrough (still (recovering recover) :: later) outcome world).1 = .ok value := by
  -- The change comes last, whatever the others made of the outcome.
  simp only [passThrough, still]
  cases (passThrough later outcome world).1 with
  | ok value => exact ⟨value, rfl⟩
  | error error => exact ⟨recover error, rfl⟩

end Owned

namespace Trial

/-- What a trial notes while an outcome passes through its adjustments. -/
def adjusted : List Adjustment → Outcome Int64 → List Note
  | [], _ => []
  | adjustment :: rest, outcome =>
    adjusted rest outcome ++ [.adjusted adjustment.name (rest.foldr Adjustment.apply outcome)]

/-- Adjustments are noted from the last to the first, each with what came out of those after it. -/
theorem passThrough_change (adjustments : List Adjustment) (outcome : Outcome Int64)
    (world : World) :
    passThrough (adjustments.map change) outcome world
      = (adjustments.foldr Adjustment.apply outcome,
        { world with notes := world.notes ++ adjusted adjustments outcome }) := by
  -- The last change to be passed is the first one in the list, so the others come before it.
  induction adjustments with
  | nil => simp [passThrough, adjusted]
  | cons adjustment rest ih =>
    have later := ih
    simp only [List.map_cons, passThrough, later, change, World.note, List.foldr_cons, adjusted,
      List.append_assoc]

/-- A trial with callbacks notes every adjustment once, the last one first, and then the callback
that is for the outcome; and its label stays. -/
theorem notes_run (label : String) (adjustments : List Adjustment) (reply : Reply Int64)
    (abandons waits : Bool) :
    let report := run ⟨label, .callbacks, adjustments, reply, abandons, waits⟩
    let brought := reply.outcome label
    report.labels = (label, label)
      ∧ report.notes
        = adjusted adjustments brought ++ [match adjustments.foldr Adjustment.apply brought with
          | .ok value => .succeeded value
          | .error error => .failed error] := by
  intro report brought
  let trial : Trial := ⟨label, .callbacks, adjustments, reply, abandons, waits⟩
  have wrapped : trial.completion = trial.inner.wrapAll (adjustments.map change) := by
    simp only [Trial.completion, Completion.wrapAll, List.foldl_map]
    rfl
  have quiet : (reply.noticed label ⟨[], none, []⟩ : World).notes = [] := by
    cases reply <;> rfl
  constructor
  · show (trial.inner.label, trial.completion.label) = _
    rw [wrapped, Completion.label_wrapAll]
    rfl
  · show (trial.completion.answer reply ⟨[], none, []⟩).notes = _
    rw [wrapped, Completion.answer_eq, Completion.settle_wrapAll, Completion.label_wrapAll,
      inner_eq]
    have passed := passThrough_change adjustments brought (reply.noticed label ⟨[], none, []⟩)
    show (Callbacks.ofTrial.resolve (passThrough _ brought (reply.noticed label _)).1
      (passThrough _ brought (reply.noticed label _)).2).notes = _
    rw [passed]
    -- One of the two callbacks is for the outcome, and notes it behind the adjustments.
    cases adjustments.foldr Adjustment.apply brought <;>
      simp [Callbacks.resolve, Callbacks.ofTrial, World.note, quiet]

end Trial

namespace Owned

/-- Whatever a completion is wrapped in, nothing runs until it is ended, and its label stays.
However it ends, every change then runs once, the last one first, and what the completion was made
for runs once after them: its resolver, the one of its callbacks that is for the outcome, or what
lets the outcome arrive at the caller's side. It gets what came out of the changes for what the
reply has to bring, be it the error that quotes the label of what was released, so a change that
makes every failure a success makes one also of a release. A trial that is held with callbacks shows
all this in its notes. -/
theorem ended_exact [Logging ω] (label : String) (changes : List (Change α ω)) (reply : Reply α)
    (world : ω) :
    let brought := reply.outcome label
    let noticed := reply.noticed label world
    let final := (passThrough changes brought noticed).1
    let after := (passThrough changes brought noticed).2
    let passed := (List.range changes.length).reverse.map fun place =>
      Ran.change place (passThrough (changes.drop (place + 1)) brought noticed).1
    reply.Brings label brought
    ∧ (∀ resolver : Resolver α (Recorded α ω),
      let made := (new label resolver).wrapAll (Recorded.changes 0 changes) ⟨world, []⟩
      made.1.label = label ∧ made.2 = ⟨world, []⟩)
    ∧ (∀ resolver : Resolver α ω,
      ended label (Recorded.resolver resolver) changes reply world
          = ⟨resolver final after, passed ++ [.resolver final]⟩
        ∧ ((Completion.mk label resolver).wrapAll changes).answer reply world
          = resolver final after)
    ∧ (∀ callbacks : Callbacks α ω,
      ended label (Recorded.callbacks callbacks).resolve changes reply world
        = ⟨callbacks.resolve final after,
            passed ++ [match final with
              | .ok value => .onSuccess value
              | .error error => .onError error]⟩)
    ∧ (∀ channel : Channel α ω,
      let left := ended label (Recorded.resolver channel.completion.settle) changes reply world
      channel.arrived left.world = some final)
    ∧ (∀ maps : List (Outcome α → Outcome α),
      passThrough (maps.map still) brought noticed
        = (maps.foldr (fun map given => map given) brought, noticed))
    ∧ (∀ (recover : Error → α) (callbacks : Callbacks α ω),
      let left := ended label (Recorded.callbacks callbacks).resolve
        (still (recovering recover) :: changes) reply world
      ∃ value, left.ran.getLast? = some (.onSuccess value))
    ∧ ∀ (adjustments : List Adjustment) (ending : Reply Int64) (abandons waits : Bool),
      let report := Trial.run ⟨label, .callbacks, adjustments, ending, abandons, waits⟩
      report.labels = (label, label)
        ∧ ∃ got, ending.Brings label got
          ∧ report.notes = Trial.adjusted adjustments got
            ++ [match adjustments.foldr Adjustment.apply got with
              | .ok value => .succeeded value
              | .error error => .failed error] := by
  intro brought noticed final after passed
  have passage_passed : passage 0 changes brought noticed = passed := by
    rw [passage_eq]
    simp only [Nat.zero_add, passed]
  have recorded (resolver : Resolver α (Recorded α ω)) :
      ended label resolver changes reply world = resolver final ⟨after, passed⟩ := by
    rw [← passage_passed]
    exact ended_eq label resolver changes reply world
  refine ⟨reply.brings_outcome label, fun resolver => ?_, fun resolver => ⟨recorded _, ?_⟩,
    fun callbacks => ?_, fun channel => ?_, fun maps => passThrough_still maps brought noticed,
    fun recover callbacks => ?_, fun adjustments ending abandons waits => ?_⟩
  · -- Wrapping leaves behind what has no resolver, and letting that go does nothing.
    intro made
    let completion : Completion α (Recorded α ω) := ⟨label, resolver⟩
    have quiet : made = _ := completion.wrapAll_owned (Recorded.changes 0 changes) ⟨world, []⟩
    rw [quiet]
    exact ⟨Completion.label_wrapAll _ _, rfl⟩
  · rw [Completion.answer_eq, Completion.settle_wrapAll, Completion.label_wrapAll]
  · rw [recorded]
    -- One of the two callbacks is for the outcome, and the other is left alone.
    cases final <;> rfl
  · intro left
    have left_eq : left = _ := recorded (Recorded.resolver channel.completion.settle)
    rw [left_eq]
    exact channel.arrived_settle final after
  · intro left
    obtain ⟨value, success⟩ := exists_passThrough_recovering recover changes brought noticed
    have left_eq : left = _ := ended_eq label _ (still (recovering recover) :: changes) reply world
    refine ⟨value, ?_⟩
    rw [left_eq, success]
    show (_ ++ [Ran.onSuccess value]).getLast? = _
    exact List.getLast?_concat
  · obtain ⟨labels, notes⟩ := Trial.notes_run label adjustments ending abandons waits
    exact ⟨labels, ending.outcome label, ending.brings_outcome label, notes⟩

/-- A release of an operation that recovers from every failure is a success. -/
example :
    (Trial.run ⟨"DATASET_DROP", .callbacks, [.mul 2, .recover 21], .release, false, false⟩).notes
      = [.adjusted "recover" (.error (.engine (Completion.releaseError "DATASET_DROP"))),
        .adjusted "mul" (.ok 21), .succeeded 42] := rfl

end Owned

end AnalyticsClient
