import AnalyticsClient.Completion.Trial
import AnalyticsClient.Proofs.Completion.Outcome

/-! How a caller learns of the end of an operation that it looks for again and again: the outcome is
handed out once, but every look after that is answered by an error of its own. -/

namespace AnalyticsClient

variable {α ω : Type}

/-- What a completion can be wrapped in. -/
abbrev Change (α ω : Type) := Outcome α → ω → Outcome α × ω

/-- What becomes of an outcome in changes, of which the last one gets it first. -/
def passThrough : List (Change α ω) → Change α ω
  | [], outcome, world => (outcome, world)
  | change :: rest, outcome, world =>
    let (changed, world) := passThrough rest outcome world
    change changed world

namespace Completion

/-- A completion wrapped in changes, the first of them innermost. -/
def wrapAll (completion : Completion α ω) (changes : List (Change α ω)) : Completion α ω :=
  changes.foldl (fun wrapped change => wrapped.mapResult change) completion

/-- Wrapping a completion leaves its name in the log as it is. -/
@[simp] theorem label_wrapAll (changes : List (Change α ω)) :
    ∀ completion : Completion α ω, (completion.wrapAll changes).label = completion.label := by
  -- Each change wraps the completion that is there by then, so it stays quantified over.
  induction changes with
  | nil =>
    intro completion
    rfl
  | cons change rest ih =>
    intro completion
    exact ih (completion.mapResult change)

/-- A wrapped completion is settled with what comes out of the changes. -/
theorem settle_wrapAll (changes : List (Change α ω)) :
    ∀ (completion : Completion α ω) (outcome : Outcome α) (world : ω),
      (completion.wrapAll changes).settle outcome world
        = completion.settle (passThrough changes outcome world).1
            (passThrough changes outcome world).2 := by
  induction changes with
  | nil =>
    intro completion outcome world
    rfl
  | cons change rest ih =>
    intro completion outcome world
    -- The first change is the innermost one, so it gets what the others made of the outcome.
    exact ih (completion.mapResult change) outcome world

end Completion

/-- An operation with the caller's side of it. -/
structure Channel (α ω : Type) where
  completion : Completion α ω
  world : ω
  /-- The outcome that is there for the caller in a world. -/
  arrived : ω → Option (Outcome α)
  /-- Nothing is there before the operation ends. -/
  arrived_world : arrived world = none
  /-- What the completion is settled with arrives. -/
  arrived_settle : ∀ outcome world, arrived (completion.settle outcome world) = some outcome

namespace Channel

/-- The world after the operation ended, its completion wrapped in changes. -/
def ended [Logging ω] (channel : Channel α ω) (changes : List (Change α ω)) (reply : Reply α) : ω :=
  (channel.completion.wrapAll changes).answer reply channel.world

/-- The outcome of the operation: what comes out of the changes for what the reply brings. -/
def outcome [Logging ω] (channel : Channel α ω) (changes : List (Change α ω)) (reply : Reply α) :
    Outcome α :=
  let label := channel.completion.label
  (passThrough changes (reply.outcome label) (reply.noticed label channel.world)).1

/-- Whatever ends the operation and whatever it is wrapped in, its outcome arrives. -/
theorem arrived_ended [Logging ω] (channel : Channel α ω) (changes : List (Change α ω))
    (reply : Reply α) :
    channel.arrived (channel.ended changes reply) = some (channel.outcome changes reply) := by
  -- Every reply settles the completion, and what it settles with went through the changes.
  unfold ended outcome
  rw [Completion.answer_eq, Completion.settle_wrapAll, Completion.label_wrapAll]
  exact channel.arrived_settle _ _

end Channel

namespace PendingOperation

/-- Several attempts to take an outcome, one after the other. -/
def attempts (arrived : Option (Outcome α)) :
    (count : Nat) → PendingOperation → List (Option (Outcome α)) × PendingOperation
  | 0, pending => ([], pending)
  | count + 1, pending =>
    let (first, pending) := pending.tryResult arrived
    let (later, pending) := attempts arrived count pending
    (first :: later, pending)

/-- What a caller gets who waits, if it gets anything; an outcome that was taken comes no more. -/
def wait? (pending : PendingOperation) (arrived : Option (Outcome α)) : Option (Outcome α) :=
  if pending.taken then none else arrived

/-- The first attempt gives what a caller gets who waits. -/
theorem tryResult_start (arrived : Option (Outcome α)) :
    (start.tryResult arrived).1 = start.wait? arrived := by
  cases arrived <;> rfl

/-- As long as nothing has arrived, attempts give nothing and change nothing. -/
theorem attempts_none (count : Nat) :
    attempts (none : Option (Outcome α)) count start = (List.replicate count none, start) := by
  -- A look that comes too early leaves all for the next one.
  induction count with
  | zero => rfl
  | succ count ih =>
    have first : start.tryResult (none : Option (Outcome α)) = (none, start) := rfl
    simp only [attempts, first, ih, List.replicate_succ]

/-- Once the outcome was taken, every attempt tells that it is lost. -/
theorem attempts_taken (arrived : Option (Outcome α)) (count : Nat) :
    attempts arrived count ⟨true⟩ = (List.replicate count (some (.error lostError)), ⟨true⟩) := by
  -- An outcome never comes back, so every look finds the same.
  induction count with
  | zero => rfl
  | succ count ih =>
    have first : tryResult ⟨true⟩ arrived = (some (.error lostError), ⟨true⟩) := rfl
    simp only [attempts, first, ih, List.replicate_succ]

/-- Of several attempts after the arrival the first takes the outcome, and the others are told that
it is lost. -/
theorem attempts_arrived (outcome : Outcome α) (count : Nat) :
    attempts (some outcome) (count + 1) start
      = (some outcome :: List.replicate count (some (.error lostError)), ⟨true⟩) := by
  have first : start.tryResult (some outcome) = (some outcome, ⟨true⟩) := rfl
  simp only [attempts, first, attempts_taken]

end PendingOperation

/-- How a caller looks for the outcome of an operation. -/
structure Watch where
  /-- How often it tries before the operation ends. -/
  before : Nat
  /-- How often it tries after that. -/
  after : Nat
  /-- Whether it waits in the end. -/
  waits : Bool

namespace Watch

/-- What a caller saw of an operation. -/
structure Seen (α : Type) where
  /-- What the attempts before the end gave. -/
  early : List (Option (Outcome α))
  /-- What the attempts after the end gave. -/
  late : List (Option (Outcome α))
  waited : Option (Outcome α)

/-- Looks for the outcome of an operation whose completion is wrapped in changes and ended by a
reply. -/
def run [Logging ω] (watch : Watch) (channel : Channel α ω) (changes : List (Change α ω))
    (reply : Reply α) : Seen α :=
  let (early, pending) :=
    PendingOperation.start.attempts (channel.arrived channel.world) watch.before
  let arrived := channel.arrived (channel.ended changes reply)
  let (late, pending) := pending.attempts arrived watch.after
  { early, late, waited := if watch.waits then pending.wait? arrived else none }

/-- Whether a caller saw nothing before the end, the outcome at the first look after it, and nothing
at any further attempt, let alone that the outcome is lost. -/
structure Exact (watch : Watch) (outcome : Outcome α) (seen : Seen α) : Prop where
  early : ∀ look ∈ seen.early, look = none
  first : ∀ look ∈ (seen.late ++ if watch.waits then [seen.waited] else []).head?,
    look = some outcome
  further : ∀ look ∈ seen.late.tail, look = none
  unlost : some (.error PendingOperation.lostError) ∉ seen.late.tail

variable [Logging ω]

/-- What a caller sees that does not try after the end. -/
theorem run_of_none (channel : Channel α ω) (changes : List (Change α ω)) (reply : Reply α)
    (before : Nat) (waits : Bool) :
    run ⟨before, 0, waits⟩ channel changes reply
      = ⟨List.replicate before none, [],
          if waits then some (channel.outcome changes reply) else none⟩ := by
  -- The outcome is there to be waited for.
  simp only [run, channel.arrived_world, channel.arrived_ended, PendingOperation.attempts_none]
  rfl

/-- What a caller sees that tries after the end. -/
theorem run_of_some (channel : Channel α ω) (changes : List (Change α ω)) (reply : Reply α)
    (before further : Nat) (waits : Bool) :
    run ⟨before, further + 1, waits⟩ channel changes reply
      = ⟨List.replicate before none, some (channel.outcome changes reply)
          :: List.replicate further (some (.error PendingOperation.lostError)), none⟩ := by
  -- The first attempt takes the outcome away, also from a caller that waits later.
  have taken : ∀ arrived : Option (Outcome α), PendingOperation.wait? ⟨true⟩ arrived = none :=
    fun _ => rfl
  simp only [run, channel.arrived_world, channel.arrived_ended, PendingOperation.attempts_none,
    PendingOperation.attempts_arrived, taken, ite_self]

end Watch

namespace Trial

/-- The change of outcomes that an adjustment stands for. -/
def change (adjustment : Adjustment) : Change Int64 World := fun outcome world =>
  (adjustment.apply outcome, world.note (.adjusted adjustment.name outcome))

/-- The operation of a trial whose outcome is observed by the caller's side. -/
def channel (label : String) : Channel Int64 World where
  completion := ⟨label, fun outcome world => { world with arrived := some outcome }⟩
  world := ⟨[], none, []⟩
  arrived := World.arrived
  arrived_world := rfl
  arrived_settle _ _ := rfl

/-- How the caller of a trial looks for the outcome: once before the end, and after it twice, or by
waiting, or not at all. -/
def watch (abandons waits : Bool) : Watch :=
  if abandons then ⟨1, 0, false⟩ else if waits then ⟨1, 0, true⟩ else ⟨1, 2, false⟩

/-- A trial shows what its caller sees. -/
theorem seen_run (label : String) (adjustments : List Adjustment) (reply : Reply Int64)
    (abandons waits : Bool) :
    let report := run ⟨label, .channel, adjustments, reply, abandons, waits⟩
    let seen := (watch abandons waits).run (channel label) (adjustments.map change) reply
    report.tries = seen.early ++ seen.late ∧ report.waited = seen.waited := by
  -- The trial wraps its completion in the changes that its adjustments stand for.
  have wrapped : Trial.completion ⟨label, .channel, adjustments, reply, abandons, waits⟩
      = (channel label).completion.wrapAll (adjustments.map change) := by
    simp only [Trial.completion, Completion.wrapAll, List.foldl_map]
    rfl
  simp only [run, wrapped]
  cases abandons with
  | true => exact ⟨rfl, rfl⟩
  | false =>
    cases waits with
    | false => exact ⟨rfl, rfl⟩
    | true => exact ⟨rfl, PendingOperation.tryResult_start _⟩

end Trial

namespace Watch

/-- Whatever an operation is wrapped in and however it ends, a caller sees nothing before the end,
then the outcome, and then the error that the outcome is lost as often as it tries again. So it
learns the outcome once and for all exactly if it does not try again. A trial shows its caller just
this. -/
theorem exact_iff [Logging ω] (channel : Channel α ω) (changes : List (Change α ω))
    (reply : Reply α) (watch : Watch) :
    let outcome := channel.outcome changes reply
    let seen := watch.run channel changes reply
    seen.early = List.replicate watch.before none
      ∧ seen.late = (List.replicate watch.after (some (.error PendingOperation.lostError))).set 0
          (some outcome)
      ∧ seen.waited = (if watch.waits ∧ watch.after = 0 then some outcome else none)
      ∧ (watch.Exact outcome seen ↔ watch.after ≤ 1)
      ∧ PendingOperation.lostError
        = .engine ⟨.dropped, "completion channel closed without a result", none⟩
      ∧ ∀ (label : String) (adjustments : List Adjustment) (ending : Reply Int64)
        (abandons waits : Bool),
        let report := Trial.run ⟨label, .channel, adjustments, ending, abandons, waits⟩
        let shown := (Trial.watch abandons waits).run (Trial.channel label)
          (adjustments.map Trial.change) ending
        report.tries = shown.early ++ shown.late ∧ report.waited = shown.waited := by
  intro outcome seen
  obtain ⟨before, after, waits⟩ := watch
  have quiet : ∀ look ∈ List.replicate before (none : Option (Outcome α)), look = none :=
    fun look mem => List.eq_of_mem_replicate mem
  cases after with
  | zero =>
    -- The caller at most waits, and then gets the outcome.
    have seen_eq : seen = ⟨List.replicate before none, [], if waits then some outcome else none⟩ :=
      run_of_none channel changes reply before waits
    rw [seen_eq]
    refine ⟨rfl, rfl, by simp, ?_, rfl, Trial.seen_run⟩
    refine iff_of_true ⟨quiet, ?_, by simp, by simp⟩ (Nat.zero_le _)
    intro look mem
    cases waits with
    | true => simpa [eq_comm] using mem
    | false => simp at mem
  | succ further =>
    have seen_eq : seen = ⟨List.replicate before none, some outcome
        :: List.replicate further (some (.error PendingOperation.lostError)), none⟩ :=
      run_of_some channel changes reply before further waits
    rw [seen_eq]
    refine ⟨rfl, rfl, by simp, ?_, rfl, Trial.seen_run⟩
    show Exact _ _ _ ↔ further + 1 ≤ 1
    constructor
    · -- An attempt after the first one gives an error, where it should give nothing.
      intro exact_
      rcases Nat.eq_zero_or_pos further with none_ | again
      · omega
      · have mem : some (.error PendingOperation.lostError)
            ∈ List.replicate further (some (Except.error PendingOperation.lostError)
              : Option (Outcome α)) := List.mem_replicate.2 ⟨by omega, rfl⟩
        exact absurd mem exact_.unlost
    · intro once
      have none_ : further = 0 := by omega
      subst none_
      refine ⟨quiet, ?_, by simp, by simp⟩
      intro look mem
      simpa [eq_comm] using mem

end Watch

namespace Trial

/-- A caller that tries once more after it took the outcome is told that the outcome is lost. -/
theorem lost_after_taken :
    (run ⟨"CREATE_INDEX", .channel, [], .succeed 7, false, false⟩).tries
        = [none, some (.ok 7), some (.error PendingOperation.lostError)]
      ∧ ¬ Watch.Exact ⟨1, 2, false⟩ (.ok 7)
        (Watch.run ⟨1, 2, false⟩ (channel "CREATE_INDEX") [] (.succeed 7)) := by
  refine ⟨rfl, fun exact_ => ?_⟩
  exact exact_.unlost (List.mem_singleton.2 rfl)

end Trial

end AnalyticsClient
