import AnalyticsClient.Log
import AnalyticsClient.Text.Quoted

/-! Completions: the engine's side of an operation in flight, and the caller's side of it. -/

namespace AnalyticsClient

/-- What the engine does with an operation that it holds. -/
inductive Reply (α : Type) where
  | succeed (value : α)
  | fail (error : EngineError)
  | complete (result : Except EngineError α)
  /-- It gives the operation up without an answer. -/
  | release

/-- The engine's side of an operation, which says where its outcome goes. -/
structure Completion (α ω : Type) where
  /-- The name of the operation in the log. -/
  label : String
  /-- The world after an outcome was handed over. -/
  settle : Outcome α → ω → ω

namespace Completion

variable {α ω : Type}

/-- The completion whose outcomes pass through a change first. -/
def mapResult (change : Outcome α → ω → Outcome α × ω) (completion : Completion α ω) :
    Completion α ω where
  label := completion.label
  settle outcome world :=
    -- The change may tell the log something before the outcome is handed over.
    let (changed, world) := change outcome world
    completion.settle changed world

/-- Ends an operation with a result of the engine. -/
def complete (completion : Completion α ω) (result : Except EngineError α) (world : ω) : ω :=
  completion.settle (result.mapError .engine) world

/-- The failure of an operation that the engine gave up. -/
def releaseError (label : String) : EngineError :=
  .dropped (label ++ " was released by the engine without a reply")

/-- Ends an operation that the engine gives up. -/
def release [Logging ω] (completion : Completion α ω) (world : ω) : ω :=
  completion.settle (.error (.engine (releaseError completion.label)))
    (Logging.log (.released completion.label) world)

/-- Ends an operation as a reply says. -/
def answer [Logging ω] (completion : Completion α ω) : Reply α → ω → ω
  | .succeed value => completion.complete (.ok value)
  | .fail error => completion.complete (.error error)
  | .complete result => completion.complete result
  | .release => completion.release

/-- The layout of an unanswered completion in debugging output. -/
def debugText (completion : Completion α ω) : String :=
  "Completion \x7b label: " ++ Text.quoted completion.label ++ ", resolved: false \x7d"

end Completion

/-- The caller's side of an operation, from which its outcome is taken once it has arrived. -/
structure PendingOperation where
  /-- Whether the outcome was taken. -/
  taken : Bool
deriving DecidableEq

namespace PendingOperation

/-- An operation whose outcome was not taken yet. -/
def start : PendingOperation := ⟨false⟩

/-- The failure to take an outcome once more. -/
def lostError : Error :=
  .engine (.dropped "completion channel closed without a result")

/-- Takes the outcome if it has arrived. -/
def tryResult {α : Type} (pending : PendingOperation) (arrived : Option (Outcome α)) :
    Option (Outcome α) × PendingOperation :=
  if pending.taken then (some (.error lostError), pending)
  else
    match arrived with
    | some outcome => (some outcome, ⟨true⟩)
    | none => (none, pending)

end PendingOperation

end AnalyticsClient
