import AnalyticsClient.Completion.Basic

/-! Trials of completions: one is wrapped, ended and observed. -/

namespace AnalyticsClient

/-- A change of the outcomes of an operation on numbers. -/
inductive Adjustment where
  | add (amount : Int64)
  | mul (factor : Int64)
  /-- A value becomes a failure. -/
  | reject
  /-- A failure becomes a value. -/
  | recover (value : Int64)
  /-- A failure becomes another one. -/
  | replaceError
  /-- A change of another name, which changes nothing. -/
  | keep (name : String)
deriving DecidableEq

namespace Adjustment

/-- The name of an adjustment. -/
def name : Adjustment → String
  | .add _ => "add"
  | .mul _ => "mul"
  | .reject => "reject"
  | .recover _ => "recover"
  | .replaceError => "rewrite"
  | .keep name => name

/-- The adjustment of a name and a number. -/
def ofName (name : String) (number : Int64) : Adjustment :=
  match name with
  | "add" => .add number
  | "mul" => .mul number
  | "reject" => .reject
  | "recover" => .recover number
  | "rewrite" => .replaceError
  | other => .keep other

/-- The outcome after an adjustment; sums and products wrap around. -/
def apply : Adjustment → Outcome Int64 → Outcome Int64
  | .add amount, .ok value => .ok (value + amount)
  | .mul factor, .ok value => .ok (value * factor)
  | .reject, .ok value => .error (.engine (.protocol ("rejected " ++ toString value)))
  | .recover value, .error _ => .ok value
  | .replaceError, .error _ => .error .alreadyQueried
  | _, outcome => outcome

end Adjustment

/-- How the outcome of a trial is observed. -/
inductive Observer where
  /-- By a pair of callbacks. -/
  | callbacks
  /-- By the caller's side of the operation. -/
  | channel
deriving DecidableEq

/-- A trial of a completion. -/
structure Trial where
  label : String
  observer : Observer
  /-- The changes that wrap the completion, in order. -/
  adjustments : List Adjustment
  reply : Reply Int64
  /-- Whether the caller gives its side up before the reply. -/
  abandons : Bool
  /-- Whether the caller waits after the reply, and does not try twice. -/
  waits : Bool

namespace Trial

/-- Something that happened in a trial. -/
inductive Note where
  | adjusted (name : String) (got : Outcome Int64)
  | succeeded (value : Int64)
  | failed (error : Error)

/-- What a trial leaves behind. -/
structure World where
  notes : List Note
  /-- The outcome that arrived at the caller's side. -/
  arrived : Option (Outcome Int64)
  log : List LogEvent

instance : Logging World where
  log event world := { world with log := world.log ++ [event] }

/-- The world with one more note. -/
def World.note (world : World) (note : Note) : World :=
  { world with notes := world.notes ++ [note] }

/-- The completion of a trial before it is wrapped. -/
def inner (trial : Trial) : Completion Int64 World where
  label := trial.label
  settle outcome world :=
    match trial.observer, outcome with
    -- Nobody notices the arrival until the caller looks for it.
    | .channel, _ => { world with arrived := some outcome }
    | .callbacks, .ok value => world.note (.succeeded value)
    | .callbacks, .error error => world.note (.failed error)

/-- A completion wrapped in an adjustment that notes what it gets. -/
def wrap (completion : Completion Int64 World) (adjustment : Adjustment) :
    Completion Int64 World :=
  completion.mapResult fun outcome world =>
    (adjustment.apply outcome, world.note (.adjusted adjustment.name outcome))

/-- The completion of a trial. -/
def completion (trial : Trial) : Completion Int64 World :=
  trial.adjustments.foldl wrap trial.inner

/-- What was seen in a trial. -/
structure Report where
  /-- The label before and after the completion was wrapped. -/
  labels : String × String
  /-- What the attempts to take the outcome gave. -/
  tries : List (Option (Outcome Int64))
  waited : Option (Outcome Int64)
  /-- The layouts of the callbacks, if there are any, and of the completion. -/
  debug : List String
  notes : List Note
  log : List LogEvent

/-- The layout of a pair of callbacks in debugging output. -/
def callbacksText : String := "Callbacks \x7b .. \x7d"

/-- The attempts to take the outcome after the reply. -/
def laterTries (pending : PendingOperation) (arrived : Option (Outcome Int64)) :
    List (Option (Outcome Int64)) :=
  let (third, pending) := pending.tryResult arrived
  let (fourth, _) := pending.tryResult arrived
  [third, fourth]

/-- Holds a trial. -/
def run (trial : Trial) : Report :=
  let completion := trial.completion
  let world := completion.answer trial.reply ⟨[], none, []⟩
  let debug := [completion.debugText]
  let report : Report :=
    { labels := (trial.inner.label, completion.label), tries := [], waited := none, debug
      notes := world.notes, log := world.log }
  match trial.observer with
  | .callbacks => { report with debug := callbacksText :: debug }
  | .channel =>
    let (first, pending) := PendingOperation.start.tryResult (none : Option (Outcome Int64))
    -- A caller that gave its side up never learns the outcome.
    if trial.abandons then { report with tries := [first] }
    else if trial.waits then
      { report with tries := [first], waited := (pending.tryResult world.arrived).1 }
    else { report with tries := first :: laterTries pending world.arrived }

end Trial

end AnalyticsClient
