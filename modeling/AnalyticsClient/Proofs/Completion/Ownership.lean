import AnalyticsClient.Proofs.Completion.Watch

/-! Completions as they are owned: each of them is let go in the end, and settles what it still
holds. -/

namespace AnalyticsClient

variable {α ω : Type}

/-- Where an outcome goes. -/
abbrev Resolver (α ω : Type) := Outcome α → ω → ω

/-- A completion as it is owned. -/
structure Owned (α ω : Type) where
  /-- Where the outcome goes, unless that was taken out already. -/
  resolver : Option (Resolver α ω)
  /-- The name of the operation in the log. -/
  label : String

namespace Owned

/-- A completion that was just made. -/
def new (label : String) (resolver : Resolver α ω) : Owned α ω := ⟨some resolver, label⟩

/-- Lets a completion go; one that still has its resolver is settled with a failure. -/
def letGo [Logging ω] (owned : Owned α ω) (world : ω) : ω :=
  match owned.resolver with
  | none => world
  | some resolver =>
    resolver (.error (.engine (Completion.releaseError owned.label)))
      (Logging.log (.released owned.label) world)

/-- Wraps a completion in a change. Its resolver and its label are taken out of it, and what is left
is let go. -/
def mapResult [Logging ω] (change : Change α ω) (owned : Owned α ω) (world : ω) :
    Owned α ω × ω :=
  let made : Owned α ω :=
    match owned.resolver with
    | none => ⟨none, owned.label⟩
    | some inner =>
      .new owned.label fun outcome world =>
        let (changed, world) := change outcome world
        inner changed world
  let left : Owned α ω := ⟨none, ""⟩
  (made, left.letGo world)

/-- Ends an operation with a result of the engine. The resolver is taken out and runs, and what is
left is let go. -/
def complete [Logging ω] (owned : Owned α ω) (result : Except EngineError α) (world : ω) : ω :=
  let resolved :=
    match owned.resolver with
    | none => world
    | some resolver => resolver (result.mapError .engine) world
  let left : Owned α ω := ⟨none, owned.label⟩
  left.letGo resolved

/-- Ends an operation as a reply says. -/
def answer [Logging ω] (owned : Owned α ω) : Reply α → ω → ω
  | .succeed value => owned.complete (.ok value)
  | .fail error => owned.complete (.error error)
  | .complete result => owned.complete result
  | .release => owned.letGo

/-- Wraps a completion in changes one after the other. -/
def wrapAll [Logging ω] : List (Change α ω) → Owned α ω → ω → Owned α ω × ω
  | [], owned, world => (owned, world)
  | change :: rest, owned, world =>
    let (wrapped, world) := owned.mapResult change world
    wrapAll rest wrapped world

end Owned

namespace Completion

/-- A completion whose resolver was not taken out. -/
def owned (completion : Completion α ω) : Owned α ω := .new completion.label completion.settle

/-- Wrapping leaves nothing behind that would settle anything. -/
theorem mapResult_owned [Logging ω] (completion : Completion α ω) (change : Change α ω)
    (world : ω) :
    completion.owned.mapResult change world = ((completion.mapResult change).owned, world) := rfl

/-- Wrapping in many changes leaves nothing behind that would settle anything. -/
theorem wrapAll_owned [Logging ω] (changes : List (Change α ω)) (world : ω) :
    ∀ completion : Completion α ω,
      completion.owned.wrapAll changes world = ((completion.wrapAll changes).owned, world) := by
  -- Each change wraps the completion that is there by then, so it stays quantified over.
  induction changes with
  | nil => exact fun _ => rfl
  | cons change rest ih =>
    intro completion
    have first := mapResult_owned completion change world
    rw [Owned.wrapAll, first]
    exact ih (completion.mapResult change)

/-- A completion that is owned is settled once by whatever ends it: its resolver runs, and nothing
that is let go after that has one. -/
theorem answer_owned [Logging ω] (completion : Completion α ω) (reply : Reply α) (world : ω) :
    completion.owned.answer reply world = completion.answer reply world := by
  cases reply <;> rfl

end Completion

/-- What a caller wants to be run at the end of an operation. -/
structure Callbacks (α ω : Type) where
  onSuccess : α → ω → ω
  onError : Error → ω → ω

namespace Callbacks

/-- Runs the callback that is for an outcome. -/
def resolve (callbacks : Callbacks α ω) : Resolver α ω
  | .ok value => callbacks.onSuccess value
  | .error error => callbacks.onError error

/-- The callbacks of a trial note what they get. -/
def ofTrial : Callbacks Int64 Trial.World where
  onSuccess value world := world.note (.succeeded value)
  onError error world := world.note (.failed error)

end Callbacks

namespace Trial

/-- The completion of a trial is one for its callbacks, or one for the caller's side. -/
theorem inner_eq (trial : Trial) :
    trial.inner.settle
      = match trial.observer with
        | .callbacks => Callbacks.ofTrial.resolve
        | .channel => (channel trial.label).completion.settle := by
  obtain ⟨label, observer, adjustments, reply, abandons, waits⟩ := trial
  funext outcome world
  cases observer <;> cases outcome <;> rfl

end Trial

end AnalyticsClient
