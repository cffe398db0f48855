import AnalyticsClient.Proofs.Session.Echo

/-! Secrets of links stay between the caller and the engine: runs that differ only in them are told
alike, and give alike. -/

namespace AnalyticsClient

/-- Whether two steps are the same, or submit descriptors of the same link change that differ only
in secrets. -/
inductive Step.Veiled : Step → Step → Prop
  | same (step : Step) : Step.Veiled step step
  | submit (id : String) {a b : Descriptor} (veiled : a.Veiled b) :
    Step.Veiled (.submit id a) (.submit id b)
  | dispatch (id : String) {a b : Descriptor} (veiled : a.Veiled b) :
    Step.Veiled (.dispatch id a) (.dispatch id b)

/-- Whether the same replies are ready in two turns, whose steps differ only in secrets. -/
structure Turn.Veiled (a b : Turn) : Prop where
  ready : b.1 = a.1
  step : a.2.Veiled b.2

/-- Whether the descriptors of two steps resolve to commands that differ only in secrets, or fail
with the same errors. -/
def Step.ResolvesLike (a b : Step) : Prop :=
  List.Forall₂ (fun call call' : Call =>
    Wire.Agree Command.Veiled call.descriptor.resolve call'.descriptor.resolve) a.calls b.calls

/-- Whether two reports are alike: only what the engine got may differ in secrets. -/
structure Session.StepReport.Alike (R : String → String → Prop) (a b : StepReport) : Prop where
  answer : a.answer.Alike R b.answer
  submissions : List.Forall₂ (fun made made' => made.1.Veiled R made'.1 ∧ made.2 = made'.2)
    a.submissions b.submissions
  deliveries : List.Forall₂ (Delivery.Echoes R) a.deliveries b.deliveries
  log : List.Forall₂ (LogEvent.Alike R) a.log b.log

/-- Whether two ids are the same, or are of the same draw from two supplies. -/
def Redrawn (ids ids' : Nat → String) (id id' : String) : Prop :=
  id = id' ∨ ∃ draw, ids draw = id ∧ ids' draw = id'

/-- Whether two details of events are the same, or are related ids. -/
structure DetailAlike (R : String → String → Prop) (a b : String × String) : Prop where
  name : a.1 = b.1
  text : a.2 = b.2 ∨ a.1 = "client_context_id" ∧ R a.2 b.2

variable {R : String → String → Prop}

/-- Alike events make lines of the log that differ at most in the field that tells the id. -/
theorem LogEvent.Alike.line {a b : LogEvent} (alike : a.Alike R b) :
    a.level = b.level ∧ a.target = b.target ∧ a.message = b.message
      ∧ List.Forall₂ (DetailAlike R) a.details b.details := by
  obtain @⟨event, id, id', related⟩ := alike
  have same : ∀ detail : String × String, DetailAlike R detail detail := fun _ => ⟨rfl, .inl rfl⟩
  have ids : DetailAlike R ("client_context_id", id) ("client_context_id", id') :=
    ⟨rfl, .inr ⟨rfl, related⟩⟩
  -- The fields of an event are told in the same order, whatever they tell.
  refine ⟨by cases event <;> rfl, by cases event <;> rfl, by cases event <;> rfl, ?_⟩
  cases event with
  | submitting operation _ timeoutMs => exact .cons (same _) (.cons ids (.cons (same _) .nil))
  | completed operation _ => exact .cons (same _) (.cons ids .nil)
  | wrongKind operation _ output => exact .cons (same _) (.cons ids (.cons (same _) .nil))
  | failed operation _ error => exact .cons (same _) (.cons ids (.cons (same _) .nil))
  | released label => exact .cons (same _) .nil
  | submittingQuery _ timeoutMs consistency tokens =>
    exact .cons ids (.cons (same _) (.cons (same _) (.cons (same _) .nil)))
  | streamCompleted _ rows status => exact .cons ids (.cons (same _) (.cons (same _) .nil))
  | streamFailed _ rows error => exact .cons ids (.cons (same _) (.cons (same _) .nil))
  | streamCutShort _ rows => exact .cons ids (.cons (same _) .nil)
  | streamClosed _ rows => exact .cons ids (.cons (same _) .nil)

/-- Steps that differ only in secrets resolve alike. -/
theorem Step.Veiled.resolvesLike {a b : Step} (veiled : a.Veiled b) : a.ResolvesLike b := by
  -- Steps of other kinds are the same in both runs, and so are their calls.
  cases veiled with
  | same step => exact List.forall₂_same.2 fun _ _ => .refl Command.Veiled.same _
  | submit id veiled => exact .cons veiled.agree_resolve .nil
  | dispatch id veiled => exact .cons veiled.agree_resolve .nil

namespace Session

/-- Elements that are related stay so when they are numbered alike. -/
theorem forall₂_zipIdx {α β : Type} {S : α → β → Prop} {as : List α} {bs : List β}
    (related : List.Forall₂ S as bs) : ∀ start : Nat,
    List.Forall₂ (fun a b => S a.1 b.1 ∧ a.2 = b.2) (as.zipIdx start) (bs.zipIdx start) := by
  induction related with
  | nil => exact fun _ => .nil
  | cons first _ ih => exact fun start => .cons ⟨first, rfl⟩ (ih (start + 1))

variable {a b : Session}

/-- A session is the same but for ids as one in which other ids are drawn. -/
theorem echoes_start (config : Config) (ids ids' : Nat → String) :
    (start config ids).Echoes (Redrawn ids ids') (start config ids') where
  config := rfl
  drawn := rfl
  ids draw := .inr ⟨draw, rfl, rfl⟩
  submissions := .nil
  held := rfl
  ready := rfl
  ledger := ⟨.nil, .nil⟩
  handles := rfl
  queries _ := .none

namespace Echoes

/-- Descriptors that resolve alike are submitted alike, their futures kept. -/
theorem submit (echoes : a.Echoes R b) (id : String) {descriptor descriptor' : Descriptor}
    (resolve : Wire.Agree Command.Veiled descriptor.resolve descriptor'.resolve)
    (timeout : descriptor'.timeout = descriptor.timeout) :
    Concert R (a.act (.submit id descriptor)) (b.act (.submit id descriptor')) := by
  -- A refusal tells the caller the same error, and leaves both sessions as they are.
  have submitted := echoes.submitDescriptor resolve timeout .pending
  simp only [act]
  generalize a.submitDescriptor descriptor .pending = one,
    b.submitDescriptor descriptor' .pending = other at submitted
  cases submitted with
  | error error => exact ⟨.same _, echoes⟩
  | @ok one other related =>
    obtain ⟨engine, after⟩ := one
    obtain ⟨engine', after'⟩ := other
    obtain ⟨same, kept⟩ := related
    obtain rfl : engine = engine' := same
    exact ⟨.same _, kept.keep id _⟩

/-- Descriptors that resolve alike are submitted alike, their outcomes to callbacks. -/
theorem dispatch (echoes : a.Echoes R b) (id : String) {descriptor descriptor' : Descriptor}
    (resolve : Wire.Agree Command.Veiled descriptor.resolve descriptor'.resolve)
    (timeout : descriptor'.timeout = descriptor.timeout) :
    Concert R (a.act (.dispatch id descriptor)) (b.act (.dispatch id descriptor')) := by
  have submitted := echoes.submitDescriptor resolve timeout (.callbacks id)
  simp only [act]
  generalize a.submitDescriptor descriptor (.callbacks id) = one,
    b.submitDescriptor descriptor' (.callbacks id) = other at submitted
  -- Either both are refused for the same reason, or both are submitted.
  cases submitted with
  | error error => exact ⟨.same _, echoes⟩
  | ok related => exact ⟨.same _, related.2⟩

/-- A command is executed alike. -/
theorem execute (echoes : a.Echoes R b) (id : String) (command : Command) :
    Concert R (a.act (.execute id command)) (b.act (.execute id command)) := by
  -- The command is the same, and its request has the same number in both sessions.
  have submitted := echoes.submitDescriptor (.refl Command.Veiled.same _)
    (rfl : (Descriptor.ofCommand command).timeout = _) .pending
  simp only [act]
  generalize a.submitDescriptor (.ofCommand command) .pending = one,
    b.submitDescriptor (.ofCommand command) .pending = other at submitted
  cases submitted with
  | error error => exact ⟨.same _, echoes⟩
  | @ok one other related =>
    obtain ⟨engine, after⟩ := one
    obtain ⟨engine', after'⟩ := other
    obtain ⟨same, placed⟩ := related
    obtain rfl : engine = engine' := same
    exact placed.pollOne id engine

/-- Several commands are executed alike. -/
theorem executeMany (echoes : a.Echoes R b) (id : String) (commands : List Command) :
    Concert R (a.act (.executeMany id commands)) (b.act (.executeMany id commands)) := by
  obtain ⟨parts, after⟩ := echoes.submitAll commands
  simp only [act, parts]
  exact after.pollMany id _

/-- What is waited for is given up alike. -/
theorem cancel (echoes : a.Echoes R b) (id : String) :
    Concert R (a.act (.cancel id)) (b.act (.cancel id)) := by
  simp only [act, echoes.handles]
  split
  · exact ⟨.same _, echoes.forget id⟩
  · exact ⟨.same _, echoes⟩

/-- Every step goes alike in both sessions. -/
theorem act (echoes : a.Echoes R b) (reflexive : ∀ id, R id id) {step step' : Step}
    (veiled : step.Veiled step') : Concert R (a.act step) (b.act step') := by
  cases veiled with
  -- Secrets come in with link changes only; what follows them sees no more than how they resolve.
  | submit id veiled => exact echoes.submit id veiled.agree_resolve veiled.timeout
  | dispatch id veiled => exact echoes.dispatch id veiled.agree_resolve veiled.timeout
  | same =>
    cases step with
    | submit id descriptor => exact echoes.submit id (.refl Command.Veiled.same _) rfl
    | dispatch id descriptor => exact echoes.dispatch id (.refl Command.Veiled.same _) rfl
    | execute id command => exact echoes.execute id command
    | executeMany id commands => exact echoes.executeMany id commands
    | reply engine reply => exact echoes.reply engine reply
    | tryResult id => exact echoes.tryHandle id
    | await id => exact echoes.awaitHandle id
    | cancel id => exact echoes.cancel id
    | query id statement options => exact echoes.openQuery reflexive id statement options
    | onQuery id step => exact echoes.stepQuery id step

/-- Every turn is reported alike. -/
theorem report (echoes : a.Echoes R b) (reflexive : ∀ id, R id id) {turn turn' : Turn}
    (veiled : turn.Veiled turn') :
    (a.report turn.1 turn.2).1.Alike R (b.report turn'.1 turn'.2).1
      ∧ (a.report turn.1 turn.2).2.Echoes R (b.report turn'.1 turn'.2).2 := by
  obtain ⟨readies, steps⟩ := veiled
  obtain ⟨answers, acted⟩ := (echoes.with_ready turn.1).act reflexive steps
  have after := acted.with_ready []
  have length := echoes.length_submissions
  have deliveries := echoes.ledger.deliveries.length_eq
  have log := echoes.ledger.log.length_eq
  rw [readies]
  refine ⟨?_, after⟩
  -- A report tells what the lists of the session grew by, and they were as long before.
  exact {
    answer := answers
    submissions := by
      simp only [Session.report, length]
      exact forall₂_zipIdx (List.forall₂_drop _ after.submissions) _
    deliveries := by
      simp only [Session.report, deliveries]
      exact List.forall₂_drop _ after.ledger.deliveries
    log := by
      simp only [Session.report, log]
      exact List.forall₂_drop _ after.ledger.log }

/-- Whole runs are reported alike. -/
theorem run {turns turns' : List Turn} (veiled : List.Forall₂ Turn.Veiled turns turns')
    (reflexive : ∀ id, R id id) : ∀ {a b : Session}, a.Echoes R b →
    List.Forall₂ (StepReport.Alike R) (a.run turns).1 (b.run turns').1 := by
  -- Each turn leaves sessions that are the same but for secrets and ids to the turns behind it.
  induction veiled with
  | nil => exact fun _ => .nil
  | cons first _ ih =>
    intro a b echoes
    obtain ⟨reports, after⟩ := echoes.report reflexive first
    exact .cons reports (ih after)

end Echoes

/-- Take two runs in which callers submit the same link changes but for the secrets of the links,
and the engine replies the same. Each descriptor resolves in both or fails in both with the same
error; and every step gives the same, hands over the same outcomes and tells the log the same, but
for the ids that were drawn. Only the engine gets to see a secret. -/
theorem run_confidential (config : Config) (ids ids' : Nat → String) {turns turns' : List Turn}
    (veiled : List.Forall₂ Turn.Veiled turns turns') :
    List.Forall₂ (fun turn turn' : Turn => turn.2.ResolvesLike turn'.2) turns turns'
      ∧ List.Forall₂ (StepReport.Alike (Redrawn ids ids')) ((start config ids).run turns).1
        ((start config ids').run turns').1 :=
  ⟨veiled.imp fun _ _ turn => turn.step.resolvesLike,
    Echoes.run veiled (fun _ => .inl rfl) (echoes_start config ids ids')⟩

/-- A link to a bucket that is opened with a secret. -/
def keyed (secret : String) : Descriptor where
  operation := .linkCreate
  arguments := .obj [("link", .obj [("type", .str "s3"), ("dataverse", .str "travel"),
    ("name", .str "bucket"), ("access_key_id", .str "reader"),
    ("secret_access_key", .str secret), ("region", .str "north")])]
  timeout := none

/-- Such links with secrets that say something differ only in these. -/
theorem veiled_keyed {secret secret' : String} (speaks : Speaks secret) (speaks' : Speaks secret') :
    (keyed secret).Veiled (keyed secret') where
  change := .inl rfl
  operation := rfl
  timeout := rfl
  arguments := by
    -- Of all members only the key differs, and it is one of those that are hidden.
    have same : ∀ member : String × Json, Wire.Paired Veil member member :=
      fun _ => ⟨rfl, .inl rfl⟩
    have mem : "secret_access_key" ∈ secretNames := by decide
    have hidden : Wire.Paired Veil ("secret_access_key", .str secret)
        ("secret_access_key", .str secret') :=
      ⟨rfl, .inr ⟨mem, secret, secret', rfl, rfl, speaks, speaks'⟩⟩
    have members : Link.VeiledMembers _ _ :=
      .cons (same ("type", .str "s3")) (.cons (same ("dataverse", .str "travel"))
        (.cons (same ("name", .str "bucket")) (.cons (same ("access_key_id", .str "reader"))
          (.cons hidden (.cons (same ("region", .str "north")) .nil)))))
    exact ⟨_, _, rfl, rfl, .cons ⟨rfl, .inr ⟨rfl, _, _, rfl, rfl, members⟩⟩ .nil⟩

/-- A caller asks for the link, and the engine answers with what it is not asked for. -/
def entrusted (secret : String) : List Turn :=
  [([], .submit "link" (keyed secret)), ([], .reply 0 (.succeed (.links []))), ([], .await "link")]

/-- Ids of which the first one is given. -/
def named (first : String) (draw : Nat) : String := if draw = 0 then first else "other"

/-- The reports on such a request, under an id and with a secret. -/
def entrust (id secret : String) : List StepReport :=
  ((start default (named id)).run (entrusted secret)).1

/-- With either of two secrets the log is told the same, under the id of the request. -/
theorem run_confidential_keyed :
    (keyed "open sesame").Veiled (keyed "shibboleth")
      ∧ (entrust "first" "open sesame").flatMap StepReport.log
        = [.submitting .linkCreate "first" 75000, .wrongKind .linkCreate "first" .links]
      ∧ (entrust "second" "shibboleth").flatMap StepReport.log
        = [.submitting .linkCreate "second" 75000, .wrongKind .linkCreate "second" .links]
      ∧ List.Forall₂ (StepReport.Alike (Redrawn (named "first") (named "second")))
        (entrust "first" "open sesame") (entrust "second" "shibboleth") := by
  have veiled : (keyed "open sesame").Veiled (keyed "shibboleth") :=
    veiled_keyed ⟨'o', by decide, by decide⟩ ⟨'s', by decide, by decide⟩
  have turns : List.Forall₂ Turn.Veiled (entrusted "open sesame") (entrusted "shibboleth") :=
    .cons ⟨rfl, .submit "link" veiled⟩ (.cons ⟨rfl, .same _⟩ (.cons ⟨rfl, .same _⟩ .nil))
  exact ⟨veiled, rfl, rfl, (run_confidential default (named "first") (named "second") turns).2⟩

end Session

end AnalyticsClient
