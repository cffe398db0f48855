import AnalyticsClient.Proofs.Catalog.Secrets

/-! Link changes that are described alike but for secrets become commands alike, or fail alike. -/

namespace AnalyticsClient

open Wire Wire.Fields

/-- Whether two members of the arguments of a link change are the same, or are objects that tell
links which differ only in their secrets. -/
def VeilLink (name : String) (json json' : Json) : Prop :=
  json = json' ∨ name = "link" ∧ ∃ members members', json = .obj members ∧ json' = .obj members'
    ∧ Link.VeiledMembers members members'

/-- Whether two descriptors ask for the same change of a link but for its secrets. -/
structure Descriptor.Veiled (a b : Descriptor) : Prop where
  change : a.operation = .linkCreate ∨ a.operation = .linkReplace
  operation : b.operation = a.operation
  timeout : b.timeout = a.timeout
  arguments : ∃ members members', a.arguments = .obj members ∧ b.arguments = .obj members'
    ∧ List.Forall₂ (Paired VeilLink) members members'

/-- Whether two commands are the same but for the secrets of a link. -/
inductive Command.Veiled : Command → Command → Prop
  | same (command : Command) : Veiled command command
  | linkCreate {a b : Link} (veiled : a.Veiled b) : Veiled (.linkCreate ⟨a⟩) (.linkCreate ⟨b⟩)
  | linkReplace {a b : Link} (veiled : a.Veiled b) : Veiled (.linkReplace ⟨a⟩) (.linkReplace ⟨b⟩)

/-- A secret that may be missing is hidden by itself. -/
theorem Hidden.refl_option (secret : Option String) : Option.Rel Hidden secret secret := by
  cases secret with
  | none => exact .none
  | some text => exact .some (.inl rfl)

/-- A link differs from itself in nothing. -/
theorem Link.Veiled.refl (link : Link) : link.Veiled link := by
  cases link with
  | couchbase link => exact .couchbase ⟨rfl, Hidden.refl_option _, Hidden.refl_option _⟩
  | s3 link => exact .s3 ⟨rfl, .inl rfl, Hidden.refl_option _⟩
  | azureBlob link =>
    exact .azureBlob ⟨rfl, Hidden.refl_option _, Hidden.refl_option _, Hidden.refl_option _⟩

/-- Commands that differ only in secrets are of the same operation. -/
theorem Command.Veiled.operation_eq {a b : Command} (veiled : a.Veiled b) :
    a.operation = b.operation := by
  cases veiled <;> rfl

/-- Commands that differ only in secrets lack the same. -/
theorem Command.Veiled.validate_eq {a b : Command} (veiled : a.Veiled b) :
    a.validate = b.validate := by
  cases veiled with
  | same command => rfl
  | linkCreate veiled => exact veiled.validate_eq
  | linkReplace veiled => exact veiled.validate_eq

/-- The arguments of a link change are read alike. -/
theorem LinkChange.agree_decode {members members' : List (String × Json)}
    (veiled : List.Forall₂ (Paired VeilLink) members members') :
    Agree (fun a b => a.link.Veiled b.link) (LinkChange.decode (Json.obj members))
      (LinkChange.decode (Json.obj members')) := by
  -- The one member of the arguments is the link, which is the same or read alike.
  have reads : ∀ {a b : Json}, VeilLink "link" a b →
      Agree Link.Veiled (Link.decode a) (Link.decode b) := by
    intro a b veil
    rcases veil with same | ⟨-, members, members', rfl, rfl, veiled⟩
    · rw [same]
      exact .refl Link.Veiled.refl _
    · exact Link.agree_decode veiled
  have layout : Agrees VeilLink (fun a b => a.link.Veiled b.link)
      (LinkChange.layout : Fields Json LinkChange) :=
    Agrees.map (fun {_ _} veiled => veiled) (agrees_field reads fun _ mem => by cases mem)
  exact layout.read (fun _ => rfl) _ (view_obj members) (view_obj members') veiled

/-- Arguments that were read alike are arguments alike of either change. -/
theorem Descriptor.agree_readGiven (operation : Operation) (make : LinkChange → Command)
    {given given' : Json}
    (decodes : Command.decodeFor? operation = some fun source : Json =>
      (LinkChange.decode source).map make)
    (makes : ∀ {a b : LinkChange}, a.link.Veiled b.link → (make a).Veiled (make b))
    (agree : Agree (fun a b => a.link.Veiled b.link) (LinkChange.decode given)
      (LinkChange.decode given')) :
    Agree Command.Veiled (readGiven operation given) (readGiven operation given') := by
  simp only [readGiven, decodes]
  generalize LinkChange.decode given = read, LinkChange.decode given' = read' at agree
  -- The message of a fault tells nothing of what could be read.
  cases agree with
  | error fault => exact .error _
  | ok veiled => exact .ok (makes veiled)

/-- Descriptors that differ only in secrets become commands that differ only in secrets, or fail
with the same error. -/
theorem Descriptor.Veiled.agree_resolve {a b : Descriptor} (veiled : a.Veiled b) :
    Agree Command.Veiled a.resolve b.resolve := by
  obtain ⟨operation, arguments, timeout⟩ := a
  obtain ⟨operation', arguments', timeout'⟩ := b
  obtain ⟨change, same, -, members, members', given, given', paired⟩ := veiled
  obtain rfl : operation' = operation := same
  obtain rfl : arguments = .obj members := given
  obtain rfl : arguments' = .obj members' := given'
  have decoded := LinkChange.agree_decode paired
  have read : Agree Command.Veiled
      (Descriptor.readArguments ⟨operation', .obj members, timeout⟩)
      (Descriptor.readArguments ⟨operation', .obj members', timeout'⟩) := by
    rcases change with create | replace
    · obtain rfl : operation' = .linkCreate := create
      exact agree_readGiven .linkCreate .linkCreate rfl .linkCreate decoded
    · obtain rfl : operation' = .linkReplace := replace
      exact agree_readGiven .linkReplace .linkReplace rfl .linkReplace decoded
  refine read.bind fun {command command'} veiled => ?_
  -- What was read alike passes the check, or lacks the same.
  rw [veiled.validate_eq]
  cases command'.validate with
  | ok => exact .ok veiled
  | error defect => exact .error _

end AnalyticsClient
