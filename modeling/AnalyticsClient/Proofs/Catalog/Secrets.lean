import AnalyticsClient.Proofs.Operation.CommandForm
import AnalyticsClient.Proofs.Wire.Agreement
import AnalyticsClient.Proofs.Wire.Recovery

/-! Links that differ only in their secrets are read alike, and checked alike. -/

namespace AnalyticsClient

open Wire Wire.Fields

/-- The names of the settings of links that are secrets. -/
def secretNames : List String :=
  ["password", "client_key", "secret_access_key", "session_token", "account_key",
    "shared_access_signature", "connection_string"]

/-- Whether two secrets are the same, or both say something. -/
def Hidden (text text' : String) : Prop := text = text' ∨ Speaks text ∧ Speaks text'

/-- Whether two members of a link are the same, or texts under the name of a secret that both say
something. -/
def Veil (name : String) (json json' : Json) : Prop :=
  json = json' ∨ name ∈ secretNames
    ∧ ∃ text text', json = .str text ∧ json' = .str text' ∧ Speaks text ∧ Speaks text'

/-- Whether two settings that were set aside differ only where they are secrets. -/
def VeilAside (name : String) (a b : Aside) : Prop := Veil name a.value b.value

/-- Whether two links to clusters differ only in their secrets. -/
structure CouchbaseLink.Veiled (a b : CouchbaseLink) : Prop where
  rest : b = { a with clientKey := b.clientKey, password := b.password }
  clientKey : Option.Rel Hidden a.clientKey b.clientKey
  password : Option.Rel Hidden a.password b.password

/-- Whether two links to S3 stores differ only in their secrets. -/
structure S3Link.Veiled (a b : S3Link) : Prop where
  rest : b = { a with secretAccessKey := b.secretAccessKey, sessionToken := b.sessionToken }
  secretAccessKey : Hidden a.secretAccessKey b.secretAccessKey
  sessionToken : Option.Rel Hidden a.sessionToken b.sessionToken

/-- Whether two links to Azure blob stores differ only in their secrets. -/
structure AzureBlobLink.Veiled (a b : AzureBlobLink) : Prop where
  rest : b = { a with
    connectionString := b.connectionString
    accountKey := b.accountKey
    sharedAccessSignature := b.sharedAccessSignature }
  connectionString : Option.Rel Hidden a.connectionString b.connectionString
  accountKey : Option.Rel Hidden a.accountKey b.accountKey
  sharedAccessSignature : Option.Rel Hidden a.sharedAccessSignature b.sharedAccessSignature

/-- Whether two links differ only in their secrets. -/
inductive Link.Veiled : Link → Link → Prop
  | couchbase {a b : CouchbaseLink} (veiled : a.Veiled b) : Veiled (.couchbase a) (.couchbase b)
  | s3 {a b : S3Link} (veiled : a.Veiled b) : Veiled (.s3 a) (.s3 b)
  | azureBlob {a b : AzureBlobLink} (veiled : a.Veiled b) : Veiled (.azureBlob a) (.azureBlob b)

/-- What is no secret is the same. -/
theorem Veil.eq {name : String} {json json' : Json} (veil : Veil name json json')
    (plain : name ∉ secretNames) : json = json' :=
  veil.resolve_right fun secret => plain secret.1

section

variable {α : Type} {name : String}

/-- A setting that is no secret is read the same. -/
theorem agrees_plain {absent : Option α} {read : Decoder Aside α} (plain : name ∉ secretNames) :
    Agrees VeilAside Eq (field name absent read) := by
  refine agrees_field (fun {a b} veil => ?_) fun _ _ => rfl
  have same : a.value = b.value := Veil.eq veil plain
  obtain ⟨json⟩ := a
  obtain ⟨json'⟩ := b
  obtain rfl : json = json' := same
  exact .refl (fun _ => rfl) _

/-- A text that may be a secret is read alike. -/
theorem agree_string {a b : Aside} (veil : VeilAside name a b) :
    Agree Hidden (Wire.string a) (Wire.string b) := by
  obtain ⟨json⟩ := a
  obtain ⟨json'⟩ := b
  -- The two are the same, or both are texts that are hidden.
  rcases veil with same | ⟨-, text, text', same, same', speaks⟩
  · obtain rfl : json = json' := same
    exact .refl (fun _ => .inl rfl) _
  · obtain rfl : json = .str text := same
    obtain rfl : json' = .str text' := same'
    exact .ok (.inr speaks)

/-- A secret that has to be there is read alike. -/
theorem agrees_secret : Agrees VeilAside Hidden (required name Wire.string) :=
  agrees_field agree_string fun _ mem => by cases mem

/-- A secret that need not be there is read alike. -/
theorem agrees_secret_perhaps :
    Agrees VeilAside (Option.Rel Hidden) (perhaps name Wire.string) := by
  refine agrees_field (fun {a b} veil => ?_) fun value mem => ?_
  · obtain ⟨json⟩ := a
    obtain ⟨json'⟩ := b
    have read := agree_string veil
    rcases veil with same | ⟨-, text, text', same, same', -⟩
    · obtain rfl : json = json' := same
      refine .refl (fun value => ?_) _
      cases value with
      | none => exact .none
      | some text => exact .some (.inl rfl)
    · -- A text is not null, so it is read as something.
      obtain rfl : json = .str text := same
      obtain rfl : json' = .str text' := same'
      exact read.map .some
  · cases mem
    exact .none

end

namespace Link

/-- The settings of links to clusters are read alike. -/
theorem agrees_couchbaseFields :
    Agrees VeilAside CouchbaseLink.Veiled (couchbaseFields : Fields Aside CouchbaseLink) := by
  refine ((((((((Agrees.map ?_ (agrees_plain (by decide))).seq (agrees_plain (by decide))).seq
    (agrees_plain (by decide))).seq (agrees_plain (by decide))).seq
    (agrees_plain (by decide))).seq (agrees_plain (by decide))).seq agrees_secret_perhaps).seq
    (agrees_plain (by decide))).seq agrees_secret_perhaps
  -- A link is made alike of settings that are the same but for two of them.
  rintro _ _ rfl _ _ rfl _ _ rfl _ _ rfl _ _ rfl _ _ rfl _ _ clientKey _ _ rfl _ _ password
  exact ⟨rfl, clientKey, password⟩

/-- The settings of links to S3 stores are read alike. -/
theorem agrees_s3Fields : Agrees VeilAside S3Link.Veiled (s3Fields : Fields Aside S3Link) := by
  refine ((((((Agrees.map ?_ (agrees_plain (by decide))).seq (agrees_plain (by decide))).seq
    (agrees_plain (by decide))).seq agrees_secret).seq (agrees_plain (by decide))).seq
    agrees_secret_perhaps).seq (agrees_plain (by decide))
  rintro _ _ rfl _ _ rfl _ _ rfl _ _ secretAccessKey _ _ rfl _ _ sessionToken _ _ rfl
  exact ⟨rfl, secretAccessKey, sessionToken⟩

/-- The settings of links to Azure blob stores are read alike. -/
theorem agrees_azureBlobFields :
    Agrees VeilAside AzureBlobLink.Veiled (azureBlobFields : Fields Aside AzureBlobLink) := by
  refine (((((((Agrees.map ?_ (agrees_plain (by decide))).seq (agrees_plain (by decide))).seq
    agrees_secret_perhaps).seq (agrees_plain (by decide))).seq agrees_secret_perhaps).seq
    agrees_secret_perhaps).seq (agrees_plain (by decide))).seq (agrees_plain (by decide))
  rintro _ _ rfl _ _ rfl _ _ connectionString _ _ rfl _ _ accountKey _ _ sharedAccessSignature
    _ _ rfl _ _ rfl
  exact ⟨rfl, connectionString, accountKey, sharedAccessSignature⟩

/-- The members of two links that differ only in secrets. -/
abbrev VeiledMembers : List (String × Json) → List (String × Json) → Prop :=
  List.Forall₂ (Paired Veil)

/-- A link of a kind is read alike from settings that differ only in secrets. -/
theorem agree_decodeAs (linkType : LinkType) {members members' : List (String × Json)}
    (veiled : VeiledMembers members members') :
    Agree Veiled (decodeAs linkType (.obj members)) (decodeAs linkType (.obj members')) := by
  have aside : List.Forall₂ (Paired VeilAside)
      (members.map fun member => (member.1, Aside.mk member.2))
      (members'.map fun member => (member.1, Aside.mk member.2)) := by
    rw [List.forall₂_map_left_iff, List.forall₂_map_right_iff]
    exact veiled
  have skips : ∀ {name : String} {a b : Aside}, VeilAside name a b →
      Source.skip a = Source.skip b := fun _ => rfl
  -- Each kind is read by its own settings.
  cases linkType with
  | couchbaseRemote =>
    exact (agrees_couchbaseFields.read skips _ rfl rfl aside).map .couchbase
  | s3External => exact (agrees_s3Fields.read skips _ rfl rfl aside).map .s3
  | azureBlobExternal => exact (agrees_azureBlobFields.read skips _ rfl rfl aside).map .azureBlob

/-- The kind of a link is found alike, and the other members are left to differ only in secrets. -/
theorem agree_readTagged {members members' : List (String × Json)}
    (veiled : VeiledMembers members members') : ∀ tag,
    Agree (fun a b => a.1 = b.1 ∧ VeiledMembers a.2 b.2) (readTagged none tag members)
      (readTagged none tag members') := by
  -- A tag that was found is there for the members behind it.
  induction veiled with
  | nil => exact fun tag => .ok ⟨rfl, .nil⟩
  | @cons a b rest rest' first _ ih =>
    intro tag
    obtain ⟨name, json⟩ := a
    obtain ⟨name', json'⟩ := b
    obtain ⟨same, veil⟩ := first
    obtain rfl : name = name' := same
    by_cases kind : name = "type"
    · -- The kind is no secret, so it is found or refused the same.
      subst kind
      have plain : "type" ∉ secretNames := by decide
      obtain rfl : json = json' := Veil.eq veil plain
      simp only [readTagged]
      split
      · exact .error _
      · refine (Agree.refl (S := Eq) (fun _ => rfl) (decodeTag json)).bind fun found => ?_
        subst found
        exact ih _
    · rw [readTagged_cons kind, readTagged_cons kind]
      refine (ih tag).map fun related => ⟨related.1, ?_⟩
      exact .cons ⟨rfl, veil⟩ related.2

/-- Links that are told by members that differ only in secrets are read alike. -/
theorem agree_decode {members members' : List (String × Json)}
    (veiled : VeiledMembers members members') :
    Agree Veiled (decode (Json.obj members)) (decode (Json.obj members')) := by
  simp only [decode, view_obj]
  refine (agree_readTagged veiled none).bind fun {found found'} related => ?_
  obtain ⟨tag, others⟩ := found
  obtain ⟨tag', others'⟩ := found'
  obtain ⟨same, rest⟩ := related
  obtain rfl : tag = tag' := same
  -- The kind of a link is never hidden, so both are read as the same kind.
  cases tag with
  | none => exact .error _
  | some linkType => exact agree_decodeAs linkType rest

/-- A text that says something is not empty. -/
theorem isGiven_of_speaks {text : String} (speaks : Speaks text) : isGiven (some text) = true := by
  obtain ⟨c, mem, -⟩ := speaks
  have some_ : text ≠ "" := by
    intro empty
    rw [empty] at mem
    cases mem
  simp [isGiven, some_]

/-- Credentials that are hidden are given alike. -/
theorem isGiven_hidden {credential credential' : Option String}
    (hidden : Option.Rel Hidden credential credential') :
    isGiven credential = isGiven credential' := by
  cases hidden with
  | none => rfl
  | some related =>
    rcases related with same | ⟨speaks, speaks'⟩
    · rw [same]
    · rw [isGiven_of_speaks speaks, isGiven_of_speaks speaks']

/-- A text that is hidden is required alike. -/
theorem requireText_hidden {text text' : String} (hidden : Hidden text text') (field : String) :
    requireText field text = requireText field text' := by
  rcases hidden with same | ⟨speaks, speaks'⟩
  · rw [same]
  · rw [requireText_iff.2 speaks, requireText_iff.2 speaks']

/-- Links that differ only in secrets lack the same. -/
theorem Veiled.validate_eq {link link' : Link} (veiled : link.Veiled link') :
    link.validate = link'.validate := by
  -- A secret plays a part in the check only by being there.
  cases veiled with
  | couchbase veiled =>
    have clientKey := isGiven_hidden veiled.clientKey
    have password := isGiven_hidden veiled.password
    rw [veiled.rest]
    simp only [validate, dataverse, name, validateCouchbase, clientKey, password]
  | s3 veiled =>
    have secret := requireText_hidden veiled.secretAccessKey "secret_access_key"
    rw [veiled.rest]
    simp only [validate, dataverse, name, validateS3, secret]
  | azureBlob veiled =>
    have connectionString := isGiven_hidden veiled.connectionString
    have accountKey := isGiven_hidden veiled.accountKey
    have signature := isGiven_hidden veiled.sharedAccessSignature
    rw [veiled.rest]
    simp only [validate, dataverse, name, validateAzureBlob, connectionString, accountKey,
      signature]

end Link

end AnalyticsClient
