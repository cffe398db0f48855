import AnalyticsClient.Proofs.Operation.CommandForm

/-! Which links pass their check: those with all names that their kind takes, and with credentials
for one way to log in. Names have to say something; credentials only have to be filled in. -/

namespace AnalyticsClient

open Wire (then_eq_ok)

/-- Whether a credential is filled in, be it with blanks. -/
def Filled (credential : Option String) : Prop := ∃ text, credential = some text ∧ text ≠ ""

/-- Whether a credential says something. -/
def Spoken (credential : Option String) : Prop := ∃ text, credential = some text ∧ Speaks text

/-- Whether a link to a cluster has credentials for its encryption level, if those count that are
told. -/
def CouchbaseLink.LogsIn (counts : Option String → Prop) (link : CouchbaseLink) : Prop :=
  let password := counts link.username ∧ counts link.password
  let certificate := counts link.clientCertificate ∧ counts link.clientKey
  match link.encryption with
  | .none | .half => password
  | .full =>
    -- One of the two ways to log in, and not the other one as well.
    counts link.certificate ∧ (password ∧ ¬ certificate ∨ certificate ∧ ¬ password)

/-- Whether a link to an Azure blob store has credentials, if those count that are told. -/
def AzureBlobLink.LogsIn (counts : Option String → Prop) (link : AzureBlobLink) : Prop :=
  counts link.connectionString
    ∨ counts link.accountName ∧ (counts link.accountKey ∨ counts link.sharedAccessSignature)

namespace Link

/-- Whether every name that has to be in a link says something. -/
def Named (link : Link) : Prop :=
  Speaks link.dataverse ∧ Speaks link.name
    ∧ match link with
      | .couchbase it => Speaks it.hostname
      | .s3 it => Speaks it.accessKeyId ∧ Speaks it.secretAccessKey ∧ Speaks it.region
      | .azureBlob _ => True

/-- Whether a link has credentials for one way to log in, if those count that are told. -/
def LogsIn (counts : Option String → Prop) : Link → Prop
  | .couchbase it => it.LogsIn counts
  -- The keys of an S3 store are names that have to be there.
  | .s3 _ => True
  | .azureBlob it => it.LogsIn counts

/-- Whether a link has all that its kind takes, if those credentials count that are told. -/
def Complete (counts : Option String → Prop) (link : Link) : Prop :=
  link.Named ∧ link.LogsIn counts

/-- The credentials of a link that need not be there. -/
def credentials : Link → List (Option String)
  | .couchbase it =>
    [it.certificate, it.clientCertificate, it.clientKey, it.username, it.password]
  | .s3 _ => []
  | .azureBlob it =>
    [it.connectionString, it.accountName, it.accountKey, it.sharedAccessSignature]

/-- A credential is given where a text is there that is not empty. -/
theorem isGiven_iff {credential : Option String} :
    isGiven credential = true ↔ Filled credential := by
  cases credential with
  | none => simp [isGiven, Filled]
  | some text => simp [isGiven, Filled]

/-- A link to a cluster passes its check where it names its host and can log in. -/
theorem validateCouchbase_iff {link : CouchbaseLink} :
    validateCouchbase link = .ok () ↔ Speaks link.hostname ∧ link.LogsIn Filled := by
  obtain ⟨_, _, _, encryption, certificate, clientCertificate, clientKey, username, password⟩ := link
  -- The host is looked at first, and then the credentials that the encryption level takes.
  cases encryption with
  | none | half =>
    simp only [validateCouchbase, CouchbaseLink.LogsIn, then_eq_ok, requireText_iff, ← isGiven_iff,
      ← Bool.and_eq_true]
    refine and_congr_right fun _ => ?_
    cases isGiven username && isGiven password <;> simp [pure, Except.pure]
  | full =>
    simp only [validateCouchbase, CouchbaseLink.LogsIn, then_eq_ok, requireText_iff, ← isGiven_iff,
      ← Bool.and_eq_true]
    refine and_congr_right fun _ => ?_
    -- Without a certificate nothing else is looked at.
    cases isGiven certificate with
    | false => simp [bind, Except.bind]
    | true =>
      cases isGiven username && isGiven password <;>
        cases isGiven clientCertificate && isGiven clientKey <;> simp [pure, Except.pure]

/-- A link to an S3 store passes its check where its three keys say something. -/
theorem validateS3_iff {link : S3Link} :
    validateS3 link = .ok ()
      ↔ Speaks link.accessKeyId ∧ Speaks link.secretAccessKey ∧ Speaks link.region := by
  simp only [validateS3, then_eq_ok, requireText_iff]

/-- A link to an Azure blob store passes its check where it can log in. -/
theorem validateAzureBlob_iff {link : AzureBlobLink} :
    validateAzureBlob link = .ok () ↔ link.LogsIn Filled := by
  simp only [validateAzureBlob, AzureBlobLink.LogsIn, ← isGiven_iff, ← Bool.and_eq_true,
    ← Bool.or_eq_true]
  split
  · next given => simp only [given]
  · next missing => simp only [missing, reduceCtorEq]

/-- A link passes its check where all its names say something and it can log in, with credentials
that are filled in. -/
theorem validate_eq_ok_iff (link : Link) : link.validate = .ok () ↔ link.Complete Filled := by
  unfold Complete Named
  simp only [validate, then_eq_ok, requireText_iff, and_assoc]
  refine and_congr_right fun _ => and_congr_right fun _ => ?_
  -- The names that are common to all kinds come first, and the rest is a matter of the kind.
  cases link with
  | couchbase it => exact validateCouchbase_iff
  | s3 it => simp only [validateS3_iff, LogsIn, and_true]
  | azureBlob it => simp only [validateAzureBlob_iff, LogsIn, true_and]

/-- Two ways to count credentials that agree on those of a link let it log in alike. -/
theorem logsIn_congr {counts counts' : Option String → Prop} {link : Link}
    (same : ∀ credential ∈ link.credentials, counts credential ↔ counts' credential) :
    link.LogsIn counts ↔ link.LogsIn counts' := by
  -- Each credential that plays a part is one of those that are listed.
  cases link with
  | couchbase it =>
    simp only [credentials, List.forall_mem_cons] at same
    obtain ⟨certificate, clientCertificate, clientKey, username, password, -⟩ := same
    simp only [LogsIn, CouchbaseLink.LogsIn, certificate, clientCertificate, clientKey, username,
      password]
  | s3 it => exact Iff.rfl
  | azureBlob it =>
    simp only [credentials, List.forall_mem_cons] at same
    obtain ⟨connectionString, accountName, accountKey, signature, -⟩ := same
    simp only [LogsIn, AzureBlobLink.LogsIn, connectionString, accountName, accountKey, signature]

/-- A credential that is not blank is there where it says something. -/
theorem filled_iff_spoken {credential : Option String}
    (plain : ∀ text ∈ credential, text = "" ∨ Speaks text) :
    Filled credential ↔ Spoken credential := by
  -- Of what is filled in, only blanks say nothing, and they are ruled out.
  constructor
  · rintro ⟨text, given, some_⟩
    exact ⟨text, given, (plain text given).resolve_left some_⟩
  · rintro ⟨text, given, c, mem, -⟩
    -- A text in which a character stands is not empty.
    refine ⟨text, given, fun empty => ?_⟩
    rw [empty] at mem
    cases mem

/-- A link passes its check where all its names say something and it can log in with credentials
that are filled in, be it with blanks. That comes to credentials that say something where none of
them is blank without being empty, and exactly where the blank ones do not decide whether a link
with all its names can log in. -/
theorem login_judged_iff (link : Link) :
    (link.validate = .ok () ↔ link.Complete Filled)
      ∧ ((∀ credential ∈ link.credentials, ∀ text ∈ credential, text = "" ∨ Speaks text) →
        (link.validate = .ok () ↔ link.Complete Spoken))
      ∧ ((link.validate = .ok () ↔ link.Complete Spoken)
        ↔ (link.Named → (link.LogsIn Filled ↔ link.LogsIn Spoken))) := by
  -- The names are judged alike, so all that can differ is whether the link can log in.
  rw [validate_eq_ok_iff]
  refine ⟨Iff.rfl, fun plain => ?_, and_congr_right_iff⟩
  have same : link.LogsIn Filled ↔ link.LogsIn Spoken :=
    logsIn_congr fun credential mem => filled_iff_spoken (plain credential mem)
  exact and_congr_right fun _ => same

/-- A link to a cluster whose password is a single blank. -/
def blankPassword : Link :=
  .couchbase ⟨"d", "n", "h", .none, none, none, none, some "u", some " "⟩

/-- A link passes its check although its password is blank. -/
theorem blankPassword_accepted :
    blankPassword.validate = .ok () ∧ ¬ blankPassword.Complete Spoken := by
  refine ⟨rfl, fun complete => ?_⟩
  obtain ⟨-, -, text, given, c, mem, speaks⟩ := complete
  -- The one character of the password is a blank.
  obtain rfl := Option.some.inj given
  obtain rfl : c = ' ' := by simpa using mem
  cases speaks

end Link

end AnalyticsClient
