import AnalyticsClient.Catalog.Link
import AnalyticsClient.Proofs.Wire.Members

/-! The written forms of links: an object or a list that tells the kind of the link and its
settings. -/

namespace AnalyticsClient.Link

open Wire Wire.Fields

/-- The names of the settings of a kind of link, in the order of their places. -/
def settings : LinkType → List String
  | .couchbaseRemote => ["dataverse", "name", "hostname", "encryption", "certificate",
      "client_certificate", "client_key", "username", "password"]
  | .s3External => ["dataverse", "name", "access_key_id", "secret_access_key", "region",
      "session_token", "service_endpoint"]
  | .azureBlobExternal => ["dataverse", "name", "connection_string", "account_name", "account_key",
      "shared_access_signature", "blob_endpoint", "endpoint_suffix"]

/-- Whether entries say that a link to a cluster is this one. -/
def SaysCouchbase (entries : Entries Json) (link : CouchbaseLink) : Prop :=
  Form.text.Needed entries "dataverse" link.dataverse
    ∧ Form.text.Needed entries "name" link.name
    ∧ Form.text.Needed entries "hostname" link.hostname
    ∧ Form.choice.Preset .none entries "encryption" link.encryption
    ∧ Form.text.Perhaps entries "certificate" link.certificate
    ∧ Form.text.Perhaps entries "client_certificate" link.clientCertificate
    ∧ Form.text.Perhaps entries "client_key" link.clientKey
    ∧ Form.text.Perhaps entries "username" link.username
    ∧ Form.text.Perhaps entries "password" link.password

/-- Whether entries say that a link to an S3 store is this one. -/
def SaysS3 (entries : Entries Json) (link : S3Link) : Prop :=
  Form.text.Needed entries "dataverse" link.dataverse
    ∧ Form.text.Needed entries "name" link.name
    ∧ Form.text.Needed entries "access_key_id" link.accessKeyId
    ∧ Form.text.Needed entries "secret_access_key" link.secretAccessKey
    ∧ Form.text.Needed entries "region" link.region
    ∧ Form.text.Perhaps entries "session_token" link.sessionToken
    ∧ Form.text.Perhaps entries "service_endpoint" link.serviceEndpoint

/-- Whether entries say that a link to an Azure blob store is this one. -/
def SaysAzureBlob (entries : Entries Json) (link : AzureBlobLink) : Prop :=
  Form.text.Needed entries "dataverse" link.dataverse
    ∧ Form.text.Needed entries "name" link.name
    ∧ Form.text.Perhaps entries "connection_string" link.connectionString
    ∧ Form.text.Perhaps entries "account_name" link.accountName
    ∧ Form.text.Perhaps entries "account_key" link.accountKey
    ∧ Form.text.Perhaps entries "shared_access_signature" link.sharedAccessSignature
    ∧ Form.text.Perhaps entries "blob_endpoint" link.blobEndpoint
    ∧ Form.text.Perhaps entries "endpoint_suffix" link.endpointSuffix

/-- Whether entries say that a link is this one, its kind left aside. -/
def Says (entries : Entries Json) : Link → Prop
  | .couchbase link => SaysCouchbase entries link
  | .s3 link => SaysS3 entries link
  | .azureBlob link => SaysAzureBlob entries link

/-- How a JSON value tells the kind of a link and leaves the rest: as an object with one member
`type`, or as a list that starts with the kind. -/
def Tagged (json : Json) (linkType : LinkType) (rest : Json) : Prop :=
  (∃ members, json = .obj members
      ∧ members.filter (·.1 = "type") = [("type", .str (Choice.text linkType))]
      ∧ rest = .obj (members.filter (·.1 ≠ "type")))
    ∨ ∃ items, json = .arr (.str (Choice.text linkType) :: items) ∧ rest = .arr items

/-- A link as its kind and its settings; members that are no settings of the kind say nothing. -/
def written : Form Link := fun json link =>
  ∃ rest entries, Tagged json link.linkType rest
    ∧ Placed false (settings link.linkType) rest entries ∧ link.Says entries

instance : Regular (couchbaseFields : Fields Aside CouchbaseLink) := by
  unfold couchbaseFields
  infer_instance

instance : Regular (s3Fields : Fields Aside S3Link) := by
  unfold s3Fields
  infer_instance

instance : Regular (azureBlobFields : Fields Aside AzureBlobLink) := by
  unfold azureBlobFields
  infer_instance

/-- What the settings of a link to a cluster are made of. -/
theorem makes_couchbaseFields {entries : Entries Json} {link : CouchbaseLink} :
    couchbaseFields.Makes (lookup Aside entries) (· = link) ↔ SaysCouchbase entries link := by
  -- The settings are read one by one, and the link is made of nothing else.
  simp only [couchbaseFields, makes_map, makes_seq, makes_required, makes_withDefault,
    makes_perhaps]
  constructor
  · intro holds
    obtain ⟨_, dataverse, _, name, _, hostname, _, encryption, _, certificate, _, client, _, key,
      _, username, _, password, rfl⟩ := holds
    exact ⟨dataverse, name, hostname, encryption, certificate, client, key, username, password⟩
  · intro holds
    obtain ⟨dataverse, name, hostname, encryption, certificate, client, key, username, password⟩
      := holds
    exact ⟨_, dataverse, _, name, _, hostname, _, encryption, _, certificate, _, client, _, key, _,
      username, _, password, rfl⟩

/-- What the settings of a link to an S3 store are made of. -/
theorem makes_s3Fields {entries : Entries Json} {link : S3Link} :
    s3Fields.Makes (lookup Aside entries) (· = link) ↔ SaysS3 entries link := by
  simp only [s3Fields, makes_map, makes_seq, makes_required, makes_perhaps]
  constructor
  · intro holds
    obtain ⟨_, dataverse, _, name, _, key, _, secret, _, region, _, token, _, endpoint, rfl⟩ :=
      holds
    exact ⟨dataverse, name, key, secret, region, token, endpoint⟩
  · intro holds
    obtain ⟨dataverse, name, key, secret, region, token, endpoint⟩ := holds
    exact ⟨_, dataverse, _, name, _, key, _, secret, _, region, _, token, _, endpoint, rfl⟩

/-- What the settings of a link to an Azure blob store are made of. -/
theorem makes_azureBlobFields {entries : Entries Json} {link : AzureBlobLink} :
    azureBlobFields.Makes (lookup Aside entries) (· = link) ↔ SaysAzureBlob entries link := by
  simp only [azureBlobFields, makes_map, makes_seq, makes_required, makes_perhaps]
  constructor
  · intro holds
    obtain ⟨_, dataverse, _, name, _, connection, _, account, _, key, _, signature, _, endpoint,
      _, suffix, rfl⟩ := holds
    exact ⟨dataverse, name, connection, account, key, signature, endpoint, suffix⟩
  · intro holds
    obtain ⟨dataverse, name, connection, account, key, signature, endpoint, suffix⟩ := holds
    exact ⟨_, dataverse, _, name, _, connection, _, account, _, key, _, signature, _, endpoint, _,
      suffix, rfl⟩

/-- A link of a kind is read from the settings of that kind. -/
theorem decodeAs_iff {linkType : LinkType} {rest : Json} {link : Link} :
    decodeAs linkType rest = .ok link
      ↔ link.linkType = linkType
        ∧ ∃ entries, Placed false (settings linkType) rest entries ∧ link.Says entries := by
  -- Each kind is read by the fields of its own settings, and makes a link of its own kind only.
  cases linkType with
  | couchbaseRemote =>
    have reads : ∀ {link}, couchbaseFields.readOpen "struct CouchbaseRemoteLink" (Aside.mk rest)
          = .ok link
        ↔ ∃ entries, Placed false (settings .couchbaseRemote) rest entries
          ∧ SaysCouchbase entries link :=
      read_iff makes_couchbaseFields (by decide) _
    simp only [decodeAs, map_eq_ok, reads]
    cases link <;> simp [linkType, Says]
  | s3External =>
    have reads : ∀ {link}, s3Fields.readOpen "struct S3ExternalLink" (Aside.mk rest) = .ok link
        ↔ ∃ entries, Placed false (settings .s3External) rest entries ∧ SaysS3 entries link :=
      read_iff makes_s3Fields (by decide) _
    simp only [decodeAs, map_eq_ok, reads]
    cases link <;> simp [linkType, Says]
  | azureBlobExternal =>
    have reads : ∀ {link}, azureBlobFields.readOpen "struct AzureBlobExternalLink" (Aside.mk rest)
          = .ok link
        ↔ ∃ entries, Placed false (settings .azureBlobExternal) rest entries
          ∧ SaysAzureBlob entries link :=
      read_iff makes_azureBlobFields (by decide) _
    simp only [decodeAs, map_eq_ok, reads]
    cases link <;> simp [linkType, Says]

/-- The kind of a link is read from its text. -/
theorem decodeTag_iff {json : Json} {linkType : LinkType} :
    decodeTag json = .ok linkType ↔ json = .str (Choice.text linkType) := by
  -- A text that is no kind and a value that is no text are refused in different words.
  cases json with
  | str value =>
    simp only [decodeTag, Source.view, View.ofJson, Json.str.injEq,
      ← parse?_eq_some parse?_linkType]
    cases (Choice.parse? value : Option LinkType) <;> simp
  | null | bool | int | float | arr | obj =>
    simp [decodeTag, Source.view, View.ofJson, unexpected]

/-- Whether there is no member `type`. -/
def Untagged (members : List (String × Json)) : Prop := ∀ member ∈ members, member.1 ≠ "type"

/-- A member that is not called `type` is set aside. -/
theorem readTagged_cons {name : String} (other : name ≠ "type") (tag : Option LinkType)
    (json : Json) (rest : List (String × Json)) :
    readTagged none tag ((name, json) :: rest)
      = (readTagged none tag rest).map fun found => (found.1, (name, json) :: found.2) := by
  -- The rest is read as it would be without the member.
  rw [readTagged]
  · simp only [JsonSource.setAside, bind, Except.bind, pure, Except.pure]
    cases readTagged none tag rest <;> rfl
  · exact other

/-- Members are untagged where the first one is not called `type` and the others are untagged. -/
theorem untagged_cons {name : String} {json : Json} {rest : List (String × Json)} :
    Untagged ((name, json) :: rest) ↔ name ≠ "type" ∧ Untagged rest := by
  simp [Untagged]

/-- Once the kind is known, no other member may tell it. -/
theorem readTagged_some (members : List (String × Json)) :
    ∀ {linkType : LinkType} {tag : Option LinkType} {others : List (String × Json)},
      readTagged none (some linkType) members = .ok (tag, others)
        ↔ Untagged members ∧ tag = some linkType ∧ others = members := by
  induction members with
  | nil =>
    -- The members end with the kind that was known before.
    intro linkType tag others
    simp [readTagged, atEnd, bind, Except.bind, pure, Except.pure, Untagged, eq_comm]
  | cons member rest ih =>
    intro linkType tag others
    obtain ⟨name, json⟩ := member
    by_cases tagged : name = "type"
    · -- A second member of that name is a fault.
      subst tagged
      simp [readTagged, bind, Except.bind, Untagged]
    · -- Another member is set aside, and the kind stays known.
      rw [readTagged_cons tagged, map_eq_ok, untagged_cons]
      simp only [Prod.exists, ih, Prod.mk.injEq]
      constructor
      · intro holds
        obtain ⟨_, _, ⟨untagged, rfl, rfl⟩, rfl, rfl⟩ := holds
        exact ⟨⟨tagged, untagged⟩, rfl, rfl⟩
      · intro holds
        obtain ⟨⟨-, untagged⟩, rfl, rfl⟩ := holds
        exact ⟨_, _, ⟨untagged, rfl, rfl⟩, rfl, rfl⟩

/-- Members are untagged where looking for `type` finds none. -/
theorem untagged_iff {members : List (String × Json)} :
    members.filter (·.1 = "type") = [] ↔ Untagged members := by
  simp [List.filter_eq_nil_iff, Untagged]

/-- Taking the kind out of untagged members does nothing. -/
theorem Untagged.filter_eq {members : List (String × Json)} (untagged : Untagged members) :
    members.filter (·.1 ≠ "type") = members := by
  refine List.filter_eq_self.2 fun member mem => ?_
  simpa using untagged member mem

/-- The kind is read from the one member that tells it, and the others are set aside. -/
theorem readTagged_none (members : List (String × Json)) :
    ∀ {linkType : LinkType} {others : List (String × Json)},
      readTagged none none members = .ok (some linkType, others)
        ↔ members.filter (·.1 = "type") = [("type", .str (Choice.text linkType))]
          ∧ others = members.filter (·.1 ≠ "type") := by
  induction members with
  | nil =>
    -- Without members no kind is told.
    intro linkType others
    simp [readTagged, atEnd, bind, Except.bind, pure, Except.pure]
  | cons member rest ih =>
    intro linkType others
    obtain ⟨name, json⟩ := member
    by_cases tagged : name = "type"
    · -- From here on the kind is known.
      subst tagged
      have unfolded : readTagged none none (("type", json) :: rest)
          = decodeTag json >>= fun linkType => readTagged none (some linkType) rest := by
        simp [readTagged, bind, Except.bind]
      have taken : (("type", json) :: rest).filter (·.1 = "type")
          = ("type", json) :: rest.filter (·.1 = "type") := List.filter_cons_of_pos (by simp)
      have left : (("type", json) :: rest).filter (·.1 ≠ "type") = rest.filter (·.1 ≠ "type") :=
        List.filter_cons_of_neg (by simp)
      rw [unfolded, bind_eq_ok, taken, left]
      simp only [decodeTag_iff, readTagged_some]
      constructor
      · intro holds
        obtain ⟨linkType', rfl, untagged, same, rfl⟩ := holds
        cases same
        rw [untagged_iff.2 untagged, untagged.filter_eq]
        exact ⟨rfl, rfl⟩
      · intro holds
        obtain ⟨one, rfl⟩ := holds
        obtain ⟨first, noOther⟩ := List.cons.inj one
        have untagged := untagged_iff.1 noOther
        exact ⟨linkType, congrArg Prod.snd first, untagged, rfl, untagged.filter_eq⟩
    · -- The member tells no kind, so it is one of the others.
      rw [readTagged_cons tagged, map_eq_ok]
      have dropped : ((name, json) :: rest).filter (·.1 = "type") = rest.filter (·.1 = "type") :=
        List.filter_cons_of_neg (by simpa using tagged)
      have kept : ((name, json) :: rest).filter (·.1 ≠ "type")
          = (name, json) :: rest.filter (·.1 ≠ "type") :=
        List.filter_cons_of_pos (by simpa using tagged)
      rw [dropped, kept]
      simp only [Prod.exists, Prod.mk.injEq]
      constructor
      · intro holds
        obtain ⟨_, _, read, rfl, rfl⟩ := holds
        obtain ⟨one, rfl⟩ := ih.1 read
        exact ⟨one, rfl⟩
      · intro holds
        obtain ⟨one, rfl⟩ := holds
        exact ⟨_, _, ih.2 ⟨one, rfl⟩, rfl, rfl⟩

/-- All items of a list are set aside as they are. -/
theorem readItems_setAside (items : List Json) :
    readItems (JsonSource.setAside : Json → Except Fault Json) items = .ok items := by
  -- Setting an item aside never fails.
  induction items with
  | nil => rfl
  | cons item rest ih =>
    rw [readItems, ih]
    rfl

/-- An object is read once its tag is found. -/
theorem decode_obj {members : Entries Json} {link : Link} :
    decode (Json.obj members) = .ok link
      ↔ ∃ linkType others, readTagged none none members = .ok (some linkType, others)
        ∧ decodeAs linkType (.obj others) = .ok link := by
  -- The members of a plain object are themselves plain.
  simp only [decode, Source.view, View.ofJson, id_eq, List.map_id']
  rw [bind_eq_ok]
  constructor
  · intro holds
    obtain ⟨⟨tag, others⟩, found, decoded⟩ := holds
    cases tag with
    | none =>
      -- Nothing told the kind.
      cases decoded
    | some linkType => exact ⟨linkType, others, found, decoded⟩
  · intro holds
    obtain ⟨linkType, others, found, decoded⟩ := holds
    exact ⟨(some linkType, others), found, decoded⟩

/-- A list is read once its first item tells the kind. -/
theorem decode_arr {tag : Json} {items : List Json} {link : Link} :
    decode (Json.arr (tag :: items)) = .ok link
      ↔ ∃ linkType, decodeTag tag = .ok linkType
        ∧ decodeAs linkType (.arr items) = .ok link := by
  -- The items are set aside first, which changes nothing about them.
  have unfolded : decode (Json.arr (tag :: items)) = decodeTag tag >>= fun linkType =>
      decodeAs linkType (.arr items) := by
    simp [decode, Source.view, View.ofJson, atEnd, bind, Except.bind, readItems_setAside]
  rw [unfolded, bind_eq_ok]

/-- A link is read from exactly its written forms. -/
theorem decode_iff {json : Json} {link : Link} : decode json = .ok link ↔ written json link := by
  cases json with
  | obj members =>
    rw [decode_obj]
    constructor
    · intro holds
      obtain ⟨linkType, others, parsed, decoded⟩ := holds
      obtain ⟨one, rfl⟩ := (readTagged_none members).1 parsed
      obtain ⟨rfl, entries, placed, tells⟩ := decodeAs_iff.1 decoded
      exact ⟨_, entries, .inl ⟨members, rfl, one, rfl⟩, placed, tells⟩
    · intro holds
      obtain ⟨rest, entries, tagged, placed, tells⟩ := holds
      rcases tagged with ⟨members', same, one, rfl⟩ | ⟨items, impossible, -⟩
      · cases same
        exact ⟨link.linkType, _, (readTagged_none members).2 ⟨one, rfl⟩,
          decodeAs_iff.2 ⟨rfl, entries, placed, tells⟩⟩
      · cases impossible
  | arr items =>
    cases items with
    | nil =>
      -- An empty list tells no kind.
      simp [decode, Source.view, View.ofJson, atEnd, bind, Except.bind, written, Tagged]
    | cons tag items =>
      rw [decode_arr]
      constructor
      · intro holds
        obtain ⟨linkType, tagged, decoded⟩ := holds
        obtain ⟨rfl, entries, placed, tells⟩ := decodeAs_iff.1 decoded
        rw [decodeTag_iff] at tagged
        subst tagged
        exact ⟨_, entries, .inr ⟨items, rfl, rfl⟩, placed, tells⟩
      · intro holds
        obtain ⟨rest, entries, tagged, placed, tells⟩ := holds
        rcases tagged with ⟨_, impossible, -⟩ | ⟨items', same, rfl⟩
        · cases impossible
        · cases same
          exact ⟨link.linkType, decodeTag_iff.2 rfl, decodeAs_iff.2 ⟨rfl, entries, placed, tells⟩⟩
  | null | bool | int | float | str =>
    simp [decode, Source.view, View.ofJson, unexpected, written, Tagged]

instance : Reads (decode : Decoder Json Link) written where
  read_wrap := decode_iff
  solid link := by simp [written, Tagged]

/-- An object of the kind of a link and of its settings, each under a name of its own, is a written
form of the link that the settings say. -/
theorem written_ofFields {link : Link} {fields : Entries (Option Json)}
    (nodup : (("type" :: fields.map Prod.fst)).Nodup)
    (tells : ∀ entries, (∀ name, name ≠ "type" → entries.get? name = (fields.get? name).join) →
      link.Says entries) :
    written (Json.ofFields (("type", some (Choice.encode link.linkType)) :: fields)) link := by
  obtain ⟨members, same, once, -, found⟩ := @Json.exists_ofFields
    (("type", some (Choice.encode link.linkType)) :: fields) nodup
  rw [same]
  -- The kind is taken out, and everything else is found where it was.
  have tag : Entries.get? members "type" = some (.str (Choice.text link.linkType)) := found "type"
  have rest : ∀ name, name ≠ "type" →
      Entries.get? (members.filter (·.1 ≠ "type")) name = (fields.get? name).join := by
    intro name other
    have erased := Entries.get?_erase members "type" name
    rw [if_neg other, found name, Entries.get?_cons, if_neg fun back => other back.symm] at erased
    exact erased
  have once' : ((members.filter (·.1 ≠ "type")).map Prod.fst).Nodup :=
    ((List.filter_sublist).map Prod.fst).nodup once
  refine ⟨_, members.filter (·.1 ≠ "type"),
    .inl ⟨members, rfl, Entries.filter_eq_singleton once tag, rfl⟩,
    .inl ⟨rfl, once'.filter _, fun closed => by cases closed⟩, tells _ rest⟩

/-- A link that was written is read back. -/
theorem written_encode (link : Link) : written link.encode link := by
  -- Each kind writes its own settings, those that are not there left out.
  cases link with
  | couchbase link =>
    refine written_ofFields (show ("type" :: settings .couchbaseRemote).Nodup by decide)
      fun entries found => ?_
    exact ⟨⟨_, found "dataverse" (by decide), rfl⟩, ⟨_, found "name" (by decide), rfl⟩,
      ⟨_, found "hostname" (by decide), rfl⟩, .inr ⟨_, found "encryption" (by decide), rfl⟩,
      perhaps_text (found "certificate" (by decide)),
      perhaps_text (found "client_certificate" (by decide)),
      perhaps_text (found "client_key" (by decide)), perhaps_text (found "username" (by decide)),
      perhaps_text (found "password" (by decide))⟩
  | s3 link =>
    refine written_ofFields (show ("type" :: settings .s3External).Nodup by decide)
      fun entries found => ?_
    exact ⟨⟨_, found "dataverse" (by decide), rfl⟩, ⟨_, found "name" (by decide), rfl⟩,
      ⟨_, found "access_key_id" (by decide), rfl⟩, ⟨_, found "secret_access_key" (by decide), rfl⟩,
      ⟨_, found "region" (by decide), rfl⟩, perhaps_text (found "session_token" (by decide)),
      perhaps_text (found "service_endpoint" (by decide))⟩
  | azureBlob link =>
    refine written_ofFields (show ("type" :: settings .azureBlobExternal).Nodup by decide)
      fun entries found => ?_
    exact ⟨⟨_, found "dataverse" (by decide), rfl⟩, ⟨_, found "name" (by decide), rfl⟩,
      perhaps_text (found "connection_string" (by decide)),
      perhaps_text (found "account_name" (by decide)),
      perhaps_text (found "account_key" (by decide)),
      perhaps_text (found "shared_access_signature" (by decide)),
      perhaps_text (found "blob_endpoint" (by decide)),
      perhaps_text (found "endpoint_suffix" (by decide))⟩

end AnalyticsClient.Link
