import AnalyticsClient.Proofs.Operation.Language
import AnalyticsClient.Proofs.Wire.Kept

/-! Which parts of a payload its command heeds, and which it passes over in silence. -/

namespace AnalyticsClient

open Wire Wire.Fields

section

variable {entries : Entries Json}

/-- What is given to make a dataverse is kept. -/
theorem CreateDataverse.keeps {args : CreateDataverse} (told : CreateDataverse.Says entries args) :
    Keeps (layout : Fields Json CreateDataverse).names entries args.encode := by
  have found : ∀ name, args.encode.get? name = _ := Json.get?_ofMembers (by simp)
  obtain ⟨dataverse, ignore⟩ := told
  exact .cons (keptAt_needed exact_text dataverse (found "dataverse_name")) <|
    .cons (keptAt_preset exact_flag ignore (found "ignore_if_exists")) .nil

/-- What is given to make a dataset is kept. -/
theorem CreateDataset.keeps {args : CreateDataset} (told : CreateDataset.Says entries args) :
    Keeps (layout : Fields Json CreateDataset).names entries args.encode := by
  have found : ∀ name, args.encode.get? name = _ := Json.get?_ofFields (by simp)
  obtain ⟨dataset, bucket, dataverse, condition, ignore⟩ := told
  exact .cons (keptAt_needed exact_text dataset (found "dataset_name")) <|
    .cons (keptAt_needed exact_text bucket (found "bucket_name")) <|
    .cons (keptAt_perhaps exact_text dataverse (found "dataverse_name")) <|
    .cons (keptAt_perhaps exact_text condition (found "condition")) <|
    .cons (keptAt_preset exact_flag ignore (found "ignore_if_exists")) .nil

/-- What is given to make an index is kept. -/
theorem CreateIndex.keeps {args : CreateIndex} (ordered : Json.OrderedMembers entries)
    (told : CreateIndex.Says entries args) :
    Keeps (layout : Fields Json CreateIndex).names entries args.encode := by
  have found : ∀ name, args.encode.get? name = _ := Json.get?_ofFields (by simp)
  obtain ⟨index, dataset, dataverse, fields, ignore⟩ := told
  exact .cons (keptAt_needed exact_text index (found "index_name")) <|
    .cons (keptAt_needed exact_text dataset (found "dataset_name")) <|
    .cons (keptAt_perhaps exact_text dataverse (found "dataverse_name")) <|
    .cons (keptAt_texts ordered fields (found "fields")) <|
    .cons (keptAt_preset exact_flag ignore (found "ignore_if_exists")) .nil

/-- What is given to remove a dataverse is kept. -/
theorem DropDataverse.keeps {args : DropDataverse} (told : DropDataverse.Says entries args) :
    Keeps (layout : Fields Json DropDataverse).names entries args.encode := by
  have found : ∀ name, args.encode.get? name = _ := Json.get?_ofMembers (by simp)
  obtain ⟨dataverse, ignore⟩ := told
  exact .cons (keptAt_needed exact_text dataverse (found "dataverse_name")) <|
    .cons (keptAt_preset exact_flag ignore (found "ignore_if_not_exists")) .nil

/-- What is given to remove a dataset is kept. -/
theorem DropDataset.keeps {args : DropDataset} (told : DropDataset.Says entries args) :
    Keeps (layout : Fields Json DropDataset).names entries args.encode := by
  have found : ∀ name, args.encode.get? name = _ := Json.get?_ofFields (by simp)
  obtain ⟨dataset, dataverse, ignore⟩ := told
  exact .cons (keptAt_needed exact_text dataset (found "dataset_name")) <|
    .cons (keptAt_perhaps exact_text dataverse (found "dataverse_name")) <|
    .cons (keptAt_preset exact_flag ignore (found "ignore_if_not_exists")) .nil

/-- What is given to remove an index is kept. -/
theorem DropIndex.keeps {args : DropIndex} (told : DropIndex.Says entries args) :
    Keeps (layout : Fields Json DropIndex).names entries args.encode := by
  have found : ∀ name, args.encode.get? name = _ := Json.get?_ofFields (by simp)
  obtain ⟨index, dataset, dataverse, ignore⟩ := told
  exact .cons (keptAt_needed exact_text index (found "index_name")) <|
    .cons (keptAt_needed exact_text dataset (found "dataset_name")) <|
    .cons (keptAt_perhaps exact_text dataverse (found "dataverse_name")) <|
    .cons (keptAt_preset exact_flag ignore (found "ignore_if_not_exists")) .nil

/-- What is given to connect a link is kept. -/
theorem LinkConnect.keeps {args : LinkConnect} (told : LinkConnect.Says entries args) :
    Keeps (layout : Fields Json LinkConnect).names entries args.encode := by
  have found : ∀ name, args.encode.get? name = _ := Json.get?_ofFields (by simp)
  obtain ⟨dataverse, link, force⟩ := told
  exact .cons (keptAt_perhaps exact_text dataverse (found "dataverse_name")) <|
    .cons (keptAt_perhaps exact_text link (found "link_name")) <|
    .cons (keptAt_preset exact_flag force (found "force")) .nil

/-- What is given to list links is kept. -/
theorem LinkListing.keeps {args : LinkListing} (told : LinkListing.Says entries args) :
    Keeps (layout : Fields Json LinkListing).names entries args.encode := by
  have found : ∀ name, args.encode.get? name = _ := Json.get?_ofFields (by simp)
  obtain ⟨dataverse, link, kind⟩ := told
  exact .cons (keptAt_perhaps exact_text dataverse (found "dataverse_name")) <|
    .cons (keptAt_perhaps exact_text link (found "link_name")) <|
    .cons (keptAt_perhaps exact_choice kind (found "link_type")) .nil

/-- What is given to disconnect a link is kept. -/
theorem LinkDisconnect.keeps {args : LinkDisconnect} (told : LinkDisconnect.Says entries args) :
    Keeps (layout : Fields Json LinkDisconnect).names entries args.encode := by
  have found : ∀ name, args.encode.get? name = _ := Json.get?_ofFields (by simp)
  obtain ⟨dataverse, link⟩ := told
  exact .cons (keptAt_perhaps exact_text dataverse (found "dataverse_name")) <|
    .cons (keptAt_perhaps exact_text link (found "link_name")) .nil

/-- What is given to remove a link is kept. -/
theorem DropLink.keeps {args : DropLink} (told : DropLink.Says entries args) :
    Keeps (layout : Fields Json DropLink).names entries args.encode := by
  have found : ∀ name, args.encode.get? name = _ := Json.get?_ofMembers (by simp)
  obtain ⟨link, dataverse⟩ := told
  exact .cons (keptAt_needed exact_text link (found "link_name")) <|
    .cons (keptAt_needed exact_text dataverse (found "dataverse_name")) .nil

/-- What is given to a setting of the kind of a link is kept. -/
theorem Link.keeps {link : Link} (told : link.Says entries) :
    Keeps (Link.settings link.linkType) entries link.encode := by
  -- Each kind of link goes through its settings in the order in which they are written.
  cases link with
  | couchbase link =>
    have found : ∀ name, (Link.couchbase link).encode.get? name = _ := Json.get?_ofFields (by simp)
    obtain ⟨dataverse, name, hostname, encryption, certificate, client, key, username, password⟩ :=
      told
    exact .cons (keptAt_needed exact_text dataverse (found "dataverse")) <|
      .cons (keptAt_needed exact_text name (found "name")) <|
      .cons (keptAt_needed exact_text hostname (found "hostname")) <|
      .cons (keptAt_preset exact_choice encryption (found "encryption")) <|
      .cons (keptAt_perhaps exact_text certificate (found "certificate")) <|
      .cons (keptAt_perhaps exact_text client (found "client_certificate")) <|
      .cons (keptAt_perhaps exact_text key (found "client_key")) <|
      .cons (keptAt_perhaps exact_text username (found "username")) <|
      .cons (keptAt_perhaps exact_text password (found "password")) .nil
  | s3 link =>
    have found : ∀ name, (Link.s3 link).encode.get? name = _ := Json.get?_ofFields (by simp)
    obtain ⟨dataverse, name, key, secret, region, token, endpoint⟩ := told
    exact .cons (keptAt_needed exact_text dataverse (found "dataverse")) <|
      .cons (keptAt_needed exact_text name (found "name")) <|
      .cons (keptAt_needed exact_text key (found "access_key_id")) <|
      .cons (keptAt_needed exact_text secret (found "secret_access_key")) <|
      .cons (keptAt_needed exact_text region (found "region")) <|
      .cons (keptAt_perhaps exact_text token (found "session_token")) <|
      .cons (keptAt_perhaps exact_text endpoint (found "service_endpoint")) .nil
  | azureBlob link =>
    have found : ∀ name, (Link.azureBlob link).encode.get? name = _ := Json.get?_ofFields (by simp)
    obtain ⟨dataverse, name, connection, account, key, signature, endpoint, suffix⟩ := told
    exact .cons (keptAt_needed exact_text dataverse (found "dataverse")) <|
      .cons (keptAt_needed exact_text name (found "name")) <|
      .cons (keptAt_perhaps exact_text connection (found "connection_string")) <|
      .cons (keptAt_perhaps exact_text account (found "account_name")) <|
      .cons (keptAt_perhaps exact_text key (found "account_key")) <|
      .cons (keptAt_perhaps exact_text signature (found "shared_access_signature")) <|
      .cons (keptAt_perhaps exact_text endpoint (found "blob_endpoint")) <|
      .cons (keptAt_perhaps exact_text suffix (found "endpoint_suffix")) .nil

end

namespace Link

/-- A link is written as its kind and its settings, some of which may be left out. -/
theorem exists_fields (link : Link) : ∃ fields : Entries (Option Json),
    link.encode = Json.ofFields fields ∧ fields.map Prod.fst = "type" :: settings link.linkType
      ∧ fields.get? "type" = some (some (Choice.encode link.linkType)) := by
  cases link <;> exact ⟨_, rfl, rfl, rfl⟩

/-- The kind of a link and its settings have names of their own. -/
theorem nodup_settings (linkType : LinkType) : ("type" :: settings linkType).Nodup := by
  cases linkType <;> decide

/-- A link that was written tells its kind. -/
theorem encode_type (link : Link) :
    link.encode.get? "type" = some (Choice.encode link.linkType) := by
  obtain ⟨fields, written, names, kind⟩ := link.exists_fields
  have nodup : (fields.map Prod.fst).Nodup := names ▸ nodup_settings link.linkType
  rw [written, Json.get?_ofFields nodup, kind]
  rfl

/-- A link that was written has no member but its kind and its settings. -/
theorem encode_unknown {link : Link} {name : String}
    (unknown : name ∉ "type" :: settings link.linkType) : link.encode.get? name = none := by
  obtain ⟨fields, written, names, -⟩ := link.exists_fields
  have nodup : (fields.map Prod.fst).Nodup := names ▸ nodup_settings link.linkType
  rw [written, Json.get?_ofFields nodup, Entries.get?_eq_none (names ▸ unknown)]
  rfl

/-- The parts of a link as it is given: the members of an object, or the items of a list under the
names of their places. -/
def parts (linkType : LinkType) : Json → Entries Json
  | .obj members => members
  | .arr items => ("type" :: settings linkType).zip items
  | _ => []

/-- What is given as the kind of a link and to its settings is kept. -/
theorem keeps_parts {given : Json} {link : Link} (written : Link.written given link) :
    Keeps ("type" :: settings link.linkType) (parts link.linkType given) link.encode := by
  obtain ⟨rest, entries, tagged, placed, told⟩ := written
  have kept := Link.keeps told
  -- The kind is not one of the settings.
  have apart : ∀ name ∈ settings link.linkType, name ≠ "type" := fun name setting same =>
    (List.nodup_cons.1 (nodup_settings link.linkType)).1 (same ▸ setting)
  -- So it is enough that the kind is the one given, and that each setting stands among the rest.
  suffices holds : (parts link.linkType given).get? "type" = some (Choice.encode link.linkType)
      ∧ ∀ name, name ≠ "type" → (parts link.linkType given).get? name = entries.get? name by
    refine .cons (fun value found _ => ?_) fun name setting value found solid => ?_
    · rw [link.encode_type, ← holds.1, found]
    · exact kept name setting value (holds.2 name (apart name setting) ▸ found) solid
  rcases tagged with ⟨members, rfl, one, rfl⟩ | ⟨items, rfl, rfl⟩
  · -- The members of an object are looked at without the one that tells the kind.
    obtain ⟨same, -⟩ | ⟨_, impossible, -⟩ := placed
    · cases same
      refine ⟨?_, fun name other => ?_⟩
      · have first : members.find? (·.1 = "type") = some ("type", Choice.encode link.linkType) := by
          rw [← List.head?_filter, one]
          rfl
        exact congrArg (Option.map Prod.snd) first
      · have erased := Entries.get?_erase members "type" name
        rw [if_neg other] at erased
        exact erased.symm
    · cases impossible
  · -- The items of a list are looked at from the second one on.
    obtain ⟨impossible, -⟩ | ⟨items', same, -, rfl⟩ := placed
    · cases impossible
    · cases same
      refine ⟨rfl, fun name other => ?_⟩
      exact (Entries.get?_cons _ _ _ _).trans (if_neg fun same => other same.symm)

end Link

/-- The names of the arguments of an operation. -/
def Operation.argumentNames : Operation → List String
  | .unknown | .getAllDatasets | .getAllIndexes | .getPendingMutations => []
  | .createDataverse => (CreateDataverse.layout : Fields Json CreateDataverse).names
  | .createDataset => (CreateDataset.layout : Fields Json CreateDataset).names
  | .createIndex => (CreateIndex.layout : Fields Json CreateIndex).names
  | .dropDataverse => (DropDataverse.layout : Fields Json DropDataverse).names
  | .dropDataset => (DropDataset.layout : Fields Json DropDataset).names
  | .dropIndex => (DropIndex.layout : Fields Json DropIndex).names
  | .linkCreate | .linkReplace => (LinkChange.layout : Fields Json LinkChange).names
  | .linkConnect => (LinkConnect.layout : Fields Json LinkConnect).names
  | .getAllLinks => (LinkListing.layout : Fields Json LinkListing).names
  | .linkDisconnect => (LinkDisconnect.layout : Fields Json LinkDisconnect).names
  | .dropLink => (DropLink.layout : Fields Json DropLink).names

namespace Command

/-- The link that a command makes or puts in the place of another one. -/
def link? : Command → Option Link
  | .linkCreate args | .linkReplace args => some args.link
  | _ => none

/-- A command without a link has no argument of that name. -/
theorem link_not_mem {command : Command} (plain : command.link? = none) :
    "link" ∉ command.operation.argumentNames := by
  intro mem
  -- Only two operations have an argument of that name, and their commands have a link.
  have named : ∀ operation : Operation, "link" ∈ operation.argumentNames →
      operation = .linkCreate ∨ operation = .linkReplace := by
    intro operation
    cases operation <;> decide
  rcases named _ mem with same | same <;> cases command <;> cases same <;> cases plain

/-- An object that is a written form of a record has known names only and says what the record
is. -/
theorem record_obj {α : Type} {names : List String} {tells : Entries Json → α → Prop}
    {members : Entries Json} {value : α} (written : record names tells (.obj members) value) :
    (∀ name ∈ members.map Prod.fst, name ∈ names) ∧ tells members value := by
  obtain ⟨entries, ⟨same, -, known⟩ | ⟨_, impossible, -⟩, told⟩ := written
  · cases same
    exact ⟨known rfl, told⟩
  · cases impossible

/-- How the members of a payload stand to a command: all are arguments of its operation, those other
than a link are kept as they are, and a link is the one that was given. -/
structure Stands (members : Entries Json) (command : Command) : Prop where
  known : ∀ name ∈ members.map Prod.fst, name ∈ command.operation.argumentNames
  kept : ∀ name, name ≠ "link" → KeptAt members command.arguments name
  link : ∀ given, members.get? "link" = some given → ∃ link, command.link? = some link
    ∧ command.arguments.get? "link" = some link.encode ∧ Link.written given link

/-- Members that are arguments of an operation without a link, and are all kept, stand to its
command as they should. -/
theorem stands_of_keeps {members : Entries Json} {command : Command}
    (known : ∀ name ∈ members.map Prod.fst, name ∈ command.operation.argumentNames)
    (keeps : Keeps command.operation.argumentNames members command.arguments)
    (plain : command.link? = none) : Stands members command := by
  refine ⟨known, fun name _ value found solid => ?_, fun given found => ?_⟩
  · exact keeps name (known name (Entries.mem_keys_of_get? found)) value found solid
  · -- A link is not among the arguments.
    exact absurd (known _ (Entries.mem_keys_of_get? found)) (link_not_mem plain)

/-- A link that is given to be made or put in the place of another one is the one of the command. -/
theorem stands_of_link {members : Entries Json} {command : Command} {link : Link}
    (names : command.operation.argumentNames = ["link"])
    (arguments : command.arguments = .obj [("link", link.encode)])
    (same : command.link? = some link)
    (written : record ["link"] LinkChange.Says (.obj members) ⟨link⟩) : Stands members command := by
  obtain ⟨known, given', found', form⟩ := record_obj written
  refine ⟨fun name mem => names ▸ known name mem, fun name other value found => ?_,
    fun given found => ?_⟩
  · -- There is no other member.
    exact absurd (List.mem_singleton.1 (known name (Entries.mem_keys_of_get? found))) other
  · obtain rfl : given' = given := Option.some.inj (found'.symm.trans found)
    exact ⟨link, same, by rw [arguments]; rfl, form⟩

/-- The members of an object that is a written form of a command stand to it as they should. -/
theorem stands_of_written {members : Entries Json} {command : Command}
    (ordered : Json.OrderedMembers members) (written : Command.Written (.obj members) command) :
    Stands members command := by
  -- A payload without members says nothing that could be lost.
  have empty : ∀ command, Stands [] command := fun command =>
    ⟨nofun, nofun, nofun⟩
  cases command with
  | createDataverse args =>
    obtain ⟨known, told⟩ := record_obj written
    exact stands_of_keeps known (CreateDataverse.keeps told) rfl
  | createDataset args =>
    obtain ⟨known, told⟩ := record_obj written
    exact stands_of_keeps known (CreateDataset.keeps told) rfl
  | createIndex args =>
    obtain ⟨known, told⟩ := record_obj written
    exact stands_of_keeps known (CreateIndex.keeps ordered told) rfl
  | getAllDatasets =>
    obtain impossible | same := written
    · cases impossible
    · cases same
      exact empty _
  | getAllIndexes =>
    obtain impossible | same := written
    · cases impossible
    · cases same
      exact empty _
  | dropDataverse args =>
    obtain ⟨known, told⟩ := record_obj written
    exact stands_of_keeps known (DropDataverse.keeps told) rfl
  | dropDataset args =>
    obtain ⟨known, told⟩ := record_obj written
    exact stands_of_keeps known (DropDataset.keeps told) rfl
  | dropIndex args =>
    obtain ⟨known, told⟩ := record_obj written
    exact stands_of_keeps known (DropIndex.keeps told) rfl
  | getPendingMutations =>
    obtain impossible | same := written
    · cases impossible
    · cases same
      exact empty _
  | linkCreate args => exact stands_of_link rfl rfl rfl written
  | linkConnect args =>
    obtain ⟨impossible, -⟩ | written := written
    · cases impossible
    · obtain ⟨known, told⟩ := record_obj written
      exact stands_of_keeps known (LinkConnect.keeps told) rfl
  | getAllLinks args =>
    obtain ⟨impossible, -⟩ | written := written
    · cases impossible
    · obtain ⟨known, told⟩ := record_obj written
      exact stands_of_keeps known (LinkListing.keeps told) rfl
  | linkDisconnect args =>
    obtain ⟨impossible, -⟩ | written := written
    · cases impossible
    · obtain ⟨known, told⟩ := record_obj written
      exact stands_of_keeps known (LinkDisconnect.keeps told) rfl
  | linkReplace args => exact stands_of_link rfl rfl rfl written
  | dropLink args =>
    obtain ⟨known, told⟩ := record_obj written
    exact stands_of_keeps known (DropLink.keeps told) rfl

/-- Whether nothing that a payload told is passed over: each member is an argument of the operation,
and whatever is not null stays as it was given, that of a link part by part. -/
structure Heeded (members : Entries Json) (command : Command) : Prop where
  known : ∀ name ∈ members.map Prod.fst, name ∈ command.operation.argumentNames
  kept : ∀ name, name ≠ "link" → KeptAt members command.arguments name
  link : ∀ given, members.get? "link" = some given → ∃ link, command.link? = some link
    ∧ command.arguments.get? "link" = some link.encode
    ∧ ∀ name, KeptAt (Link.parts link.linkType given) link.encode name

/-- A part of a link is kept exactly where it told nothing or is the kind or a setting of it. -/
theorem keptAt_iff {given : Json} {link : Link} (written : Link.written given link)
    (name : String) :
    KeptAt (Link.parts link.linkType given) link.encode name
      ↔ ∀ value, (Link.parts link.linkType given).get? name = some value → value ≠ .null →
        name ∈ "type" :: Link.settings link.linkType := by
  constructor
  · intro kept value found solid
    refine Decidable.byContradiction fun unknown => ?_
    -- No unknown name comes out again.
    have back := kept value found solid
    rw [Link.encode_unknown unknown] at back
    cases back
  · intro known value found solid
    exact Link.keeps_parts written name (known value found solid) value found solid

end Command

namespace Descriptor

open Command

/-- The members of a payload that is resolved are arguments of its operation, and those that are not
null are kept; so are the kind of a link and its settings. Nothing is passed over exactly where each
part of a link that is not null is its kind or one of its settings. -/
theorem heeded_iff {operation : Operation} {members : Entries Json} {timeout : Option Duration}
    {command : Command} (ordered : (Json.obj members).Ordered)
    (resolved : resolve ⟨operation, .obj members, timeout⟩ = .ok command) :
    (∀ name ∈ members.map Prod.fst, name ∈ operation.argumentNames)
      ∧ (∀ name, name ≠ "link" → KeptAt members command.arguments name)
      ∧ (∀ given link, members.get? "link" = some given → command.link? = some link →
        Keeps ("type" :: Link.settings link.linkType) (Link.parts link.linkType given) link.encode)
      ∧ (Heeded members command
        ↔ ∀ given link, members.get? "link" = some given → command.link? = some link →
          ∀ name value, (Link.parts link.linkType given).get? name = some value → value ≠ .null →
            name ∈ "type" :: Link.settings link.linkType) := by
  obtain ⟨rfl, written, -⟩ := resolve_iff.1 resolved
  have stands := stands_of_written ordered.2 written
  have link_written : ∀ given link, members.get? "link" = some given →
      command.link? = some link → Link.written given link := by
    intro given link found own
    obtain ⟨link', own', -, form⟩ := stands.link given found
    obtain rfl : link' = link := Option.some.inj (own'.symm.trans own)
    exact form
  refine ⟨stands.known, stands.kept, fun given link found own => ?_, ?_⟩
  · exact Link.keeps_parts (link_written given link found own)
  constructor
  · intro heeded given link found own name
    obtain ⟨link', own', -, kept⟩ := heeded.link given found
    obtain rfl : link' = link := Option.some.inj (own'.symm.trans own)
    exact (keptAt_iff (link_written given link' found own) name).1 (kept name)
  · intro settled
    refine ⟨stands.known, stands.kept, fun given found => ?_⟩
    obtain ⟨link, own, there, form⟩ := stands.link given found
    refine ⟨link, own, there, fun name => ?_⟩
    exact (keptAt_iff form name).2 (settled given link found own name)

/-- A link to a cluster that asks for half encryption under some name. -/
def askingUnder (name : String) : Entries Json :=
  [("dataverse", .str "d"), (name, .str "half"), ("hostname", .str "h"), ("name", .str "n"),
    ("password", .str "p"), ("type", .str "couchbase"), ("username", .str "u")]

/-- A link that asks for encryption under its name is heeded. -/
theorem encryption_heeded :
    Heeded [("link", .obj (askingUnder "encryption"))]
      (.linkCreate ⟨.couchbase ⟨"d", "n", "h", .half, none, none, none, some "u", some "p"⟩⟩) := by
  have ordered : (Json.obj [("link", .obj (askingUnder "encryption"))]).Ordered := by
    refine ⟨by decide, ⟨by decide, ?_⟩, trivial⟩
    exact ⟨trivial, trivial, trivial, trivial, trivial, trivial, trivial, trivial⟩
  refine (@heeded_iff .linkCreate _ none _ ordered rfl).2.2.2.2 ?_
  intro given link found own name value here _
  cases found
  cases own
  -- Every name that is given is one of a setting, or tells the kind.
  have known : ∀ name ∈ (askingUnder "encryption").map Prod.fst,
      name ∈ "type" :: Link.settings .couchbaseRemote := by decide
  exact known name (Entries.mem_keys_of_get? here)

/-- A link that asks for encryption under a misspelt name is made without any. -/
theorem misspelt_encryption_lost :
    ∃ link, resolve ⟨.linkCreate, .obj [("link", .obj (askingUnder "encrypton"))], none⟩
        = .ok (.linkCreate ⟨.couchbase link⟩)
      ∧ link.encryption = .none
      ∧ ¬ Heeded [("link", .obj (askingUnder "encrypton"))] (.linkCreate ⟨.couchbase link⟩) := by
  refine ⟨⟨"d", "n", "h", .none, none, none, none, some "u", some "p"⟩, rfl, rfl, fun heeded => ?_⟩
  obtain ⟨link, own, -, kept⟩ := heeded.link _ rfl
  cases own
  -- The misspelt part does not come out again.
  have back := kept "encrypton" (.str "half") rfl nofun
  rw [Link.encode_unknown (by decide)] at back
  cases back

end Descriptor

end AnalyticsClient
