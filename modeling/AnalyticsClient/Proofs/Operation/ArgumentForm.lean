import AnalyticsClient.Operation.Arguments
import AnalyticsClient.Proofs.Catalog.LinkForm

/-! The written forms of the arguments of each operation, which are what is read as such. -/

namespace AnalyticsClient

open Wire Wire.Fields

namespace CreateDataverse

/-- Whether entries say that the arguments are these. -/
def Says (entries : Entries Json) (args : CreateDataverse) : Prop :=
  Form.text.Needed entries "dataverse_name" args.dataverseName
    ∧ Form.flag.Preset false entries "ignore_if_exists" args.ignoreIfExists

/-- A dataverse to be made, as its arguments. -/
def written : Form CreateDataverse := record ["dataverse_name", "ignore_if_exists"] Says

instance : Regular (layout : Fields Json CreateDataverse) := by
  unfold layout
  infer_instance

/-- What the fields of the arguments are made of. -/
theorem makes_layout {entries : Entries Json} {args : CreateDataverse} :
    layout.Makes (lookup Json entries) (· = args) ↔ Says entries args := by
  -- The fields are read one by one, and the arguments are made of nothing else.
  simp only [layout, makes_map, makes_seq, makes_required, makes_withDefault]
  constructor
  · intro holds
    obtain ⟨_, dataverse, _, ignore, rfl⟩ := holds
    exact ⟨dataverse, ignore⟩
  · intro holds
    obtain ⟨dataverse, ignore⟩ := holds
    exact ⟨_, dataverse, _, ignore, rfl⟩

/-- The arguments are read from exactly their written forms. -/
theorem decode_iff {json : Json} {args : CreateDataverse} :
    decode json = .ok args ↔ written json args :=
  read_iff makes_layout (by decide) _

/-- Arguments that were written are read back. -/
theorem written_encode (args : CreateDataverse) : written args.encode args := by
  change written (Json.ofFields [("dataverse_name", some (.str args.dataverseName)),
    ("ignore_if_exists", some (.bool args.ignoreIfExists))]) args
  refine record_ofFields (by decide) rfl fun entries found => ?_
  exact ⟨⟨_, found "dataverse_name", rfl⟩, .inr ⟨_, found "ignore_if_exists", rfl⟩⟩

end CreateDataverse

namespace CreateDataset

/-- Whether entries say that the arguments are these. -/
def Says (entries : Entries Json) (args : CreateDataset) : Prop :=
  Form.text.Needed entries "dataset_name" args.datasetName
    ∧ Form.text.Needed entries "bucket_name" args.bucketName
    ∧ Form.text.Perhaps entries "dataverse_name" args.dataverseName
    ∧ Form.text.Perhaps entries "condition" args.condition
    ∧ Form.flag.Preset false entries "ignore_if_exists" args.ignoreIfExists

/-- A dataset to be made, as its arguments. -/
def written : Form CreateDataset :=
  record ["dataset_name", "bucket_name", "dataverse_name", "condition", "ignore_if_exists"] Says

instance : Regular (layout : Fields Json CreateDataset) := by
  unfold layout
  infer_instance

/-- What the fields of the arguments are made of. -/
theorem makes_layout {entries : Entries Json} {args : CreateDataset} :
    layout.Makes (lookup Json entries) (· = args) ↔ Says entries args := by
  simp only [layout, makes_map, makes_seq, makes_required, makes_withDefault, makes_perhaps]
  constructor
  · intro holds
    obtain ⟨_, dataset, _, bucket, _, dataverse, _, condition, _, ignore, rfl⟩ := holds
    exact ⟨dataset, bucket, dataverse, condition, ignore⟩
  · intro holds
    obtain ⟨dataset, bucket, dataverse, condition, ignore⟩ := holds
    exact ⟨_, dataset, _, bucket, _, dataverse, _, condition, _, ignore, rfl⟩

/-- The arguments are read from exactly their written forms. -/
theorem decode_iff {json : Json} {args : CreateDataset} :
    decode json = .ok args ↔ written json args :=
  read_iff makes_layout (by decide) _

/-- Arguments that were written are read back. -/
theorem written_encode (args : CreateDataset) : written args.encode args := by
  refine record_ofFields (by decide) rfl fun entries found => ?_
  exact ⟨⟨_, found "dataset_name", rfl⟩, ⟨_, found "bucket_name", rfl⟩,
    perhaps_text (found "dataverse_name"), perhaps_text (found "condition"),
    .inr ⟨_, found "ignore_if_exists", rfl⟩⟩

end CreateDataset

namespace CreateIndex

/-- Whether entries say that the arguments are these. -/
def Says (entries : Entries Json) (args : CreateIndex) : Prop :=
  Form.text.Needed entries "index_name" args.indexName
    ∧ Form.text.Needed entries "dataset_name" args.datasetName
    ∧ Form.text.Perhaps entries "dataverse_name" args.dataverseName
    ∧ Form.texts.Needed entries "fields" args.fields
    ∧ Form.flag.Preset false entries "ignore_if_exists" args.ignoreIfExists

/-- An index to be made, as its arguments. -/
def written : Form CreateIndex :=
  record ["index_name", "dataset_name", "dataverse_name", "fields", "ignore_if_exists"] Says

instance : Regular (layout : Fields Json CreateIndex) := by
  unfold layout
  infer_instance

/-- What the fields of the arguments are made of. -/
theorem makes_layout {entries : Entries Json} {args : CreateIndex} :
    layout.Makes (lookup Json entries) (· = args) ↔ Says entries args := by
  simp only [layout, makes_map, makes_seq, makes_required, makes_withDefault, makes_perhaps]
  constructor
  · intro holds
    obtain ⟨_, index, _, dataset, _, dataverse, _, fields, _, ignore, rfl⟩ := holds
    exact ⟨index, dataset, dataverse, fields, ignore⟩
  · intro holds
    obtain ⟨index, dataset, dataverse, fields, ignore⟩ := holds
    exact ⟨_, index, _, dataset, _, dataverse, _, fields, _, ignore, rfl⟩

/-- The arguments are read from exactly their written forms. -/
theorem decode_iff {json : Json} {args : CreateIndex} :
    decode json = .ok args ↔ written json args :=
  read_iff makes_layout (by decide) _

/-- Arguments that were written are read back. -/
theorem written_encode (args : CreateIndex) : written args.encode args := by
  refine record_ofFields (by decide) rfl fun entries found => ?_
  exact ⟨⟨_, found "index_name", rfl⟩, ⟨_, found "dataset_name", rfl⟩,
    perhaps_text (found "dataverse_name"), ⟨_, found "fields", texts_ofDict _⟩,
    .inr ⟨_, found "ignore_if_exists", rfl⟩⟩

end CreateIndex

namespace DropDataverse

/-- Whether entries say that the arguments are these. -/
def Says (entries : Entries Json) (args : DropDataverse) : Prop :=
  Form.text.Needed entries "dataverse_name" args.dataverseName
    ∧ Form.flag.Preset false entries "ignore_if_not_exists" args.ignoreIfNotExists

/-- A dataverse to be removed, as its arguments. -/
def written : Form DropDataverse := record ["dataverse_name", "ignore_if_not_exists"] Says

instance : Regular (layout : Fields Json DropDataverse) := by
  unfold layout
  infer_instance

/-- What the fields of the arguments are made of. -/
theorem makes_layout {entries : Entries Json} {args : DropDataverse} :
    layout.Makes (lookup Json entries) (· = args) ↔ Says entries args := by
  simp only [layout, makes_map, makes_seq, makes_required, makes_withDefault]
  constructor
  · intro holds
    obtain ⟨_, dataverse, _, ignore, rfl⟩ := holds
    exact ⟨dataverse, ignore⟩
  · intro holds
    obtain ⟨dataverse, ignore⟩ := holds
    exact ⟨_, dataverse, _, ignore, rfl⟩

/-- The arguments are read from exactly their written forms. -/
theorem decode_iff {json : Json} {args : DropDataverse} :
    decode json = .ok args ↔ written json args :=
  read_iff makes_layout (by decide) _

/-- Arguments that were written are read back. -/
theorem written_encode (args : DropDataverse) : written args.encode args := by
  change written (Json.ofFields [("dataverse_name", some (.str args.dataverseName)),
    ("ignore_if_not_exists", some (.bool args.ignoreIfNotExists))]) args
  refine record_ofFields (by decide) rfl fun entries found => ?_
  exact ⟨⟨_, found "dataverse_name", rfl⟩,
    .inr ⟨_, found "ignore_if_not_exists", rfl⟩⟩

end DropDataverse

namespace DropDataset

/-- Whether entries say that the arguments are these. -/
def Says (entries : Entries Json) (args : DropDataset) : Prop :=
  Form.text.Needed entries "dataset_name" args.datasetName
    ∧ Form.text.Perhaps entries "dataverse_name" args.dataverseName
    ∧ Form.flag.Preset false entries "ignore_if_not_exists" args.ignoreIfNotExists

/-- A dataset to be removed, as its arguments. -/
def written : Form DropDataset :=
  record ["dataset_name", "dataverse_name", "ignore_if_not_exists"] Says

instance : Regular (layout : Fields Json DropDataset) := by
  unfold layout
  infer_instance

/-- What the fields of the arguments are made of. -/
theorem makes_layout {entries : Entries Json} {args : DropDataset} :
    layout.Makes (lookup Json entries) (· = args) ↔ Says entries args := by
  simp only [layout, makes_map, makes_seq, makes_required, makes_withDefault, makes_perhaps]
  constructor
  · intro holds
    obtain ⟨_, dataset, _, dataverse, _, ignore, rfl⟩ := holds
    exact ⟨dataset, dataverse, ignore⟩
  · intro holds
    obtain ⟨dataset, dataverse, ignore⟩ := holds
    exact ⟨_, dataset, _, dataverse, _, ignore, rfl⟩

/-- The arguments are read from exactly their written forms. -/
theorem decode_iff {json : Json} {args : DropDataset} :
    decode json = .ok args ↔ written json args :=
  read_iff makes_layout (by decide) _

/-- Arguments that were written are read back. -/
theorem written_encode (args : DropDataset) : written args.encode args := by
  refine record_ofFields (by decide) rfl fun entries found => ?_
  exact ⟨⟨_, found "dataset_name", rfl⟩, perhaps_text (found "dataverse_name"),
    .inr ⟨_, found "ignore_if_not_exists", rfl⟩⟩

end DropDataset

namespace DropIndex

/-- Whether entries say that the arguments are these. -/
def Says (entries : Entries Json) (args : DropIndex) : Prop :=
  Form.text.Needed entries "index_name" args.indexName
    ∧ Form.text.Needed entries "dataset_name" args.datasetName
    ∧ Form.text.Perhaps entries "dataverse_name" args.dataverseName
    ∧ Form.flag.Preset false entries "ignore_if_not_exists" args.ignoreIfNotExists

/-- An index to be removed, as its arguments. -/
def written : Form DropIndex :=
  record ["index_name", "dataset_name", "dataverse_name", "ignore_if_not_exists"] Says

instance : Regular (layout : Fields Json DropIndex) := by
  unfold layout
  infer_instance

/-- What the fields of the arguments are made of. -/
theorem makes_layout {entries : Entries Json} {args : DropIndex} :
    layout.Makes (lookup Json entries) (· = args) ↔ Says entries args := by
  simp only [layout, makes_map, makes_seq, makes_required, makes_withDefault, makes_perhaps]
  constructor
  · intro holds
    obtain ⟨_, index, _, dataset, _, dataverse, _, ignore, rfl⟩ := holds
    exact ⟨index, dataset, dataverse, ignore⟩
  · intro holds
    obtain ⟨index, dataset, dataverse, ignore⟩ := holds
    exact ⟨_, index, _, dataset, _, dataverse, _, ignore, rfl⟩

/-- The arguments are read from exactly their written forms. -/
theorem decode_iff {json : Json} {args : DropIndex} :
    decode json = .ok args ↔ written json args :=
  read_iff makes_layout (by decide) _

/-- Arguments that were written are read back. -/
theorem written_encode (args : DropIndex) : written args.encode args := by
  refine record_ofFields (by decide) rfl fun entries found => ?_
  exact ⟨⟨_, found "index_name", rfl⟩, ⟨_, found "dataset_name", rfl⟩,
    perhaps_text (found "dataverse_name"), .inr ⟨_, found "ignore_if_not_exists", rfl⟩⟩

end DropIndex

namespace LinkChange

/-- Whether entries say that the arguments are these. -/
def Says (entries : Entries Json) (args : LinkChange) : Prop :=
  Link.written.Needed entries "link" args.link

/-- A link to be made or replaced, as its arguments. -/
def written : Form LinkChange := record ["link"] Says

instance : Regular (layout : Fields Json LinkChange) := by
  unfold layout
  infer_instance

/-- What the fields of the arguments are made of. -/
theorem makes_layout {entries : Entries Json} {args : LinkChange} :
    layout.Makes (lookup Json entries) (· = args) ↔ Says entries args := by
  simp only [layout, makes_map, makes_required]
  constructor
  · intro holds
    obtain ⟨_, link, rfl⟩ := holds
    exact link
  · intro link
    exact ⟨_, link, rfl⟩

/-- The arguments are read from exactly their written forms. -/
theorem decode_iff {json : Json} {args : LinkChange} :
    decode json = .ok args ↔ written json args :=
  read_iff makes_layout (by decide) _

/-- Arguments that were written are read back. -/
theorem written_encode (args : LinkChange) : written args.encode args := by
  -- The object has one member and no other.
  exact ⟨[("link", args.link.encode)], .inl ⟨rfl, by simp, by simp⟩, args.link.encode, rfl,
    Link.written_encode args.link⟩

end LinkChange

namespace LinkConnect

/-- Whether entries say that the arguments are these. -/
def Says (entries : Entries Json) (args : LinkConnect) : Prop :=
  Form.text.Perhaps entries "dataverse_name" args.dataverseName
    ∧ Form.text.Perhaps entries "link_name" args.linkName
    ∧ Form.flag.Preset false entries "force" args.force

/-- A link to be connected, as its arguments. -/
def written : Form LinkConnect := record ["dataverse_name", "link_name", "force"] Says

instance : Regular (layout : Fields Json LinkConnect) := by
  unfold layout
  infer_instance

/-- What the fields of the arguments are made of. -/
theorem makes_layout {entries : Entries Json} {args : LinkConnect} :
    layout.Makes (lookup Json entries) (· = args) ↔ Says entries args := by
  simp only [layout, makes_map, makes_seq, makes_withDefault, makes_perhaps]
  constructor
  · intro holds
    obtain ⟨_, dataverse, _, name, _, force, rfl⟩ := holds
    exact ⟨dataverse, name, force⟩
  · intro holds
    obtain ⟨dataverse, name, force⟩ := holds
    exact ⟨_, dataverse, _, name, _, force, rfl⟩

/-- The arguments are read from exactly their written forms. -/
theorem decode_iff {json : Json} {args : LinkConnect} :
    decode json = .ok args ↔ written json args :=
  read_iff makes_layout (by decide) _

/-- Arguments that were written are read back. -/
theorem written_encode (args : LinkConnect) : written args.encode args := by
  refine record_ofFields (by decide) rfl fun entries found => ?_
  exact ⟨perhaps_text (found "dataverse_name"), perhaps_text (found "link_name"),
    .inr ⟨_, found "force", rfl⟩⟩

end LinkConnect

namespace LinkListing

/-- Whether entries say that the arguments are these. -/
def Says (entries : Entries Json) (args : LinkListing) : Prop :=
  Form.text.Perhaps entries "dataverse_name" args.dataverseName
    ∧ Form.text.Perhaps entries "link_name" args.linkName
    ∧ Form.choice.Perhaps entries "link_type" args.linkType

/-- The links to be listed, as its arguments. -/
def written : Form LinkListing := record ["dataverse_name", "link_name", "link_type"] Says

instance : Regular (layout : Fields Json LinkListing) := by
  unfold layout
  infer_instance

/-- What the fields of the arguments are made of. -/
theorem makes_layout {entries : Entries Json} {args : LinkListing} :
    layout.Makes (lookup Json entries) (· = args) ↔ Says entries args := by
  simp only [layout, makes_map, makes_seq, makes_perhaps]
  constructor
  · intro holds
    obtain ⟨_, dataverse, _, name, _, kind, rfl⟩ := holds
    exact ⟨dataverse, name, kind⟩
  · intro holds
    obtain ⟨dataverse, name, kind⟩ := holds
    exact ⟨_, dataverse, _, name, _, kind, rfl⟩

/-- The arguments are read from exactly their written forms. -/
theorem decode_iff {json : Json} {args : LinkListing} :
    decode json = .ok args ↔ written json args :=
  read_iff makes_layout (by decide) _

/-- Arguments that were written are read back. -/
theorem written_encode (args : LinkListing) : written args.encode args := by
  refine record_ofFields (by decide) rfl fun entries found => ?_
  exact ⟨perhaps_text (found "dataverse_name"), perhaps_text (found "link_name"),
    perhaps_choice (found "link_type")⟩

end LinkListing

namespace LinkDisconnect

/-- Whether entries say that the arguments are these. -/
def Says (entries : Entries Json) (args : LinkDisconnect) : Prop :=
  Form.text.Perhaps entries "dataverse_name" args.dataverseName
    ∧ Form.text.Perhaps entries "link_name" args.linkName

/-- A link to be disconnected, as its arguments. -/
def written : Form LinkDisconnect := record ["dataverse_name", "link_name"] Says

instance : Regular (layout : Fields Json LinkDisconnect) := by
  unfold layout
  infer_instance

/-- What the fields of the arguments are made of. -/
theorem makes_layout {entries : Entries Json} {args : LinkDisconnect} :
    layout.Makes (lookup Json entries) (· = args) ↔ Says entries args := by
  simp only [layout, makes_map, makes_seq, makes_perhaps]
  constructor
  · intro holds
    obtain ⟨_, dataverse, _, name, rfl⟩ := holds
    exact ⟨dataverse, name⟩
  · intro holds
    obtain ⟨dataverse, name⟩ := holds
    exact ⟨_, dataverse, _, name, rfl⟩

/-- The arguments are read from exactly their written forms. -/
theorem decode_iff {json : Json} {args : LinkDisconnect} :
    decode json = .ok args ↔ written json args :=
  read_iff makes_layout (by decide) _

/-- Arguments that were written are read back. -/
theorem written_encode (args : LinkDisconnect) : written args.encode args := by
  refine record_ofFields (by decide) rfl fun entries found => ?_
  exact ⟨perhaps_text (found "dataverse_name"), perhaps_text (found "link_name")⟩

end LinkDisconnect

namespace DropLink

/-- Whether entries say that the arguments are these. -/
def Says (entries : Entries Json) (args : DropLink) : Prop :=
  Form.text.Needed entries "link_name" args.linkName
    ∧ Form.text.Needed entries "dataverse_name" args.dataverseName

/-- A link to be removed, as its arguments. -/
def written : Form DropLink := record ["link_name", "dataverse_name"] Says

instance : Regular (layout : Fields Json DropLink) := by
  unfold layout
  infer_instance

/-- What the fields of the arguments are made of. -/
theorem makes_layout {entries : Entries Json} {args : DropLink} :
    layout.Makes (lookup Json entries) (· = args) ↔ Says entries args := by
  simp only [layout, makes_map, makes_seq, makes_required]
  constructor
  · intro holds
    obtain ⟨_, name, _, dataverse, rfl⟩ := holds
    exact ⟨name, dataverse⟩
  · intro holds
    obtain ⟨name, dataverse⟩ := holds
    exact ⟨_, name, _, dataverse, rfl⟩

/-- The arguments are read from exactly their written forms. -/
theorem decode_iff {json : Json} {args : DropLink} :
    decode json = .ok args ↔ written json args :=
  read_iff makes_layout (by decide) _

/-- Arguments that were written are read back. -/
theorem written_encode (args : DropLink) : written args.encode args := by
  change written (Json.ofFields [("link_name", some (.str args.linkName)),
    ("dataverse_name", some (.str args.dataverseName))]) args
  refine record_ofFields (by decide) rfl fun entries found => ?_
  exact ⟨⟨_, found "link_name", rfl⟩, ⟨_, found "dataverse_name", rfl⟩⟩

end DropLink

end AnalyticsClient
