import AnalyticsClient.Proofs.Wire.Record

/-! The forms in which values are written, and what the entries of a record say of its fields. -/

namespace AnalyticsClient

namespace Wire

/-- A way to write values: which JSON values are written forms of which value. -/
abbrev Form (α : Type) := Json → α → Prop

namespace Form

/-- A text as a text. -/
def text : Form String := fun json value => json = .str value

/-- A truth value as a truth value. -/
def flag : Form Bool := fun json value => json = .bool value

/-- A map of texts as an object of texts. -/
def texts : Form (Dict String) := fun json dict =>
  ∃ texts, json = .obj (textMembers texts) ∧ dict = Dict.ofList texts

/-- A member of an enumeration as its text. -/
def choice {α : Type} [Choice α] : Form α := fun json member => json = .str (Choice.text member)

variable {α : Type}

/-- An entry of a name is there and written so. -/
def Needed (form : Form α) (entries : Entries Json) (name : String) (value : α) : Prop :=
  ∃ json, entries.get? name = some json ∧ form json value

/-- An entry of a name is written so if it is there, and stands for `preset` if it is not. -/
def Preset (form : Form α) (preset : α) (entries : Entries Json) (name : String) (value : α) :
    Prop :=
  entries.get? name = none ∧ value = preset ∨ form.Needed entries name value

/-- An entry of a name is written so if it is there and not null. -/
def Perhaps (form : Form α) (entries : Entries Json) (name : String) : Option α → Prop
  | none => entries.get? name = none ∨ entries.get? name = some .null
  | some value => form.Needed entries name value

end Form

/-- A decoder that reads values from exactly their written forms, of which null is none. -/
class Reads {σ α : Type} [Source σ] [Plain σ] (read : Decoder σ α) (form : outParam (Form α)) :
    Prop where
  read_wrap : ∀ {json value}, read (Plain.wrap json) = .ok value ↔ form json value
  solid : ∀ value, ¬ form .null value

section

variable {σ α : Type} [Source σ] [Plain σ]

instance : Reads (Wire.string : Decoder σ String) Form.text where
  read_wrap := string_wrap
  solid _ := by simp [Form.text]

instance : Reads (Wire.bool : Decoder σ Bool) Form.flag where
  read_wrap := bool_wrap
  solid _ := by simp [Form.flag]

instance : Reads (Wire.dict Wire.string : Decoder σ (Dict String)) Form.texts where
  read_wrap := dict_wrap
  solid _ := by simp [Form.texts]

/-- An enumeration is read from its texts where no two members have the same. -/
theorem reads_choice [Choice α]
    (own : ∀ member : α, Choice.parse? (Choice.text member) = some member) :
    Reads (Choice.decode : Decoder σ α) Form.choice where
  read_wrap := choice_wrap own
  solid _ := by simp [Form.choice]

/-- The kinds of links have different texts. -/
theorem parse?_linkType (member : LinkType) :
    Choice.parse? (Choice.text member) = some member := by
  cases member <;> rfl

/-- The levels of encryption have different texts. -/
theorem parse?_encryptionLevel (member : EncryptionLevel) :
    Choice.parse? (Choice.text member) = some member := by
  cases member <;> rfl

instance : Reads (Choice.decode : Decoder σ LinkType) Form.choice :=
  reads_choice parse?_linkType

instance : Reads (Choice.decode : Decoder σ EncryptionLevel) Form.choice :=
  reads_choice parse?_encryptionLevel

end

namespace Fields

/-- Whether a value is made of fields by name, and is such as is asked for. -/
def Makes {σ α : Type} (fields : Fields σ α) (get : String → Option σ) (such : α → Prop) : Prop :=
  ∃ value, fields.byName get = .ok value ∧ such value

section

variable {σ α β : Type} {get : String → Option σ}

/-- A value is made where one is made that is that value. -/
theorem makes_eq {fields : Fields σ α} {value : α} :
    fields.Makes get (· = value) ↔ fields.byName get = .ok value := by
  simp [Makes]

/-- What is made of a value is such as asked for where the value is one of which such is made. -/
theorem makes_map {f : α → β} {fields : Fields σ α} {such : β → Prop} :
    (f <$> fields).Makes get such ↔ fields.Makes get fun value => such (f value) := by
  -- The value that is made is told by the one that it is made of.
  simp only [Makes, Functor.map, map_eq_ok]
  constructor
  · intro holds
    obtain ⟨_, ⟨value, made, rfl⟩, fits⟩ := holds
    exact ⟨value, made, fits⟩
  · intro holds
    obtain ⟨value, made, fits⟩ := holds
    exact ⟨_, ⟨value, made, rfl⟩, fits⟩

/-- Two readings, one after the other, make what the first makes of what the second makes. -/
theorem makes_seq {made : Fields σ (α → β)} {next : Fields σ α} {such : β → Prop} :
    (made <*> next).Makes get such
      ↔ made.Makes get fun f => next.Makes get fun value => such (f value) := by
  -- The two readings look names up in the same entries.
  simp only [Makes, Seq.seq, bind_eq_ok, pure, Except.pure, Except.ok.injEq]
  constructor
  · intro holds
    obtain ⟨_, ⟨f, first, value, second, rfl⟩, fits⟩ := holds
    exact ⟨f, first, value, second, fits⟩
  · intro holds
    obtain ⟨f, first, value, second, fits⟩ := holds
    exact ⟨_, ⟨f, first, value, second, rfl⟩, fits⟩

end

section

variable {σ α : Type} [Source σ] [Plain σ] {read : Decoder σ α} {form : Form α}
  [reads : Reads read form] {entries : Entries Json} {name : String}

/-- A field that has to be there is read from an entry in the right form. -/
theorem makes_required {such : α → Prop} :
    (required name read).Makes (lookup σ entries) such
      ↔ ∃ value, form.Needed entries name value ∧ such value := by
  simp only [Makes, required, field, lookup, Form.Needed]
  -- A field without an entry is missing, and nothing is made.
  cases entries.get? name with
  | none => simp
  | some json => simp [reads.read_wrap]

/-- A field with a value of its own takes it where there is no entry. -/
theorem makes_withDefault {preset : α} {such : α → Prop} :
    (withDefault name preset read).Makes (lookup σ entries) such
      ↔ ∃ value, form.Preset preset entries name value ∧ such value := by
  simp only [Makes, withDefault, field, lookup, Form.Preset, Form.Needed]
  -- Where there is an entry, it has to be right, whatever the value without one.
  cases entries.get? name with
  | none => simp
  | some json => simp [reads.read_wrap]

/-- A field that may be null is read from an entry in the right form unless that is null. -/
theorem makes_perhaps {such : Option α → Prop} :
    (perhaps name read).Makes (lookup σ entries) such
      ↔ ∃ value, form.Perhaps entries name value ∧ such value := by
  simp only [Makes]
  -- What is asked of the value besides plays no part.
  refine exists_congr fun value => and_congr_left fun _ => ?_
  simp only [perhaps, field, lookup]
  cases found : entries.get? name with
  | none => cases value <;> simp [Form.Perhaps, Form.Needed, found]
  | some json =>
    cases value with
    | none => simp [Form.Perhaps, found, optional_wrap_none]
    | some value =>
      simp only [Option.map_some, optional_wrap_some, Form.Perhaps, Form.Needed, found]
      constructor
      · intro holds
        obtain ⟨-, right⟩ := holds
        exact ⟨json, rfl, reads.read_wrap.1 right⟩
      · intro holds
        obtain ⟨json', same, right⟩ := holds
        cases same
        -- The form is not one of null.
        exact ⟨fun null => reads.solid value (null ▸ right), reads.read_wrap.2 right⟩

/-- A record that has no other names as an object of its fields, or as the list of their values. -/
def record {α : Type} (names : List String) (tells : Entries Json → α → Prop) : Form α :=
  fun json value => ∃ entries, Placed true names json entries ∧ tells entries value

/-- Null is no written form of a record. -/
theorem not_record_null {α : Type} {names : List String} {tells : Entries Json → α → Prop}
    {value : α} : ¬ record names tells .null value := by
  simp [record, Placed]

/-- A record is read from the JSON values that give it entries of which it can be made. -/
theorem read_iff {fields : Fields σ α} [Regular fields] {tells : Entries Json → α → Prop}
    (told : ∀ {entries value}, fields.Makes (lookup σ entries) (· = value) ↔ tells entries value)
    (nodup : fields.names.Nodup) (manner : Manner) {json : Json} {value : α} :
    fields.read manner (Plain.wrap json) = .ok value
      ↔ ∃ entries, Placed manner.closed fields.names json entries ∧ tells entries value := by
  rw [read_wrap nodup manner]
  -- The two sides differ in how they say what the entries make.
  refine exists_congr fun entries => and_congr_right fun _ => ?_
  rw [← told, makes_eq]

end

end Fields

end Wire

end AnalyticsClient
