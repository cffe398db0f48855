import AnalyticsClient.Proofs.Wire.Members
import AnalyticsClient.Wire.Variants

/-! Values that were written are read back: single values, lists, maps, records and variants. -/

namespace AnalyticsClient

/-- A name is looked up before or after the values are changed. -/
theorem Entries.get?_map {α β : Type} (f : α → β) (entries : Entries α) (name : String) :
    Entries.get? (entries.map fun entry => (entry.1, f entry.2)) name
      = (entries.get? name).map f := by
  induction entries with
  | nil => rfl
  | cons entry rest ih =>
    obtain ⟨other, value⟩ := entry
    simp only [List.map_cons, Entries.get?_cons, ih]
    -- The first entry has the name on both sides or on none.
    split <;> rfl

namespace Wire

variable {α : Type}

/-- Whether every value that was written is read back. -/
def Recovers (read : Decoder Json α) (write : α → Json) : Prop :=
  ∀ value, read (write value) = .ok value

/-- Whether no value is written as null. -/
def Solid (write : α → Json) : Prop := ∀ value, write value ≠ .null

/-- A text is read back. -/
theorem recovers_string : Recovers Wire.string .str := fun _ => rfl

/-- A truth value is read back. -/
theorem recovers_bool : Recovers Wire.bool .bool := fun _ => rfl

/-- Any JSON value is read back. -/
theorem recovers_json : Recovers Wire.json id := fun _ => rfl

/-- A natural number below the bound of a range that starts at zero is read back. -/
theorem whole_nat (expected : String) {number bound : Nat} (below : number < bound) :
    whole expected 0 bound (Json.nat number) = .ok (number : Int) := by
  have within : (0 : Int) ≤ number ∧ (number : Int) < bound := by omega
  -- The number is seen as an integer, and no other check is made than that of its range.
  simp [whole, Json.nat, Source.view, View.ofJson, within]

/-- A word of 16 bits is read back. -/
theorem recovers_u16 : Recovers Wire.u16 fun word => .nat word.toNat := by
  intro word
  rw [u16, whole_nat "u16" word.toNat_lt_size]
  simp [Except.map]

/-- A word of 32 bits is read back. -/
theorem recovers_u32 : Recovers Wire.u32 fun word => .nat word.toNat := by
  intro word
  rw [u32, whole_nat "u32" word.toNat_lt_size]
  simp [Except.map]

/-- A word of 64 bits is read back. -/
theorem recovers_u64 : Recovers Wire.u64 fun word => .nat word.toNat := by
  intro word
  rw [u64, whole_nat "u64" word.toNat_lt_size]
  simp [Except.map]

/-- A size is read back. -/
theorem recovers_size : Recovers Wire.size fun word => .nat word.toNat := by
  intro word
  rw [size, whole_nat "usize" word.toNat_lt_size]
  simp [Except.map]

section

variable {read : Decoder Json α} {write : α → Json}

/-- Items that are each read back are read back together. -/
theorem readItems_map (back : Recovers read write) (values : List α) :
    readItems read (values.map write) = .ok values := by
  induction values with
  | nil => rfl
  | cons value rest ih =>
    -- The first item is read before the others.
    simp [readItems, back value, ih, bind, Except.bind, pure, Except.pure]

/-- A list is read back if its items are. -/
theorem recovers_list (back : Recovers read write) :
    Recovers (Wire.list read) fun values => .arr (values.map write) := by
  intro values
  have items := readItems_map back values
  -- Nothing stands behind the last item.
  simp [Wire.list, Source.view, View.ofJson, items, atEnd, bind, Except.bind, pure, Except.pure]

/-- An object in memory shows its members as they stand. -/
theorem view_obj (members : Entries Json) :
    Source.view (Json.obj members) = .record members none none := by
  show View.record (members.map fun member => (member.1, member.2)) none none = _
  rw [List.map_id']

/-- Entries that are each read back are put into the map one after the other. -/
theorem readEntries_map (back : Recovers read write) (entries : Entries α) :
    ∀ made : Dict α, readEntries read (entries.map fun entry => (entry.1, write entry.2)) made
      = .ok (entries.foldl (fun made entry => made.insert entry.1 entry.2) made) := by
  -- The map grows from entry to entry, so it stays quantified over.
  induction entries with
  | nil => exact fun _ => rfl
  | cons entry rest ih =>
    intro made
    have later := ih (made.insert entry.1 entry.2)
    simp [readEntries, back entry.2, later, bind, Except.bind]

/-- A map is read back if its values are. -/
theorem recovers_dict (back : Recovers read write) : Recovers (Wire.dict read) (.ofDict write) := by
  intro dict
  obtain ⟨entries, ordered⟩ := dict
  have read_ := readEntries_map back entries ∅
  have same : Dict.ofList entries = ⟨entries, ordered⟩ := by
    -- The entries of a map are in order before they are sorted.
    simp only [Dict.ofList, ordered.sorted_eq]
  rw [foldl_insert, same] at read_
  simp only [Wire.dict, Json.ofDict, view_obj, read_, atEnd, bind, Except.bind, pure, Except.pure]

/-- A value that may be missing is read back if it is never written as null. -/
theorem recovers_optional (back : Recovers read write) (solid : Solid write) :
    Recovers (optional read) fun value => .orNull (value.map write) := by
  intro value
  cases value with
  | none =>
    show optional read (Plain.wrap Json.null : Json) = _
    exact optional_wrap_none.2 rfl
  | some value =>
    show optional read (Plain.wrap (write value) : Json) = _
    exact optional_wrap_some.2 ⟨solid value, back value⟩

end

/-- The members of an object that are all there are written like fields. -/
theorem ofMembers_eq (members : Entries Json) :
    Json.ofMembers members = Json.ofFields (members.map fun member => (member.1, some member.2)) :=
    by
  -- Nothing is left out of the fields.
  have all : (members.map fun member => (member.1, some member.2)).filterMap
      (fun field => field.2.map (field.1, ·)) = members := by
    induction members with
    | nil => rfl
    | cons member rest ih => exact congrArg (List.cons member) ih
  rw [Json.ofFields, all]

namespace Fields

section

variable {β : Type} {get : String → Option Json}

/-- What is made of the value of fields by name. -/
theorem byName_map (f : α → β) (fields : Fields Json α) :
    (f <$> fields).byName get = (fields.byName get).map f := rfl

/-- What two readings make by name, one after the other. -/
theorem byName_seq (made : Fields Json (α → β)) (next : Fields Json α) :
    (made <*> next).byName get
      = (made.byName get).bind fun f => (next.byName get).map f := by
  simp only [Seq.seq, bind, pure, Except.pure]
  -- The last step of both sides is the same, made of a successful reading only.
  cases made.byName get with
  | error fault => rfl
  | ok f => cases next.byName get <;> rfl

end

section

variable {read : Decoder Json α} {write : α → Json} {get : String → Option Json} {name : String}
  {value : α}

/-- A field that has to be there is read back. -/
theorem byName_required (back : Recovers read write) (found : get name = some (write value)) :
    (required name read).byName get = .ok value := by
  simp only [required, field, found, back value]

/-- A field with a value of its own is read back where it was written. -/
theorem byName_withDefault {preset : α} (back : Recovers read write)
    (found : get name = some (write value)) :
    (withDefault name preset read).byName get = .ok value := by
  simp only [withDefault, field, found, back value]

variable {given : Option α}

/-- A field that may be missing is read back where it was left out if it was missing. -/
theorem byName_perhaps (back : Recovers read write) (solid : Solid write)
    (found : get name = given.map write) : (perhaps name read).byName get = .ok given := by
  cases given with
  | none =>
    -- Without an entry the field takes the value that it has then.
    simp only [perhaps, field, found, Option.map_none]
  | some value =>
    have inner := recovers_optional back solid (some value)
    simp only [perhaps, field, found, Option.map_some]
    exact inner

/-- A field that may be missing is read back where it was written as null if it was missing. -/
theorem byName_perhaps_null (back : Recovers read write) (solid : Solid write)
    (found : get name = some (.orNull (given.map write))) :
    (perhaps name read).byName get = .ok given := by
  have inner := recovers_optional back solid given
  simpa only [perhaps, field, found] using inner

end

/-- A field of any JSON value that may be missing is read as what stands there, or as missing where
that is null. -/
theorem byName_perhaps_json {get : String → Option Json} {name : String} :
    (perhaps name json).byName get = .ok ((get name).filter (· ≠ .null)) := by
  simp only [perhaps, field]
  cases get name with
  | none => rfl
  | some value =>
    -- Null is looked for before the value is read, and no other value is.
    cases value <;> rfl

/-- A record is read back from an object of written fields if its fields are read from what was
written of each. -/
theorem read_ofFields {fields : Fields Json α} [Regular fields] {value : α}
    {written : Entries (Option Json)} (manner : Manner) (nodup : fields.names.Nodup)
    (names : written.map Prod.fst = fields.names)
    (made : ∀ get : String → Option Json, (∀ name, get name = (written.get? name).join) →
      fields.byName get = .ok value) :
    fields.read manner (Json.ofFields written) = .ok value := by
  obtain ⟨entries, object, once, known, found⟩ := Json.exists_ofFields (names ▸ nodup)
  rw [object]
  refine (read_obj (σ := Json) manner entries).2 ⟨⟨once.filter _, fun _ => names ▸ known⟩, ?_⟩
  refine made _ fun name => ?_
  -- A value in memory is its own plain value.
  simp [lookup, found, Plain.wrap]

/-- A record whose fields are all there is read back from an object of what was written of each. -/
theorem read_ofMembers {fields : Fields Json α} [Regular fields] {value : α}
    {members : Entries Json} (manner : Manner) (nodup : fields.names.Nodup)
    (names : members.map Prod.fst = fields.names)
    (made : ∀ get : String → Option Json, (∀ name, get name = members.get? name) →
      fields.byName get = .ok value) :
    fields.read manner (Json.ofMembers members) = .ok value := by
  have mapped : (members.map fun member => (member.1, some member.2)).map Prod.fst
      = members.map Prod.fst := by rw [List.map_map]; rfl
  rw [ofMembers_eq]
  refine read_ofFields manner nodup (mapped.trans names) fun get found => made get fun name => ?_
  -- What is looked up is there if it is found at all.
  rw [found name, Entries.get?_map]
  cases members.get? name <;> rfl

end Fields

section

variable {known : List String} {name : String} {go : String → Payload Json → Except Fault α}

/-- A variant is read from an object whose one member has its name. -/
theorem variant_obj (mem : name ∈ known) (content : Json) :
    variant known go (.obj [(name, content)]) = go name (.content content) := by
  show named known name (.content content) go = _
  rw [named, if_pos mem]

/-- A variant that holds one value is read back if that value is. -/
theorem variant_value {β : Type} {make : β → α} {read : Decoder Json β} {write : β → Json}
    (mem : name ∈ known)
    (goes : ∀ content, go name (.content content) = (read content).map make)
    (back : Recovers read write) (value : β) :
    variant known go (.obj [(name, write value)]) = .ok (make value) := by
  rw [variant_obj mem, goes, back value]
  rfl

/-- A variant that holds named fields is read back if its fields are read from what was written of
each. -/
theorem variant_fields {fields : Fields Json α} [Fields.Regular fields] {what : String} {value : α}
    {members : Entries Json} (mem : name ∈ known)
    (goes : ∀ payload, go name payload = payload.fields what fields)
    (nodup : fields.names.Nodup) (names : members.map Prod.fst = fields.names)
    (made : ∀ get : String → Option Json, (∀ name, get name = members.get? name) →
      fields.byName get = .ok value) :
    variant known go (.obj [(name, .ofMembers members)]) = .ok value := by
  rw [variant_obj mem, goes]
  -- The content is an object, so it is read as a record.
  exact Fields.read_ofMembers ⟨what, false, true⟩ nodup names made

end

end Wire

end AnalyticsClient
