import AnalyticsClient.Proofs.Wire.Members

/-! What was read into a field is written back as it stood. -/

namespace AnalyticsClient

/-- A name that is looked up with success is one that something has. -/
theorem Entries.mem_keys_of_get? {α : Type} {entries : Entries α} {name : String} {value : α}
    (found : entries.get? name = some value) : name ∈ entries.map Prod.fst := by
  refine Decidable.byContradiction fun absent => ?_
  rw [get?_eq_none absent] at found
  cases found

/-- Whether an entry stays when a value is written: unless it is null, it is found as it stood. -/
def KeptAt (entries : Entries Json) (json : Json) (name : String) : Prop :=
  ∀ value, entries.get? name = some value → value ≠ .null → json.get? name = some value

/-- Whether the entries of some names stay when a value is written. -/
def Keeps (names : List String) (entries : Entries Json) (json : Json) : Prop :=
  ∀ name ∈ names, KeptAt entries json name

/-- Nothing has to stay where no name is asked for. -/
theorem Keeps.nil {entries : Entries Json} {json : Json} : Keeps [] entries json :=
  List.forall_mem_nil _

/-- The entries of some names stay where the first one stays and the others do. -/
theorem Keeps.cons {names : List String} {entries : Entries Json} {json : Json} {name : String}
    (first : KeptAt entries json name) (others : Keeps names entries json) :
    Keeps (name :: names) entries json := List.forall_mem_cons.2 ⟨first, others⟩

/-- What is found in an object of members is what they are. -/
theorem Json.get?_ofMembers {members : Entries Json} (nodup : (members.map Prod.fst).Nodup)
    (name : String) : (Json.ofMembers members).get? name = members.get? name :=
  Entries.get?_sorted nodup name

/-- What is found in an object of written fields is what was written of each. -/
theorem Json.get?_ofFields {fields : Entries (Option Json)} (nodup : (fields.map Prod.fst).Nodup)
    (name : String) : (Json.ofFields fields).get? name = (fields.get? name).join := by
  obtain ⟨entries, object, -, -, found⟩ := Json.exists_ofFields nodup
  rw [object]
  exact found name

/-- An ordered object finds ordered values only. -/
theorem Json.ordered_of_get? {members : Entries Json} {name : String} {value : Json}
    (ordered : Json.OrderedMembers members) (found : members.get? name = some value) :
    value.Ordered := by
  induction members with
  | nil => cases found
  | cons member rest ih =>
    obtain ⟨other, first⟩ := member
    obtain ⟨here, later⟩ := ordered
    rw [Entries.get?_cons] at found
    split at found
    · cases found
      exact here
    · exact ih later found

namespace Wire

variable {α : Type}

/-- Whether each value is written in one way only. -/
def Exact (form : Form α) (write : α → Json) : Prop :=
  ∀ json value, form json value → json = write value

/-- A text is written in one way only. -/
theorem exact_text : Exact Form.text .str := fun _ _ same => same

/-- A truth value is written in one way only. -/
theorem exact_flag : Exact Form.flag .bool := fun _ _ same => same

/-- A member of an enumeration is written in one way only. -/
theorem exact_choice [Choice α] : Exact (Form.choice : Form α) Choice.encode :=
  fun _ _ same => same

section

variable {form : Form α} {write : α → Json} {entries : Entries Json} {json : Json} {name : String}
  {value : α}

/-- A field that has to be there is kept. -/
theorem keptAt_needed (exact : Exact form write) (told : form.Needed entries name value)
    (there : json.get? name = some (write value)) : KeptAt entries json name := by
  intro given found _
  obtain ⟨given', found', right⟩ := told
  obtain rfl : given' = given := Option.some.inj (found'.symm.trans found)
  -- The value is the one way to write what was read.
  rw [there, exact _ _ right]

/-- A field with a value of its own is kept where it is given. -/
theorem keptAt_preset {preset : α} (exact : Exact form write)
    (told : form.Preset preset entries name value) (there : json.get? name = some (write value)) :
    KeptAt entries json name := by
  rcases told with ⟨absent, -⟩ | needed
  · intro given found
    -- Nothing was given.
    rw [absent] at found
    cases found
  · exact keptAt_needed exact needed there

/-- A field that may be missing is kept where it is given. -/
theorem keptAt_perhaps {value : Option α} (exact : Exact form write)
    (told : form.Perhaps entries name value) (there : json.get? name = value.map write) :
    KeptAt entries json name := by
  cases value with
  | none =>
    intro given found solid
    rcases told with absent | null
    · rw [absent] at found
      cases found
    · -- A null that was given stands for nothing.
      exact absurd (Option.some.inj (found.symm.trans null)) solid
  | some value => exact keptAt_needed exact told there

/-- A map of texts is kept where it is given in order. -/
theorem keptAt_texts {dict : Dict String} (ordered : Json.OrderedMembers entries)
    (told : Form.texts.Needed entries name dict)
    (there : json.get? name = some (.ofDict .str dict)) : KeptAt entries json name := by
  intro given found _
  obtain ⟨given', found', texts, same, rfl⟩ := told
  obtain rfl : given' = given := Option.some.inj (found'.symm.trans found)
  have inOrder := Json.ordered_of_get? ordered found
  rw [same] at inOrder ⊢
  -- The entries are those of the object, so they come in order like its members.
  have inOrder' : Entries.Ordered texts :=
    (List.pairwise_map.1 inOrder.1).imp fun {first later} before => before
  rw [there]
  simp only [Json.ofDict, Dict.ofList, inOrder'.sorted_eq]
  rfl

end

end Wire

end AnalyticsClient
