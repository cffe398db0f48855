import AnalyticsClient.Proofs.Wire.Form

/-! The objects that records are written as give back each field that was written. -/

namespace AnalyticsClient

namespace Entries

variable {α : Type}

/-- No name comes twice in an ordered list. -/
theorem Ordered.nodup {entries : Entries α} (ordered : entries.Ordered) :
    (entries.map Prod.fst).Nodup := by
  refine List.pairwise_map.2 (ordered.imp fun {first later} before same => ?_)
  exact String.lt_irrefl _ (same ▸ before)

/-- Where no name comes twice, what is looked up is what the entries are. -/
theorem get?_eq_some {entries : Entries α} (nodup : (entries.map Prod.fst).Nodup)
    {name : String} {value : α} : entries.get? name = some value ↔ (name, value) ∈ entries := by
  induction entries with
  | nil => simp [Entries.get?]
  | cons entry rest ih =>
    obtain ⟨other, first⟩ := entry
    obtain ⟨fresh, later⟩ := List.nodup_cons.1 nodup
    rw [get?_cons, List.mem_cons]
    by_cases same : other = name
    · -- No later entry has the name.
      subst same
      have alone : (other, value) ∉ rest := fun mem => fresh (List.mem_map.2 ⟨_, mem, rfl⟩)
      simp [alone, eq_comm]
    · have differs : (name, value) ≠ (other, first) := fun back =>
        same (congrArg Prod.fst back).symm
      rw [if_neg same, ih later]
      simp [differs]

/-- Sorting neither adds nor loses names. -/
theorem mem_keys_insert {entries : Entries α} {name other : String} {value : α} :
    other ∈ (entries.insert name value).map Prod.fst
      ↔ other = name ∨ other ∈ entries.map Prod.fst := by
  -- A name is listed exactly where it is looked up with success.
  have listed : ∀ entries : Entries α, other ∈ entries.map Prod.fst
      ↔ (entries.get? other).isSome = true := by
    intro entries
    constructor
    · intro mem
      obtain ⟨value, found⟩ := get?_of_mem mem
      simp [found]
    · intro found
      refine Decidable.byContradiction fun absent => ?_
      simp [get?_eq_none absent] at found
  rw [listed, listed, get?_insert]
  split <;> simp [*]

/-- Entries of different names that are put into a list are looked up like before. -/
theorem get?_foldl_insert (name : String) (entries : Entries α) :
    ∀ made : Entries α, (entries.map Prod.fst).Nodup →
      Entries.get? (entries.foldl (fun made entry => made.insert entry.1 entry.2) made) name
        = (entries.get? name).or (made.get? name) := by
  -- What was made so far grows with each entry, so it stays quantified over.
  induction entries with
  | nil =>
    intro made _
    rfl
  | cons entry rest ih =>
    intro made nodup
    obtain ⟨other, value⟩ := entry
    obtain ⟨fresh, nodup⟩ := List.nodup_cons.1 nodup
    rw [List.foldl_cons, ih _ nodup, get?_insert, get?_cons]
    by_cases same : other = name
    · -- The entry is the only one of its name.
      subst same
      simp [get?_eq_none fresh]
    · have same' : name ≠ other := fun back => same back.symm
      simp [same, same']

/-- Sorting entries of different names changes nothing about what is looked up. -/
theorem get?_sorted {entries : Entries α} (nodup : (entries.map Prod.fst).Nodup) (name : String) :
    entries.sorted.get? name = entries.get? name := by
  rw [sorted, get?_foldl_insert name entries [] nodup]
  simp [get?]

/-- Sorting keeps the names. -/
theorem mem_keys_sorted {entries : Entries α} {name : String} :
    name ∈ entries.sorted.map Prod.fst ↔ name ∈ entries.map Prod.fst := by
  -- The names of what was made so far stay, and those of the entries come to them.
  have folded : ∀ made : Entries α,
      name ∈ (entries.foldl (fun made entry => Entries.insert entry.1 entry.2 made) made).map
          Prod.fst
        ↔ name ∈ entries.map Prod.fst ∨ name ∈ made.map Prod.fst := by
    induction entries with
    | nil => simp
    | cons entry rest ih =>
      intro made
      rw [List.foldl_cons, ih, mem_keys_insert]
      simp only [List.map_cons, List.mem_cons, or_assoc, or_left_comm]
  unfold sorted
  simpa using folded []

/-- An entry whose name is above all others is put at the end. -/
theorem insert_of_above {entries : Entries α} {name : String} {value : α}
    (above : ∀ entry ∈ entries, entry.1 < name) :
    entries.insert name value = entries ++ [(name, value)] := by
  induction entries with
  | nil => rfl
  | cons entry rest ih =>
    obtain ⟨other, kept⟩ := entry
    -- The first entry stays in front, since its name is below.
    have before : other < name := above _ List.mem_cons_self
    have notBelow : ¬ name < other := String.lt_asymm before
    have differs : name ≠ other := fun same => String.lt_irrefl other (same ▸ before)
    rw [Entries.insert, if_neg notBelow, if_neg differs,
      ih fun entry mem => above entry (List.mem_cons_of_mem _ mem)]
    rfl

/-- A list that is in order is sorted already. -/
theorem Ordered.sorted_eq {entries : Entries α} (ordered : entries.Ordered) :
    entries.sorted = entries := by
  -- Each entry goes to the end of those that were put in order before it.
  have folded : ∀ made : Entries α, Ordered (made ++ entries) →
      entries.foldl (fun made entry => Entries.insert entry.1 entry.2 made) made
        = made ++ entries := by
    clear ordered
    induction entries with
    | nil =>
      intro made _
      simp
    | cons entry rest ih =>
      intro made ordered
      have above : ∀ earlier ∈ made, earlier.1 < entry.1 := fun earlier mem =>
        (List.pairwise_append.1 ordered).2.2 earlier mem entry List.mem_cons_self
      have ordered' : Ordered ((made ++ [entry]) ++ rest) := by
        rw [List.append_assoc]
        exact ordered
      rw [List.foldl_cons, insert_of_above above]
      calc rest.foldl (fun made entry => Entries.insert entry.1 entry.2 made) (made ++ [entry])
          = (made ++ [entry]) ++ rest := ih _ ordered'
        _ = made ++ entry :: rest := List.append_assoc made [entry] rest
  exact folded [] ordered

/-- The entries that are there among those of a list. -/
def given (fields : Entries (Option α)) : Entries α :=
  fields.filterMap fun field => field.2.map (field.1, ·)

/-- The names of entries that are there come in the order of the list. -/
theorem sublist_keys_given (fields : Entries (Option α)) :
    ((given fields).map Prod.fst).Sublist (fields.map Prod.fst) := by
  induction fields with
  | nil => exact List.Sublist.slnil
  | cons field rest ih =>
    obtain ⟨name, value⟩ := field
    -- A field that is not there is passed over.
    cases value with
    | none => exact ih.cons name
    | some value => exact ih.cons_cons name

/-- An entry is looked up among those that are there exactly where it is. -/
theorem get?_given {fields : Entries (Option α)} (nodup : (fields.map Prod.fst).Nodup)
    (name : String) : (given fields).get? name = (fields.get? name).join := by
  induction fields with
  | nil => rfl
  | cons field rest ih =>
    obtain ⟨other, value⟩ := field
    obtain ⟨fresh, later⟩ := List.nodup_cons.1 nodup
    rw [get?_cons]
    cases value with
    | none =>
      have dropped : given ((other, none) :: rest) = given rest := rfl
      rw [dropped, ih later]
      by_cases same : other = name
      · -- No later entry has the name either.
        subst same
        simp [get?_eq_none fresh]
      · rw [if_neg same]
    | some value =>
      -- The entry is there in both lists, and in front.
      have kept : given ((other, some value) :: rest) = (other, value) :: given rest := rfl
      rw [kept, get?_cons, ih later]
      split <;> rfl

end Entries

namespace Dict

variable {α : Type} {dict : Dict α}

/-- The keys of a map are different. -/
theorem nodup_keys (dict : Dict α) : dict.keys.Nodup := dict.ordered.nodup

/-- What is looked up in a map is what its entries are. -/
theorem get?_eq_some {key : String} {value : α} :
    dict.get? key = some value ↔ (key, value) ∈ dict.entries :=
  Entries.get?_eq_some dict.nodup_keys

end Dict

/-- What is looked up with success is, where no name comes twice, the only entry of its name. -/
theorem Entries.filter_eq_singleton {α : Type} {entries : Entries α} {name : String} {value : α}
    (nodup : (entries.map Prod.fst).Nodup) (found : entries.get? name = some value) :
    entries.filter (·.1 = name) = [(name, value)] := by
  induction entries with
  | nil => cases found
  | cons entry rest ih =>
    obtain ⟨other, kept⟩ := entry
    obtain ⟨fresh, later⟩ := List.nodup_cons.1 nodup
    rw [get?_cons] at found
    by_cases same : other = name
    · subst same
      obtain rfl : kept = value := by simpa using found
      -- No other entry has the name.
      have none_ : rest.filter (·.1 = other) = [] := by
        refine List.filter_eq_nil_iff.2 fun entry mem => ?_
        have listed : entry.1 ∈ rest.map Prod.fst := List.mem_map_of_mem mem
        have differs : entry.1 ≠ other := fun again => fresh (again ▸ listed)
        simpa using differs
      rw [List.filter_cons_of_pos (by simp), none_]
    · rw [List.filter_cons_of_neg (by simpa using same)]
      exact ih later (by simpa [same] using found)

/-- An object of written fields has the names of those that are there, each once, and finds under
each what was written. -/
theorem Json.exists_ofFields {fields : Entries (Option Json)}
    (nodup : (fields.map Prod.fst).Nodup) :
    ∃ entries, Json.ofFields fields = .obj entries ∧ (entries.map Prod.fst).Nodup
      ∧ (∀ name ∈ entries.map Prod.fst, name ∈ fields.map Prod.fst)
      ∧ ∀ name, Entries.get? entries name = (fields.get? name).join := by
  -- What is there is sorted, which neither loses names nor finds other values.
  have nodup_given := (Entries.sublist_keys_given fields).nodup nodup
  refine ⟨(Entries.given fields).sorted, rfl, (Entries.ordered_sorted _).nodup,
    fun name mem => ?_, fun name => ?_⟩
  · exact (Entries.sublist_keys_given fields).subset (Entries.mem_keys_sorted.1 mem)
  · rw [Entries.get?_sorted nodup_given, Entries.get?_given nodup]

namespace Wire.Fields

/-- An object of written fields gives its entries to the fields of their names. -/
theorem placed_ofFields {fields : Entries (Option Json)} (nodup : (fields.map Prod.fst).Nodup) :
    ∃ entries, Placed true (fields.map Prod.fst) (Json.ofFields fields) entries
      ∧ ∀ name, entries.get? name = (fields.get? name).join := by
  obtain ⟨entries, written, once, known, found⟩ := Json.exists_ofFields nodup
  exact ⟨entries, .inl ⟨written, once.filter _, fun _ => known⟩, found⟩

/-- An object of written fields is a written form of what the fields say. -/
theorem record_ofFields {α : Type} {names : List String} {tells : Entries Json → α → Prop}
    {value : α} {fields : Entries (Option Json)} (nodup : names.Nodup)
    (all : fields.map Prod.fst = names)
    (told : ∀ entries, (∀ name, Entries.get? entries name = (fields.get? name).join) →
      tells entries value) :
    record names tells (Json.ofFields fields) value := by
  subst all
  obtain ⟨entries, placed, found⟩ := placed_ofFields nodup
  exact ⟨entries, placed, told entries found⟩

variable {entries : Entries Json} {name : String}

/-- A text that was written where it is there is read back. -/
theorem perhaps_text {value : Option String} (found : entries.get? name = value.map .str) :
    Form.text.Perhaps entries name value := by
  cases value with
  | none => exact .inl found
  | some value => exact ⟨_, found, rfl⟩

/-- A member of an enumeration that was written where it is there is read back. -/
theorem perhaps_choice {α : Type} [Choice α] {value : Option α}
    (found : entries.get? name = value.map Choice.encode) :
    Form.choice.Perhaps entries name value := by
  cases value with
  | none => exact .inl found
  | some value => exact ⟨_, found, rfl⟩

/-- The texts of a map that was written are read back. -/
theorem texts_ofDict (dict : Dict String) : Form.texts (Json.ofDict .str dict) dict := by
  -- The entries of a map are in order already.
  refine ⟨dict.entries, rfl, ?_⟩
  obtain ⟨entries, ordered⟩ := dict
  simp only [Dict.ofList, ordered.sorted_eq]

end Wire.Fields

end AnalyticsClient
