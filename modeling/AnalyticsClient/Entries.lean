/-! Lists of named entries in increasing order of their names, and the maps they make. -/

namespace AnalyticsClient

/-- A list of named entries. -/
abbrev Entries (α : Type) := List (String × α)

namespace Entries

variable {α : Type}

/-- The names increase strictly, so no name comes twice. -/
def Ordered (entries : Entries α) : Prop :=
  entries.Pairwise fun a b => a.1 < b.1

instance (entries : Entries α) : Decidable entries.Ordered :=
  inferInstanceAs (Decidable (entries.Pairwise fun a b => a.1 < b.1))

/-- Puts an entry in its place; an entry of the same name gives way to it. -/
def insert (name : String) (value : α) : Entries α → Entries α
  | [] => [(name, value)]
  | (other, kept) :: rest =>
    if name < other then (name, value) :: (other, kept) :: rest
    else if name = other then (name, value) :: rest
    else (other, kept) :: insert name value rest

/-- The first entry of a name. -/
def get? (entries : Entries α) (name : String) : Option α :=
  (entries.find? fun entry => entry.1 = name).map Prod.snd

/-- The entries of a list in increasing order; of several with one name the last stays. -/
def sorted (entries : Entries α) : Entries α :=
  entries.foldl (fun made entry => made.insert entry.1 entry.2) []

/-- The entries of other names. -/
def erase (name : String) (entries : Entries α) : Entries α :=
  entries.filter fun entry => entry.1 ≠ name

/-- An inserted list names what it named before and the new name. -/
theorem mem_insert_name {name other : String} {value kept : α} {entries : Entries α}
    (mem : (other, kept) ∈ insert name value entries) :
    other = name ∨ (other, kept) ∈ entries := by
  induction entries with
  | nil => simp_all [insert]
  | cons entry rest ih =>
    simp only [insert] at mem
    split at mem
    · rcases List.mem_cons.1 mem with same | old
      · exact .inl (by simpa using congrArg Prod.fst same)
      · exact .inr old
    · split at mem
      · rcases List.mem_cons.1 mem with same | old
        · exact .inl (by simpa using congrArg Prod.fst same)
        · exact .inr (List.mem_cons_of_mem _ old)
      · rcases List.mem_cons.1 mem with same | later
        · exact .inr (by simp [same])
        · rcases ih later with same | old
          · exact .inl same
          · exact .inr (List.mem_cons_of_mem _ old)

/-- Insertion keeps the order. -/
theorem Ordered.insert {entries : Entries α} (ordered : entries.Ordered) (name : String)
    (value : α) : (entries.insert name value).Ordered := by
  induction entries with
  | nil => simp [Entries.insert, Ordered]
  | cons entry rest ih =>
    obtain ⟨other, kept⟩ := entry
    simp only [Ordered, List.pairwise_cons] at ordered
    simp only [Entries.insert]
    split
    · next before =>
      -- The new name is below the first, hence below every later one.
      simp only [Ordered, List.pairwise_cons, List.mem_cons]
      refine ⟨?_, ordered⟩
      rintro entry (rfl | later)
      · exact before
      · exact String.lt_trans before (ordered.1 entry later)
    · next notBefore =>
      split
      · next same =>
        subst same
        exact List.pairwise_cons.2 ⟨fun entry later => ordered.1 entry later, ordered.2⟩
      · next differs =>
        -- Neither below nor equal leaves above.
        have above : other < name := by
          rcases String.le_total name other with le | le
          · exact absurd (String.le_antisymm le (String.not_lt.1 notBefore)) differs
          · exact String.not_le.1 fun back => differs (String.le_antisymm back le)
        refine List.pairwise_cons.2 ⟨?_, ih ordered.2⟩
        rintro ⟨third, value'⟩ later
        rcases mem_insert_name later with rfl | old
        · exact above
        · exact ordered.1 _ old

/-- What is left of an ordered list is ordered. -/
theorem Ordered.erase {entries : Entries α} (ordered : entries.Ordered) (name : String) :
    (entries.erase name).Ordered := by
  simpa [Ordered, Entries.erase] using List.Pairwise.filter _ ordered

/-- A sorted list is ordered, whatever it was made from. -/
theorem ordered_sorted (entries : Entries α) : entries.sorted.Ordered := by
  have folded : ∀ (made : Entries α), made.Ordered →
      (entries.foldl (fun made entry => Entries.insert entry.1 entry.2 made) made).Ordered := by
    induction entries with
    | nil => intro made ordered; simpa using ordered
    | cons entry rest ih => intro made ordered; exact ih _ (ordered.insert _ _)
  exact folded [] List.Pairwise.nil

/-- Looking up a name looks at the first entry, and else at the rest. -/
theorem get?_cons (key name : String) (value : α) (rest : Entries α) :
    Entries.get? ((key, value) :: rest) name =
      if key = name then some value else Entries.get? rest name := by
  by_cases same : key = name <;> simp [get?, same]

/-- Looking up a name finds what was inserted under it last. -/
theorem get?_insert (entries : Entries α) (name other : String) (value : α) :
    (entries.insert name value).get? other =
      if other = name then some value else entries.get? other := by
  induction entries with
  | nil => simp only [Entries.insert, get?_cons]; grind
  | cons entry rest ih =>
    obtain ⟨third, kept⟩ := entry
    simp only [Entries.insert]
    split
    · simp only [get?_cons]; grind
    · split
      · simp only [get?_cons]; grind
      · simp only [get?_cons, ih]; grind

/-- Looking up a name finds nothing where its entries were taken out, and else what was there. -/
theorem get?_erase (entries : Entries α) (name other : String) :
    (entries.erase name).get? other = if other = name then none else entries.get? other := by
  induction entries with
  | nil => simp [Entries.erase, get?]
  | cons entry rest ih =>
    obtain ⟨third, kept⟩ := entry
    by_cases taken : third = name
    · have gone : Entries.erase name ((third, kept) :: rest) = Entries.erase name rest := by
        simp [Entries.erase, taken]
      rw [gone, ih, get?_cons]
      grind
    · have stays : Entries.erase name ((third, kept) :: rest)
          = (third, kept) :: Entries.erase name rest := by
        simp [Entries.erase, taken]
      rw [stays, get?_cons, ih, get?_cons]
      grind

end Entries

/-- A finite map with text keys, held as its entries in increasing order. -/
structure Dict (α : Type) where
  /-- The entries, each key once. -/
  entries : Entries α
  ordered : entries.Ordered
deriving DecidableEq

namespace Dict

variable {α : Type}

/-- The map without entries. -/
def empty : Dict α := ⟨[], List.Pairwise.nil⟩

instance : EmptyCollection (Dict α) := ⟨empty⟩

instance : Inhabited (Dict α) := ⟨empty⟩

/-- The value under a key. -/
def get? (dict : Dict α) (key : String) : Option α := dict.entries.get? key

/-- The map with a value put under a key. -/
def insert (dict : Dict α) (key : String) (value : α) : Dict α :=
  ⟨dict.entries.insert key value, dict.ordered.insert key value⟩

/-- The map without a key. -/
def erase (dict : Dict α) (key : String) : Dict α :=
  ⟨dict.entries.erase key, dict.ordered.erase key⟩

/-- The map of a list of entries; of several with one key the last stays. -/
def ofList (entries : Entries α) : Dict α := ⟨entries.sorted, Entries.ordered_sorted entries⟩

/-- The keys in increasing order. -/
def keys (dict : Dict α) : List String := dict.entries.map Prod.fst

/-- The map with its keys changed; of keys that become one, the greater old key stays. -/
def mapKeys (change : String → String) (dict : Dict α) : Dict α :=
  ofList (dict.entries.map fun entry => (change entry.1, entry.2))

@[simp] theorem get?_insert (dict : Dict α) (key other : String) (value : α) :
    (dict.insert key value).get? other = if other = key then some value else dict.get? other :=
  Entries.get?_insert dict.entries key other value

@[simp] theorem get?_erase (dict : Dict α) (key other : String) :
    (dict.erase key).get? other = if other = key then none else dict.get? other :=
  Entries.get?_erase dict.entries key other

end Dict

end AnalyticsClient
