import AnalyticsClient.Proofs.Wire.Plain
import AnalyticsClient.Wire.Fields

/-! Which JSON values are read as a record, by the names and the places of its fields. -/

namespace AnalyticsClient

namespace Entries

variable {α : Type}

/-- In two lists, one after the other, a name is looked up in the first one first. -/
theorem get?_append (first later : Entries α) (name : String) :
    Entries.get? (first ++ later) name = (first.get? name).or (later.get? name) := by
  simp [get?, List.find?_append, Option.map_or]

/-- Looking up a name finds nothing where nothing has it. -/
theorem get?_eq_none {entries : Entries α} {name : String}
    (absent : name ∉ entries.map Prod.fst) : entries.get? name = none := by
  -- An entry that was found would list its name.
  simp only [get?, Option.map_eq_none_iff, List.find?_eq_none, decide_eq_true_eq]
  intro entry mem same
  exact absent (same ▸ List.mem_map_of_mem mem)

/-- A name that something has is looked up with success. -/
theorem get?_of_mem {entries : Entries α} {name : String} (mem : name ∈ entries.map Prod.fst) :
    ∃ value, entries.get? name = some value := by
  induction entries with
  | nil => cases mem
  | cons entry rest ih =>
    obtain ⟨other, value⟩ := entry
    rw [get?_cons]
    by_cases same : other = name
    · exact ⟨value, if_pos same⟩
    · -- The first entry has another name, so a later one has this.
      have later : name ∈ rest.map Prod.fst :=
        (List.mem_cons.1 mem).resolve_left fun here => same here.symm
      rw [if_neg same]
      exact ih later

end Entries

namespace Wire.Fields

variable {σ α β : Type}

/-- A reading of fields that reads by name and by place alike, and checks no more than it reads. -/
class Regular (fields : Fields σ α) : Prop where
  check_isSome : ∀ name, (fields.check name).isSome = true ↔ name ∈ fields.names
  check_ok : ∀ {get value}, fields.byName get = .ok value → ∀ {name source},
    get name = some source → ∀ {check}, fields.check name = some check → check source = .ok ()
  byName_congr : ∀ {get get'}, (∀ name ∈ fields.names, get name = get' name) →
    fields.byName get = fields.byName get'
  byPlace_ok : fields.names.Nodup → ∀ {short items asked value left},
    fields.byPlace short ⟨items, none, asked⟩ = .ok (value, left)
      ↔ fields.byName (Entries.get? (fields.names.zip items)) = .ok value
        ∧ left = ⟨items.drop fields.names.length, none, asked + fields.names.length⟩

/-- A single field is read by name and by place alike. -/
instance (name : String) (absent : Option α) (read : Decoder σ α) :
    Regular (field name absent read) where
  check_isSome asked := by
    simp only [field, List.mem_singleton]
    split <;> simp [*]
  check_ok := by
    intro get value made asked source found check checks
    -- The only name that is checked is the one that is read.
    simp only [field] at checks made
    split at checks
    · next same =>
      subst same
      cases checks
      simp only [found] at made
      simp [made, Except.map]
    · cases checks
  byName_congr same := by
    simp only [field, same name (List.mem_singleton_self name)]
  byPlace_ok _ short items asked value left := by
    cases items with
    | nil =>
      -- Where nothing is left, the field takes its own value, if it has one.
      cases absent with
      | none => simp [field, Entries.get?]
      | some default => simp [field, Entries.get?, eq_comm]
    | cons source rest =>
      simp only [field, List.zip_cons_cons, Entries.get?_cons, if_true, bind, Except.bind, pure,
        Except.pure, List.length_singleton, List.drop_succ_cons, List.drop_zero]
      cases read source with
      | error fault => simp
      | ok made => simp [eq_comm]

instance (name : String) (read : Decoder σ α) : Regular (required name read) :=
  inferInstanceAs (Regular (field name none read))

instance (name : String) (value : α) (read : Decoder σ α) : Regular (withDefault name value read) :=
  inferInstanceAs (Regular (field name (some value) read))

instance [Source σ] (name : String) (read : Decoder σ α) : Regular (perhaps name read) :=
  inferInstanceAs (Regular (field name (some none) (optional read)))

/-- A change of the value that is made changes nothing about how fields are read. -/
instance (f : α → β) (fields : Fields σ α) [regular : Regular fields] : Regular (f <$> fields) where
  check_isSome := regular.check_isSome
  check_ok := by
    intro get value made
    -- The value is made of one that the fields themselves make.
    cases inner : fields.byName get with
    | error fault =>
      simp only [Functor.map, inner, Except.map] at made
      cases made
    | ok value' => exact regular.check_ok inner
  byName_congr same := by
    simp only [Functor.map, regular.byName_congr same]
  byPlace_ok nodup short items asked value left := by
    have places := @regular.byPlace_ok nodup short items asked
    simp only [Functor.map, map_eq_ok, Prod.exists, places, Prod.mk.injEq]
    constructor
    · intro holds
      obtain ⟨inner, _, ⟨byName, rfl⟩, made, same⟩ := holds
      exact ⟨⟨inner, byName, made⟩, same.symm⟩
    · intro holds
      obtain ⟨⟨inner, byName, made⟩, rfl⟩ := holds
      exact ⟨inner, _, ⟨byName, rfl⟩, made, rfl⟩

/-- A value that is refused after its fields were read changes nothing about how they are read. -/
instance (f : α → Except Fault β) (fields : Fields σ α) [regular : Regular fields] :
    Regular (fields.refine f) where
  check_isSome := regular.check_isSome
  check_ok := by
    intro get value made
    -- The value is made of one that the fields themselves make.
    obtain ⟨inner, read, -⟩ := bind_eq_ok.1 made
    exact regular.check_ok read
  byName_congr same := by
    simp only [refine, regular.byName_congr same]
  byPlace_ok nodup short items asked value left := by
    have places := @regular.byPlace_ok nodup short items asked
    have byName (get : String → Option σ) : (fields.refine f).byName get = .ok value
        ↔ ∃ inner, fields.byName get = .ok inner ∧ f inner = .ok value := bind_eq_ok
    rw [byName]
    simp only [refine, bind_eq_ok, Prod.exists, places, pure, Except.pure, Except.ok.injEq,
      Prod.mk.injEq]
    constructor
    · intro holds
      obtain ⟨inner, _, ⟨read, rfl⟩, _, made, rfl, rfl⟩ := holds
      exact ⟨⟨inner, read, made⟩, rfl⟩
    · intro holds
      obtain ⟨⟨inner, read, made⟩, rfl⟩ := holds
      exact ⟨inner, _, ⟨read, rfl⟩, value, made, rfl, rfl⟩

/-- Names that stand one after the other share out the items among them. -/
theorem zip_append_names (first later : List String) :
    ∀ items : List σ, (first ++ later).zip items
      = first.zip items ++ later.zip (items.drop first.length) := by
  -- Each name takes an item with it, so the items stay quantified over.
  induction first with
  | nil =>
    intro items
    rfl
  | cons name rest ih =>
    intro items
    cases items with
    | nil => simp
    | cons item items => simp [ih items]

/-- The names of a list by place are among the names of its fields. -/
theorem mem_of_mem_zip {names : List String} {items : List σ} {name : String}
    (mem : name ∈ (names.zip items).map Prod.fst) : name ∈ names := by
  obtain ⟨⟨_, item⟩, mem', rfl⟩ := List.mem_map.1 mem
  exact (List.of_mem_zip mem').1

/-- Where the fields of two readings have different names, the two are read one after the other. -/
instance (made : Fields σ (α → β)) (next : Fields σ α) [first : Regular made]
    [second : Regular next] : Regular (made <*> next) where
  check_isSome name := by
    have here := first.check_isSome name
    have there := second.check_isSome name
    simp only [Seq.seq, List.mem_append, ← here, ← there]
    cases made.check name <;> simp
  check_ok := by
    intro get value read name source found check checks
    simp only [Seq.seq, bind_eq_ok] at read
    obtain ⟨f, read₁, a, read₂, -⟩ := read
    simp only [Seq.seq] at checks
    -- The check is the first one that there is, and both readings went well.
    cases here : made.check name with
    | some check' =>
      simp only [here] at checks
      cases checks
      exact first.check_ok read₁ found here
    | none =>
      simp only [here] at checks
      exact second.check_ok read₂ found checks
  byName_congr same := by
    have same₁ := first.byName_congr fun name mem => same name (List.mem_append_left _ mem)
    have same₂ := second.byName_congr fun name mem => same name (List.mem_append_right _ mem)
    simp only [Seq.seq, same₁, same₂]
  byPlace_ok nodup short items asked value left := by
    obtain ⟨nodup₁, nodup₂, apart⟩ := List.nodup_append.1 nodup
    have places₁ := @first.byPlace_ok nodup₁ short
    have places₂ := @second.byPlace_ok nodup₂ short
    -- A name of the first fields is looked up among the first items, and one of the others is not.
    have get₁ : made.byName (Entries.get? ((made.names ++ next.names).zip items))
        = made.byName (Entries.get? (made.names.zip items)) := by
      refine first.byName_congr fun name mem => ?_
      rw [zip_append_names, Entries.get?_append,
        Entries.get?_eq_none fun later => apart name mem name (mem_of_mem_zip later) rfl]
      simp
    have get₂ : next.byName (Entries.get? ((made.names ++ next.names).zip items))
        = next.byName (Entries.get? (next.names.zip (items.drop made.names.length))) := by
      refine second.byName_congr fun name mem => ?_
      rw [zip_append_names, Entries.get?_append,
        Entries.get?_eq_none fun earlier => apart name (mem_of_mem_zip earlier) name mem rfl]
      simp
    simp only [Seq.seq, bind_eq_ok, Prod.exists, get₁, get₂, places₁, pure, Except.pure,
      Except.ok.injEq, Prod.mk.injEq, List.length_append, ← List.drop_drop, ← Nat.add_assoc]
    constructor
    · intro holds
      obtain ⟨f, _, ⟨read₁, rfl⟩, a, _, read, rfl, rfl⟩ := holds
      obtain ⟨read₂, rfl⟩ := places₂.1 read
      exact ⟨⟨f, read₁, a, read₂, rfl⟩, rfl⟩
    · intro holds
      obtain ⟨⟨f, read₁, a, read₂, rfl⟩, rfl⟩ := holds
      exact ⟨f, _, ⟨read₁, rfl⟩, a, _, places₂.2 ⟨read₂, rfl⟩, rfl, rfl⟩

section

variable [Source σ] [Plain σ] {fields : Fields σ α} {json : Json} {value : α}

/-- The entries of a record as plain values, looked up by their names. -/
def lookup (σ : Type) [Source σ] [Plain σ] (entries : Entries Json) (name : String) : Option σ :=
  (entries.get? name).map Plain.wrap

/-- How a JSON value gives entries to the fields of some names: as an object that has each of the
names at most once and, if it is to be `closed`, no other one, or as a list that gives its items to
the names in order and may end before the last. -/
def Placed (closed : Bool) (names : List String) (json : Json) (entries : Entries Json) : Prop :=
  json = .obj entries ∧ ((entries.map Prod.fst).filter (· ∈ names)).Nodup
      ∧ (closed = true → ∀ name ∈ entries.map Prod.fst, name ∈ names)
    ∨ ∃ items, json = .arr items ∧ items.length ≤ names.length ∧ entries = names.zip items

/-- The entries of an object as plain values. -/
def wrapped (σ : Type) [Source σ] [Plain σ] (entries : Entries Json) : List (String × σ) :=
  entries.map fun entry => (entry.1, Plain.wrap entry.2)

/-- An entry is looked up before or after it is made a plain value. -/
theorem get?_wrapped (entries : Entries Json) (name : String) :
    Entries.get? (wrapped σ entries) name = lookup σ entries name := by
  -- Names are left as they are, so both look at the same entry.
  induction entries with
  | nil => rfl
  | cons entry rest ih =>
    obtain ⟨other, json⟩ := entry
    have split : wrapped σ ((other, json) :: rest)
        = (other, Plain.wrap json) :: wrapped σ rest := rfl
    rw [lookup] at ih ⊢
    rw [split, Entries.get?_cons, Entries.get?_cons, ih]
    split <;> rfl

/-- A list that is paired with names is paired before or after it is made of plain values. -/
theorem zip_wrapped (names : List String) (items : List Json) :
    names.zip (items.map (Plain.wrap : Json → σ)) = wrapped σ (names.zip items) := by
  rw [wrapped, List.zip_map_right]
  rfl

/-- Where no name comes twice, looking up the name of an entry finds that entry. -/
theorem get?_of_nodup {names : List String} {entries : Entries Json} {name : String} {json : Json}
    (nodup : ((entries.map Prod.fst).filter (· ∈ names)).Nodup) (known : name ∈ names)
    (mem : (name, json) ∈ entries) : entries.get? name = some json := by
  induction entries with
  | nil => cases mem
  | cons entry rest ih =>
    obtain ⟨other, json'⟩ := entry
    rw [Entries.get?_cons]
    rcases List.mem_cons.1 mem with same | later
    · cases same
      exact if_pos rfl
    · -- The name comes later, so it is not the first one.
      have listed : name ∈ (rest.map Prod.fst).filter (· ∈ names) :=
        List.mem_filter.2 ⟨List.mem_map_of_mem later, by simpa using known⟩
      simp only [List.map_cons, List.filter_cons] at nodup
      split at nodup
      · obtain ⟨fresh, nodup⟩ := List.nodup_cons.1 nodup
        rw [if_neg fun same : other = name => fresh (same ▸ listed)]
        exact ih nodup later
      · next unknown =>
        rw [if_neg fun same => unknown (by simpa [same] using known)]
        exact ih nodup later

/-- What lets the members of an object pass when the fields of some names were `seen` before them. -/
structure Passes (manner : Manner) (fields : Fields σ α) (entries : Entries Json)
    (seen : List String) : Prop where
  once : ((entries.map Prod.fst).filter (· ∈ fields.names)).Nodup
  fresh : ∀ name ∈ entries.map Prod.fst, name ∈ fields.names → name ∉ seen
  /-- A record that refuses other names has none. -/
  own : manner.closed = true → ∀ name ∈ entries.map Prod.fst, name ∈ fields.names
  checked : ∀ entry ∈ entries, ∀ check, fields.check entry.1 = some check →
    check (Plain.wrap entry.2) = .ok ()

/-- A member of another name passes where others may come, and is not seen again. -/
theorem passes_cons_unknown {manner : Manner} {name : String} {rest : Entries Json}
    {seen : List String} (unknown : name ∉ fields.names) (checks : fields.check name = none) :
    Passes manner fields ((name, json) :: rest) seen
      ↔ ¬ manner.closed = true ∧ Passes manner fields rest seen := by
  -- The names that count are those of the rest.
  have names : (((name, json) :: rest).map Prod.fst).filter (· ∈ fields.names)
      = (rest.map Prod.fst).filter (· ∈ fields.names) :=
    List.filter_cons_of_neg (by simpa using unknown)
  constructor
  · intro passes
    have opened : ¬ manner.closed = true := fun closed =>
      unknown (passes.own closed name List.mem_cons_self)
    refine ⟨opened, ?_, ?_, fun closed => absurd closed opened, ?_⟩
    · rw [← names]
      exact passes.once
    · intro other mem
      exact passes.fresh other (List.mem_cons_of_mem _ mem)
    · intro entry mem
      exact passes.checked entry (List.mem_cons_of_mem _ mem)
  · intro both
    obtain ⟨opened, passes⟩ := both
    refine ⟨?_, ?_, fun closed => absurd closed opened, ?_⟩
    · rw [names]
      exact passes.once
    · intro other mem known
      rcases List.mem_cons.1 mem with same | later
      · subst same
        exact absurd known unknown
      · exact passes.fresh other later known
    · intro entry mem check checks'
      rcases List.mem_cons.1 mem with same | later
      · -- The name has no check.
        subst same
        rw [checks] at checks'
        cases checks'
      · exact passes.checked entry later check checks'

/-- A member of a known name passes where it was not seen and its check does; then it was seen. -/
theorem passes_cons_known {manner : Manner} {name : String} {rest : Entries Json}
    {seen : List String} {check : σ → Except Fault Unit} (known : name ∈ fields.names)
    (checks : fields.check name = some check) :
    Passes manner fields ((name, json) :: rest) seen
      ↔ name ∉ seen ∧ check (Plain.wrap json) = .ok ()
        ∧ Passes manner fields rest (name :: seen) := by
  have names : (((name, json) :: rest).map Prod.fst).filter (· ∈ fields.names)
      = name :: (rest.map Prod.fst).filter (· ∈ fields.names) :=
    List.filter_cons_of_pos (by simpa using known)
  constructor
  · intro passes
    have once := passes.once
    rw [names] at once
    obtain ⟨last, once⟩ := List.nodup_cons.1 once
    refine ⟨passes.fresh name List.mem_cons_self known,
      passes.checked _ List.mem_cons_self check checks, once, ?_, ?_, ?_⟩
    · intro other mem isKnown old
      rcases List.mem_cons.1 old with same | old
      · -- The name itself does not come again.
        subst same
        exact last (List.mem_filter.2 ⟨mem, by simpa using known⟩)
      · exact passes.fresh other (List.mem_cons_of_mem _ mem) isKnown old
    · intro closed other mem
      exact passes.own closed other (List.mem_cons_of_mem _ mem)
    · intro entry mem
      exact passes.checked entry (List.mem_cons_of_mem _ mem)
  · intro all
    obtain ⟨unseen, checked, passes⟩ := all
    refine ⟨?_, ?_, ?_, ?_⟩
    · -- The name was seen when the rest was read, so it is not in it.
      rw [names]
      refine List.nodup_cons.2 ⟨fun again => ?_, passes.once⟩
      exact passes.fresh name (List.mem_filter.1 again).1 known List.mem_cons_self
    · intro other mem isKnown
      rcases List.mem_cons.1 mem with same | later
      · subst same
        exact unseen
      · exact fun old => passes.fresh other later isKnown (List.mem_cons_of_mem _ old)
    · intro closed other mem
      rcases List.mem_cons.1 mem with same | later
      · subst same
        exact known
      · exact passes.own closed other later
    · intro entry mem check' checks'
      rcases List.mem_cons.1 mem with same | later
      · subst same
        rw [checks] at checks'
        cases checks'
        exact checked
      · exact passes.checked entry later check' checks'

/-- The members of an object are gone through without a fault exactly where they pass. -/
theorem checkMembers_eq_ok [regular : Regular fields] (manner : Manner) (entries : Entries Json) :
    ∀ seen, checkMembers manner fields none seen (wrapped σ entries) = .ok ()
      ↔ Passes manner fields entries seen := by
  -- What was seen grows from member to member, so it stays quantified over.
  induction entries with
  | nil =>
    intro seen
    refine ⟨fun _ => ⟨List.nodup_nil, ?_, ?_, ?_⟩, fun _ => rfl⟩ <;> simp
  | cons entry rest ih =>
    intro seen
    obtain ⟨name, json⟩ := entry
    have split : wrapped σ ((name, json) :: rest)
        = (name, Plain.wrap json) :: wrapped σ rest := rfl
    have known := regular.check_isSome name
    rw [split, checkMembers]
    cases checks : fields.check name with
    | none =>
      have unknown : name ∉ fields.names := by simpa [checks] using known
      rw [passes_cons_unknown unknown checks]
      by_cases closed : manner.closed = true
      · -- Another name is refused.
        simp [closed]
      · -- Another name is passed over, so the rest decides.
        simp [closed, then_eq_ok, Plain.skip_wrap, ih seen]
    | some check =>
      have known : name ∈ fields.names := by simpa [checks] using known
      rw [passes_cons_known known checks]
      by_cases twice : name ∈ seen
      · simp [twice]
      · simp [twice, then_eq_ok, ih (name :: seen)]

/-- All items of a list are used up by fields, or none but those that fields were there for. -/
theorem finishItems_eq_ok (count : Nat) (items : List σ) (asked : Nat) :
    finishItems count ⟨items, none, asked⟩ = .ok () ↔ items = [] := by
  -- Values in memory refuse a list that goes on after its last field.
  cases items with
  | nil => simp [finishItems, atEnd]
  | cons item rest =>
    simp only [finishItems, reduceCtorEq, iff_false]
    rcases Plain.style_held (σ := σ) with style | style <;> rw [style] <;> simp

/-- An object is read as a record where known names come once, others may come, and the value can be
made of its members. -/
theorem read_obj [regular : Regular fields] (manner : Manner) (members : Entries Json) :
    fields.read manner (Plain.wrap (.obj members)) = .ok value
      ↔ (((members.map Prod.fst).filter (· ∈ fields.names)).Nodup
          ∧ (manner.closed = true → ∀ name ∈ members.map Prod.fst, name ∈ fields.names))
        ∧ fields.byName (lookup σ members) = .ok value := by
  simp only [read, Plain.view_wrap, View.ofJson]
  have lookup_eq : (fun name => Entries.get? (members.map fun member =>
        (member.1, (Plain.wrap member.2 : σ))) name) = lookup σ members :=
    funext fun name => get?_wrapped members name
  have members_eq := @checkMembers_eq_ok σ α _ _ fields regular manner members []
  rw [then_eq_ok, lookup_eq]
  constructor
  · intro holds
    obtain ⟨checked, made⟩ := holds
    have passes := members_eq.1 checked
    exact ⟨⟨passes.once, passes.own⟩, made⟩
  · intro holds
    obtain ⟨⟨once, own⟩, made⟩ := holds
    refine ⟨members_eq.2 ⟨once, fun _ _ _ => List.not_mem_nil, own, ?_⟩, made⟩
    -- What the value was made of passes each check, so the checks ask for nothing more.
    intro entry mem check checks
    obtain ⟨name, json⟩ := entry
    have known : name ∈ fields.names := (regular.check_isSome name).1 (by simp [checks])
    have found : lookup σ members name = some (Plain.wrap json) := by
      simp [lookup, get?_of_nodup once known mem]
    exact regular.check_ok made found checks

/-- A list is read as a record where it is no longer than the names and the value can be made of its
items, each under the name of its place. -/
theorem read_arr [regular : Regular fields] (nodup : fields.names.Nodup) (manner : Manner)
    (items : List Json) :
    fields.read manner (Plain.wrap (.arr items)) = .ok value
      ↔ items.length ≤ fields.names.length
        ∧ fields.byName (lookup σ (fields.names.zip items)) = .ok value := by
  have lookup_eq : Entries.get? (wrapped σ (fields.names.zip items))
      = lookup σ (fields.names.zip items) :=
    funext fun name => get?_wrapped _ name
  simp only [read, Plain.view_wrap, View.ofJson, bind_eq_ok, Prod.exists,
    regular.byPlace_ok nodup, zip_wrapped, lookup_eq]
  constructor
  · intro holds
    obtain ⟨value', left, ⟨made, rfl⟩, ⟨⟩, finished, same⟩ := holds
    cases same
    -- The fields take their items from the front, so those beyond the last name are left.
    rw [finishItems_eq_ok, List.drop_eq_nil_iff, List.length_map] at finished
    exact ⟨finished, made⟩
  · intro holds
    obtain ⟨short, made⟩ := holds
    refine ⟨value, _, ⟨made, rfl⟩, (), ?_, rfl⟩
    rw [finishItems_eq_ok, List.drop_eq_nil_iff, List.length_map]
    exact short

/-- A JSON value is read as a record exactly where it gives entries to the fields of which the
value can be made. -/
theorem read_wrap [regular : Regular fields] (nodup : fields.names.Nodup) (manner : Manner) :
    fields.read manner (Plain.wrap json) = .ok value
      ↔ ∃ entries, Placed manner.closed fields.names json entries
        ∧ fields.byName (lookup σ entries) = .ok value := by
  cases json with
  | obj members =>
    rw [read_obj]
    constructor
    · intro holds
      obtain ⟨⟨once, own⟩, made⟩ := holds
      exact ⟨members, .inl ⟨rfl, once, own⟩, made⟩
    · intro holds
      obtain ⟨entries, placed, made⟩ := holds
      rcases placed with ⟨same, once, own⟩ | ⟨items, impossible, -⟩
      · cases same
        exact ⟨⟨once, own⟩, made⟩
      · cases impossible
  | arr items =>
    rw [read_arr nodup]
    constructor
    · intro holds
      obtain ⟨short, made⟩ := holds
      exact ⟨_, .inr ⟨items, rfl, short, rfl⟩, made⟩
    · intro holds
      obtain ⟨entries, placed, made⟩ := holds
      rcases placed with ⟨impossible, -⟩ | ⟨items', same, short, rfl⟩
      · cases impossible
      · cases same
        exact ⟨short, made⟩
  | null | bool | int | float | str =>
    -- No other value is a record.
    simp [read, Plain.view_wrap, View.ofJson, unexpected, Placed]

end

end Wire.Fields

end AnalyticsClient
