import AnalyticsClient.Proofs.Query.Admission
import AnalyticsClient.Proofs.Wire.Kept
import Mathlib.Data.List.Nodup
import Mathlib.Data.List.Perm.Subperm

/-! What becomes of named parameters once their names start with a dollar sign. -/

namespace AnalyticsClient

section

variable {α : Type}

/-- What is looked up among entries whose names were changed and which were put in one after the
other: the value of the greatest old name, or what was there before. -/
theorem Entries.get?_foldl_changed (change : String → String) {name : String} {value : α}
    {entries : Entries α} : ∀ made : Entries α, entries.Ordered →
      (Entries.get? ((entries.map fun entry => (change entry.1, entry.2)).foldl
          (fun made entry => made.insert entry.1 entry.2) made) name = some value
        ↔ (∃ key, (key, value) ∈ entries ∧ change key = name
            ∧ ∀ other ∈ entries.map Prod.fst, change other = name → other ≤ key)
          ∨ (∀ other ∈ entries.map Prod.fst, change other ≠ name)
            ∧ made.get? name = some value) := by
  -- What was made so far grows with each entry, so it stays quantified over.
  induction entries with
  | nil =>
    intro made _
    simp
  | cons entry rest ih =>
    intro made ordered
    obtain ⟨first, given⟩ := entry
    obtain ⟨below, ordered⟩ := List.pairwise_cons.1 ordered
    have above : ∀ other ∈ rest.map Prod.fst, first < other := by
      intro other mem
      obtain ⟨entry, mem', rfl⟩ := List.mem_map.1 mem
      exact below entry mem'
    rw [List.map_cons, List.foldl_cons, ih _ ordered, get?_insert]
    constructor
    · rintro (⟨key, mem, same, greatest⟩ | ⟨absent, found⟩)
      · -- The first name is below all others.
        refine .inl ⟨key, List.mem_cons_of_mem _ mem, same, fun other mem' same' => ?_⟩
        rcases List.mem_cons.1 mem' with rfl | later
        · exact String.lt_asymm (above key (List.mem_map_of_mem mem))
        · exact greatest other later same'
      · by_cases here : name = change first
        · rw [if_pos here] at found
          cases found
          refine .inl ⟨first, List.mem_cons_self, here.symm, fun other mem' same' => ?_⟩
          rcases List.mem_cons.1 mem' with rfl | later
          · exact String.lt_irrefl _
          · exact absurd same' (absent other later)
        · rw [if_neg here] at found
          refine .inr ⟨fun other mem' same' => ?_, found⟩
          rcases List.mem_cons.1 mem' with rfl | later
          · exact here same'.symm
          · exact absent other later same'
    · rintro (⟨key, mem, same, greatest⟩ | ⟨absent, found⟩)
      · rcases List.mem_cons.1 mem with first_ | later
        · -- No later entry comes under the name, since its old name would be greater.
          cases first_
          refine .inr ⟨fun other mem' same' => ?_, if_pos same.symm⟩
          exact greatest other (List.mem_cons_of_mem _ mem') same' (above other mem')
        · refine .inl ⟨key, later, same, fun other mem' => ?_⟩
          exact greatest other (List.mem_cons_of_mem _ mem')
      · refine .inr ⟨fun other mem' => absent other (List.mem_cons_of_mem _ mem'), ?_⟩
        exact (if_neg fun here => absent first List.mem_cons_self here.symm).trans found

namespace Dict

variable {dict : Dict α} {change : String → String}

/-- A key of a map whose keys were changed comes from one of the old ones. -/
theorem mem_keys_mapKeys {key : String} :
    key ∈ (dict.mapKeys change).keys ↔ ∃ old ∈ dict.keys, change old = key := by
  have keys : (dict.entries.map fun entry => (change entry.1, entry.2)).map Prod.fst
      = dict.keys.map change := by simp [Dict.keys]
  rw [mapKeys, Dict.keys, ofList, Entries.mem_keys_sorted, keys, List.mem_map]

/-- Under a changed key stands the value of the greatest key that became it. -/
theorem get?_mapKeys {name : String} {value : α} :
    (dict.mapKeys change).get? name = some value
      ↔ ∃ key, dict.get? key = some value ∧ change key = name
        ∧ ∀ other ∈ dict.keys, change other = name → other ≤ key := by
  have folded := @Entries.get?_foldl_changed α change name value dict.entries [] dict.ordered
  refine folded.trans ((or_iff_left ?_).trans ?_)
  rotate_left
  · simp only [get?_eq_some]
    rfl
  -- Nothing was there before.
  simp [Entries.get?]

/-- Changing the keys loses no entry where no two of them become one, and only there. -/
theorem length_mapKeys_iff :
    (dict.mapKeys change).entries.length = dict.entries.length ↔ (dict.keys.map change).Nodup := by
  have same : ∀ key, key ∈ (dict.mapKeys change).keys ↔ key ∈ dict.keys.map change := by
    intro key
    rw [mem_keys_mapKeys, List.mem_map]
  have lengths : (dict.mapKeys change).keys.length = (dict.mapKeys change).entries.length
      ∧ (dict.keys.map change).length = dict.entries.length := by simp [Dict.keys]
  rw [← lengths.1, ← lengths.2]
  constructor
  · intro equal
    -- The keys are among the changed ones, and as many, so they are those.
    have among := (nodup_keys (dict.mapKeys change)).subperm fun key => (same key).1
    exact (among.perm_of_length_le (Nat.le_of_eq equal.symm)).nodup (nodup_keys _)
  · intro nodup
    exact ((List.perm_ext_iff_of_nodup (nodup_keys _) nodup).2 same).length_eq

/-- Changing the keys does nothing where each of them stays as it is. -/
theorem mapKeys_of_fixed (fixed : ∀ key ∈ dict.keys, change key = key) :
    dict.mapKeys change = dict := by
  obtain ⟨entries, ordered⟩ := dict
  have unchanged : (entries.map fun entry => (change entry.1, entry.2)) = entries := by
    refine (List.map_congr_left fun entry mem => ?_).trans (List.map_id _)
    exact Prod.ext (fixed entry.1 (List.mem_map_of_mem mem)) rfl
  simp only [mapKeys, unchanged, ofList, ordered.sorted_eq]

/-- Changing the keys twice is changing them once, where a changed key stays as it is. -/
theorem mapKeys_mapKeys (stays : ∀ key, change (change key) = change key) :
    (dict.mapKeys change).mapKeys change = dict.mapKeys change := by
  refine mapKeys_of_fixed fun key mem => ?_
  obtain ⟨old, -, rfl⟩ := mem_keys_mapKeys.1 mem
  exact stays old

end Dict

end

/-- Whether a name starts with a dollar sign. -/
def Dollared (name : String) : Prop := name.toList.head? = some '$'

instance (name : String) : Decidable (Dollared name) :=
  inferInstanceAs (Decidable (name.toList.head? = some '$'))

/-- A name that starts with a dollar sign stays as it is. -/
theorem dollarName_of_dollared {name : String} (dollared : Dollared name) :
    dollarName name = name := by
  obtain ⟨rest, split⟩ := List.head?_eq_some_iff.1 dollared
  simp only [dollarName, split]

/-- A name that does not start with a dollar sign gets one. -/
theorem dollarName_of_not {name : String} (plain : ¬ Dollared name) :
    dollarName name = "$" ++ name := by
  unfold dollarName
  split
  · next rest split => exact absurd (List.head?_eq_some_iff.2 ⟨rest, split⟩) plain
  · rfl

/-- A name with a dollar sign in front starts with one. -/
theorem dollared_append (name : String) : Dollared ("$" ++ name) := by
  simp [Dollared, String.toList_append]

/-- No second dollar sign is put in front. -/
theorem dollarName_dollarName (name : String) : dollarName (dollarName name) = dollarName name := by
  by_cases dollared : Dollared name
  · rw [dollarName_of_dollared dollared, dollarName_of_dollared dollared]
  · rw [dollarName_of_not dollared, dollarName_of_dollared (dollared_append name)]

/-- A name that got a dollar sign starts with one. -/
theorem dollared_dollarName (name : String) : Dollared (dollarName name) := by
  by_cases dollared : Dollared name
  · rwa [dollarName_of_dollared dollared]
  · rw [dollarName_of_not dollared]
    exact dollared_append name

/-- A name gets to another one with a dollar sign in front from there or by staying as it is. -/
theorem dollarName_eq_append_iff {key other : String} (plain : ¬ Dollared key) :
    dollarName other = "$" ++ key ↔ other = key ∨ other = "$" ++ key := by
  by_cases dollared : Dollared other
  · have differs : other ≠ key := fun same => plain (same ▸ dollared)
    rw [dollarName_of_dollared dollared, or_iff_right differs]
  · have differs : other ≠ "$" ++ key := fun same => dollared (same ▸ dollared_append key)
    rw [dollarName_of_not dollared, or_iff_left differs]
    constructor
    · intro same
      have letters := congrArg String.toList same
      rw [String.toList_append, String.toList_append] at letters
      exact String.toList_inj.1 (List.append_cancel_left letters)
    · exact fun same => congrArg ("$" ++ ·) same

/-- Whether no parameter is given both with and without a dollar sign in front of its name. -/
def Apart (parameters : Dict Json) : Prop :=
  ∀ name ∈ parameters.keys, "$" ++ name ∈ parameters.keys → Dollared name

/-- The names of parameters stay different where none is given in both ways, and only there. -/
theorem nodup_dollarName_iff {parameters : Dict Json} :
    (parameters.keys.map dollarName).Nodup ↔ Apart parameters := by
  constructor
  · intro nodup name mem mem'
    refine Decidable.byContradiction fun plain => ?_
    have meet : dollarName name = dollarName ("$" ++ name) := by
      rw [dollarName_of_not plain, dollarName_of_dollared (dollared_append name)]
    have same := List.inj_on_of_nodup_map nodup mem mem' meet
    -- The name would have to start with the sign that it lacks.
    exact plain (same ▸ dollared_append name)
  · intro apart
    refine List.Nodup.map_on (fun a mem b mem' meet => ?_) parameters.nodup_keys
    by_cases dollared : Dollared a
    · rw [dollarName_of_dollared dollared] at meet
      by_cases dollared' : Dollared b
      · rwa [dollarName_of_dollared dollared'] at meet
      · rw [dollarName_of_not dollared'] at meet
        exact absurd (apart b mem' (meet ▸ mem)) dollared'
    · rw [dollarName_of_not dollared] at meet
      rcases (dollarName_eq_append_iff dollared).1 meet.symm with same | front
      · exact same.symm
      · exact absurd (apart a mem (front ▸ mem')) dollared

namespace RawQueryOptions

/-- The named parameters of understood options are those of the raw ones, their names changed. -/
theorem namedParameters_of_resolve {raw : RawQueryOptions} {options : QueryOptions}
    (resolved : raw.resolve = .ok options) :
    options.namedParameters = raw.namedParameters.mapKeys dollarName := by
  rcases raw.resolve_cases with ⟨_, _, _, -, -, -, understood⟩ | ⟨error, -, failed⟩
  · obtain rfl := Except.ok.inj (resolved.symm.trans understood)
    rfl
  · rw [resolved] at failed
    cases failed

/-- The named parameters of a request are those of the raw options, their names changed. -/
theorem namedParameters_make {raw : RawQueryOptions} {options : QueryOptions}
    (resolved : raw.resolve = .ok options) (statement : String) (defaultTimeout : Duration)
    (supply : IdSupply) :
    (QueryRequest.make statement options defaultTimeout supply).1.namedParameters
      = raw.namedParameters.mapKeys dollarName := by
  rw [QueryRequest.make_eq, QueryRequest.build, namedParameters_of_resolve resolved]
  -- The names are changed a second time, which does nothing more.
  exact Dict.mapKeys_mapKeys dollarName_dollarName

/-- Under each name the request has the value of the greatest name that the caller gave for it. So
all parameters come through, each with its own value, where none was given both with and without a
dollar sign, and only there. -/
theorem namedParameters_kept_iff (raw : RawQueryOptions) (statement : String)
    (defaultTimeout : Duration) (supply : IdSupply) :
    match raw.resolve with
    | .error _ => True
    | .ok options =>
      let given := raw.namedParameters
      let made := (QueryRequest.make statement options defaultTimeout supply).1.namedParameters
      (∀ name value, made.get? name = some value
          ↔ ∃ key, given.get? key = some value ∧ dollarName key = name
            ∧ ∀ other ∈ given.keys, dollarName other = name → other ≤ key)
        ∧ (((∀ key value, given.get? key = some value → made.get? (dollarName key) = some value)
            ∧ made.entries.length = given.entries.length)
          ↔ Apart given) := by
  cases resolved : raw.resolve with
  | error error => trivial
  | ok options =>
    have changed := namedParameters_make resolved statement defaultTimeout supply
    simp only [changed]
    refine ⟨fun name value => Dict.get?_mapKeys, ?_⟩
    rw [Dict.length_mapKeys_iff, nodup_dollarName_iff]
    refine and_iff_right_of_imp fun apart key value found => ?_
    -- No other name becomes this one, so the value is that of the only one.
    refine Dict.get?_mapKeys.2 ⟨key, found, rfl, fun other mem meet => ?_⟩
    have listed : key ∈ raw.namedParameters.keys := Entries.mem_keys_of_get? found
    obtain rfl : other = key :=
      List.inj_on_of_nodup_map (nodup_dollarName_iff.2 apart) mem listed meet
    exact String.lt_irrefl other

/-- Options with a parameter that is given both with and without a dollar sign. -/
def twiceNamed : RawQueryOptions :=
  { (default : RawQueryOptions) with
    namedParameters := .ofList [("$a", .nat 1), ("a", .nat 2)] }

/-- Of a parameter that is given both with and without a dollar sign only the second value comes
through, under the name that has the first one. -/
theorem twiceNamed_lost :
    twiceNamed.namedParameters.get? "$a" = some (.nat 1)
      ∧ ∃ options, twiceNamed.resolve = .ok options
        ∧ ∀ statement defaultTimeout supply,
          (QueryRequest.make statement options defaultTimeout supply).1.namedParameters.entries
            = [("$a", .nat 2)] := by
  refine ⟨by decide, ?_⟩
  obtain ⟨options, resolved⟩ : ∃ options, twiceNamed.resolve = .ok options := ⟨_, rfl⟩
  refine ⟨options, resolved, fun statement defaultTimeout supply => ?_⟩
  rw [namedParameters_make resolved]
  decide

end RawQueryOptions

end AnalyticsClient
