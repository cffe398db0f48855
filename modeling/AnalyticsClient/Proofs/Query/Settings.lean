import AnalyticsClient.Proofs.Query.NamedParameters
import AnalyticsClient.Proofs.Text.Utf8

/-! Settings of a query made one after the other: each slot has the last one made in it, whatever
was set in between, and the request has named parameters whose names start with a dollar sign. -/

namespace AnalyticsClient

/-- Maps are the same where the same is looked up in them. -/
theorem Dict.eq_of_get? {α : Type} {dict other : Dict α}
    (same : ∀ key, dict.get? key = other.get? key) : dict = other := by
  obtain ⟨entries, ordered⟩ := dict
  obtain ⟨entries', ordered'⟩ := other
  have members (entry : String × α) : entry ∈ entries ↔ entry ∈ entries' := by
    rw [← Entries.get?_eq_some ordered.nodup, ← Entries.get?_eq_some ordered'.nodup]
    exact Eq.congr (same entry.1) rfl
  have perm : entries.Perm entries' :=
    (List.perm_ext_iff_of_nodup ordered.nodup.of_map ordered'.nodup.of_map).2 members
  -- There is only one order in which the names increase.
  have equal : entries = entries' :=
    perm.eq_of_pairwise (fun _ _ _ _ less greater => absurd greater (String.lt_asymm less)) ordered
      ordered'
  subst equal
  rfl

/-- Where a setting goes; settings of different slots have nothing to do with each other. -/
inductive Slot where
  | scanConsistency
  | mutations
  | profile
  | timeout
  | clientContextId
  | metrics
  | readOnly
  | positional
  | named (name : String)
  | raw (name : String)
deriving DecidableEq

namespace QuerySetting

/-- The slot that a setting goes to. -/
def slot : QuerySetting → Slot
  | .scanConsistency _ => .scanConsistency
  | .mutations _ => .mutations
  | .profile _ => .profile
  | .timeout _ => .timeout
  | .clientContextId _ => .clientContextId
  | .metrics _ => .metrics
  | .readOnly _ => .readOnly
  | .positional _ => .positional
  | .named name _ => .named (dollarName name)
  | .namedAsIs name _ => .named name
  | .raw name _ => .raw name

/-- A setting as it is kept, a named parameter under the name that it goes by. -/
def kept : QuerySetting → QuerySetting
  | .named name value => .namedAsIs (dollarName name) value
  | other => other

/-- The positional parameter that a setting adds, if it adds one. -/
def positional? : QuerySetting → Option Json
  | .positional value => some value
  | _ => none

/-- A setting leaves a named parameter under a name that starts with a dollar sign, if any. -/
def isPrefixed : QuerySetting → Bool
  | .namedAsIs name _ => Dollared name
  | _ => true

end QuerySetting

namespace QueryOptions

/-- The last setting that options show in a slot, if there was one. -/
def shown (options : QueryOptions) : Slot → Option QuerySetting
  | .scanConsistency => options.scanConsistency.map .scanConsistency
  | .mutations => some (.mutations options.consistentWith)
  | .profile => options.profile.map .profile
  | .timeout => options.timeout.map .timeout
  | .clientContextId => options.clientContextId.map .clientContextId
  | .metrics => some (.metrics options.metrics)
  | .readOnly => some (.readOnly options.readOnly)
  | .positional => options.positionalParameters.getLast?.map .positional
  | .named name => (options.namedParameters.get? name).map (.namedAsIs name)
  | .raw name => (options.raw.get? name).map (.raw name)

/-- A setting shows in its own slot, and in no other one. -/
theorem shown_set (options : QueryOptions) (setting : QuerySetting) (slot : Slot) :
    (options.set setting).shown slot
      = if setting.slot = slot then some setting.kept else options.shown slot := by
  -- Only parameters in a map can share their kind and still go to different slots.
  cases setting <;> cases slot <;>
    simp only [set, shown, QuerySetting.slot, QuerySetting.kept, Dict.get?_insert] <;> grind

/-- The first of several settings is made before the others. -/
theorem setAll_cons (options : QueryOptions) (setting : QuerySetting) (rest : List QuerySetting) :
    options.setAll (setting :: rest) = (options.set setting).setAll rest := rfl

/-- After several settings each slot shows the last one made in it, or what it showed before. -/
theorem shown_setAll (slot : Slot) (settings : List QuerySetting) : ∀ options : QueryOptions,
    (options.setAll settings).shown slot
      = ((settings.filter (·.slot = slot)).getLast?.map QuerySetting.kept).or
        (options.shown slot) := by
  -- Each setting changes the options for those after it, so these stay quantified over.
  induction settings with
  | nil => exact fun _ => rfl
  | cons setting rest ih =>
    intro options
    rw [setAll_cons, ih, shown_set, List.filter_cons]
    by_cases own : setting.slot = slot
    · -- The setting shows as long as no later one goes to the same slot.
      rw [if_pos own, if_pos (decide_eq_true own), List.getLast?_cons]
      cases (rest.filter (·.slot = slot)).getLast? <;> rfl
    · rw [if_neg own, if_neg (by simpa using own)]

/-- Positional parameters come behind each other in the order in which they were added. -/
theorem positionalParameters_setAll (settings : List QuerySetting) : ∀ options : QueryOptions,
    (options.setAll settings).positionalParameters
      = options.positionalParameters ++ settings.filterMap QuerySetting.positional? := by
  induction settings with
  | nil => exact fun options => (List.append_nil _).symm
  | cons setting rest ih =>
    intro options
    rw [setAll_cons, ih]
    -- Only one kind of setting adds a parameter.
    cases setting <;> simp [set, List.filterMap_cons, QuerySetting.positional?]

/-- Options of which all is forgotten that can be set one by one. -/
def unset (options : QueryOptions) : QueryOptions :=
  { (default : QueryOptions) with
    adhoc := options.adhoc
    flexIndex := options.flexIndex
    maxParallelism := options.maxParallelism
    scanCap := options.scanCap
    scanWait := options.scanWait
    pipelineBatch := options.pipelineBatch
    pipelineCap := options.pipelineCap
    queryContext := options.queryContext }

/-- Nothing else is changed by settings. -/
theorem unset_setAll (settings : List QuerySetting) : ∀ options : QueryOptions,
    (options.setAll settings).unset = options.unset := by
  induction settings with
  | nil => exact fun _ => rfl
  | cons setting rest ih =>
    intro options
    rw [setAll_cons, ih]
    cases setting <;> rfl

/-- Options are told by what they show in the slots, their positional parameters and the rest. -/
theorem eq_of_shown {options other : QueryOptions}
    (shown : ∀ slot, options.shown slot = other.shown slot)
    (positional : options.positionalParameters = other.positionalParameters)
    (rest : options.unset = other.unset) : options = other := by
  -- What is shown of a value is shown of no other one.
  have told {α : Type} {wrap : α → QuerySetting} {value value' : Option α}
      (same : value.map wrap = value'.map wrap) (apart : Function.Injective wrap) :
      value = value' := Option.map_injective apart same
  have named : options.namedParameters = other.namedParameters :=
    Dict.eq_of_get? fun name => told (shown (.named name)) fun _ _ same => by cases same; rfl
  have raw : options.raw = other.raw :=
    Dict.eq_of_get? fun name => told (shown (.raw name)) fun _ _ same => by cases same; rfl
  have consistency := told (shown .scanConsistency) fun _ _ same => by cases same; rfl
  have profile := told (shown .profile) fun _ _ same => by cases same; rfl
  have timeout := told (shown .timeout) fun _ _ same => by cases same; rfl
  have id := told (shown .clientContextId) fun _ _ same => by cases same; rfl
  -- These three are always shown.
  have mutations := shown .mutations
  have metrics := shown .metrics
  have readOnly := shown .readOnly
  cases options
  cases other
  simp only [QueryOptions.shown, unset, Option.some.injEq, QuerySetting.mutations.injEq,
    QuerySetting.metrics.injEq, QuerySetting.readOnly.injEq, QueryOptions.mk.injEq] at *
  simp [*]

/-- Settings of which each slot gets the same in the same order come to the same, however they are
mixed. -/
theorem setAll_congr {settings others : List QuerySetting}
    (same : ∀ slot, settings.filter (·.slot = slot) = others.filter (·.slot = slot))
    (options : QueryOptions) : options.setAll settings = options.setAll others := by
  have positional (settings : List QuerySetting) : settings.filterMap QuerySetting.positional?
      = (settings.filter (·.slot = .positional)).filterMap QuerySetting.positional? := by
    rw [List.filterMap_filter]
    refine List.filterMap_congr fun setting _ => ?_
    cases setting <;> rfl
  -- What each slot shows, and the positional parameters, depend on the settings of one slot only.
  refine eq_of_shown (fun slot => ?_) ?_ ?_
  · rw [shown_setAll, shown_setAll, same]
  · rw [positionalParameters_setAll, positionalParameters_setAll, positional settings, same,
      ← positional others]
  · rw [unset_setAll, unset_setAll]

/-- Settings of different slots can be made in either order. -/
theorem setAll_swap {setting other : QuerySetting} (apart : setting.slot ≠ other.slot)
    (before after : List QuerySetting) (options : QueryOptions) :
    options.setAll (before ++ setting :: other :: after)
      = options.setAll (before ++ other :: setting :: after) := by
  refine setAll_congr (fun slot => ?_) options
  simp only [List.filter_append, List.filter_cons, decide_eq_true_eq]
  by_cases own : setting.slot = slot
  · -- The other setting does not count in this slot.
    have second : ¬ other.slot = slot := fun same => apart (own.trans same.symm)
    simp only [if_pos own, if_neg second]
  · simp only [if_neg own]

/-- Names start with a dollar sign as long as none is put in that does not. -/
theorem dollared_setAll (settings : List QuerySetting) :
    ∀ {options : QueryOptions}, (∀ name ∈ options.namedParameters.keys, Dollared name) →
      (∀ setting ∈ settings, setting.isPrefixed = true) →
      ∀ name ∈ (options.setAll settings).namedParameters.keys, Dollared name := by
  induction settings with
  | nil => exact fun start _ => start
  | cons setting rest ih =>
    intro options start all
    have first := all setting List.mem_cons_self
    -- Only the two kinds of named parameters add a name.
    refine ih ?_ fun setting mem => all setting (List.mem_cons_of_mem _ mem)
    intro name mem
    cases setting with
    | named given value =>
      rcases Entries.mem_keys_insert.1 mem with rfl | old
      · exact dollared_dollarName given
      · exact start name old
    | namedAsIs given value =>
      rcases Entries.mem_keys_insert.1 mem with rfl | old
      · exact of_decide_eq_true first
      · exact start name old
    | _ => exact start name mem

end QueryOptions

/-- What becomes of the names of parameters that a caller gave, each with a dollar sign put in front
where there was none. -/
structure Prefixed (given made : Dict Json) : Prop where
  names : ∀ name, name ∈ made.keys ↔ ∃ key ∈ given.keys,
    name = if Dollared key then key else "$" ++ key
  dollared : ∀ name ∈ made.keys, Dollared name
  /-- Under each name stands the value of the greatest key that became it, in the order of the
  bytes. -/
  greatest : ∀ name value, made.get? name = some value
    ↔ ∃ key, given.get? key = some value ∧ dollarName key = name
      ∧ ∀ other ∈ given.keys, dollarName other = name → ¬ Text.bytes key < Text.bytes other
  /-- Of a key and the same key with a dollar sign, the greater one has its value come through. -/
  twice : ∀ key ∈ given.keys, ¬ Dollared key → "$" ++ key ∈ given.keys →
    made.get? ("$" ++ key) = given.get?
      (if Text.bytes key < Text.bytes ("$" ++ key) then "$" ++ key else key)
  /-- Where each key starts with a dollar sign already, nothing changes. -/
  same : (∀ key ∈ given.keys, Dollared key) → made = given

/-- The names of a request are those that were given, with dollar signs. -/
theorem prefixed_mapKeys (given : Dict Json) : Prefixed given (given.mapKeys dollarName) := by
  have law (name : String) (value : Json) := @Dict.get?_mapKeys Json given dollarName name value
  have order (key other : String) : other ≤ key ↔ ¬ Text.bytes key < Text.bytes other := by
    rw [← Text.lt_iff_bytes_lt, String.not_lt]
  refine ⟨fun name => ?_, fun name mem => ?_, fun name value => ?_, fun key mem plain mem' => ?_,
    fun dollared => ?_⟩
  · rw [Dict.mem_keys_mapKeys]
    refine exists_congr fun key => and_congr_right fun _ => ?_
    by_cases dollared : Dollared key
    · rw [dollarName_of_dollared dollared, if_pos dollared, eq_comm]
    · rw [dollarName_of_not dollared, if_neg dollared, eq_comm]
  · obtain ⟨key, -, rfl⟩ := Dict.mem_keys_mapKeys.1 mem
    exact dollared_dollarName key
  · -- The order of texts is that of their bytes.
    simp only [law, order]
  · -- No other key than the two becomes this name, so the greater one of them is the greatest.
    have wins {winner : String} (among : winner ∈ given.keys)
        (becomes : winner = key ∨ winner = "$" ++ key) (above : key ≤ winner)
        (above' : "$" ++ key ≤ winner) :
        (given.mapKeys dollarName).get? ("$" ++ key) = given.get? winner := by
      obtain ⟨value, found⟩ := Entries.get?_of_mem among
      have found : given.get? winner = some value := found
      rw [found, law]
      refine ⟨winner, found, (dollarName_eq_append_iff plain).2 becomes, fun other _ meet => ?_⟩
      rcases (dollarName_eq_append_iff plain).1 meet with rfl | rfl
      · exact above
      · exact above'
    split
    · next less =>
      rw [← Text.lt_iff_bytes_lt] at less
      exact wins mem' (.inr rfl) (String.lt_asymm less) (String.le_refl _)
    · next notLess => exact wins mem (.inl rfl) (String.le_refl _) ((order _ _).2 notLess)
  · exact Dict.mapKeys_of_fixed fun key mem => dollarName_of_dollared (dollared key mem)

/-- Of two keys that become one the greater has its value come through, with or without the dollar
sign. -/
example : (Dict.mapKeys dollarName
      (.ofList [("a", Json.nat 1), ("$a", .nat 2), ("#a", .nat 3), ("$#a", .nat 4)])).entries
    = [("$#a", .nat 4), ("$a", .nat 1)] := by decide

namespace QueryRequest

/-- Whether a request has what a setting asks for. -/
def Has (request : QueryRequest) : QuerySetting → Prop
  | .scanConsistency consistency => request.scanConsistency = some consistency
  | .mutations state => request.mutationState = state.tokens
  | .profile mode => request.profile = mode
  | .timeout timeout => request.timeout = timeout
  | .clientContextId id => request.clientContextId = id
  | .metrics wanted => request.metrics = wanted
  | .readOnly wanted => request.readOnly = wanted
  | .positional value => request.positionalParameters.getLast? = some value
  | .named name value => request.namedParameters.get? (dollarName name) = some value
  | .namedAsIs name value => request.namedParameters.get? name = some value
  | .raw name value => request.raw.get? name = some value

/-- A request has what its options show; of a named parameter, as long as the names of the options
all start with dollar signs. -/
theorem has_make {options : QueryOptions} {setting : QuerySetting}
    (shown : options.shown setting.slot = some setting.kept)
    (dollared : ∀ name, setting.slot = .named name →
      ∀ key ∈ options.namedParameters.keys, Dollared key)
    (statement : String) (defaultTimeout : Duration) (supply : IdSupply) :
    (make statement options defaultTimeout supply).1.Has setting := by
  rw [make_eq]
  -- The names that are there are kept, so a named parameter is found where the options have it.
  have named (name : String) (goes : setting.slot = .named name) :=
    (prefixed_mapKeys options.namedParameters).same (dollared name goes)
  cases setting <;>
    simp_all [Has, build, QueryOptions.shown, QuerySetting.slot, QuerySetting.kept]

/-- What a request has of settings that were made one after the other. -/
structure Follows (request : QueryRequest) (options : QueryOptions) (settings : List QuerySetting) :
    Prop where
  /-- The last setting of each slot holds. Only a name that was put in without a dollar sign can
  stand in the way, and that only of named parameters. -/
  last : ∀ before setting later, settings = before ++ setting :: later →
    (∀ other ∈ later, other.slot ≠ setting.slot) →
    (∀ name, setting.slot = .named name → (∀ key ∈ options.namedParameters.keys, Dollared key)
      ∧ ∀ other ∈ settings, other.isPrefixed = true) →
    request.Has setting
  positional : request.positionalParameters
    = options.positionalParameters ++ settings.filterMap QuerySetting.positional?
  named : (∀ key ∈ options.namedParameters.keys, Dollared key) →
    (∀ setting ∈ settings, setting.isPrefixed = true) →
    request.namedParameters = (options.setAll settings).namedParameters

/-- The request for options follows the settings that were made in them. -/
theorem follows_make (options : QueryOptions) (settings : List QuerySetting) (statement : String)
    (defaultTimeout : Duration) (supply : IdSupply) :
    (make statement (options.setAll settings) defaultTimeout supply).1.Follows options
      settings where
  last before setting later split alone dollared := by
    refine has_make ?_ (fun name goes => ?_) statement defaultTimeout supply
    · -- The setting is the last of those that go to its slot.
      have none_later : later.filter (·.slot = setting.slot) = [] :=
        List.filter_eq_nil_iff.2 fun other mem => by simpa using alone other mem
      rw [QueryOptions.shown_setAll, split, List.filter_append, List.filter_cons_of_pos (by simp),
        none_later, List.getLast?_concat]
      rfl
    · obtain ⟨start, all⟩ := dollared name goes
      exact QueryOptions.dollared_setAll settings start all
  positional := by
    rw [make_eq]
    exact QueryOptions.positionalParameters_setAll settings options
  named start all := by
    rw [make_eq]
    exact (prefixed_mapKeys _).same (QueryOptions.dollared_setAll settings start all)

end QueryRequest

/-- The names of a request's parameters are those of its options, or of the raw options that these
were understood from, with dollar signs; a second change of names does nothing. Options show the
last setting of each slot, and so does the request for them, and settings of different slots can be
made in any order. -/
theorem QueryOptions.settings_exact (options : QueryOptions) (statement : String)
    (defaultTimeout : Duration) (supply : IdSupply) :
    let make (options : QueryOptions) :=
      QueryRequest.make statement options defaultTimeout supply
    Prefixed options.namedParameters (make options).1.namedParameters
      ∧ (∀ raw : RawQueryOptions, raw.resolve = .ok options →
          Prefixed raw.namedParameters (make options).1.namedParameters
            ∧ (make options).1.namedParameters = options.namedParameters)
      ∧ (∀ settings slot, (options.setAll settings).shown slot
          = ((settings.filter (·.slot = slot)).getLast?.map QuerySetting.kept).or
            (options.shown slot))
      ∧ (∀ settings, (make (options.setAll settings)).1.Follows options settings)
      ∧ (∀ settings others,
          (∀ slot, settings.filter (·.slot = slot) = others.filter (·.slot = slot)) →
          make (options.setAll settings) = make (options.setAll others))
      ∧ ∀ before setting other later, setting.slot ≠ other.slot →
          make (options.setAll (before ++ setting :: other :: later))
            = make (options.setAll (before ++ other :: setting :: later)) := by
  intro make
  have changed : (make options).1.namedParameters = options.namedParameters.mapKeys dollarName := by
    simp only [make, QueryRequest.make_eq, QueryRequest.build]
  refine ⟨?_, fun raw resolved => ?_, fun settings slot => ?_, fun settings => ?_,
    fun settings others same => ?_, fun before setting other later apart => ?_⟩
  · rw [changed]
    exact prefixed_mapKeys options.namedParameters
  · have given : (make options).1.namedParameters = raw.namedParameters.mapKeys dollarName :=
      RawQueryOptions.namedParameters_make resolved statement defaultTimeout supply
    refine ⟨?_, ?_⟩
    · rw [given]
      exact prefixed_mapKeys raw.namedParameters
    · rw [given, RawQueryOptions.namedParameters_of_resolve resolved]
  · exact shown_setAll slot settings options
  · exact QueryRequest.follows_make options settings statement defaultTimeout supply
  · rw [setAll_congr same]
  · rw [setAll_swap apart]

end AnalyticsClient
