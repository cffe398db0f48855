import AnalyticsClient.Proofs.Mutation.Translation
import AnalyticsClient.Proofs.Text.Within
import AnalyticsClient.Proofs.Wire.Members

/-! Tokens that callers hand over and that are refused: whether the reason names a field that is at
fault. -/

namespace AnalyticsClient

open Wire Wire.Fields

namespace Wire

namespace Position

/-- A message that does not end with a digit has no place at its end. -/
theorem settle_of_last {message : String} {front : List Char} {last : Char}
    (ends : message.toList = front ++ [last]) (letter : last.isDigit = false) :
    settle message = message := by
  have placeless : split? message = none := by
    simp [split?, lastNumber?, ends, letter, word?]
  simp [settle, placeless]

/-- The digits at the end of a message that expects a word of 64 bits are no place. -/
theorem settle_u64 (message : String) :
    settle (message ++ ", expected " ++ "u64") = message ++ ", expected " ++ "u64" := by
  have placeless : split? (message ++ ", expected " ++ "u64") = none := by
    simp [split?, lastNumber?, word?]
  simp [settle, placeless]

end Position

/-- The outside of a JSON value. -/
def Shape.ofJson (json : Json) : Shape := (View.ofJson (id : Json → Json) json).shape

/-- The faults of a value where another type, or another value of the type, is expected. -/
def Misfit (json : Json) (expected : String) (fault : Fault) : Prop :=
  fault = .wrongType (.ofJson json) expected ∨ fault = .wrongValue (.ofJson json) expected

/-- A decoder that reads the values of a type and refuses any other one for not being of it. -/
structure Sorts {α : Type} (read : Decoder Json α) (typed : Json → Prop) (expected : String) :
    Prop where
  typed_of_ok : ∀ {json value}, read json = .ok value → typed json
  misfit_of_error : ∀ {json fault}, read json = .error fault →
    ¬ typed json ∧ Misfit json expected fault

/-- A word of 64 bits is read from the number that it is. -/
theorem u64_eq_ok {json : Json} {word : UInt64} : u64 json = .ok word ↔ json = .nat word.toNat :=
  have reads : Reads (u64 : Decoder Json UInt64) (Form.natural UInt64.toNat) := inferInstance
  reads.read_wrap

/-- Words of 64 bits are told from other values. -/
theorem sorts_u64 : Sorts u64 (fun json => ∃ word : UInt64, json = .nat word.toNat) "u64" where
  typed_of_ok read := ⟨_, u64_eq_ok.1 read⟩
  misfit_of_error := by
    intro json fault refused
    constructor
    · -- A word would have been read.
      intro typed
      obtain ⟨word, same⟩ := typed
      rw [u64_eq_ok.2 same] at refused
      cases refused
    · cases json with
      | int value =>
        -- A whole number is refused for its value, anything else for its type.
        simp only [u64, whole, Source.view, View.ofJson] at refused
        split at refused
        · cases refused
        · cases refused
          exact .inr rfl
      | null | bool | float | str | arr | obj =>
        cases refused
        exact .inl rfl

/-- Texts are told from other values. -/
theorem sorts_string : Sorts Wire.string (fun json => ∃ text, json = .str text) "a string" where
  typed_of_ok read := ⟨_, (string_wrap (σ := Json)).1 read⟩
  misfit_of_error := by
    intro json fault refused
    cases json with
    | str => cases refused
    | null | bool | int | float | arr | obj =>
      cases refused
      exact ⟨by simp, .inl rfl⟩

/-- Only the shape of a text tells what is in the value. -/
theorem underscore_notMem_describe {json : Json} (other : ∀ text, json ≠ .str text) :
    '_' ∉ ((Shape.ofJson json).describe Binary64.render).toList := by
  -- What is shown of a value is fixed words and digits, and no digit is an underscore.
  cases json with
  | str text => exact absurd rfl (other text)
  | bool value =>
    cases value <;>
      simp [Shape.ofJson, View.ofJson, View.shape, Shape.describe, backquoted]
  | int value =>
    have digits := Text.underscore_notMem_int value
    rw [Int.toString_eq_repr] at digits
    simp [Shape.ofJson, View.ofJson, View.shape, Shape.describe, backquoted, digits]
  | float value =>
    have digits := value.underscore_notMem_render
    simp [Shape.ofJson, View.ofJson, View.shape, Shape.describe, backquoted, digits]
  | null | arr | obj => simp [Shape.ofJson, View.ofJson, View.shape, Shape.describe]

/-- What can be found in the message about a value that does not fit is what is in its text. -/
theorem infix_misfit {word : List Char} (findable : Text.Findable word) {json : Json}
    {expected : String} {fault : Fault} (misfit : Misfit json expected fault)
    (plain : '_' ∉ expected.toList) :
    word <:+: (fault.messageWith Binary64.render).toList
      ↔ ∃ text, json = .str text ∧ word <:+: text.toList := by
  -- Either way the value is described between two texts that are no part of it.
  obtain ⟨before, apart, message⟩ : ∃ before : String, '_' ∉ before.toList
      ∧ fault.messageWith Binary64.render
        = before ++ (Shape.ofJson json).describe Binary64.render ++ ", expected " ++ expected := by
    rcases misfit with rfl | rfl
    · exact ⟨"invalid type: ", by simp, rfl⟩
    · exact ⟨"invalid value: ", by simp, rfl⟩
  have after : '_' ∉ ", expected ".toList ++ expected.toList := by simpa using plain
  by_cases isText : ∃ text, json = .str text
  · obtain ⟨text, rfl⟩ := isText
    have split : (fault.messageWith Binary64.render).toList
        = (before.toList ++ "string ".toList) ++ (Text.quoted text).toList
          ++ (", expected ".toList ++ expected.toList) := by
      rw [message]
      simp [Shape.ofJson, View.ofJson, View.shape, Shape.describe]
    rw [split, findable.infix_quoted (by simpa using apart) after]
    simp
  · -- Nothing of another value could be taken for a word with an underscore.
    have other : ∀ text, json ≠ .str text := fun text same => isText ⟨text, same⟩
    have described := underscore_notMem_describe other
    have nowhere : ¬ word <:+: (fault.messageWith Binary64.render).toList :=
      Text.not_infix_of_underscore findable.underscore (by
        rw [message]
        simpa using ⟨apart, described, plain⟩)
    simp [nowhere, other]

end Wire

namespace MutationToken

/-- The names of the fields of a token. -/
def fieldNames : List String :=
  ["partition_id", "partition_uuid", "sequence_number", "bucket_name"]

/-- A value is of the type of the field of a name: the bucket is named by a text, and the others are
words of 64 bits. -/
def Typed (name : String) (json : Json) : Prop :=
  if name = "bucket_name" then ∃ text, json = .str text
  else ∃ word : UInt64, json = .nat word.toNat

/-- How a type is called that is expected for the field of a name. -/
def expected (name : String) : String := if name = "bucket_name" then "a string" else "u64"

/-- The fields of an object that are at fault. -/
inductive Faulty (given : Dict Json) : String → Prop
  | missing {name : String} (known : name ∈ fieldNames) (lacks : given.get? name = none) :
    Faulty given name
  | illTyped {name : String} {json : Json} (known : name ∈ fieldNames)
    (found : given.get? name = some json) (misfit : ¬ Typed name json) : Faulty given name
  | outOfRange {word : UInt64} (found : given.get? "partition_id" = some (.nat word.toNat))
    (beyond : UInt16.size ≤ word.toNat) : Faulty given "partition_id"
  | empty (found : given.get? "bucket_name" = some (.str "")) : Faulty given "bucket_name"

/-- All fields of an object that are there are of their types. -/
def WellTyped (given : Dict Json) : Prop :=
  ∀ name ∈ fieldNames, ∀ json, given.get? name = some json → Typed name json

/-- The first ill-typed field in the order of the names. -/
structure FirstIllTyped (given : Dict Json) (name : String) (json : Json) : Prop where
  known : name ∈ fieldNames
  found : given.get? name = some json
  misfit : ¬ Typed name json
  before : ∀ other ∈ fieldNames, other < name → ∀ value, given.get? other = some value →
    Typed other value

/-- The names of the fields can be found in messages. -/
theorem findable_of_known {name : String} (known : name ∈ fieldNames) :
    Text.Findable name.toList := by
  unfold fieldNames at known
  simp only [List.mem_cons, List.not_mem_nil, or_false] at known
  rcases known with rfl | rfl | rfl | rfl <;> decide

variable {α : Type} {read : Decoder Json α} {given : Dict Json} {name : String} {json : Json}

/-- The check of a field passes where the value is of its type. -/
theorem check_of_sorts (sorts : Sorts read (Typed name) (expected name)) (json : Json) :
    ((read json).map (fun _ => ()) = .ok () ∧ Typed name json)
      ∨ ∃ fault, (read json).map (fun _ => ()) = .error fault ∧ ¬ Typed name json
        ∧ Misfit json (expected name) fault := by
  cases outcome : read json with
  | ok value => exact .inl ⟨rfl, sorts.typed_of_ok outcome⟩
  | error fault => exact .inr ⟨fault, rfl, sorts.misfit_of_error outcome⟩

/-- The partition and the numbers are sorted as words. -/
theorem sorts_word (other : name ≠ "bucket_name") : Sorts u64 (Typed name) (expected name) := by
  have typed : Typed name = fun json => ∃ word : UInt64, json = .nat word.toNat :=
    funext fun json => if_neg other
  rw [typed, expected, if_neg other]
  exact sorts_u64

/-- The bucket is sorted as a text. -/
theorem sorts_bucketName : Sorts Wire.string (Typed "bucket_name") (expected "bucket_name") :=
  sorts_string

/-- The field of a name is checked for its type. -/
theorem Claimed.check_fields (known : name ∈ fieldNames) :
    ∃ check, (Claimed.fields : Fields Json Claimed).check name = some check
      ∧ ∀ json, (check json = .ok () ∧ Typed name json)
        ∨ ∃ fault, check json = .error fault ∧ ¬ Typed name json
          ∧ Misfit json (expected name) fault := by
  simp only [fieldNames, List.mem_cons, List.not_mem_nil, or_false] at known
  -- Three of the fields are words, and the fourth one is a text.
  rcases known with rfl | rfl | rfl | rfl
  · exact ⟨_, rfl, check_of_sorts (sorts_word (by decide))⟩
  · exact ⟨_, rfl, check_of_sorts (sorts_word (by decide))⟩
  · exact ⟨_, rfl, check_of_sorts (sorts_word (by decide))⟩
  · exact ⟨_, rfl, check_of_sorts sorts_bucketName⟩

/-- Of two first ill-typed fields, the one is the other. -/
theorem FirstIllTyped.unique {other : String} {value : Json}
    (first : FirstIllTyped given name json) (second : FirstIllTyped given other value) :
    name = other ∧ json = value := by
  -- Of two names that differ one comes first, and all before the first ill-typed one are right.
  have notBelow : ¬ name < other := fun below =>
    first.misfit (second.before name first.known below json first.found)
  have notAbove : ¬ other < name := fun above =>
    second.misfit (first.before other second.known above value second.found)
  obtain rfl : name = other :=
    String.le_antisymm (String.not_lt.1 notAbove) (String.not_lt.1 notBelow)
  exact ⟨rfl, Option.some.inj (first.found.symm.trans second.found)⟩

/-- Where not all fields are of their types, there is a first that is not. -/
theorem FirstIllTyped.exists_or (given : Dict Json) :
    (∃ name json, FirstIllTyped given name json) ∨ WellTyped given := by
  classical
  cases search : given.entries.find? fun entry =>
      decide (entry.1 ∈ fieldNames ∧ ¬ Typed entry.1 entry.2) with
  | none =>
    refine .inr fun name known json found => ?_
    have mem : (name, json) ∈ given.entries := Dict.get?_eq_some.1 found
    simpa [known] using List.find?_eq_none.1 search _ mem
  | some entry =>
    obtain ⟨name, json⟩ := entry
    obtain ⟨bad, front, back, split, fine⟩ := List.find?_eq_some_iff_append.1 search
    obtain ⟨known, misfit⟩ := of_decide_eq_true bad
    have found : given.get? name = some json :=
      Dict.get?_eq_some.2 (split ▸ List.mem_append_right _ List.mem_cons_self)
    refine .inl ⟨name, json, known, found, misfit, fun other otherKnown below value present => ?_⟩
    -- A field of a smaller name stands before the one that was found.
    have mem : (other, value) ∈ given.entries := Dict.get?_eq_some.1 present
    have ordered : Entries.Ordered (front ++ (name, json) :: back) := split ▸ given.ordered
    rw [split] at mem
    obtain ⟨-, later, -⟩ := List.pairwise_append.1 ordered
    rcases List.mem_append.1 mem with ahead | behind
    · simpa [otherKnown] using fine (other, value) ahead
    · rcases List.mem_cons.1 behind with same | behind
      · cases same
        exact absurd below (String.lt_irrefl _)
      · exact absurd below (String.lt_asymm ((List.pairwise_cons.1 later).1 _ behind))

/-- How the object of a claimed token is read. -/
def Claimed.manner : Manner := ⟨"struct RawToken", false, true⟩

/-- The members of an object are refused for the first of them that is. -/
theorem checkMembers_append {σ α : Type} [Source σ] [Plain σ] {fields : Fields σ α}
    [regular : Regular fields] {manner : Manner} {check : σ → Except Fault Unit} {fault : Fault}
    {name : String} {json : Json} {back : Entries Json}
    (checks : fields.check name = some check) (refused : check (Plain.wrap json) = .error fault)
    (front : Entries Json) : ∀ seen, Passes manner fields front seen → name ∉ seen →
      name ∉ front.map Prod.fst →
      checkMembers manner fields none seen (wrapped σ (front ++ (name, json) :: back))
        = .error fault := by
  -- What was seen grows from member to member, so it stays quantified over.
  induction front with
  | nil =>
    intro seen _ unseen _
    have split : wrapped σ ([] ++ (name, json) :: back)
        = (name, Plain.wrap json) :: wrapped σ back := rfl
    rw [split, checkMembers]
    simp only [checks, if_neg unseen, refused]
    rfl
  | cons entry rest ih =>
    intro seen passes unseen absent
    obtain ⟨other, value⟩ := entry
    obtain ⟨differs, absent⟩ := not_or.1 (fun mem => absent (List.mem_cons.2 mem))
    have split : wrapped σ ((other, value) :: rest ++ (name, json) :: back)
        = (other, Plain.wrap value) :: wrapped σ (rest ++ (name, json) :: back) := rfl
    have known := regular.check_isSome other
    rw [split, checkMembers]
    cases checks' : fields.check other with
    | none =>
      have unknown : other ∉ fields.names := by simpa [checks'] using known
      obtain ⟨opened, passes⟩ := (passes_cons_unknown unknown checks').1 passes
      simp only [if_neg opened, Plain.skip_wrap]
      exact ih seen passes unseen absent
    | some check' =>
      have known : other ∈ fields.names := by simpa [checks'] using known
      obtain ⟨fresh, passed, passes⟩ := (passes_cons_known known checks').1 passes
      have unseen' : name ∉ other :: seen :=
        List.not_mem_cons_of_ne_of_not_mem differs unseen
      simp only [if_neg fresh, passed]
      exact ih (other :: seen) passes unseen' absent

/-- Members of different names that are of their types pass. -/
theorem Claimed.passes {entries : Entries Json} (nodup : (entries.map Prod.fst).Nodup)
    (typed : ∀ entry ∈ entries, entry.1 ∈ fieldNames → Typed entry.1 entry.2) :
    Passes manner (Claimed.fields : Fields Json Claimed) entries [] where
  once := nodup.filter _
  fresh _ _ _ := List.not_mem_nil
  own closed := by cases closed
  checked entry mem check checks := by
    have regular : Regular (Claimed.fields : Fields Json Claimed) := inferInstance
    have known : entry.1 ∈ fieldNames := (regular.check_isSome entry.1).1 (by rw [checks]; rfl)
    obtain ⟨check', checks', cases⟩ := Claimed.check_fields known
    obtain rfl : check' = check := Option.some.inj (checks'.symm.trans checks)
    rcases cases entry.2 with ⟨passed, -⟩ | ⟨_, -, misfit, -⟩
    · exact passed
    · exact absurd (typed entry mem known) misfit

/-- The members of an object are refused for the first field that is ill-typed. -/
theorem Claimed.checkMembers_eq_error (first : FirstIllTyped given name json) :
    ∃ fault, Misfit json (expected name) fault
      ∧ checkMembers manner (Claimed.fields : Fields Json Claimed) none []
        (wrapped Json given.entries) = .error fault := by
  obtain ⟨front, back, split⟩ := List.append_of_mem (Dict.get?_eq_some.1 first.found)
  obtain ⟨check, checks, cases⟩ := Claimed.check_fields first.known
  have ordered : Entries.Ordered (front ++ (name, json) :: back) := split ▸ given.ordered
  obtain ⟨inOrder, -, apart⟩ := List.pairwise_append.1 ordered
  have below : ∀ entry ∈ front, entry.1 < name := fun entry mem =>
    apart entry mem _ List.mem_cons_self
  -- The fields that stand before the first one have smaller names, so they are of their types.
  have passes : Passes manner (Claimed.fields : Fields Json Claimed) front [] :=
    Claimed.passes (Entries.Ordered.nodup inOrder) fun entry mem known =>
      first.before entry.1 known (below entry mem) entry.2
        (Dict.get?_eq_some.2 (split ▸ List.mem_append_left _ mem))
  have absent : name ∉ front.map Prod.fst := fun mem => by
    obtain ⟨entry, mem, same⟩ := List.mem_map.1 mem
    exact String.lt_irrefl name (same ▸ below entry mem)
  rcases cases json with ⟨-, typed⟩ | ⟨fault, refused, -, misfit⟩
  · exact absurd typed first.misfit
  · refine ⟨fault, misfit, ?_⟩
    rw [split]
    exact checkMembers_append checks refused front [] passes List.not_mem_nil absent

/-- A field that is there is read where it is of its type, and else it is missing. -/
theorem byName_required_cases (sorts : Sorts read (Typed name) (expected name))
    (typed : WellTyped given) (known : name ∈ fieldNames) :
    given.get? name = none
        ∧ (required name read).byName (lookup Json given.entries) = .error (.missingField name)
      ∨ ∃ json value, given.get? name = some json ∧ read json = .ok value
        ∧ (required name read).byName (lookup Json given.entries) = .ok value := by
  cases found : given.get? name with
  | none =>
    have lacks : lookup Json given.entries name = none := by
      rw [lookup, show given.entries.get? name = none from found]
      rfl
    exact .inl ⟨rfl, by simp only [required, field, lacks]⟩
  | some json =>
    have present : lookup Json given.entries name = some json := by
      rw [lookup, show given.entries.get? name = some json from found]
      rfl
    -- A reader that fails on what is there fails on its type, which is right.
    cases outcome : read json with
    | error fault =>
      exact absurd (typed name known json found) (sorts.misfit_of_error outcome).1
    | ok value =>
      exact .inr ⟨json, value, rfl, outcome, by simp only [required, field, present, outcome]⟩

/-- The value of an object whose fields are of their types, or the first field that is missing. -/
theorem Claimed.byName_cases (typed : WellTyped given) :
    (∃ name ∈ fieldNames, given.get? name = none
        ∧ (Claimed.fields : Fields Json Claimed).byName (lookup Json given.entries)
          = .error (.missingField name))
      ∨ ∃ claimed : Claimed, (Claimed.fields : Fields Json Claimed).byName
            (lookup Json given.entries) = .ok claimed
        ∧ given.get? "partition_id" = some (.nat claimed.partitionId.toNat)
        ∧ given.get? "bucket_name" = some (.str claimed.bucketName)
        ∧ ∀ name ∈ fieldNames, ∃ json, given.get? name = some json := by
  have first := byName_required_cases (@sorts_word "partition_id" (by decide)) typed
    (by decide)
  have second := byName_required_cases (@sorts_word "partition_uuid" (by decide)) typed
    (by decide)
  have third := byName_required_cases (@sorts_word "sequence_number" (by decide)) typed
    (by decide)
  have fourth := byName_required_cases sorts_bucketName typed (by decide)
  simp only [Claimed.fields, byName_seq, byName_map]
  -- The fields are read in the order of their declaration, up to the first that is missing.
  rcases first with ⟨lacks, missing⟩ | ⟨json₁, partitionId, found₁, read₁, made₁⟩
  · exact .inl ⟨_, by decide, lacks, by rw [missing]; rfl⟩
  rcases second with ⟨lacks, missing⟩ | ⟨json₂, partitionUuid, found₂, -, made₂⟩
  · exact .inl ⟨_, by decide, lacks, by rw [made₁, missing]; rfl⟩
  rcases third with ⟨lacks, missing⟩ | ⟨json₃, sequenceNumber, found₃, -, made₃⟩
  · exact .inl ⟨_, by decide, lacks, by rw [made₁, made₂, missing]; rfl⟩
  rcases fourth with ⟨lacks, missing⟩ | ⟨json₄, bucketName, found₄, read₄, made₄⟩
  · exact .inl ⟨_, by decide, lacks, by rw [made₁, made₂, made₃, missing]; rfl⟩
  refine .inr ⟨⟨partitionId, partitionUuid, sequenceNumber, bucketName⟩, ?_, ?_, ?_, ?_⟩
  · rw [made₁, made₂, made₃, made₄]
    rfl
  · rw [found₁, u64_eq_ok.1 read₁]
  · rw [found₄, (string_wrap (σ := Json)).1 read₄]
  · intro name known
    simp only [fieldNames, List.mem_cons, List.not_mem_nil, or_false] at known
    rcases known with rfl | rfl | rfl | rfl
    · exact ⟨_, found₁⟩
    · exact ⟨_, found₂⟩
    · exact ⟨_, found₃⟩
    · exact ⟨_, found₄⟩

/-- An object is read by going through its members and then making the token of them. -/
theorem Claimed.readOpen_obj (given : Dict Json) :
    Claimed.fields.readOpen "struct RawToken" (Json.obj given.entries)
      = (checkMembers manner (Claimed.fields : Fields Json Claimed) none []
          (wrapped Json given.entries)).bind
        fun _ => Claimed.fields.byName (lookup Json given.entries) := by
  have get : (fun name => Entries.get? (wrapped Json given.entries) name)
      = lookup Json given.entries :=
    funext fun name => get?_wrapped given.entries name
  rw [← get]
  rfl

/-- What becomes of an object that a caller hands over, and what the reason is if it is refused: the
first ill-typed field is found before a missing one, then come the range and the emptiness. -/
inductive Judged (index : UInt64) (given : Dict Json) : Outcome MutationToken → Prop
  | illTyped {name : String} {json : Json} {fault : Fault} (first : FirstIllTyped given name json)
    (misfit : Misfit json (expected name) fault) :
    Judged index given (.error (.malformedMutationToken index fault.message))
  | missing {name : String} (typed : WellTyped given) (known : name ∈ fieldNames)
    (lacks : given.get? name = none) :
    Judged index given
      (.error (.malformedMutationToken index (Fault.missingField name).message))
  | outOfRange {word : UInt64} (typed : WellTyped given)
    (found : given.get? "partition_id" = some (.nat word.toNat))
    (beyond : UInt16.size ≤ word.toNat) :
    Judged index given (.error (.malformedMutationToken index
      ("field `partition_id` out of range: " ++ toString word.toNat)))
  | empty (typed : WellTyped given) (found : given.get? "bucket_name" = some (.str "")) :
    Judged index given
      (.error (.malformedMutationToken index "field `bucket_name` must not be empty"))
  | fine {token : MutationToken} (sound : ∀ name, ¬ Faulty given name) :
    Judged index given (.ok token)

/-- Every object is judged. -/
theorem judged_ofCaller (index : UInt64) (given : Dict Json) :
    Judged index given (ofCaller index (.obj given.entries)) := by
  rw [ofCaller, Claimed.readOpen_obj]
  rcases FirstIllTyped.exists_or given with ⟨name, json, first⟩ | typed
  · obtain ⟨fault, misfit, refused⟩ := Claimed.checkMembers_eq_error first
    rw [refused]
    exact .illTyped first misfit
  · -- All members pass, so the fields are read by name.
    have passes : Passes Claimed.manner (Claimed.fields : Fields Json Claimed) given.entries [] :=
      Claimed.passes given.nodup_keys fun entry mem known =>
        typed entry.1 known entry.2 (Dict.get?_eq_some.2 mem)
    rw [(checkMembers_eq_ok _ _ _).2 passes]
    rcases Claimed.byName_cases typed with ⟨name, known, lacks, missing⟩
      | ⟨claimed, made, partition, bucket, there⟩
    · simp only [Except.bind, missing]
      exact .missing typed known lacks
    · simp only [Except.bind, made]
      split_ifs with beyond nameless
      · exact .outOfRange typed partition beyond
      · rw [String.isEmpty_iff] at nameless
        exact .empty typed (nameless ▸ bucket)
      · refine .fine fun name faulty => ?_
        -- Each way of being at fault was ruled out.
        cases faulty with
        | missing known lacks =>
          obtain ⟨json, found⟩ := there name known
          rw [lacks] at found
          cases found
        | illTyped known found misfit => exact misfit (typed name known _ found)
        | outOfRange found beyond' =>
          have same := partition.symm.trans found
          simp only [Json.nat, Option.some.injEq, Json.int.injEq] at same
          omega
        | empty found =>
          have same := bucket.symm.trans found
          simp only [Option.some.injEq, Json.str.injEq] at same
          exact nameless (by rw [same]; rfl)

/-- A reason names a field that is at fault. -/
def NamesFaulty (given : Dict Json) (reason : String) : Prop :=
  ∃ name, Faulty given name ∧ name.toList <:+: reason.toList

/-- A field at fault is one of the fields of a token. -/
theorem Faulty.known (faulty : Faulty given name) : name ∈ fieldNames := by
  cases faulty with
  | missing known | illTyped known => exact known
  | outOfRange | empty => decide

/-- The message about an ill-typed field has no place at its end. -/
theorem message_misfit {fault : Fault} (misfit : Misfit json (expected name) fault) :
    fault.message = fault.messageWith Binary64.render := by
  -- What is expected stands at the end of the message, so no place in a text does.
  have settled (front : String) : Position.settle (front ++ ", expected " ++ expected name)
      = front ++ ", expected " ++ expected name := by
    unfold expected
    split
    · have ends : (front ++ ", expected " ++ "a string").toList
          = (front ++ ", expected " ++ "a strin").toList ++ ['g'] := by simp
      exact Position.settle_of_last ends rfl
    · exact Position.settle_u64 front
  rcases misfit with rfl | rfl
  · exact settled _
  · exact settled _

/-- A reason for an ill-typed field names a field that is at fault only where its text does. -/
theorem namesFaulty_misfit {fault : Fault} (misfit : Misfit json (expected name) fault) :
    NamesFaulty given fault.message ↔ ∃ text, json = .str text ∧ NamesFaulty given text := by
  -- What is expected names no field, so a name within the message is within the text that is shown.
  have plain : '_' ∉ (expected name).toList := by
    unfold expected
    split <;> decide
  rw [NamesFaulty, message_misfit misfit]
  constructor
  · intro holds
    obtain ⟨other, faulty, within⟩ := holds
    obtain ⟨text, same, within⟩ :=
      (infix_misfit (findable_of_known faulty.known) misfit plain).1 within
    exact ⟨text, same, other, faulty, within⟩
  · intro holds
    obtain ⟨text, same, other, faulty, within⟩ := holds
    exact ⟨other, faulty,
      (infix_misfit (findable_of_known faulty.known) misfit plain).2 ⟨text, same, within⟩⟩

/-- A message about a missing field names it. -/
theorem infix_missingField (name : String) :
    name.toList <:+: (Fault.missingField name).message.toList := by
  have ends : ("missing field " ++ backquoted name).toList
      = ("missing field `".toList ++ name.toList) ++ ['`'] := by simp [backquoted]
  have message : (Fault.missingField name).message = "missing field " ++ backquoted name :=
    Position.settle_of_last ends rfl
  rw [message, ends]
  exact ⟨_, _, rfl⟩

/-- A caller's object is accepted exactly where no field is at fault. The reason for which another
one is refused names a field that is at fault, unless a field is ill-typed; then it tells of the
value of the first such field and of the type expected there, and names a field that is at fault
only where that value is a text that does. -/
theorem ofCaller_names_iff (index : UInt64) (given : Dict Json) :
    ((∃ token, ofCaller index (.obj given.entries) = .ok token) ↔ ∀ name, ¬ Faulty given name)
    ∧ ∀ error, ofCaller index (.obj given.entries) = .error error →
      ∃ reason, error = .malformedMutationToken index reason
        ∧ (∀ name json, FirstIllTyped given name json →
          ∃ fault, Misfit json (expected name) fault ∧ reason = fault.message)
        ∧ (NamesFaulty given reason ↔ ∀ name json, FirstIllTyped given name json →
          ∃ text, json = .str text ∧ NamesFaulty given text) := by
  have judged := judged_ofCaller index given
  generalize ofCaller index (.obj given.entries) = outcome at judged
  -- Where the fields that are there are of their types, the reason names the one that it is about.
  have named {reason name : String} (typed : WellTyped given) (faulty : Faulty given name)
      (within : name.toList <:+: reason.toList) :
      (∀ name json, FirstIllTyped given name json →
        ∃ fault, Misfit json (expected name) fault ∧ reason = fault.message)
      ∧ (NamesFaulty given reason ↔ ∀ name json, FirstIllTyped given name json →
        ∃ text, json = .str text ∧ NamesFaulty given text) := by
    have none : ∀ name json, ¬ FirstIllTyped given name json := fun other json first =>
      first.misfit (typed other first.known json first.found)
    exact ⟨fun other json first => absurd first (none other json),
      iff_of_true ⟨name, faulty, within⟩ fun other json first => absurd first (none other json)⟩
  cases judged with
  | illTyped first misfit =>
    refine ⟨by simpa using ⟨_, Faulty.illTyped first.known first.found first.misfit⟩, ?_⟩
    intro error refused
    cases refused
    refine ⟨_, rfl, ?_, (namesFaulty_misfit misfit).trans ⟨?_, fun all => all _ _ first⟩⟩
    · -- There is only one first ill-typed field.
      intro other value second
      obtain ⟨rfl, rfl⟩ := first.unique second
      exact ⟨_, misfit, rfl⟩
    · intro holds other value second
      obtain ⟨rfl, rfl⟩ := first.unique second
      exact holds
  | missing typed known lacks =>
    refine ⟨by simpa using ⟨_, Faulty.missing known lacks⟩, ?_⟩
    intro error refused
    cases refused
    exact ⟨_, rfl, named typed (.missing known lacks) (infix_missingField _)⟩
  | outOfRange typed found beyond =>
    refine ⟨by simpa using ⟨_, Faulty.outOfRange found beyond⟩, ?_⟩
    intro error refused
    cases refused
    refine ⟨_, rfl, named typed (.outOfRange found beyond) ?_⟩
    exact ⟨"field `".toList, _, by simp; rfl⟩
  | empty typed found =>
    refine ⟨by simpa using ⟨_, Faulty.empty found⟩, ?_⟩
    intro error refused
    cases refused
    refine ⟨_, rfl, named typed (.empty found) ?_⟩
    exact ⟨"field `".toList, "` must not be empty".toList, by decide⟩
  | fine sound => exact ⟨by simpa using sound, by simp⟩

/-- A token whose partition is written as a text. -/
def misspelt : Dict Json :=
  .ofList [("partition_id", .str "7"), ("partition_uuid", .nat 1), ("sequence_number", .nat 1),
    ("bucket_name", .str "b")]

/-- The reason for which a token is refused whose partition is written as a text names no field at
all. -/
theorem misspelt_unnamed :
    Faulty misspelt "partition_id"
    ∧ ofCaller 0 (.obj misspelt.entries)
      = .error (.malformedMutationToken 0 "invalid type: string \"7\", expected u64")
    ∧ ∀ name ∈ fieldNames,
      ¬ name.toList <:+: "invalid type: string \"7\", expected u64".toList := by
  refine ⟨.illTyped (by decide) rfl ?_, rfl, by decide⟩
  -- A text is no number.
  simp [Typed, Json.nat]

end MutationToken

end AnalyticsClient
