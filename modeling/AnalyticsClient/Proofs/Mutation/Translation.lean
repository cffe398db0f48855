import AnalyticsClient.Proofs.Query.Understanding
import AnalyticsClient.Proofs.Wire.RoundTrip
import Mathlib.Data.List.Forall2

/-! The tokens that callers hand over are those of the plain form, of buckets that have a name. -/

namespace AnalyticsClient

open Wire Wire.Fields

namespace Wire

variable {σ : Type} [Source σ] [Plain σ] {json : Json}

/-- A whole number is read where it is in the range, whatever the range is called. -/
theorem whole_wrap {expected : String} {low high value : Int} :
    whole expected low high (Plain.wrap json : σ) = .ok value
      ↔ json = .int value ∧ low ≤ value ∧ value < high := by
  simp only [whole, Plain.view_wrap]
  cases json with
  | int number =>
    by_cases within : low ≤ number ∧ number < high
    · simp only [View.ofJson, if_pos within, Except.ok.injEq, Json.int.injEq]
      constructor
      · intro same
        subst same
        exact ⟨rfl, within⟩
      · exact fun holds => holds.1
    · -- A number out of the range is refused, and it is no other number.
      simp only [View.ofJson, if_neg within, reduceCtorEq, Json.int.injEq, false_iff]
      intro holds
      obtain ⟨same, inside⟩ := holds
      subst same
      exact within inside
  | null | bool | float | str | arr | obj => simp [View.ofJson, unexpected]

namespace Form

/-- A number as a natural number. -/
def natural {α : Type} (toNat : α → Nat) : Form α := fun json number => json = .nat (toNat number)

/-- A short word is written like the long one below its bound that is cut to it. -/
theorem natural_short {json : Json} {word : UInt16} :
    natural UInt16.toNat json word
      ↔ ∃ long, natural UInt64.toNat json long ∧ long.toNat < UInt16.size
        ∧ long.toUInt16 = word := by
  constructor
  · intro written
    -- The word itself, made longer, is the one that is cut to it again.
    have same : word.toUInt64.toNat = word.toNat := UInt16.toNat_toUInt64 word
    refine ⟨word.toUInt64, ?_, ?_, ?_⟩
    · show json = .nat word.toUInt64.toNat
      rw [same]
      exact written
    · rw [same]
      exact word.toNat_lt_size
    · simp
  · intro holds
    obtain ⟨long, written, below, rfl⟩ := holds
    show json = .nat long.toUInt16.toNat
    rw [UInt64.toNat_toUInt16, Nat.mod_eq_of_lt below]
    exact written

end Form

/-- Words are read from the natural numbers below their bound. -/
theorem reads_word {α : Type} {expected : String} {size : Nat} {toNat : α → Nat} {ofNat : Nat → α}
    (below : ∀ word, toNat word < size)
    (into : ∀ number, number < size → toNat (ofNat number) = number)
    (back : ∀ word, ofNat (toNat word) = word) :
    Reads (fun source : σ => (whole expected 0 size source).map fun value => ofNat value.toNat)
      (Form.natural toNat) where
  read_wrap := by
    intro json word
    simp only [map_eq_ok, whole_wrap, Form.natural]
    constructor
    · intro holds
      obtain ⟨value, ⟨rfl, least, most⟩, rfl⟩ := holds
      have small : value.toNat < size := by omega
      -- The number is not negative, so it is the natural number that it is turned into.
      rw [into value.toNat small, Json.nat, Int.toNat_of_nonneg least]
    · intro same
      have most := below word
      exact ⟨toNat word, ⟨same, by omega, by omega⟩, by simp [back]⟩
  solid _ := by simp [Form.natural, Json.nat]

instance : Reads (u16 : Decoder σ UInt16) (Form.natural UInt16.toNat) :=
  reads_word UInt16.toNat_lt_size (fun _ small => UInt16.toNat_ofNat_of_lt' small) (by simp)

instance : Reads (u64 : Decoder σ UInt64) (Form.natural UInt64.toNat) :=
  reads_word UInt64.toNat_lt_size (fun _ small => UInt64.toNat_ofNat_of_lt' small) (by simp)

end Wire

namespace MutationToken

/-- The entries of a token, its partition told as a number of the kind that `toNat` turns into a
natural one. -/
structure Tells {α : Type} (toNat : α → Nat) (entries : Entries Json) (partitionId : α)
    (partitionUuid sequenceNumber : UInt64) (bucketName : String) : Prop where
  partitionId : (Form.natural toNat).Needed entries "partition_id" partitionId
  partitionUuid : (Form.natural UInt64.toNat).Needed entries "partition_uuid" partitionUuid
  sequenceNumber : (Form.natural UInt64.toNat).Needed entries "sequence_number" sequenceNumber
  bucketName : Form.text.Needed entries "bucket_name" bucketName

instance : Regular (Claimed.fields : Fields Json Claimed) := by
  unfold Claimed.fields
  infer_instance

/-- A token is made of the entries that tell it. -/
theorem makes_fields {entries : Entries Json} {token : MutationToken} :
    (fields : Fields Json MutationToken).Makes (lookup Json entries) (· = token)
      ↔ Tells UInt16.toNat entries token.partitionId token.partitionUuid token.sequenceNumber
        token.bucketName := by
  simp only [fields, makes_map, makes_seq, makes_required]
  constructor
  · intro holds
    obtain ⟨_, partitionId, _, partitionUuid, _, sequenceNumber, _, bucketName, rfl⟩ := holds
    exact ⟨partitionId, partitionUuid, sequenceNumber, bucketName⟩
  · intro tells
    exact ⟨_, tells.partitionId, _, tells.partitionUuid, _, tells.sequenceNumber, _,
      tells.bucketName, rfl⟩

/-- A claimed token is made of the entries that tell it. -/
theorem Claimed.makes_fields {entries : Entries Json} {claimed : Claimed} :
    (Claimed.fields : Fields Json Claimed).Makes (lookup Json entries) (· = claimed)
      ↔ Tells UInt64.toNat entries claimed.partitionId claimed.partitionUuid
        claimed.sequenceNumber claimed.bucketName := by
  simp only [Claimed.fields, makes_map, makes_seq, makes_required]
  -- What is made of the fields, one by one, is what the members tell.
  constructor
  · intro holds
    obtain ⟨_, partitionId, _, partitionUuid, _, sequenceNumber, _, bucketName, rfl⟩ := holds
    exact ⟨partitionId, partitionUuid, sequenceNumber, bucketName⟩
  · intro tells
    exact ⟨_, tells.partitionId, _, tells.partitionUuid, _, tells.sequenceNumber, _,
      tells.bucketName, rfl⟩

/-- The token that is claimed, if its partition is one that there can be. -/
def Claimed.token (claimed : Claimed) : MutationToken :=
  ⟨claimed.partitionId.toUInt16, claimed.partitionUuid, claimed.sequenceNumber, claimed.bucketName⟩

/-- The plain form of a token is that of a claimed one whose partition is in range. -/
theorem decode_iff_claimed {given : Json} {token : MutationToken} :
    decode given = .ok token
      ↔ ∃ claimed, Claimed.fields.readOpen "struct RawToken" given = .ok claimed
        ∧ claimed.partitionId.toNat < UInt16.size ∧ claimed.token = token := by
  -- The two readers have the same names, so a value gives the same entries to both.
  have strict : decode given = .ok token ↔ _ :=
    read_iff (σ := Json) makes_fields (by decide) ⟨"struct MutationToken", false, true⟩
  have wide (claimed : Claimed) :
      Claimed.fields.readOpen "struct RawToken" given = .ok claimed ↔ _ :=
    read_iff (σ := Json) Claimed.makes_fields (by decide) ⟨"struct RawToken", false, true⟩
  constructor
  · intro read
    obtain ⟨entries, placed, tells⟩ := strict.1 read
    obtain ⟨json, found, written⟩ := tells.partitionId
    obtain ⟨long, written, below, short⟩ := Form.natural_short.1 written
    let claimed : Claimed := ⟨long, token.partitionUuid, token.sequenceNumber, token.bucketName⟩
    have told : Tells UInt64.toNat entries claimed.partitionId claimed.partitionUuid
        claimed.sequenceNumber claimed.bucketName :=
      ⟨⟨json, found, written⟩, tells.partitionUuid, tells.sequenceNumber, tells.bucketName⟩
    refine ⟨claimed, (wide claimed).2 ⟨entries, placed, told⟩, below, ?_⟩
    show (⟨long.toUInt16, _, _, _⟩ : MutationToken) = token
    rw [short]
  · intro holds
    obtain ⟨claimed, read, below, rfl⟩ := holds
    obtain ⟨entries, placed, tells⟩ := (wide claimed).1 read
    obtain ⟨json, found, written⟩ := tells.partitionId
    have short : Form.natural UInt16.toNat json claimed.partitionId.toUInt16 :=
      Form.natural_short.2 ⟨claimed.partitionId, written, below, rfl⟩
    exact strict.2 ⟨entries, placed, ⟨json, found, short⟩, tells.partitionUuid,
      tells.sequenceNumber, tells.bucketName⟩

/-- Whether a JSON value is the plain form of a token, of a bucket that has a name. -/
def Understood (given : Json) (token : MutationToken) : Prop :=
  decode given = .ok token ∧ token.bucketName ≠ ""

/-- Tokens of callers are those of the plain form whose bucket has a name, in whatever place. -/
theorem ofCaller_eq_ok {index : UInt64} {given : Json} {token : MutationToken} :
    ofCaller index given = .ok token ↔ Understood given token := by
  rw [Understood, decode_iff_claimed, ofCaller]
  cases read : Claimed.fields.readOpen "struct RawToken" given with
  | error fault => simp
  | ok claimed =>
    simp only [Except.ok.injEq, exists_eq_left']
    by_cases below : claimed.partitionId.toNat < UInt16.size
    · have inRange : ¬ claimed.partitionId.toNat ≥ UInt16.size := Nat.not_le.2 below
      by_cases nameless : claimed.bucketName = ""
      · -- The plain form has tokens of buckets without a name, which callers may not hand over.
        rw [if_neg inRange, if_pos (by rw [nameless]; rfl)]
        simp only [reduceCtorEq, false_iff]
        intro holds
        obtain ⟨⟨-, rfl⟩, named⟩ := holds
        exact named nameless
      · have named : ¬ claimed.bucketName.isEmpty = true := by
          rwa [String.isEmpty_iff]
        rw [if_neg inRange, if_neg named]
        constructor
        · intro same
          cases same
          exact ⟨⟨below, rfl⟩, nameless⟩
        · intro holds
          obtain ⟨⟨-, rfl⟩, -⟩ := holds
          rfl
    · -- A partition out of range is none for either reader.
      rw [if_pos (Nat.not_lt.1 below)]
      simp [below]

end MutationToken

namespace MutationState

open MutationToken (Understood)

/-- Values are translated one by one to tokens where each is understood as its own. -/
theorem translate_eq_ok {given : List Json} :
    ∀ {index tokens}, translate index given = .ok tokens
      ↔ List.Forall₂ Understood given tokens := by
  -- The place only grows, and no translation that succeeds tells of it.
  induction given with
  | nil =>
    intro index tokens
    simp [translate, eq_comm]
  | cons json rest ih =>
    intro index tokens
    simp only [translate, bind_eq_ok, MutationToken.ofCaller_eq_ok, ih, pure, Except.pure,
      Except.ok.injEq, List.forall₂_cons_left_iff]
    constructor
    · intro holds
      obtain ⟨token, first, later, others, rfl⟩ := holds
      exact ⟨token, later, first, others, rfl⟩
    · intro holds
      obtain ⟨token, later, first, others, rfl⟩ := holds
      exact ⟨token, first, later, others, rfl⟩

/-- What stands behind the first value that is refused plays no part. -/
theorem translate_eq_error {before : List Json} {bad : Json} {error : Error} :
    ∀ {index}, (∀ json ∈ before, ∃ token, Understood json token) →
      MutationToken.ofCaller (.ofNat (index + before.length)) bad = .error error →
      ∀ later, translate index (before ++ bad :: later) = .error error := by
  -- The tokens before the bad one are translated, and each moves the place on by one.
  induction before with
  | nil =>
    intro index _ refused later
    have here : MutationToken.ofCaller (.ofNat index) bad = .error error := refused
    simp [translate, here, bind, Except.bind]
  | cons json rest ih =>
    intro index fine refused later
    obtain ⟨token, understood⟩ := fine json List.mem_cons_self
    have first : MutationToken.ofCaller (.ofNat index) json = .ok token :=
      MutationToken.ofCaller_eq_ok.2 understood
    have place : index + (json :: rest).length = index + 1 + rest.length := by
      rw [List.length_cons]
      omega
    have others := ih (fun json mem => fine json (List.mem_cons_of_mem _ mem)) (place ▸ refused)
      later
    simp [translate, first, others, bind, Except.bind]

/-- A caller's values are translated where each is understood, and then to those very tokens in
their order. -/
theorem ofCaller_eq_ok {given : List Json} {state : MutationState} :
    ofCaller given = .ok state ↔ List.Forall₂ Understood given state.tokens := by
  rw [ofCaller, map_eq_ok, ← @translate_eq_ok given 0]
  constructor
  · intro holds
    obtain ⟨tokens, translated, rfl⟩ := holds
    exact translated
  · exact fun translated => ⟨state.tokens, translated, rfl⟩

/-- Values of which each is understood are understood as some tokens together. -/
theorem exists_forall₂_understood {given : List Json} :
    (∃ tokens, List.Forall₂ Understood given tokens)
      ↔ ∀ json ∈ given, ∃ token, Understood json token := by
  induction given with
  | nil => simp
  | cons json rest ih =>
    -- The first token is understood apart from all others.
    rw [List.forall_mem_cons, ← ih]
    constructor
    · intro holds
      obtain ⟨tokens, all⟩ := holds
      obtain ⟨token, later, first, others, -⟩ := List.forall₂_cons_left_iff.1 all
      exact ⟨⟨token, first⟩, later, others⟩
    · intro holds
      obtain ⟨⟨token, first⟩, later, others⟩ := holds
      exact ⟨token :: later, .cons first others⟩

/-- Where not each value is understood, one is the first that is not. -/
theorem exists_first_bad (given : List Json) :
    (∀ json ∈ given, ∃ token, Understood json token)
      ∨ ∃ before bad after, given = before ++ bad :: after
        ∧ (∀ json ∈ before, ∃ token, Understood json token) ∧ ∀ token, ¬ Understood bad token := by
  induction given with
  | nil => exact .inl nofun
  | cons json rest ih =>
    by_cases fine : ∃ token, Understood json token
    · rcases ih with all | ⟨before, bad, after, split, front, refused⟩
      · exact .inl (List.forall_mem_cons.2 ⟨fine, all⟩)
      · -- The first value is fine, so the first bad one is that of the rest.
        exact .inr ⟨json :: before, bad, after, by rw [split]; rfl,
          List.forall_mem_cons.2 ⟨fine, front⟩, refused⟩
    · exact .inr ⟨[], json, rest, rfl, nofun, fun token holds => fine ⟨token, holds⟩⟩

/-- The tokens of a state are understood as themselves once they were written, as far as their
buckets have names. -/
theorem forall₂_encode {tokens : List MutationToken} :
    List.Forall₂ Understood (tokens.map MutationToken.encode) tokens
      ↔ ∀ token ∈ tokens, token.bucketName ≠ "" := by
  have one (token : MutationToken) : Understood token.encode token ↔ token.bucketName ≠ "" :=
    and_iff_right (MutationToken.recovers token)
  rw [List.forall₂_map_left_iff, List.forall₂_same]
  exact forall₂_congr fun token _ => one token

/-- The values that a caller hands over are translated exactly where each of them is the plain form
of a token whose bucket has a name, and then to those tokens in their order. Otherwise the fault is
that of the first value that is not, whatever stands behind it. So a state is what its own written
form is translated to exactly where its buckets have names. -/
theorem ofCaller_exact (given : List Json) :
    (∀ index json token, MutationToken.ofCaller index json = .ok token
      ↔ MutationToken.decode json = .ok token ∧ token.bucketName ≠ "")
    ∧ (∀ state, ofCaller given = .ok state ↔ List.Forall₂ Understood given state.tokens)
    ∧ ((∃ state, ofCaller given = .ok state) ↔ ∀ json ∈ given, ∃ token, Understood json token)
    ∧ ((∃ state, ofCaller given = .ok state)
      ∨ ∃ before bad after reason, given = before ++ bad :: after
        ∧ (∀ json ∈ before, ∃ token, Understood json token) ∧ (∀ token, ¬ Understood bad token)
        ∧ ∀ later, ofCaller (before ++ bad :: later)
          = .error (.malformedMutationToken (.ofNat before.length) reason))
    ∧ ∀ state : MutationState, (∃ items, state.encode = .arr items ∧ ofCaller items = .ok state)
      ↔ ∀ token ∈ state.tokens, token.bucketName ≠ "" := by
  have succeeds : (∃ state, ofCaller given = .ok state)
      ↔ ∀ json ∈ given, ∃ token, Understood json token := by
    rw [← exists_forall₂_understood]
    constructor
    · intro holds
      obtain ⟨state, translated⟩ := holds
      exact ⟨state.tokens, ofCaller_eq_ok.1 translated⟩
    · intro holds
      obtain ⟨tokens, all⟩ := holds
      exact ⟨⟨tokens⟩, ofCaller_eq_ok.2 all⟩
  refine ⟨fun _ _ _ => MutationToken.ofCaller_eq_ok, fun state => ofCaller_eq_ok, succeeds, ?_,
    fun state => ?_⟩
  · rcases exists_first_bad given with all | ⟨before, bad, after, split, fine, refused⟩
    · exact .inl (succeeds.2 all)
    · -- What is not understood is refused, and a refusal tells of its place.
      refine .inr ?_
      cases outcome : MutationToken.ofCaller (.ofNat before.length) bad with
      | ok token => exact absurd (MutationToken.ofCaller_eq_ok.1 outcome) (refused token)
      | error error =>
        obtain ⟨reason, rfl⟩ := MutationToken.exists_reason_of_error outcome
        refine ⟨before, bad, after, reason, split, fine, refused, fun later => ?_⟩
        have stops := @translate_eq_error before bad _ 0 fine (by rwa [Nat.zero_add]) later
        rw [ofCaller, stops]
        rfl
  · rw [← forall₂_encode, ← ofCaller_eq_ok]
    constructor
    · intro holds
      obtain ⟨items, same, translated⟩ := holds
      cases same
      exact translated
    · exact fun translated => ⟨_, rfl, translated⟩

end MutationState

end AnalyticsClient
