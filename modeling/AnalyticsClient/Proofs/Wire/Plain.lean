import AnalyticsClient.Choice
import AnalyticsClient.Wire.Source

/-! Reading single values out of JSON values that are held in memory. -/

namespace AnalyticsClient.Wire

/-- What is made of a reading is there where the reading is. -/
theorem map_eq_ok {ε α β : Type} {read : Except ε α} {f : α → β} {made : β} :
    read.map f = .ok made ↔ ∃ value, read = .ok value ∧ f value = made := by
  cases read <;> simp [Except.map]

/-- A reading that goes on from another one is there where both are. -/
theorem bind_eq_ok {ε α β : Type} {read : Except ε α} {next : α → Except ε β} {made : β} :
    (read >>= next) = .ok made ↔ ∃ value, read = .ok value ∧ next value = .ok made := by
  cases read <;> simp [bind, Except.bind]

/-- A reading that goes on from a check is there where the check is passed. -/
theorem then_eq_ok {ε α : Type} {check : Except ε Unit} {next : Except ε α} {made : α} :
    (check >>= fun _ => next) = .ok made ↔ check = .ok () ∧ next = .ok made := by
  -- A check gives nothing but that it was passed.
  rw [bind_eq_ok]
  constructor
  · intro holds
    obtain ⟨⟨⟩, passed, read⟩ := holds
    exact ⟨passed, read⟩
  · intro holds
    exact ⟨(), holds⟩

/-- A source of which every JSON value is a plain value. -/
class Plain (σ : Type) [Source σ] where
  /-- A JSON value as a plain value. -/
  wrap : Json → σ
  view_wrap : ∀ json, Source.view (wrap json) = View.ofJson wrap json
  skip_wrap : ∀ json, Source.skip (wrap json) = .ok ()
  /-- Nothing but a value in memory, whole or set aside. -/
  style_held : Source.style σ = .value ∨ Source.style σ = .setAside

instance : Plain Json where
  wrap := id
  view_wrap _ := rfl
  skip_wrap _ := rfl
  style_held := .inl rfl

instance : Plain Aside where
  wrap := Aside.mk
  view_wrap _ := rfl
  skip_wrap _ := rfl
  style_held := .inr rfl

section

variable {σ α : Type} [Source σ] [Plain σ] {json : Json}

/-- A text is read from a text. -/
theorem string_wrap {value : String} :
    string (Plain.wrap json : σ) = .ok value ↔ json = .str value := by
  simp only [string, Plain.view_wrap]
  cases json <;> simp [View.ofJson, unexpected]

/-- A truth value is read from a truth value. -/
theorem bool_wrap {value : Bool} :
    bool (Plain.wrap json : σ) = .ok value ↔ json = .bool value := by
  simp only [bool, Plain.view_wrap]
  cases json <;> simp [View.ofJson, unexpected]

/-- Nothing is read from null alone. -/
theorem optional_wrap_none {read : Decoder σ α} :
    optional read (Plain.wrap json) = .ok none ↔ json = .null := by
  simp only [optional, Plain.view_wrap]
  cases json with
  | null => simp [View.ofJson]
  | bool | int | float | str | arr | obj =>
    -- Anything else is read as something, if it is read at all.
    simp only [View.ofJson, reduceCtorEq, iff_false]
    cases read _ <;> simp [Except.map]

/-- Something is read from anything but null. -/
theorem optional_wrap_some {read : Decoder σ α} {value : α} :
    optional read (Plain.wrap json) = .ok (some value)
      ↔ json ≠ .null ∧ read (Plain.wrap json) = .ok value := by
  simp only [optional, Plain.view_wrap]
  cases json with
  | null => simp [View.ofJson]
  | bool | int | float | str | arr | obj =>
    simp only [View.ofJson, ne_eq, reduceCtorEq, not_false_eq_true, true_and]
    cases read _ <;> simp [Except.map]

/-- The members of an object of texts. -/
def textMembers (texts : Entries String) : List (String × Json) :=
  texts.map fun text => (text.1, .str text.2)

/-- Members are read as texts where they are texts, one put into the map after the other. -/
theorem readEntries_string (members : List (String × Json)) :
    ∀ {made dict : Dict String},
      readEntries string (members.map fun member => (member.1, (Plain.wrap member.2 : σ))) made
          = .ok dict
        ↔ ∃ texts, members = textMembers texts
          ∧ dict = texts.foldl (fun made text => made.insert text.1 text.2) made := by
  -- The map grows from member to member, so it stays quantified over.
  induction members with
  | nil =>
    intro made dict
    constructor
    · intro read
      cases read
      exact ⟨[], rfl, rfl⟩
    · intro holds
      obtain ⟨texts, none_, rfl⟩ := holds
      cases texts with
      | nil => rfl
      | cons => cases none_
  | cons member rest ih =>
    intro made dict
    obtain ⟨name, json⟩ := member
    simp only [List.map_cons, readEntries, bind, Except.bind]
    cases first : string (Plain.wrap json : σ) with
    | error fault =>
      -- The first member is no text, so the members are not those of any texts.
      simp only [reduceCtorEq, false_iff]
      intro holds
      obtain ⟨texts, members, -⟩ := holds
      cases texts with
      | nil => cases members
      | cons text =>
        simp only [textMembers, List.map_cons, List.cons.injEq, Prod.mk.injEq] at members
        rw [string_wrap.2 members.1.2] at first
        cases first
    | ok value =>
      -- The first member is a text, and the others are put into the map after it.
      rw [string_wrap] at first
      subst first
      simp only [ih]
      constructor
      · intro holds
        obtain ⟨texts, rfl, rfl⟩ := holds
        exact ⟨(name, value) :: texts, rfl, rfl⟩
      · intro holds
        obtain ⟨texts, members, rfl⟩ := holds
        cases texts with
        | nil => cases members
        | cons text later =>
          obtain ⟨name', value'⟩ := text
          simp only [textMembers, List.map_cons, List.cons.injEq, Prod.mk.injEq,
            Json.str.injEq] at members
          obtain ⟨⟨rfl, rfl⟩, rfl⟩ := members
          exact ⟨later, rfl, rfl⟩

/-- Texts that are put into a map one after the other make the map of their list. -/
theorem foldl_insert (texts : Entries α) :
    texts.foldl (fun made text => made.insert text.1 text.2) (∅ : Dict α) = Dict.ofList texts := by
  -- The entries of the maps made on the way are those made on the way to a sorted list.
  have entries : ∀ made : Dict α,
      (texts.foldl (fun made text => made.insert text.1 text.2) made).entries
        = texts.foldl (fun made text => Entries.insert text.1 text.2 made) made.entries := by
    induction texts with
    | nil =>
      intro made
      rfl
    | cons text rest ih =>
      intro made
      exact ih (made.insert text.1 text.2)
  have same := entries ∅
  cases made : texts.foldl (fun made text => made.insert text.1 text.2) (∅ : Dict α)
  rw [made] at same
  subst same
  rfl

/-- A map of texts is read from an object of texts. -/
theorem dict_wrap {dict : Dict String} :
    Wire.dict string (Plain.wrap json : σ) = .ok dict
      ↔ ∃ texts, json = .obj (textMembers texts) ∧ dict = Dict.ofList texts := by
  simp only [Wire.dict, Plain.view_wrap]
  cases json with
  | obj members =>
    -- Nothing stands after the last member, so only the members can be at fault.
    have whole : ∀ {read : Except Fault (Dict String)},
        (do let made ← read; atEnd none; return made) = .ok dict ↔ read = .ok dict := by
      intro read
      cases read <;> simp [bind, Except.bind, atEnd, pure, Except.pure]
    simp only [View.ofJson, whole, readEntries_string, Json.obj.injEq]
    constructor
    · intro holds
      obtain ⟨texts, rfl, rfl⟩ := holds
      exact ⟨texts, rfl, foldl_insert texts⟩
    · intro holds
      obtain ⟨texts, rfl, rfl⟩ := holds
      exact ⟨texts, rfl, (foldl_insert texts).symm⟩
  | null | bool | int | float | str | arr => simp [View.ofJson, unexpected]

/-- A member of an enumeration is found by its own text, where no two have the same. -/
theorem parse?_eq_some [Choice α]
    (own : ∀ member : α, Choice.parse? (Choice.text member) = some member) {value : String}
    {member : α} : Choice.parse? value = some member ↔ value = Choice.text member := by
  constructor
  · intro found
    -- What was found has the text that was looked for.
    have fits := List.find?_some found
    exact (of_decide_eq_true fits).symm
  · intro same
    subst same
    exact own member

/-- A member of an enumeration is read from its own text, where no two have the same. -/
theorem choice_wrap [Choice α]
    (own : ∀ member : α, Choice.parse? (Choice.text member) = some member) {member : α} :
    Choice.decode (Plain.wrap json : σ) = .ok member ↔ json = .str (Choice.text member) := by
  -- The text is read first, and then looked for among those of the members.
  simp only [Choice.decode, bind_eq_ok, string_wrap]
  constructor
  · intro holds
    obtain ⟨value, rfl, read⟩ := holds
    cases found : (Choice.parse? value : Option α) with
    | none => simp [found] at read
    | some member' =>
      simp only [found, pure, Except.pure, Except.ok.injEq] at read
      subst read
      rw [(parse?_eq_some own).1 found]
  · intro same
    subst same
    exact ⟨_, rfl, by simp [own, pure, Except.pure]⟩

end

end AnalyticsClient.Wire
