import AnalyticsClient.Proofs.Wire.Record
import Mathlib.Data.List.Forall2
import Mathlib.Data.Option.Defs
import Mathlib.Logic.Relator

/-! Two values are read alike where they differ only in what no fault tells. -/

namespace AnalyticsClient.Wire

/-- Whether two readings agree: they fail with the same fault, or give related values. -/
inductive Agree {ε α β : Type} (S : α → β → Prop) : Except ε α → Except ε β → Prop
  | error (fault : ε) : Agree S (.error fault) (.error fault)
  | ok {a : α} {b : β} (related : S a b) : Agree S (.ok a) (.ok b)

namespace Agree

variable {ε α β α' β' : Type} {S : α → β → Prop} {T : α' → β' → Prop} {a : Except ε α}
  {b : Except ε β}

/-- What is made of readings that agree does so too. -/
theorem map (agree : Agree S a b) {f : α → α'} {g : β → β'}
    (maps : ∀ {x y}, S x y → T (f x) (g y)) : Agree T (a.map f) (b.map g) := by
  cases agree with
  | error fault => exact .error fault
  | ok related => exact .ok (maps related)

/-- Readings that go on from readings that agree, and do so alike, agree. -/
theorem bind (agree : Agree S a b) {f : α → Except ε α'} {g : β → Except ε β'}
    (next : ∀ {x y}, S x y → Agree T (f x) (g y)) : Agree T (a >>= f) (b >>= g) := by
  cases agree with
  | error fault => exact .error fault
  | ok related => exact next related

/-- Readings that agree pass or fail the same, their values left aside. -/
theorem map_unit (agree : Agree S a b) :
    (a.map fun _ => ()) = b.map fun _ => () := by
  cases agree <;> rfl

/-- A reading agrees with itself where every value is related to itself. -/
theorem refl {S : α → α → Prop} (same : ∀ value, S value value) (a : Except ε α) :
    Agree S a a := by
  cases a with
  | error fault => exact .error fault
  | ok value => exact .ok (same value)

end Agree

/-- Whether two members have the same name and sources that are related under it. -/
def Paired {σ : Type} (rel : String → σ → σ → Prop) (a b : String × σ) : Prop :=
  a.1 = b.1 ∧ rel a.1 a.2 b.2

/-- In two lists of paired members a name finds related sources. -/
theorem get?_paired {σ : Type} {rel : String → σ → σ → Prop} {members members' : List (String × σ)}
    (paired : List.Forall₂ (Paired rel) members members') (name : String) :
    Option.Rel (rel name) (Entries.get? members name) (Entries.get? members' name) := by
  -- Both sides have the same names in the same places.
  induction paired with
  | nil => exact .none
  | @cons a b rest rest' first _ ih =>
    obtain ⟨other, source⟩ := a
    obtain ⟨other', source'⟩ := b
    obtain ⟨same, related⟩ := first
    obtain rfl : other = other' := same
    rw [Entries.get?_cons, Entries.get?_cons]
    by_cases here : other = name
    · subst here
      rw [if_pos rfl, if_pos rfl]
      exact .some related
    · rw [if_neg here, if_neg here]
      exact ih

namespace Fields

variable {σ α β : Type} {rel : String → σ → σ → Prop}

/-- Whether a reading of fields gives related values of related sources, and checks them alike. -/
structure Agrees (rel : String → σ → σ → Prop) (S : α → α → Prop) (fields : Fields σ α) : Prop where
  check : ∀ {name check a b}, fields.check name = some check → rel name a b → check a = check b
  byName : ∀ {get get'}, (∀ name, Option.Rel (rel name) (get name) (get' name)) →
    Agree S (fields.byName get) (fields.byName get')

/-- A field is read alike where its sources are, and its own value is related to itself. -/
theorem agrees_field {S : α → α → Prop} {name : String} {absent : Option α} {read : Decoder σ α}
    (reads : ∀ {a b}, rel name a b → Agree S (read a) (read b))
    (preset : ∀ value ∈ absent, S value value) : Agrees rel S (field name absent read) where
  check := by
    intro asked check a b checks related
    simp only [field] at checks
    split at checks
    · next same =>
      subst same
      cases checks
      exact (reads related).map_unit
    · cases checks
  byName := by
    intro get get' sources
    have found := sources name
    simp only [field]
    generalize get name = source, get' name = source' at found
    cases found with
    | some related => exact reads related
    | none =>
      -- Without a source the field takes its own value, or is missing, on both sides.
      cases absent with
      | none => exact .error _
      | some value => exact .ok (preset value rfl)

/-- What is made of values that are read alike is related where it is made alike. -/
theorem Agrees.map {S : α → α → Prop} {T : β → β → Prop} {f : α → β} {fields : Fields σ α}
    (maps : Relator.LiftFun S T f f) (agrees : Agrees rel S fields) :
    Agrees rel T (f <$> fields) where
  check := agrees.check
  byName sources := (agrees.byName sources).map fun related => maps related

/-- Two readings, one after the other, are alike where each of them is. -/
theorem Agrees.seq {S : α → α → Prop} {T : β → β → Prop} {made : Fields σ (α → β)}
    {next : Fields σ α} (first : Agrees rel (Relator.LiftFun S T) made)
    (second : Agrees rel S next) : Agrees rel T (made <*> next) where
  check := by
    intro name check a b checks related
    simp only [Seq.seq] at checks
    -- The check is the first one that there is.
    cases here : made.check name with
    | some check' =>
      simp only [here] at checks
      cases checks
      exact first.check here related
    | none =>
      simp only [here] at checks
      exact second.check checks related
  byName sources :=
    (first.byName sources).bind fun maps =>
      (second.byName sources).bind fun related => .ok (maps related)

section

variable [Source σ] {S : α → α → Prop} {fields : Fields σ α}

/-- Paired members are gone through alike. -/
theorem Agrees.checkMembers_eq (agrees : Agrees rel S fields)
    (skips : ∀ {name a b}, rel name a b → Source.skip a = Source.skip b) (manner : Manner)
    (stop : Option Fault) {members members' : List (String × σ)}
    (paired : List.Forall₂ (Paired rel) members members') :
    ∀ seen, checkMembers manner fields stop seen members
      = checkMembers manner fields stop seen members' := by
  -- What was seen grows from member to member, so it stays quantified over.
  induction paired with
  | nil => exact fun _ => rfl
  | @cons a b rest rest' first _ ih =>
    intro seen
    obtain ⟨name, source⟩ := a
    obtain ⟨name', source'⟩ := b
    obtain ⟨same, related⟩ := first
    obtain rfl : name = name' := same
    rw [checkMembers, checkMembers]
    cases checks : fields.check name with
    | none => simp only [skips related, ih seen]
    | some check => simp only [agrees.check checks related, ih (name :: seen)]

/-- Records whose members are paired are read alike. -/
theorem Agrees.read (agrees : Agrees rel S fields)
    (skips : ∀ {name a b}, rel name a b → Source.skip a = Source.skip b) (manner : Manner)
    {source source' : σ} {members members' : List (String × σ)}
    {stop surplus surplus' : Option Fault}
    (view : Source.view source = .record members stop surplus)
    (view' : Source.view source' = .record members' stop surplus')
    (paired : List.Forall₂ (Paired rel) members members') :
    Agree S (fields.read manner source) (fields.read manner source') := by
  simp only [Fields.read, view, view', agrees.checkMembers_eq skips manner stop paired]
  -- The faults of members are the same, and then the value is made by name.
  exact (Agree.refl (S := Eq) (fun _ => rfl) _).bind fun _ => agrees.byName (get?_paired paired)

end

end Fields

end AnalyticsClient.Wire
