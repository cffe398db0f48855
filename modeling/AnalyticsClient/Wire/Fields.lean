import AnalyticsClient.Wire.Source

/-! Records: the fields of a type, read from an object by name or from a list by place. -/

namespace AnalyticsClient.Wire

/-- What is left of a list while fields are taken from its front. -/
structure Items (σ : Type) where
  rest : List σ
  /-- What stands after the last item, if the list does not end there. -/
  stop : Option Fault
  /-- How many fields were asked for so far. -/
  asked : Nat

/-- A reading of some named fields, in the order of their declaration. -/
structure Fields (σ α : Type) where
  /-- The names of the fields. -/
  names : List String
  /-- The reading of the field of a name, its value left aside. -/
  check : String → Option (σ → Except Fault Unit)
  /-- The value made from the fields by name. -/
  byName : (String → Option σ) → Except Fault α
  /-- The value made from the fields by place; the first argument is the fault of a list that ends
  before the field of a place. -/
  byPlace : (Nat → Fault) → Items σ → Except Fault (α × Items σ)

namespace Fields

variable {σ α β : Type}

/-- One field; a field that is not there has the value `absent`, or is missing if that is none. -/
def field (name : String) (absent : Option α) (read : Decoder σ α) : Fields σ α where
  names := [name]
  check asked := if asked = name then some fun source => (read source).map fun _ => () else none
  byName get :=
    match get name, absent with
    | some source, _ => read source
    | none, some value => .ok value
    | none, none => .error (.missingField name)
  byPlace short items :=
    match items.rest, items.stop, absent with
    | source :: rest, _, _ => do
      let value ← read source
      return (value, { items with rest, asked := items.asked + 1 })
    -- A list that breaks off is at fault before a field is missing.
    | [], some fault, _ => .error fault
    | [], none, some value => .ok (value, { items with asked := items.asked + 1 })
    | [], none, none => .error (short items.asked)

/-- A field that has to be there. -/
def required (name : String) (read : Decoder σ α) : Fields σ α := field name none read

/-- A field with a value of its own for when it is not there. -/
def withDefault (name : String) (value : α) (read : Decoder σ α) : Fields σ α :=
  field name (some value) read

/-- A field that may be null and need not be there. -/
def perhaps [Source σ] (name : String) (read : Decoder σ α) : Fields σ (Option α) :=
  field name (some none) (optional read)

instance : Functor (Fields σ) where
  map f fields :=
    { names := fields.names
      check := fields.check
      byName := fun get => (fields.byName get).map f
      byPlace := fun short items =>
        (fields.byPlace short items).map fun (value, left) => (f value, left) }

instance : Seq (Fields σ) where
  seq made next :=
    let next := next ()
    { names := made.names ++ next.names
      check := fun name => made.check name <|> next.check name
      byName := fun get => do
        let f ← made.byName get
        let value ← next.byName get
        return f value
      byPlace := fun short items => do
        let (f, items) ← made.byPlace short items
        let (value, items) ← next.byPlace short items
        return (f value, items) }

/-- A reading whose value is made into another one, or refused, as soon as its fields are read. -/
def refine (fields : Fields σ α) (f : α → Except Fault β) : Fields σ β where
  names := fields.names
  check := fields.check
  byName get := (fields.byName get).bind f
  byPlace short items := do
    let (value, left) ← fields.byPlace short items
    let made ← f value
    return (made, left)

/-- How a record is named in messages and what it does with names that are not its own. -/
structure Manner where
  what : String
  /-- Whether other names are refused. -/
  closed : Bool
  /-- Whether a list that is too short is told how many items it lacks. -/
  counted : Bool

/-- The items of a list of a given length, in words. -/
def elements (count : Nat) : String :=
  toString count ++ if count = 1 then " element" else " elements"

/-- Goes through the members in the order in which they stand: a known one is read, and must not
come twice; another one is refused or passed over. -/
def checkMembers [Source σ] (manner : Manner) (fields : Fields σ α) (stop : Option Fault) :
    List String → List (String × σ) → Except Fault Unit
  | _, [] => atEnd stop
  | seen, (name, source) :: rest =>
    match fields.check name with
    | some check =>
      -- A name that comes again is refused before its value is looked at.
      if name ∈ seen then .error (.duplicateField name)
      else do
        check source
        checkMembers manner fields stop (name :: seen) rest
    | none =>
      if manner.closed then .error (.unknownField name fields.names)
      else do
        Source.skip source
        checkMembers manner fields stop seen rest

/-- Ends the reading of a list from which all fields were taken. -/
def finishItems [Source σ] (count : Nat) (left : Items σ) : Except Fault Unit :=
  match left.rest, Source.style σ with
  | [], _ => atEnd left.stop
  | rest, .value => .error (.wrongLength (count + rest.length) "fewer elements in array")
  | rest, .setAside =>
    .error (.wrongLength (count + rest.length) (elements count ++ " in sequence"))
  -- A text goes on where its closing bracket is due.
  | _, .text => .error (.cut .malformed)
  | _, .config => .ok ()

/-- Reads a record. -/
def read [Source σ] (manner : Manner) (fields : Fields σ α) : Decoder σ α := fun source =>
  match Source.view source with
  | .record members stop _ => do
    -- Faults are found in the order of the members, and the value is made by name.
    checkMembers manner fields stop [] members
    fields.byName fun name => Entries.get? members name
  | .list items stop => do
    let count := fields.names.length
    let short (asked : Nat) : Fault :=
      .wrongLength asked
        (if manner.counted then manner.what ++ " with " ++ elements count else manner.what)
    let (value, left) ← fields.byPlace short ⟨items, stop, 0⟩
    finishItems count left
    return value
  | other => unexpected manner.what other

/-- Reads a record that passes over names it does not know. -/
def readOpen [Source σ] (what : String) (fields : Fields σ α) : Decoder σ α :=
  fields.read ⟨what, false, true⟩

/-- Reads a record that refuses names it does not know. -/
def readClosed [Source σ] (what : String) (fields : Fields σ α) : Decoder σ α :=
  fields.read ⟨what, true, true⟩

end Fields

end AnalyticsClient.Wire
