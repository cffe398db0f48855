import AnalyticsClient.Json.Basic
import AnalyticsClient.Wire.Fault

/-! Plain values that typed values are read from, and the reading of single values and lists. -/

namespace AnalyticsClient.Wire

/-- One layer of a plain value. What stands after the last part of a list or record that could be
read is `stop`, if the value does not end there; what stands after the first member of a record that
may have no other one is `surplus`. -/
inductive View (σ : Type) where
  | null
  | bool (value : Bool)
  | int (value : Int)
  | float (value : Binary64)
  | str (value : String)
  | list (items : List σ) (stop : Option Fault)
  | record (members : List (String × σ)) (stop surplus : Option Fault)
  /-- A value that cannot be read, with what is found on reading it as a variant instead. -/
  | unreadable (fault asVariant : Fault)

/-- The ways in which sources of plain values differ. -/
inductive Style where
  /-- A value held in memory. -/
  | value
  /-- JSON text, read in one pass. -/
  | text
  /-- The parts of a value that were set aside until its variant was known. -/
  | setAside
  /-- A value of a configuration file. -/
  | config
deriving DecidableEq

/-- A kind of plain value that can be taken apart. -/
class Source (σ : Type) where
  style : Style
  view : σ → View σ
  /-- Passing over a value without reading it. -/
  skip : σ → Except Fault Unit

/-- A source whose values are JSON values. -/
class JsonSource (σ : Type) extends Source σ where
  /-- The value itself, the members of its objects in order. -/
  toJson : σ → Except Fault Json
  /-- The value with the members of its objects as they stand. -/
  setAside : σ → Except Fault Json

/-- A reading of plain values as values of a type. -/
abbrev Decoder (σ α : Type) := σ → Except Fault α

/-- The shape of what a view shows. -/
def View.shape {σ : Type} : View σ → Shape
  | .null => .null
  | .bool value => .bool value
  | .int value => .int value
  | .float value => .float value
  | .str value => .str value
  | .list _ _ => .list
  | .record _ _ _ => .record
  | .unreadable _ _ => .null

/-- The view of a JSON value, its parts turned into sources by `wrap`. -/
def View.ofJson {σ : Type} (wrap : Json → σ) : Json → View σ
  | .null => .null
  | .bool value => .bool value
  | .int value => .int value
  | .float value => .float value
  | .str value => .str value
  | .arr items => .list (items.map wrap) none
  | .obj members => .record (members.map fun member => (member.1, wrap member.2)) none none

instance : JsonSource Json where
  style := .value
  view := View.ofJson id
  skip _ := .ok ()
  toJson := .ok
  setAside := .ok

/-- A JSON value that was set aside. -/
structure Aside where
  value : Json

instance : Source Aside where
  style := .setAside
  view aside := View.ofJson Aside.mk aside.value
  skip _ := .ok ()

variable {σ α : Type} [Source σ]

/-- Fails because the value is of another type than the one expected. -/
def unexpected (expected : String) (view : View σ) : Except Fault α :=
  match view with
  | .unreadable fault _ => .error fault
  | other => .error (.wrongType other.shape expected)

/-- Fails with what stops a list or record, if anything does. -/
def atEnd : Option Fault → Except Fault Unit
  | some fault => .error fault
  | none => .ok ()

/-- Reads a text. -/
def string : Decoder σ String := fun source =>
  match Source.view source with
  | .str value => .ok value
  | other => unexpected "a string" other

/-- Reads a truth value. -/
def bool : Decoder σ Bool := fun source =>
  match Source.view source with
  | .bool value => .ok value
  | other => unexpected "a boolean" other

/-- Reads a whole number from `low` up to, but without, `high`. -/
def whole (expected : String) (low high : Int) : Decoder σ Int := fun source =>
  match Source.view source with
  | .int value =>
    -- A number of the right type may still be out of range.
    if low ≤ value ∧ value < high then .ok value
    else .error (.wrongValue (.int value) expected)
  | other => unexpected expected other

/-- Reads an unsigned word of 16 bits. -/
def u16 : Decoder σ UInt16 := fun source =>
  (whole "u16" 0 UInt16.size source).map fun value => UInt16.ofNat value.toNat

/-- Reads an unsigned word of 32 bits. -/
def u32 : Decoder σ UInt32 := fun source =>
  (whole "u32" 0 UInt32.size source).map fun value => UInt32.ofNat value.toNat

/-- Reads an unsigned word of 64 bits. -/
def u64 : Decoder σ UInt64 := fun source =>
  (whole "u64" 0 UInt64.size source).map fun value => UInt64.ofNat value.toNat

/-- Reads a size, which is an unsigned word of 64 bits under another name. -/
def size : Decoder σ UInt64 := fun source =>
  (whole "usize" 0 UInt64.size source).map fun value => UInt64.ofNat value.toNat

/-- Reads a signed word of 64 bits. -/
def i64 : Decoder σ Int64 := fun source =>
  (whole "i64" (-0x8000000000000000) 0x8000000000000000 source).map Int64.ofInt

/-- Reads null as nothing and anything else with `read`. -/
def optional (read : Decoder σ α) : Decoder σ (Option α) := fun source =>
  match Source.view source with
  | .null => .ok none
  | _ => (read source).map some

/-- Reads the items of a list in order. -/
def readItems (read : Decoder σ α) : List σ → Except Fault (List α)
  | [] => .ok []
  | item :: rest => do
    let first ← read item
    let later ← readItems read rest
    return first :: later

/-- Reads a list. -/
def list (read : Decoder σ α) : Decoder σ (List α) := fun source =>
  match Source.view source with
  | .list items stop => do
    -- An item that is wrong is at fault before what stops the list.
    let values ← readItems read items
    atEnd stop
    return values
  | other => unexpected "a sequence" other

/-- Reads members one by one into a map; of several with one name the last stays. -/
def readEntries (read : Decoder σ α) : List (String × σ) → Dict α → Except Fault (Dict α)
  | [], made => .ok made
  | (name, item) :: rest, made => do
    let value ← read item
    readEntries read rest (made.insert name value)

/-- Reads a map with text keys. -/
def dict (read : Decoder σ α) : Decoder σ (Dict α) := fun source =>
  match Source.view source with
  | .record members stop _ => do
    let made ← readEntries read members ∅
    atEnd stop
    return made
  | other => unexpected "a map" other

/-- Reads any JSON value. -/
def json {σ : Type} [JsonSource σ] : Decoder σ Json := JsonSource.toJson

end AnalyticsClient.Wire
