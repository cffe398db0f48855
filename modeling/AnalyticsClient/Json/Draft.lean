import AnalyticsClient.Wire.Source

/-! Drafts of JSON values: what a text shows, up to the place where it stops being readable. -/

namespace AnalyticsClient.Json

open Wire (Cut Fault)

/-- What stands where a member's name is due. -/
inductive Key where
  | name (text : String)
  /-- A string that is no text because a half of a surrogate pair stands alone in it. -/
  | unpaired
  /-- No string; the cut on reading the member and the cut on passing over it. -/
  | absent (onRead onSkip : Cut)

/-- A JSON value as far as its text goes. -/
inductive Draft where
  | null
  | bool (value : Bool)
  | int (value : Int)
  | float (value : Binary64)
  | str (value : String)
  /-- A number or string that is well formed but has no value. -/
  | valueless
  /-- A list or object that is nested too deep to be read. -/
  | deep (inner : Draft)
  | list (items : List Draft) (stop : Option Cut)
  | record (members : List (Key × Draft)) (stop : Option Cut)
  /-- No value; the cuts on reading it, on passing over it and on reading it as a variant. -/
  | broken (onRead onSkip onVariant : Cut)

namespace Draft

/-- Fails with a cut. -/
def fail {α : Type} (cut : Cut) : Except Fault α := .error (.cut cut)

/-- Fails with what stops a list or object, if anything does. -/
def atStop : Option Cut → Except Fault Unit
  | some cut => fail cut
  | none => .ok ()

/-- The members of an object up to the first that has no name, and what is found there. -/
def namedMembers (stop : Option Cut) :
    List (Key × Draft) → List (String × Draft) × Option Cut
  | [] => ([], stop)
  | (.name text, value) :: rest =>
    let (members, stop) := namedMembers stop rest
    ((text, value) :: members, stop)
  | (.unpaired, _) :: _ => ([], some .malformed)
  | (.absent onRead _, _) :: _ => ([], some onRead)

/-- What stands after the first member of an object that may have no other one: the end of the text
counts as such only right after the member. -/
def surplus (members : List (Key × Draft)) (stop : Option Cut) : Option Cut :=
  match members with
  | [] | [_] => stop
  | _ => some .malformed

/-- One layer of a draft. -/
def view : Draft → Wire.View Draft
  | .null => .null
  | .bool value => .bool value
  | .int value => .int value
  | .float value => .float value
  | .str value => .str value
  -- The form is right, so only reading the value shows the fault.
  | .valueless => .unreadable (.cut .malformed) (.cut .malformed)
  -- The outside of a deep value is seen, and entering it fails.
  | .deep (.record _ _) => .record [] (some (.cut .malformed)) none
  | .deep _ => .list [] (some (.cut .malformed))
  | .list items stop => .list items (stop.map .cut)
  | .record members stop =>
    let (named, namedStop) := namedMembers stop members
    .record named (namedStop.map .cut) ((surplus members stop).map .cut)
  | .broken onRead _ onVariant => .unreadable (.cut onRead) (.cut onVariant)

mutual

/-- Passes over a draft: only its form counts. -/
def skip : Draft → Except Fault Unit
  | .list items stop => do
    skipItems items
    atStop stop
  | .record members stop => do
    skipMembers members
    atStop stop
  | .deep inner => skip inner
  | .broken _ onSkip _ => fail onSkip
  | .null | .bool _ | .int _ | .float _ | .str _ | .valueless => .ok ()

/-- Passes over the items of a list. -/
def skipItems : List Draft → Except Fault Unit
  | [] => .ok ()
  | item :: rest => do
    skip item
    skipItems rest

/-- Passes over the members of an object. -/
def skipMembers : List (Key × Draft) → Except Fault Unit
  | [] => .ok ()
  -- Where no name is, there is no value to pass over either.
  | (.absent _ onSkip, _) :: _ => fail onSkip
  | (_, value) :: rest => do
    skip value
    skipMembers rest

end

mutual

/-- The value with the members of its objects as they stand. -/
def held : Draft → Except Fault Json
  | .null => .ok .null
  | .bool value => .ok (.bool value)
  | .int value => .ok (.int value)
  | .float value => .ok (.float value)
  | .str value => .ok (.str value)
  | .valueless | .deep _ => fail .malformed
  | .list items stop => do
    let values ← heldItems items
    atStop stop
    return .arr values
  | .record members stop => do
    let values ← heldMembers members
    atStop stop
    return .obj values
  | .broken onRead _ _ => fail onRead

/-- The values of the items of a list. -/
def heldItems : List Draft → Except Fault (List Json)
  | [] => .ok []
  | item :: rest => do
    let first ← held item
    let later ← heldItems rest
    return first :: later

/-- The values of the members of an object. -/
def heldMembers : List (Key × Draft) → Except Fault (List (String × Json))
  | [] => .ok []
  | (.name text, value) :: rest => do
    let first ← held value
    let later ← heldMembers rest
    return (text, first) :: later
  | (.unpaired, _) :: _ => fail .malformed
  | (.absent onRead _, _) :: _ => fail onRead

end

end Draft

mutual

/-- The value with the members of every object in order; of several with one name the last stays. -/
def inOrder : Json → Json
  | .arr items => .arr (inOrderItems items)
  | .obj members => .obj (Entries.sorted (inOrderMembers members))
  | .null => .null
  | .bool value => .bool value
  | .int value => .int value
  | .float value => .float value
  | .str value => .str value

/-- The values of a list, each in order. -/
def inOrderItems : List Json → List Json
  | [] => []
  | item :: rest => item.inOrder :: inOrderItems rest

/-- The members of a list, the value of each in order. -/
def inOrderMembers : List (String × Json) → List (String × Json)
  | [] => []
  | (name, value) :: rest => (name, value.inOrder) :: inOrderMembers rest

end

instance : Wire.JsonSource Draft where
  style := .text
  view := Draft.view
  skip := Draft.skip
  toJson draft := draft.held.map inOrder
  setAside := Draft.held

end AnalyticsClient.Json
