import AnalyticsClient.Entries
import AnalyticsClient.Number.Binary64

/-! JSON values, with whole numbers apart from floating point numbers. -/

namespace AnalyticsClient

/-- A JSON value. -/
inductive Json where
  | null
  | bool (value : Bool)
  | int (value : Int)
  | float (value : Binary64)
  | str (value : String)
  | arr (items : List Json)
  | obj (members : List (String × Json))

namespace Json

mutual

/-- Equality of two values is decided part by part. -/
def decEq : (a b : Json) → Decidable (a = b)
  | .null, .null => isTrue rfl
  | .bool a, .bool b => decidable_of_iff (a = b) (by simp)
  | .int a, .int b => decidable_of_iff (a = b) (by simp)
  | .float a, .float b => decidable_of_iff (a = b) (by simp)
  | .str a, .str b => decidable_of_iff (a = b) (by simp)
  | .arr a, .arr b =>
    match decEqItems a b with
    | isTrue same => isTrue (by rw [same])
    | isFalse differs => isFalse fun same => differs (by injection same)
  | .obj a, .obj b =>
    match decEqMembers a b with
    | isTrue same => isTrue (by rw [same])
    | isFalse differs => isFalse fun same => differs (by injection same)
  | .null, .bool _ | .null, .int _ | .null, .float _ | .null, .str _ | .null, .arr _
  | .null, .obj _ | .bool _, .null | .bool _, .int _ | .bool _, .float _ | .bool _, .str _
  | .bool _, .arr _ | .bool _, .obj _ | .int _, .null | .int _, .bool _ | .int _, .float _
  | .int _, .str _ | .int _, .arr _ | .int _, .obj _ | .float _, .null | .float _, .bool _
  | .float _, .int _ | .float _, .str _ | .float _, .arr _ | .float _, .obj _ | .str _, .null
  | .str _, .bool _ | .str _, .int _ | .str _, .float _ | .str _, .arr _ | .str _, .obj _
  | .arr _, .null | .arr _, .bool _ | .arr _, .int _ | .arr _, .float _ | .arr _, .str _
  | .arr _, .obj _ | .obj _, .null | .obj _, .bool _ | .obj _, .int _ | .obj _, .float _
  | .obj _, .str _ | .obj _, .arr _ => isFalse nofun

/-- Equality of two lists of values. -/
def decEqItems : (a b : List Json) → Decidable (a = b)
  | [], [] => isTrue rfl
  | [], _ :: _ | _ :: _, [] => isFalse nofun
  | x :: xs, y :: ys =>
    match decEq x y, decEqItems xs ys with
    | isTrue head, isTrue tail => isTrue (by rw [head, tail])
    | isFalse differs, _ => isFalse fun same => differs (by injection same)
    | _, isFalse differs => isFalse fun same => differs (by injection same)

/-- Equality of two lists of members. -/
def decEqMembers : (a b : List (String × Json)) → Decidable (a = b)
  | [], [] => isTrue rfl
  | [], _ :: _ | _ :: _, [] => isFalse nofun
  | (k, x) :: xs, (l, y) :: ys =>
    if name : k = l then
      match decEq x y, decEqMembers xs ys with
      | isTrue head, isTrue tail => isTrue (by rw [name, head, tail])
      | isFalse differs, _ => isFalse fun same => differs (by grind)
      | _, isFalse differs => isFalse fun same => differs (by grind)
    else isFalse fun same => name (by grind)

end

instance : DecidableEq Json := decEq

instance : Inhabited Json := ⟨.null⟩

mutual

/-- Every object of the value lists its members in increasing order of their names. -/
def Ordered : Json → Prop
  | .arr items => OrderedItems items
  | .obj members => Entries.Ordered members ∧ OrderedMembers members
  | _ => True

/-- Every value of a list is ordered. -/
def OrderedItems : List Json → Prop
  | [] => True
  | item :: rest => item.Ordered ∧ OrderedItems rest

/-- The value of every member of a list is ordered. -/
def OrderedMembers : List (String × Json) → Prop
  | [] => True
  | (_, value) :: rest => value.Ordered ∧ OrderedMembers rest

end

/-- The object with the given members. -/
def ofMembers (members : List (String × Json)) : Json := .obj (Entries.sorted members)

/-- The object with those of the given members that are there. -/
def ofFields (fields : List (String × Option Json)) : Json :=
  ofMembers (fields.filterMap fun field => field.2.map (field.1, ·))

/-- A natural number. -/
def nat (n : Nat) : Json := .int n

/-- A value that may be missing, written as null when it is. -/
def orNull (value : Option Json) : Json := value.getD .null

/-- The object of a map. -/
def ofDict {α : Type} (encode : α → Json) (dict : Dict α) : Json :=
  .obj (dict.entries.map fun entry => (entry.1, encode entry.2))

/-- The value of a member of an object. -/
def get? : Json → String → Option Json
  | .obj members, name => Entries.get? members name
  | _, _ => none

end Json

end AnalyticsClient
