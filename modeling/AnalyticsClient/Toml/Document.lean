import AnalyticsClient.Toml.Text

/-! The reading of TOML documents. -/

namespace AnalyticsClient.Toml

/-- The characters of values that are single words. -/
def isWordChar (c : Char) : Bool :=
  c.isAlphanum || c = '+' || c = '-' || c = '_' || c = '.' || c = ':'

/-- Splits a word off; a blank and a time may follow a date. -/
def splitWord (cs : List Char) : List Char × List Char :=
  let word := cs.takeWhile isWordChar
  let rest := cs.dropWhile isWordChar
  match rest with
  | ' ' :: more =>
    let time := more.takeWhile isWordChar
    if isDate word ∧ isTimeWithOffset time then (word ++ ' ' :: time, more.dropWhile isWordChar)
    else (word, rest)
  | _ => (word, rest)

/-- What follows blanks, comments and line ends. -/
def afterLines : (turns : Nat) → List Char → List Char
  | 0, cs => cs
  | turns + 1, cs =>
    let cs := afterSpaces cs
    match afterNewline? (afterComment cs) with
    | some rest => afterLines turns rest
    | none => cs

mutual

/-- Reads a value; `depth` arrays and tables are open around it. -/
def readValue (depth : Nat) : (turns : Nat) → List Char → Option (Value × List Char)
  | 0, _ => none
  | turns + 1, cs =>
    match cs with
    | '[' :: rest =>
      if depth < deepestNesting then do
        let (items, rest) ← readItems (depth + 1) turns rest
        return (.array items, rest)
      else none
    | '\x7b' :: rest =>
      if depth < deepestNesting then do
        let (entries, rest) ← readEntries (depth + 1) true [] turns (afterSpaces rest)
        return (.table .braces entries, rest)
      else none
    | c :: _ =>
      if c = '"' ∨ c = '\'' then do
        let (text, rest) ← readString cs
        return (.str text, rest)
      else
        let (word, rest) := splitWord cs
        (readWord? word).map (·, rest)
    | [] => none
termination_by structural turns => turns

/-- Reads the items of an array up to its closing bracket. -/
def readItems (depth : Nat) : (turns : Nat) → List Char → Option (List Value × List Char)
  | 0, _ => none
  | turns + 1, cs =>
    match afterLines (cs.length + 1) cs with
    | ']' :: rest => some ([], rest)
    | cs => do
      let (item, rest) ← readValue depth turns cs
      match afterLines (rest.length + 1) rest with
      | ']' :: rest => return ([item], rest)
      -- A comma may stand in front of the closing bracket, too.
      | ',' :: rest => do
        let (items, rest) ← readItems depth turns rest
        return (item :: items, rest)
      | _ => none
termination_by structural turns => turns

/-- Reads the entries between braces, which stand on one line; `first` before any of them. -/
def readEntries (depth : Nat) (first : Bool) (made : Table) :
    (turns : Nat) → List Char → Option (Table × List Char)
  | 0, _ => none
  | turns + 1, cs =>
    match cs, first with
    -- Only a table without entries ends here: none follows a comma.
    | '\x7d' :: rest, true => some (made, rest)
    | cs, _ => do
      let ((path, key), rest) ← readKey cs
      match rest with
      | '=' :: rest => do
        let (value, rest) ← readValue depth turns (afterSpaces rest)
        let made ← made.addInBraces path key value
        match afterSpaces rest with
        | '\x7d' :: rest => return (made, rest)
        | ',' :: rest => readEntries depth false made turns rest
        | _ => none
      | _ => none
termination_by structural turns => turns

end

/-- A document while it is read: the tables that are finished, and the one under the last header. -/
structure Draft where
  finished : Table
  current : Table
  /-- The path and the key of the last header; none before the first. -/
  header : Option (List String × String)
  /-- Whether the last header stood in double brackets. -/
  repeated : Bool

namespace Draft

/-- Puts the current table in its place. -/
def finish (draft : Draft) : Option Table :=
  match draft.header with
  | none => some draft.current
  | some (path, key) =>
    if draft.repeated then Table.atPath (Table.appendElement key draft.current) draft.finished path
    else
      Table.atPath (fun parent => parent.append? key (.table .header draft.current))
        draft.finished path

/-- Opens the table of a header. A table that later headers implied is taken up again; any other
table of the same name is in the way. -/
def openTable (draft : Draft) (path : List String) (key : String) : Option Draft := do
  let finished ← draft.finish
  -- The parent is made even when it stays empty for now.
  let parent ← Table.atPath some finished path
  let taken := (lookup finished path).bind fun table => table.get? key
  match taken with
  | none => return ⟨parent, [], some (path, key), false⟩
  -- What was implied is taken out, and goes back once the table is finished.
  | some (.table .implied entries) => do
    let without ←
      Table.atPath (fun table => some (table.filter fun entry => entry.1 ≠ key)) finished path
    return ⟨without, entries, some (path, key), false⟩
  | some _ => none
where
  lookup (table : Table) : List String → Option Table
    | [] => some table
    | step :: path =>
      match table.get? step with
      | some (.table _ inner) => lookup inner path
      | some (.tables elements) =>
        match elements.getLast? with
        | some last => lookup last path
        | none => none
      | _ => none

/-- Opens an element of a header in double brackets. -/
def openElement (draft : Draft) (path : List String) (key : String) : Option Draft := do
  let finished ← draft.finish
  let check (parent : Table) : Option Table :=
    match parent.get? key with
    | none => some (parent ++ [(key, .tables [])])
    | some (.tables _) => some parent
    | some _ => none
  let parent ← Table.atPath check finished path
  return ⟨parent, [], some (path, key), true⟩

/-- Reads the rest of a line after its content: blanks, a comment and the end. -/
def afterLine? (cs : List Char) : Option (List Char) :=
  match afterComment (afterSpaces cs) with
  | [] => some []
  | rest => afterNewline? rest

/-- Reads the lines of a document. -/
def readLines : (turns : Nat) → Draft → List Char → Option Table
  | 0, _, _ => none
  | turns + 1, draft, cs =>
    match afterSpaces cs with
    | [] => draft.finish
    | '[' :: '[' :: rest => do
      let ((path, key), rest) ← readKey rest
      match rest with
      | ']' :: ']' :: rest => do
        let rest ← afterLine? rest
        readLines turns (← draft.openElement path key) rest
      | _ => none
    | '[' :: rest => do
      let ((path, key), rest) ← readKey rest
      match rest with
      | ']' :: rest => do
        let rest ← afterLine? rest
        readLines turns (← draft.openTable path key) rest
      | _ => none
    | '#' :: rest => do readLines turns draft (← afterLine? ('#' :: rest))
    | '\n' :: rest => readLines turns draft rest
    | '\r' :: '\n' :: rest => readLines turns draft rest
    | cs => do
      let ((path, key), rest) ← readKey cs
      match rest with
      | '=' :: rest => do
        let (value, rest) ← readValue 0 (2 * rest.length + 2) (afterSpaces rest)
        let current ← draft.current.addDotted path key value
        readLines turns { draft with current } (← afterLine? rest)
      | _ => none

end Draft

/-- Reads a document; none if the text is not one. A byte order mark at its start is left out. -/
def parse? (text : String) : Option Table :=
  let cs := match text.toList with
    | '\uFEFF' :: rest => rest
    | cs => cs
  Draft.readLines (cs.length + 2) ⟨[], [], none, false⟩ cs

end AnalyticsClient.Toml
