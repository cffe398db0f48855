import AnalyticsClient.Proofs.Toml.Number
import AnalyticsClient.Toml.Document

/-! Plain documents of TOML, with numbers under keys and headers, are read line by line. -/

namespace AnalyticsClient.Toml

/-- Whether a text is a key without quotation marks. -/
def Bare (key : List Char) : Prop := key ≠ [] ∧ ∀ c ∈ key, isBare c = true

instance (key : List Char) : Decidable (Bare key) :=
  decidable_of_iff (key ≠ [] ∧ key.all isBare = true) (by simp [Bare])

section

variable {key rest : List Char} {c mark : Char}

/-- A character of a key is none of those that open something else. -/
theorem ne_of_isBare (bare : isBare c = true) (other : Char) (different : isBare other = false) :
    c ≠ other := by
  -- The two are told apart by whether they can be part of a key.
  intro same
  rw [same, different] at bare
  cases bare

/-- A key is no blank. -/
theorem isSpace_of_isBare (bare : isBare c = true) : isSpace c = false := by
  simp [isSpace, ne_of_isBare bare ' ' (by decide),
    ne_of_isBare bare '\t' (by decide)]

/-- A key has a first character. -/
theorem Bare.exists_cons (bare : Bare key) :
    ∃ c more, key = c :: more ∧ isBare c = true ∧ isSpace c = false := by
  obtain ⟨some_, all⟩ := bare
  obtain ⟨c, more, rfl⟩ := List.exists_cons_of_ne_nil some_
  have first := all c List.mem_cons_self
  exact ⟨c, more, rfl, first, isSpace_of_isBare first⟩

/-- A key without quotation marks is read up to what is no part of it. -/
theorem readKeyPart_bare (bare : Bare key) (stop : isBare mark = false) :
    readKeyPart (key ++ mark :: rest) = some (String.ofList key, mark :: rest) := by
  -- A key that starts with no quotation mark is no quoted one.
  have first : readQuoted (key ++ mark :: rest) = none := by
    obtain ⟨c, more, rfl, first, -⟩ := bare.exists_cons
    simp only [List.cons_append]
    unfold readQuoted
    split
    · next shape => exact absurd (List.cons.inj shape).1 (ne_of_isBare first _ (by decide))
    · next shape => exact absurd (List.cons.inj shape).1 (ne_of_isBare first _ (by decide))
    · rfl
  obtain ⟨some_, all⟩ := bare
  -- Without quotation marks, all characters up to the first one that does not fit are taken.
  have taken : (key ++ mark :: rest).takeWhile isBare = key := by
    simp [List.takeWhile_append_of_pos all, stop]
  have left : (key ++ mark :: rest).dropWhile isBare = mark :: rest := by
    simp [List.dropWhile_append_of_pos all, stop]
  simp [readKeyPart, first, taken, left, some_]

/-- A key that is followed by blanks and a mark other than a point is a key of one part. -/
theorem readKey_bare {next : Char} {left : List Char} (bare : Bare key)
    (stop : isBare mark = false) (after : afterSpaces (mark :: rest) = next :: left)
    (single : next ≠ '.') :
    readKey (key ++ mark :: rest) = some (([], String.ofList key), next :: left) := by
  -- No blanks stand before the key, and no point follows it that would go on with it.
  have start : afterSpaces (key ++ mark :: rest) = key ++ mark :: rest := by
    obtain ⟨c, more, rfl, -, space⟩ := bare.exists_cons
    simp [afterSpaces, space]
  have parts : readKeyParts ((key ++ mark :: rest).length + 1) (key ++ mark :: rest)
      = some ([String.ofList key], next :: left) := by
    rw [readKeyParts, start]
    simp only [readKeyPart_bare bare stop, Option.bind_eq_bind, Option.bind_some, after]
    split
    · next shape => exact absurd (List.cons.inj shape).1 single
    · rfl
  simp only [readKey, parts, Option.bind_eq_bind, Option.bind_some]
  rfl

end

/-- A number of TOML is read where a line ends behind it. -/
theorem readValue_number {number : Nat} (fits : Fits number) (depth turns : Nat)
    (rest : List Char) :
    readValue depth (turns + 1) (Nat.toDigits 10 number ++ '\n' :: rest)
      = some (.int number, '\n' :: rest) := by
  have decimal := decimal_toDigits number
  have digits : ∀ c ∈ Nat.toDigits 10 number, isWordChar c = true := fun c mem => by
    simp [isWordChar, Char.isAlphanum, decimal c mem]
  -- The digits are a word, which ends where the line does.
  have word : splitWord (Nat.toDigits 10 number ++ '\n' :: rest)
      = (Nat.toDigits 10 number, '\n' :: rest) := by
    have stop : isWordChar '\n' = false := by decide
    simp [splitWord, List.takeWhile_append_of_pos digits, List.dropWhile_append_of_pos digits, stop]
  have read := readWord?_toDigits fits
  -- The first digit opens neither an array nor a table nor a string.
  cases shape : Nat.toDigits 10 number with
  | nil => exact absurd shape Nat.toDigits_ne_nil
  | cons d more =>
    have ne (other : Char) (different : other.isDigit = false) : d ≠ other :=
      decimal.ne (shape ▸ List.mem_cons_self) other different
    rw [shape] at word read
    simp only [List.cons_append] at word ⊢
    rw [readValue]
    · simp only [ne '"' (by decide), ne '\'' (by decide), or_self, if_false, word, read]
      rfl
    · exact ne '[' (by decide)
    · exact ne '\x7b' (by decide)

namespace Draft

variable {draft : Draft} {turns : Nat} {rest : List Char}

/-- An empty line changes nothing. -/
theorem readLines_blank : readLines (turns + 1) draft ('\n' :: rest) = readLines turns draft rest :=
  rfl

/-- A line with a comment changes nothing. -/
theorem readLines_comment {comment : List Char} (plain : ∀ c ∈ comment, isPlain c = true) :
    readLines (turns + 1) draft ('#' :: (comment ++ '\n' :: rest)) = readLines turns draft rest := by
  have start : afterSpaces ('#' :: (comment ++ '\n' :: rest)) = '#' :: (comment ++ '\n' :: rest) :=
    rfl
  -- A comment goes on up to the end of the line.
  have shown : afterComment ('#' :: (comment ++ '\n' :: rest)) = '\n' :: rest := by
    have stop : isPlain '\n' = false := by decide
    simp [afterComment, List.dropWhile_append_of_pos plain, stop]
  have after : afterLine? ('#' :: (comment ++ '\n' :: rest)) = some rest := by
    rw [afterLine?, start, shown]
    rfl
  rw [readLines, start]
  simp only [after, Option.bind_eq_bind, Option.bind_some]

/-- A line with a header in single brackets opens its table. -/
theorem readLines_header {key : List Char} (bare : Bare key) :
    readLines (turns + 1) draft ('[' :: (key ++ ']' :: '\n' :: rest))
      = (draft.openTable [] (String.ofList key)).bind fun opened => readLines turns opened rest := by
  have start : afterSpaces ('[' :: (key ++ ']' :: '\n' :: rest)) = '[' :: (key ++ ']' :: '\n' :: rest) :=
    rfl
  -- The key of the header is followed by its bracket at once.
  have name : readKey (key ++ ']' :: '\n' :: rest)
      = some (([], String.ofList key), ']' :: '\n' :: rest) :=
    readKey_bare bare (by decide) rfl (by decide)
  have after : afterLine? ('\n' :: rest) = some rest := rfl
  rw [readLines, start]
  split
  · next shape => cases shape
  · next shape =>
    -- The bracket of the header is not followed by another one.
    obtain ⟨c, more, rfl, first, -⟩ := bare.exists_cons
    have same := (List.cons.inj (List.cons.inj shape).2).1
    exact absurd same (ne_of_isBare first _ (by decide))
  · next shape =>
    obtain ⟨-, rfl⟩ := List.cons.inj shape
    simp only [name, after, Option.bind_eq_bind, Option.bind_some]
  · next shape => simp at shape
  · next shape => simp at shape
  · next shape => simp at shape
  · next other _ _ _ => exact absurd rfl (other _)

/-- A line with a number under a key adds an entry to the current table. -/
theorem readLines_number {key : List Char} {number : Nat} (bare : Bare key) (fits : Fits number) :
    readLines (turns + 1) draft
        (key ++ ' ' :: '=' :: ' ' :: (Nat.toDigits 10 number ++ '\n' :: rest))
      = (draft.current.append? (String.ofList key) (.int number)).bind fun current =>
        readLines turns { draft with current } rest := by
  -- The key is followed by one blank, and so is the sign of equality.
  have name : readKey (key ++ ' ' :: '=' :: ' ' :: (Nat.toDigits 10 number ++ '\n' :: rest))
      = some (([], String.ofList key), '=' :: ' ' :: (Nat.toDigits 10 number ++ '\n' :: rest)) :=
    readKey_bare bare (by decide) rfl (by decide)
  obtain ⟨c, more, shape, first, space⟩ := bare.exists_cons
  have start : afterSpaces (key ++ ' ' :: '=' :: ' ' :: (Nat.toDigits 10 number ++ '\n' :: rest))
      = key ++ ' ' :: '=' :: ' ' :: (Nat.toDigits 10 number ++ '\n' :: rest) := by
    simp [shape, afterSpaces, space]
  have value : afterSpaces (' ' :: (Nat.toDigits 10 number ++ '\n' :: rest))
      = Nat.toDigits 10 number ++ '\n' :: rest := by
    cases digits : Nat.toDigits 10 number with
    | nil => exact absurd digits Nat.toDigits_ne_nil
    | cons d more =>
      have digit : d.isDigit = true := decimal_toDigits number d (digits ▸ List.mem_cons_self)
      have bare : isBare d = true := by simp [isBare, Char.isAlphanum, digit]
      have blank : isSpace ' ' = true := by decide
      simp [afterSpaces, blank, isSpace_of_isBare bare]
  have after : afterLine? ('\n' :: rest) = some rest := rfl
  -- A line that starts with a key is none of the other sorts.
  have opens (other : Char) (different : isBare other = false) {left right : List Char} :
      key ++ left ≠ other :: right := by
    rw [shape]
    exact fun same => ne_of_isBare first other different (List.cons.inj same).1
  rw [readLines, start]
  split
  · next same => simp [shape] at same
  · next same => exact absurd same (opens '[' (by decide))
  · next same => exact absurd same (opens '[' (by decide))
  · next same => exact absurd same (opens '#' (by decide))
  · next same => exact absurd same (opens '\n' (by decide))
  · next same => exact absurd same (opens '\r' (by decide))
  · simp only [name, value, readValue_number fits, Table.addDotted, after, Option.bind_eq_bind,
      Option.bind_some]

/-- The end of a document puts the last table in its place. -/
theorem readLines_end : readLines (turns + 1) draft [] = draft.finish := rfl

end Draft

/-- The lines of plain documents. -/
inductive Line where
  | blank
  | comment (text : String)
  | header (key : String)
  | number (key : String) (value : Nat)

namespace Line

/-- The text of a line. -/
def text : Line → String
  | blank => "\n"
  | comment text => "#" ++ text ++ "\n"
  | header key => "[" ++ key ++ "]\n"
  | number key value => key ++ " = " ++ toString value ++ "\n"

/-- Whether a line says what it should. -/
def Proper : Line → Prop
  | blank => True
  | comment text => ∀ c ∈ text.toList, isPlain c = true
  | header key => Bare key.toList
  | number key value => Bare key.toList ∧ Fits value

instance : DecidablePred Proper
  | blank => isTrue trivial
  | comment text => decidable_of_iff (text.toList.all isPlain = true) (by simp [Proper])
  | header key => inferInstanceAs (Decidable (Bare key.toList))
  | number key value => inferInstanceAs (Decidable (Bare key.toList ∧ Fits value))

/-- What a line changes. -/
def apply (draft : Draft) : Line → Option Draft
  | blank | comment _ => some draft
  | header key => draft.openTable [] key
  | number key value =>
    (draft.current.append? key (.int value)).map fun current => { draft with current }

/-- A line is read by what it changes. -/
theorem readLines_cons {line : Line} (proper : line.Proper) (turns : Nat) (draft : Draft)
    (rest : List Char) :
    draft.readLines (turns + 1) (line.text.toList ++ rest)
      = (line.apply draft).bind fun draft => draft.readLines turns rest := by
  -- Each sort of line has its own law, stated of its characters.
  cases line with
  | blank => exact Draft.readLines_blank
  | comment text =>
    have read := @Draft.readLines_comment draft turns rest _ proper
    simpa [Line.text, apply] using read
  | header key =>
    have read := @Draft.readLines_header draft turns rest _ proper
    simpa [Line.text, apply, String.ofList_toList] using read
  | number key value =>
    obtain ⟨bare, fits⟩ := proper
    have read := @Draft.readLines_number draft turns rest _ _ bare fits
    simpa [Line.text, apply, String.ofList_toList, Option.bind_map, Function.comp_def] using read

/-- Lines are read by what they change one after the other. -/
theorem readLines_all {lines : List Line} (proper : ∀ line ∈ lines, line.Proper) (turns : Nat) :
    ∀ draft : Draft,
      draft.readLines (lines.length + turns + 1) (lines.flatMap fun line => line.text.toList)
        = (lines.foldlM apply draft).bind Draft.finish := by
  -- What was read so far changes from line to line, so it stays quantified over.
  induction lines with
  | nil => exact fun _ => Draft.readLines_end
  | cons line rest ih =>
    intro draft
    have later := ih fun line mem => proper line (List.mem_cons_of_mem _ mem)
    have turn : (line :: rest).length + turns + 1 = (rest.length + turns + 1) + 1 := by
      simp only [List.length_cons]
      omega
    rw [turn, List.flatMap_cons, readLines_cons (proper line List.mem_cons_self)]
    simp only [later, List.foldlM_cons, Option.bind_eq_bind, Option.bind_assoc]

/-- A line starts with a character that is no mark of an encoding. -/
theorem exists_cons {line : Line} (proper : line.Proper) :
    ∃ c rest, line.text.toList = c :: rest ∧ c ≠ '\uFEFF' := by
  -- All sorts but the numbers start with a mark of their own, and those start with a key.
  cases line with
  | blank => exact ⟨'\n', [], by simp [text], by decide⟩
  | comment text => exact ⟨'#', text.toList ++ ['\n'], by simp [Line.text], by decide⟩
  | header key => exact ⟨'[', key.toList ++ [']', '\n'], by simp [text], by decide⟩
  | number key value =>
    obtain ⟨c, more, shape, bare, -⟩ := proper.1.exists_cons
    have start : (text (.number key value)).toList
        = key.toList ++ (" = " ++ toString value ++ "\n").toList := by
      simp [text]
    exact ⟨c, _, by rw [start, shape]; rfl, ne_of_isBare bare _ (by decide)⟩

/-- There are at least as many characters as lines. -/
theorem length_le {lines : List Line} (proper : ∀ line ∈ lines, line.Proper) :
    lines.length ≤ (lines.flatMap fun line => line.text.toList).length := by
  induction lines with
  | nil => exact Nat.le_refl _
  | cons line rest ih =>
    have later := ih fun line mem => proper line (List.mem_cons_of_mem _ mem)
    -- Each line has a character, so none is read without a turn for it.
    obtain ⟨c, more, shape, -⟩ := exists_cons (proper line List.mem_cons_self)
    simp only [List.flatMap_cons, shape, List.length_append, List.length_cons]
    omega

end Line

/-- The text of some lines. -/
def document (lines : List Line) : String := .join (lines.map Line.text)

/-- A document of plain lines is read by what they change one after the other. -/
theorem parse?_document {lines : List Line} (proper : ∀ line ∈ lines, line.Proper) :
    parse? (document lines)
      = (lines.foldlM Line.apply ⟨[], [], none, false⟩).bind Draft.finish := by
  have shape : (document lines).toList = lines.flatMap fun line => line.text.toList := by
    simp [document, List.flatMap_map]
  -- There are enough turns for all lines.
  obtain ⟨turns, enough⟩ := Nat.exists_eq_add_of_le (Line.length_le proper)
  have read := Line.readLines_all proper (turns + 1) ⟨[], [], none, false⟩
  have count : (lines.flatMap fun line => line.text.toList).length + 2
      = lines.length + (turns + 1) + 1 := by omega
  unfold parse?
  rw [shape]
  split
  · next rest mark =>
    -- No line starts with the mark of an encoding.
    cases lines with
    | nil => cases mark
    | cons line later =>
      obtain ⟨c, more, first, other⟩ := Line.exists_cons (proper line List.mem_cons_self)
      rw [List.flatMap_cons, first] at mark
      exact absurd (List.cons.inj mark).1 other
  · show Draft.readLines ((lines.flatMap fun line => line.text.toList).length + 2) _ _ = _
    rw [count, read]

end AnalyticsClient.Toml
