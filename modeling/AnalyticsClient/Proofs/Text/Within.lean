import AnalyticsClient.Number.Shortest
import AnalyticsClient.Text.Quoted
import Mathlib.Data.List.Infix

/-! Words within a shown text: those of the text itself, and none that showing it brings in. -/

namespace AnalyticsClient

section

variable {α : Type} {word before after : List α} {mark : α}

/-- A word that does not have a mark begins with it only where it has no characters. -/
theorem prefix_mark_iff (apart : mark ∉ word) : word <+: mark :: after ↔ word = [] := by
  cases word with
  | nil => simp
  | cons first rest =>
    have other : ¬ first = mark := fun same => apart (same ▸ List.mem_cons_self)
    simp [List.cons_prefix_cons, other]

/-- A word that does not have a mark stands on one side of it. -/
theorem infix_mark_iff (apart : mark ∉ word) :
    word <:+: before ++ mark :: after ↔ word <:+: before ∨ word <:+: after := by
  rw [List.infix_append_iff, List.infix_cons_iff]
  constructor
  · intro holds
    rcases holds with left | (front | right) | ⟨first, last, rfl, left, front⟩
    · exact .inl left
    · rw [(prefix_mark_iff apart).1 front]
      exact .inr List.nil_infix
    · exact .inr right
    · -- What reaches the mark from the left ends before it.
      have beyond : mark ∉ last := fun mem => apart (List.mem_append_right _ mem)
      rw [(prefix_mark_iff beyond).1 front, List.append_nil]
      exact .inl left.isInfix
  · intro holds
    rcases holds with left | right
    · exact .inl left
    · exact .inr (.inl (.inr right))

end

namespace Text

/-- A character is shown as itself, after a backslash, or by number. -/
theorem quoteChar_cases (c : Char) :
    quoteChar c = [c] ∨ (∃ sign ∈ ['"', '\\', 'n', 'r', 't', '0'], quoteChar c = ['\\', sign])
      ∨ quoteChar c = numbered c := by
  unfold quoteChar
  repeat' split
  all_goals simp

/-- What is not shown as itself begins with a backslash. -/
theorem quoteChar_eq_cons (c : Char) :
    quoteChar c = [c] ∨ quoteChar c ≠ [c] ∧ ∃ rest, quoteChar c = '\\' :: rest := by
  rcases quoteChar_cases c with same | ⟨sign, -, escaped⟩ | escaped
  · exact .inl same
  · refine .inr ⟨?_, _, escaped⟩
    simp [escaped]
  · refine .inr ⟨?_, _, escaped⟩
    simp [escaped, numbered]

/-- The characters of a word are shown as themselves. -/
def Shown (word : List Char) : Prop := ∀ c ∈ word, quoteChar c = [c]

instance (word : List Char) : Decidable (Shown word) :=
  List.decidableBAll (fun c => quoteChar c = [c]) word

/-- A shown text begins with a word that is shown as itself where the text does. -/
theorem prefix_flatMap_quoteChar {text : List Char} :
    ∀ {word}, Shown word → (word <+: text.flatMap quoteChar ↔ word <+: text) := by
  -- The word gets shorter together with the text, so it stays quantified over.
  induction text with
  | nil => simp
  | cons c rest ih =>
    intro word shown
    cases word with
    | nil => simp
    | cons first later =>
      have here : quoteChar first = [first] := shown first List.mem_cons_self
      have others : Shown later := fun other mem => shown other (List.mem_cons_of_mem _ mem)
      rcases quoteChar_eq_cons c with same | ⟨differs, tail, escaped⟩
      · simp [same, List.cons_prefix_cons, ih others]
      · -- A backslash is no character of the word, and neither is the one that it stands for.
        have notBackslash : first ≠ '\\' := fun same => by
          rw [same] at here
          revert here
          decide
        have notChar : first ≠ c := fun same => differs (same ▸ here)
        simp [escaped, List.cons_prefix_cons, notBackslash, notChar]

/-- The digits of a number in base sixteen have no underscore among them. -/
theorem underscore_notMem_hexDigits (n : Nat) : '_' ∉ hexDigits n := by
  have digit (n : Nat) : '_' ≠ Nat.digitChar n := (Nat.digitChar_ne '_' (by decide)).symm
  unfold hexDigits
  induction n using Nat.strongRecOn with
  | ind n ih =>
    rw [Nat.toDigits_eq_if (by decide)]
    split
    · exact List.not_mem_cons_of_ne_of_not_mem (digit n) List.not_mem_nil
    · -- The last digit is no underscore, and those before it are those of a smaller number.
      have smaller : n / 16 < n := by omega
      rw [List.mem_append, List.mem_singleton]
      exact not_or.2 ⟨ih _ smaller, digit _⟩

/-- The text of a whole number has no underscore. -/
theorem underscore_notMem_int (n : Int) : '_' ∉ (toString n).toList := by
  -- There is only a sign before the digits, if anything is.
  rw [Int.toString_eq_repr, Int.repr_eq_if]
  split <;> simp

/-- A word that is found in a shown text only where it is found in the text. -/
structure Findable (word : List Char) : Prop where
  shown : Shown word
  /-- No escape has an underscore. -/
  underscore : '_' ∈ word
  /-- A character that is shown by number ends with a brace. -/
  brace : '\x7d' ∉ word
  /-- What follows a backslash is not where the word begins. -/
  start : word.head? ∉ ['n', 'r', 't', '0'].map some

instance (word : List Char) : Decidable (Findable word) :=
  decidable_of_iff (Shown word ∧ '_' ∈ word ∧ '\x7d' ∉ word
      ∧ word.head? ∉ ['n', 'r', 't', '0'].map some)
    ⟨fun holds => ⟨holds.1, holds.2.1, holds.2.2.1, holds.2.2.2⟩,
      fun findable => ⟨findable.shown, findable.underscore, findable.brace, findable.start⟩⟩

variable {word : List Char}

/-- A word with an underscore is nowhere in a text without one. -/
theorem not_infix_of_underscore {text : List Char} (has : '_' ∈ word) (lacks : '_' ∉ text) :
    ¬ word <:+: text :=
  fun within => lacks (within.mem has)

/-- Escapes before a shown text do not matter to a word that can be found. -/
theorem Findable.infix_escape {c : Char} {text : List Char} (findable : Findable word)
    (escaped : quoteChar c ≠ [c]) : word <:+: quoteChar c ++ text ↔ word <:+: text := by
  have underscore := findable.underscore
  rcases quoteChar_cases c with same | ⟨sign, among, two⟩ | byNumber
  · exact absurd same escaped
  · -- The word begins with neither of the two characters.
    cases word with
    | nil => cases underscore
    | cons first rest =>
      have here : quoteChar first = [first] := findable.shown first List.mem_cons_self
      have start : first ∉ ['n', 'r', 't', '0'] := fun mem =>
        findable.start (List.mem_map_of_mem mem)
      have notBackslash : first ≠ '\\' := fun same => by
        rw [same] at here
        revert here
        decide
      have notSign : first ≠ sign := fun same => by
        subst same
        simp only [List.mem_cons, List.not_mem_nil, or_false, not_or] at among start
        rcases among with rfl | rfl | letter
        · revert here
          decide
        · exact notBackslash rfl
        · obtain ⟨n, r, t, zero⟩ := start
          rcases letter with rfl | rfl | rfl | rfl
          · exact n rfl
          · exact r rfl
          · exact t rfl
          · exact zero rfl
      simp [two, List.infix_cons_iff, List.cons_prefix_cons, notBackslash, notSign]
  · -- The number has no underscore, and the brace after it is not in the word.
    have split : numbered c ++ text
        = (['\\', 'u', '\x7b'] ++ hexDigits c.val.toNat) ++ '\x7d' :: text := by
      simp [numbered]
    have before : ¬ word <:+: ['\\', 'u', '\x7b'] ++ hexDigits c.val.toNat :=
      not_infix_of_underscore underscore (by simp [underscore_notMem_hexDigits])
    rw [byNumber, split, infix_mark_iff findable.brace]
    exact or_iff_right before

/-- What can be found in a shown text is what is in the text. -/
theorem Findable.infix_flatMap (findable : Findable word) (text : List Char) :
    word <:+: text.flatMap quoteChar ↔ word <:+: text := by
  induction text with
  | nil => rfl
  | cons c rest ih =>
    rcases quoteChar_eq_cons c with same | ⟨escaped, -⟩
    · have front := @prefix_flatMap_quoteChar (c :: rest) word findable.shown
      rw [List.flatMap_cons, same, List.singleton_append] at front ⊢
      rw [List.infix_cons_iff, List.infix_cons_iff, front, ih]
    · -- The word does not begin with a character that is not shown as itself.
      have notFront : ¬ word <+: c :: rest := fun front => by
        cases word with
        | nil => exact absurd findable.underscore List.not_mem_nil
        | cons first later =>
          have here : quoteChar first = [first] := findable.shown first List.mem_cons_self
          exact escaped ((List.cons_prefix_cons.1 front).1 ▸ here)
      rw [List.flatMap_cons, findable.infix_escape escaped, ih, List.infix_cons_iff]
      exact (or_iff_right notFront).symm

/-- What can be found around and between the quotation marks of a text is what is in the text. -/
theorem Findable.infix_quoted {before after : List Char} (findable : Findable word)
    (apartBefore : '_' ∉ before) (apartAfter : '_' ∉ after) (text : String) :
    word <:+: before ++ (quoted text).toList ++ after ↔ word <:+: text.toList := by
  have mark : '"' ∉ word := fun mem => by
    have here := findable.shown '"' mem
    revert here
    decide
  have split : before ++ (quoted text).toList ++ after
      = before ++ '"' :: (text.toList.flatMap quoteChar ++ '"' :: after) := by
    simp [quoted]
  -- The word has no quotation mark, so it is on one side of each of the two.
  rw [split, infix_mark_iff mark, infix_mark_iff mark, findable.infix_flatMap,
    or_iff_right (not_infix_of_underscore findable.underscore apartBefore),
    or_iff_left (not_infix_of_underscore findable.underscore apartAfter)]

end Text

namespace Binary64

open Text

/-- The positional layout of a number has no underscore. -/
theorem underscore_notMem_positional (d : Decimal) : '_' ∉ positional d := by
  have digits : '_' ∉ (toString d.digits).toList := by simp
  simp only [positional]
  generalize (toString d.digits).toList = written at digits ⊢
  split
  · simpa [zeros] using digits
  · split
    · -- The digits are on both sides of the point.
      have whole (n : Nat) : '_' ∉ written.take n := fun mem => digits (List.mem_of_mem_take mem)
      have part (n : Nat) : '_' ∉ written.drop n := fun mem => digits (List.mem_of_mem_drop mem)
      simp [whole, part]
    · simpa [zeros] using digits

/-- The scientific layout of a number has no underscore. -/
theorem underscore_notMem_scientific (d : Decimal) : '_' ∉ scientific d := by
  have digits : '_' ∉ (toString d.digits).toList := by simp
  have power (n : Nat) : '_' ∉ (toString n).toList := by simp
  have sign (negative : Prop) [Decidable negative] : '_' ≠ if negative then '-' else '+' := by
    split <;> decide
  -- Besides digits there are only a point, the mark of the power and its sign.
  simp only [scientific]
  generalize (toString d.digits).toList = written at digits ⊢
  split
  · simpa [sign, power] using digits
  · simpa [sign, power] using digits

/-- The text of a finite number has no underscore. -/
theorem underscore_notMem_render (x : Binary64) : '_' ∉ x.render.toList := by
  have either (layout : Prop) [Decidable layout] :
      '_' ∉ if layout then positional x.shortest else scientific x.shortest := by
    split
    · exact underscore_notMem_positional _
    · exact underscore_notMem_scientific _
  simp only [render, String.toList_ofList]
  split <;> split <;> simp [either]

end Binary64

end AnalyticsClient
