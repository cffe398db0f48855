import AnalyticsClient.Text.Blank

/-! Trimming: what is left of a text is its one part that has no blank at either end and nothing but
blanks around it. -/

namespace AnalyticsClient.Text

/-- Whether characters neither start nor end with a blank. -/
structure Tight (cs : List Char) : Prop where
  first : ∀ c ∈ cs.head?, isBlank c = false
  last : ∀ c ∈ cs.getLast?, isBlank c = false

/-- Whether a text is a word with nothing but blanks around it. -/
def Surrounds (text word : String) : Prop :=
  ∃ before after : List Char, before.all isBlank = true ∧ after.all isBlank = true
    ∧ text.toList = before ++ word.toList ++ after

/-- A word has no blanks around it when it stands alone. -/
theorem Surrounds.refl (word : String) : Surrounds word word :=
  ⟨[], [], rfl, rfl, (List.append_nil _).symm⟩

/-- What is left behind the first blanks does not start with one. -/
theorem first_dropWhile (cs : List Char) :
    ∀ c ∈ (cs.dropWhile isBlank).head?, isBlank c = false := by
  intro c head
  have first := List.head?_dropWhile_not isBlank cs
  rw [Option.mem_def.1 head] at first
  exact first

/-- Only the first blanks are dropped from characters that go on with something else. -/
theorem dropWhile_append_of_first {before kept : List Char} (blank : before.all isBlank = true)
    (first : ∀ c ∈ kept.head?, isBlank c = false) : (before ++ kept).dropWhile isBlank = kept := by
  rw [List.dropWhile_append_of_pos (List.all_eq_true.1 blank)]
  cases kept with
  | nil => rfl
  | cons c rest => exact List.dropWhile_cons_of_neg (by simp [first c rfl])

/-- The characters that are dropped are blanks. -/
theorem exists_dropped (cs : List Char) :
    ∃ before, before.all isBlank = true ∧ cs = before ++ cs.dropWhile isBlank :=
  ⟨cs.takeWhile isBlank, List.all_takeWhile, List.takeWhile_append_dropWhile.symm⟩

/-- Trimming leaves the part of the characters without a blank at its ends that stands between
blanks. -/
theorem trimChars_eq_iff {cs word : List Char} :
    trimChars cs = word ↔ Tight word ∧ ∃ before after : List Char, before.all isBlank = true
      ∧ after.all isBlank = true ∧ cs = before ++ word ++ after := by
  constructor
  · intro trimmed
    -- What is dropped at the end comes first once the characters are turned around.
    obtain ⟨before, blank, whole⟩ := exists_dropped cs
    obtain ⟨after, blank', middle⟩ := exists_dropped (cs.dropWhile isBlank).reverse
    have rest : cs.dropWhile isBlank = word ++ after.reverse := by
      rw [← trimmed, trimChars, ← List.reverse_append, ← middle, List.reverse_reverse]
    refine ⟨⟨fun c head => ?_, fun c last => ?_⟩, before, after.reverse, blank, ?_, ?_⟩
    · -- The first character left is the first one behind the blanks in front.
      refine first_dropWhile cs c ?_
      rw [rest, List.head?_append, Option.mem_def.1 head]
      rfl
    · rw [← trimmed, trimChars, List.getLast?_reverse] at last
      exact first_dropWhile _ c last
    · rw [List.all_reverse]
      exact blank'
    · rw [List.append_assoc, ← rest]
      exact whole
  · rintro ⟨tight, before, after, blank, blank', rfl⟩
    cases word with
    | nil =>
      -- Without a word there are blanks only.
      rw [trimChars_eq_nil_iff, List.append_nil, List.all_append, blank, blank']
      rfl
    | cons c rest =>
      -- The blanks in front end with the word, and so do those behind it from the other side.
      have front : (before ++ (c :: rest ++ after)).dropWhile isBlank = c :: rest ++ after :=
        dropWhile_append_of_first blank fun _ head => tight.first _ head
      have back : (after.reverse ++ (c :: rest).reverse).dropWhile isBlank = (c :: rest).reverse :=
        dropWhile_append_of_first (by rw [List.all_reverse]; exact blank') fun _ head =>
          tight.last _ (List.head?_reverse ▸ head)
      rw [trimChars, List.append_assoc, front, List.reverse_append, back, List.reverse_reverse]

/-- A word without blanks at its ends is left of a text exactly where the text holds nothing but
blanks around it. -/
theorem trim_eq_iff {text word : String} (tight : Tight word.toList) :
    trim text = word ↔ Surrounds text word := by
  rw [trim, ← String.toList_inj, String.toList_ofList, trimChars_eq_iff]
  exact and_iff_right tight

end AnalyticsClient.Text
