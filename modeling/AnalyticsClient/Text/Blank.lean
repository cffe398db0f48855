/-! Blank characters, and texts that hold nothing else. -/

namespace AnalyticsClient.Text

/-- A blank character is one with the Unicode property White_Space. -/
def isBlank (c : Char) : Bool :=
  let code := c.val.toNat
  (0x9 ≤ code && code ≤ 0xD) || code == 0x20 || code == 0x85 || code == 0xA0 || code == 0x1680
    || (0x2000 ≤ code && code ≤ 0x200A) || code == 0x2028 || code == 0x2029
    || code == 0x202F || code == 0x205F || code == 0x3000

/-- The characters left once the blanks at both ends are gone. -/
def trimChars (cs : List Char) : List Char :=
  ((cs.dropWhile isBlank).reverse.dropWhile isBlank).reverse

/-- The text without the blanks at its two ends. -/
def trim (text : String) : String :=
  String.ofList (trimChars text.toList)

/-- A text is blank when every character of it is. -/
def isBlankText (text : String) : Bool :=
  text.toList.all isBlank

/-- Trimming leaves nothing exactly of a list of blanks. -/
theorem trimChars_eq_nil_iff (cs : List Char) : trimChars cs = [] ↔ cs.all isBlank = true := by
  -- What survives the first pass starts with a character that is not blank.
  have emptied : ∀ l : List Char, l.dropWhile isBlank = [] ↔ l.all isBlank = true := by
    intro l
    induction l with
    | nil => simp
    | cons c rest ih => cases blank : isBlank c <;> simp [List.dropWhile, blank, ih]
  constructor
  · intro trimmed
    have back : (cs.dropWhile isBlank).all isBlank = true := by
      have := (emptied (cs.dropWhile isBlank).reverse).1 (List.reverse_eq_nil_iff.1 trimmed)
      simpa [List.all_reverse] using this
    refine (emptied cs).1 ?_
    cases kept : cs.dropWhile isBlank with
    | nil => rfl
    | cons c rest =>
      have first : isBlank c = false := by
        have := List.head?_dropWhile_not (p := isBlank) cs
        simpa [kept] using this
      simp [kept, first] at back
  · intro blank
    simp [trimChars, (emptied cs).2 blank]

end AnalyticsClient.Text
