import AnalyticsClient.Toml.Scalar
import Mathlib.Data.List.TakeWhile

/-! Whole numbers of TOML are read as they are printed. -/

namespace AnalyticsClient.Toml

/-- Whether a text is made of decimal digits. -/
def Decimal (cs : List Char) : Prop := ∀ c ∈ cs, c.isDigit = true

/-- The value of a decimal digit. -/
def digitOf (c : Char) : Nat := c.toNat - '0'.toNat

/-- The digits of a number are decimal digits. -/
theorem decimal_toDigits (number : Nat) : Decimal (Nat.toDigits 10 number) :=
  fun _ mem => Nat.isDigit_of_mem_toDigits (by decide) (by decide) mem

section

variable {cs : List Char} {c : Char}

/-- A character that is no digit does not stand among digits. -/
theorem Decimal.not_mem (decimal : Decimal cs) (c : Char) (different : c.isDigit = false) :
    c ∉ cs := by
  intro mem
  have digit := decimal c mem
  rw [different] at digit
  cases digit

/-- A character among digits is none that is no digit. -/
theorem Decimal.ne (decimal : Decimal cs) (mem : c ∈ cs) (other : Char)
    (different : other.isDigit = false) : c ≠ other :=
  fun same => decimal.not_mem other different (same ▸ mem)

/-- A digit stands for its distance from zero. -/
theorem digitValue?_eq (digit : c.isDigit = true) : digitValue? 10 c = some (digitOf c) := by
  obtain ⟨low, high⟩ : '0' ≤ c ∧ c ≤ '9' := by
    simpa [Char.isDigit, Char.le_def] using digit
  have low' : '0'.toNat ≤ c.toNat := low
  have high' : c.toNat ≤ '9'.toNat := high
  have small : c.toNat - '0'.toNat < 10 := by
    have least : '0'.toNat = 48 := rfl
    have greatest : '9'.toNat = 57 := rfl
    omega
  -- The value of a decimal digit is below the base, so it is not refused.
  simp only [digitValue?, low, high, and_self, if_true, Option.filter, small, decide_true, digitOf]

/-- No digit but zero stands for zero. -/
theorem eq_zero_of_digitOf (digit : c.isDigit = true) (zero : digitOf c = 0) : c = '0' := by
  obtain ⟨low, -⟩ : '0' ≤ c ∧ c ≤ '9' := by
    simpa [Char.isDigit, Char.le_def] using digit
  have low' : '0'.toNat ≤ c.toNat := low
  exact Char.toNat_inj.1 (Nat.le_antisymm (Nat.le_of_sub_eq_zero zero) low')

/-- Digits are read one by one. -/
theorem plainDigits?_eq (decimal : Decimal cs) (some_ : cs ≠ []) :
    plainDigits? 10 cs = some (cs.map digitOf) := by
  induction cs using plainDigits?.induct with
  | case1 => exact absurd rfl some_
  | case2 c => simp [plainDigits?, digitValue?_eq (decimal c (by simp))]
  | case3 c rest ih =>
    -- There is no underscore among digits.
    exact absurd (by simp) (decimal.not_mem '_' (by decide))
  | case4 c rest notLast plain ih =>
    have later := ih (fun d mem => decimal d (List.mem_cons_of_mem _ mem)) notLast
    rw [plainDigits?, digitValue?_eq (decimal c List.mem_cons_self), later]
    · rfl
    · exact notLast
    · exact plain

/-- The number of digits is the same whether they are read at once or made values first. -/
theorem ofDigits_map (cs : List Char) : ofDigits 10 (cs.map digitOf) = Nat.ofDigitChars 10 cs 0 := by
  rw [ofDigits, List.foldl_map, Nat.ofDigitChars_eq_foldl]
  simp only [Nat.mul_comm, digitOf]

/-- Digits are no date and no time. -/
theorem readMoment?_eq_none (decimal : Decimal cs) : readMoment? cs = none := by
  have later {count : Nat} {mark : Char} {rest : List Char} (shape : cs.drop count = mark :: rest) :
      mark ∈ cs := List.mem_of_mem_drop (shape ▸ List.mem_cons_self)
  have time : isTime cs = false := by
    unfold isTime
    split
    · -- A colon stands behind the hour.
      exact absurd (by simp) (decimal.not_mem ':' (by decide))
    · rfl
  have date : isDate cs = false := by
    unfold isDate
    split
    · next shape =>
      -- A dash stands behind the year.
      exact absurd (later shape) (decimal.not_mem '-' (by decide))
    · rfl
  unfold readMoment?
  rw [time, date]
  split
  · next mark rest shape =>
    have ne (other : Char) (different : other.isDigit = false) : mark ≠ other :=
      decimal.ne (later shape) other different
    simp [ne 'T' (by decide), ne 't' (by decide), ne ' ' (by decide)]
  · rfl

/-- Digits have no sign. -/
theorem splitSign_eq (decimal : Decimal cs) : splitSign cs = (false, cs) := by
  unfold splitSign
  split
  · exact absurd List.mem_cons_self (decimal.not_mem '+' (by decide))
  · exact absurd List.mem_cons_self (decimal.not_mem '-' (by decide))
  · rfl

/-- Digits alone are no number with a fraction or an exponent. -/
theorem readFloat?_eq_none (decimal : Decimal cs) : readFloat? cs = none := by
  have mark : ∀ c ∈ cs, (!isExponentMark c) = true := fun c mem => by
    simp [isExponentMark, decimal.ne mem 'e' (by decide),
      decimal.ne mem 'E' (by decide)]
  have point : ∀ c ∈ cs, (c != '.') = true := fun c mem => by
    simp [decimal.ne mem '.' (by decide)]
  have name (letter : Char) {rest : List Char} (different : letter.isDigit = false) :
      cs ≠ letter :: rest := by
    rintro rfl
    exact decimal.not_mem letter different List.mem_cons_self
  have whole : cs.takeWhile (fun c => !isExponentMark c) = cs := List.takeWhile_eq_self_iff.2 mark
  have none_ : cs.dropWhile (fun c => !isExponentMark c) = [] := List.dropWhile_eq_nil_iff.2 mark
  have pointless : cs.dropWhile (· != '.') = [] := List.dropWhile_eq_nil_iff.2 point
  -- There is neither a point nor a mark of an exponent, so it is left to be a whole number.
  simp only [readFloat?, splitSign_eq decimal, name 'i' (by decide),
    name 'n' (by decide), whole, none_, pointless]
  cases wholeDigits? (cs.takeWhile (· != '.')) <;> rfl

end

/-- The first digit of a number is zero only if there is no other one. -/
theorem toDigits_ne_zero_cons (number : Nat) (c : Char) (rest : List Char) :
    Nat.toDigits 10 number ≠ '0' :: c :: rest := by
  induction number using Nat.strongRecOn generalizing c rest with
  | _ number ih =>
    rcases Nat.lt_or_ge number 10 with small | large
    · rw [Nat.toDigits_of_lt_base small]
      simp
    · rw [Nat.toDigits_of_base_le (by decide) large]
      intro same
      -- The digits in front of the last one are those of a tenth of the number, which is not zero.
      have positive : 0 < number / 10 := Nat.div_pos large (by decide)
      cases front : Nat.toDigits 10 (number / 10) with
      | nil => exact Nat.toDigits_ne_nil front
      | cons d more =>
        rw [front] at same
        obtain ⟨rfl, shape⟩ := List.cons.inj same
        cases more with
        | cons d' more => exact ih _ (Nat.div_lt_self (by omega) (by decide)) _ _ front
        | nil =>
          have value : Nat.ofDigitChars 10 (Nat.toDigits 10 (number / 10)) 0 = number / 10 :=
            Nat.ofDigitChars_ten_toDigits
          rw [front] at value
          simp [Nat.ofDigitChars] at value
          omega

/-- The digits of a number are read as the digits of a whole number. -/
theorem wholeDigits?_toDigits (number : Nat) :
    wholeDigits? (Nat.toDigits 10 number) = some ((Nat.toDigits 10 number).map digitOf) := by
  have plain := plainDigits?_eq (decimal_toDigits number) Nat.toDigits_ne_nil
  simp only [wholeDigits?, plain, Option.bind_eq_bind, Option.bind_some]
  split
  · next d rest shape =>
    -- A zero in front would be needless.
    obtain ⟨first, later, front, zero, more⟩ := List.map_eq_cons_iff.1 shape
    obtain ⟨second, last, rfl, -, -⟩ := List.map_eq_cons_iff.1 more
    have digit : first.isDigit = true := decimal_toDigits number first (front ▸ List.mem_cons_self)
    rw [eq_zero_of_digitOf digit zero] at front
    exact absurd front (toDigits_ne_zero_cons number second last)
  · rfl

/-- Whether a number fits a whole number of TOML. -/
def Fits (number : Nat) : Prop := number < 0x8000000000000000

instance (number : Nat) : Decidable (Fits number) :=
  inferInstanceAs (Decidable (number < 0x8000000000000000))

/-- A number that fits is a value. -/
theorem asWord?_eq {number : Nat} (fits : Fits number) : asWord? number = some (.int number) := by
  unfold Fits at fits
  have range : -0x8000000000000000 ≤ (number : Int) ∧ (number : Int) < 0x8000000000000000 := by
    omega
  simp [asWord?, range]

/-- Digits are read as the number that they stand for. -/
theorem readInteger?_eq {cs : List Char} {digits : List Nat} (decimal : Decimal cs)
    (whole : wholeDigits? cs = some digits) : readInteger? cs = asWord? (ofDigits 10 digits) := by
  have base (mark : Char) {rest : List Char} (different : mark.isDigit = false) :
      cs ≠ '0' :: mark :: rest := by
    rintro rfl
    exact decimal.not_mem mark different (List.mem_cons_of_mem _ List.mem_cons_self)
  unfold readInteger?
  split
  -- The mark of another base is no digit.
  · exact absurd rfl (base 'x' (by decide))
  · exact absurd rfl (base 'o' (by decide))
  · exact absurd rfl (base 'b' (by decide))
  · rw [splitSign_eq decimal]
    simp only [Option.bind_eq_bind]
    rw [whole, Option.bind_some, if_neg Bool.false_ne_true]

/-- A whole number is read from its digits, and as nothing else. -/
theorem readWord?_toDigits {number : Nat} (fits : Fits number) :
    readWord? (Nat.toDigits 10 number) = some (.int number) := by
  have decimal := decimal_toDigits number
  -- Digits are none of the words that are looked for before numbers.
  have name (letter : Char) {rest : List Char} (different : letter.isDigit = false) :
      Nat.toDigits 10 number ≠ letter :: rest := by
    intro shape
    exact decimal.not_mem letter different (shape ▸ List.mem_cons_self)
  have integer : readInteger? (Nat.toDigits 10 number) = some (.int number) := by
    rw [readInteger?_eq decimal (wholeDigits?_toDigits number), ofDigits_map,
      Nat.ofDigitChars_ten_toDigits, asWord?_eq fits]
  rw [readWord?, if_neg (name 't' (by decide)), if_neg (name 'f' (by decide)),
    readMoment?_eq_none decimal, readFloat?_eq_none decimal, integer]
  rfl

end AnalyticsClient.Toml
