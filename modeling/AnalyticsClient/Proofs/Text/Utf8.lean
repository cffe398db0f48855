import Mathlib.Data.List.Basic
import Mathlib.Tactic.Common

/-! Texts are in the order of the bytes that they are written with in UTF-8. -/

namespace AnalyticsClient.Text

/-- The bytes of a text in UTF-8. -/
def bytes (text : String) : List UInt8 := text.toUTF8.data.toList

/-- The bytes of a text are those of its characters. -/
theorem bytes_eq (text : String) : bytes text = text.toList.flatMap String.utf8EncodeChar := by
  rw [bytes, String.toUTF8_eq_toByteArray, ← String.utf8Encode_toList, List.utf8Encode]
  simp

/-- The bytes of a smaller character are in front, whatever follows. -/
theorem utf8EncodeChar_lt {c d : Char} (less : c < d) (rest rest' : List UInt8) :
    String.utf8EncodeChar c ++ rest < String.utf8EncodeChar d ++ rest' := by
  have less : c.val.toNat < d.val.toNat := less
  have bound : d.val.toNat < 1114112 := by
    have valid := d.valid
    rcases valid with small | ⟨-, large⟩
    · omega
    · exact large
  simp only [String.utf8EncodeChar]
  generalize c.val.toNat = v at less ⊢
  generalize d.val.toNat = w at less bound ⊢
  -- No digit in base 64 is too large for a byte, whatever is added to tell the bytes apart.
  have digit (n : Nat) : (n % 64 + 128) % 2 ^ 8 = n % 64 + 128 := by omega
  have first (n : Nat) : (n % 32 + 192) % 2 ^ 8 = n % 32 + 192
      ∧ (n % 16 + 224) % 2 ^ 8 = n % 16 + 224 ∧ (n % 8 + 240) % 2 ^ 8 = n % 8 + 240 := by omega
  have sum (n : Nat) (small : n < 2097152) : n = 262144 * (n / 262144 % 8)
      + 4096 * (n / 4096 % 64) + 64 * (n / 64 % 64) + n % 64 := by omega
  have sumV := sum v (by omega)
  have sumW := sum w (by omega)
  -- A number with more bytes has a greater first one, and otherwise the first digit decides in
  -- which the two numbers differ.
  split_ifs <;>
    simp only [List.cons_append, List.nil_append, List.cons_lt_cons_iff, UInt8.lt_iff_toNat_lt,
      ← UInt8.toNat_inj, UInt8.toNat_ofNat', digit, first] <;>
    omega

/-- The bytes of a smaller list of characters are smaller. -/
theorem flatMap_utf8EncodeChar_lt {chars : List Char} : ∀ {others : List Char}, chars < others →
    chars.flatMap String.utf8EncodeChar < others.flatMap String.utf8EncodeChar := by
  -- The lists get shorter together, so the other one stays quantified over.
  induction chars with
  | nil =>
    intro others less
    cases others with
    | nil => exact absurd less (List.not_lt_nil _)
    | cons d rest' =>
      obtain ⟨byte, later, split⟩ :=
        List.exists_cons_of_ne_nil (@String.utf8EncodeChar_ne_nil d)
      rw [List.flatMap_cons, split]
      exact List.nil_lt_cons _ _
  | cons c rest ih =>
    intro others less
    cases others with
    | nil => exact absurd less (List.not_lt_nil _)
    | cons d rest' =>
      rw [List.flatMap_cons, List.flatMap_cons]
      rcases List.cons_lt_cons_iff.1 less with first | ⟨rfl, later⟩
      · exact utf8EncodeChar_lt first _ _
      · exact List.append_left_lt (ih later)

/-- Texts are in the order of their bytes in UTF-8. -/
theorem lt_iff_bytes_lt {text other : String} : text < other ↔ bytes text < bytes other := by
  have grows {text other : String} (less : text < other) : bytes text < bytes other := by
    rw [bytes_eq, bytes_eq]
    exact flatMap_utf8EncodeChar_lt (String.lt_iff.1 less)
  refine ⟨grows, fun less => ?_⟩
  refine Decidable.byContradiction fun notLess => ?_
  -- If it were otherwise, the bytes would be the same, or in the other order.
  by_cases same : text = other
  · rw [same] at less
    exact List.lt_irrefl _ less
  · have greater : other < text := by
      refine Decidable.byContradiction fun notGreater => same ?_
      exact String.le_antisymm (String.not_lt.1 notGreater) (String.not_lt.1 notLess)
    exact List.lt_asymm less (grows greater)

end AnalyticsClient.Text
