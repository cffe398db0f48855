import AnalyticsClient.Operation.Kind
import AnalyticsClient.Proofs.Text.Trim
import AnalyticsClient.Proofs.Wire.Recovery

/-! The vocabulary of operations: the plain values that denote one, by its code or by its name, and
what is made of all others. -/

namespace AnalyticsClient.Operation

open Wire

/-- Whether a plain value denotes an operation that is known: it is the number of the operation's
code, or a text with the operation's name and nothing but blanks around it. -/
inductive Denotes : Json → Operation → Prop where
  | code {operation : Operation} (known : operation.isKnown = true) :
    Denotes (.int operation.code.toNat) operation
  | name {operation : Operation} {text : String} (known : operation.isKnown = true)
      (surrounds : Text.Surrounds text operation.name) :
    Denotes (.str text) operation

/-- Whether a plain value is read as an operation at all, be it an unknown one. -/
inductive Legible : Json → Prop where
  | number (number : Int) : Legible (.int number)
  | text (text : String) : Legible (.str text)

/-- Every operation that is not known is the unknown one. -/
theorem isKnown_eq_false_iff {operation : Operation} :
    operation.isKnown = false ↔ operation = .unknown := by
  simp [isKnown]

/-- The operations that are known are those of the list. -/
theorem mem_all_iff {operation : Operation} : operation ∈ all ↔ operation.isKnown = true := by
  cases operation <;> decide

/-- The code of an operation is one more than its place in the list. -/
theorem code_get {place : Nat} (bound : place < all.length) :
    (all.get ⟨place, bound⟩).code.toNat = place + 1 :=
  (by decide : ∀ place : Fin all.length, (all.get place).code.toNat = place + 1) ⟨place, bound⟩

/-- The codes of the known operations are the numbers from one to fifteen. -/
theorem exists_code_iff {number : Int} :
    (∃ operation : Operation, operation.isKnown = true ∧ number = operation.code.toNat)
      ↔ 1 ≤ number ∧ number ≤ 15 := by
  have count : all.length = 15 := rfl
  constructor
  · rintro ⟨operation, known, rfl⟩
    -- A known operation stands in the list, and its place tells its code.
    obtain ⟨⟨place, bound⟩, rfl⟩ := List.get_of_mem (mem_all_iff.2 known)
    rw [code_get]
    omega
  · rintro ⟨low, high⟩
    -- The operation of a code stands in the list, one place before it.
    have bound : number.toNat - 1 < all.length := by omega
    refine ⟨all.get ⟨_, bound⟩, mem_all_iff.1 (List.get_mem ..), ?_⟩
    rw [code_get]
    omega

/-- A byte has a known operation where it is the operation's code. -/
theorem ofByte_eq_iff {byte : UInt8} {operation : Operation} (known : operation.isKnown = true) :
    ofByte byte = operation ↔ byte = operation.code := by
  constructor
  · intro found
    unfold ofByte at found
    split at found
    · next within =>
      -- The operation was found in the place that its code tells.
      refine UInt8.toNat_inj.1 ?_
      rw [← found, code_get]
      omega
    · -- What is found for any other byte is not known.
      rw [← found] at known
      cases known
  · rintro rfl
    exact ofByte_code operation

/-- A number has a known operation where it is the operation's code, and not where it only leaves
the same rest by the size of a byte. -/
theorem ofCode_eq_iff {number : Int} {operation : Operation} (known : operation.isKnown = true) :
    ofCode number = operation ↔ number = operation.code.toNat := by
  have size : UInt8.size = 256 := rfl
  unfold ofCode
  split
  · next fits =>
    -- A number that fits a byte is told by it.
    have byte : (UInt8.ofNat number.toNat).toNat = number.toNat :=
      UInt8.toNat_ofNat_of_lt' (by omega)
    rw [ofByte_eq_iff known, ← UInt8.toNat_inj, byte]
    omega
  · next exceeds =>
    -- No code is as large as a number that does not fit, so the two sides fail together.
    have bound := operation.code.toNat_lt_size
    constructor
    · rintro rfl
      cases known
    · intro same
      omega

example : ofCode (256 + 3) = .unknown := rfl

/-- An operation is the one of its name. -/
theorem ofName_name (operation : Operation) : ofName operation.name = operation := by
  cases operation <;> rfl

/-- Names have no blanks at their ends. -/
theorem tight_name (operation : Operation) : Text.Tight operation.name.toList := by
  cases operation <;> constructor <;> simp [name, Text.isBlank]

/-- A text has a known operation where the operation's name is left of it once the blanks around it
are gone. -/
theorem ofName_eq_iff {text : String} {operation : Operation} (known : operation.isKnown = true) :
    ofName text = operation ↔ Text.trim text = operation.name := by
  constructor
  · intro found
    simp only [ofName] at found
    -- What is found in the list has the name that was looked for.
    cases search : all.find? fun operation => operation.name = Text.trim text with
    | none =>
      rw [search] at found
      rw [← found] at known
      cases known
    | some other =>
      rw [search] at found
      obtain rfl : other = operation := found
      have fits := List.find?_some search
      exact (of_decide_eq_true fits).symm
  · intro left
    -- The name itself is left as it is, so it leads to the same place.
    have own : Text.trim operation.name = operation.name :=
      (Text.trim_eq_iff operation.tight_name).2 (.refl _)
    calc ofName text = ofName operation.name := by simp only [ofName, left, own]
      _ = operation := ofName_name operation

/-- A plain value denotes the known operation that is read from it. -/
theorem denotes_iff {json : Json} {operation : Operation} :
    Denotes json operation ↔ operation.isKnown = true ∧ decode json = .ok operation := by
  constructor
  · intro denotes
    cases denotes with
    | code known =>
      have found := (ofCode_eq_iff known).2 rfl
      exact ⟨known, congrArg Except.ok found⟩
    | name known surrounds =>
      have left := (Text.trim_eq_iff operation.tight_name).2 surrounds
      exact ⟨known, congrArg Except.ok ((ofName_eq_iff known).2 left)⟩
  · rintro ⟨known, read⟩
    cases json with
    | int number =>
      obtain rfl := (ofCode_eq_iff known).1 (Except.ok.inj read)
      exact .code known
    | str text =>
      have left := (ofName_eq_iff known).1 (Except.ok.inj read)
      exact .name known ((Text.trim_eq_iff operation.tight_name).1 left)
    | null | bool | float | arr | obj =>
      -- Nothing but numbers and texts is read.
      cases read

/-- Only known operations are denoted. -/
theorem Denotes.isKnown {json : Json} {operation : Operation} (denotes : Denotes json operation) :
    operation.isKnown = true :=
  (denotes_iff.1 denotes).1

/-- What is legible is what is read as some operation. -/
theorem legible_iff {json : Json} : Legible json ↔ ∃ operation, decode json = .ok operation := by
  constructor
  · intro legible
    cases legible with
    | number number => exact ⟨ofCode number, rfl⟩
    | text text => exact ⟨ofName text, rfl⟩
  · rintro ⟨operation, read⟩
    cases json with
    | int number => exact .number number
    | str text => exact .text text
    | null | bool | float | arr | obj => cases read

/-- What is not legible is refused, and the fault tells what it is. -/
theorem decode_of_not_legible {json : Json} (illegible : ¬ Legible json) :
    decode json
      = .error (.wrongType (Source.view json).shape "an operation name or numeric code") := by
  cases json with
  | int number => exact absurd (.number number) illegible
  | str text => exact absurd (.text text) illegible
  | null | bool | float | arr | obj => rfl

/-- A number denotes the operation whose code it is, and there is one for one to fifteen. -/
theorem exists_denotes_int_iff {number : Int} :
    (∃ operation, Denotes (.int number) operation) ↔ 1 ≤ number ∧ number ≤ 15 := by
  -- For a number, to denote an operation is to be its code.
  refine Iff.trans (exists_congr fun operation => ?_) exists_code_iff
  constructor
  · rintro ⟨known⟩
    exact ⟨known, rfl⟩
  · rintro ⟨known, rfl⟩
    exact .code known

/-- An unknown operation is read from what is legible and denotes none that is known. -/
theorem decode_eq_unknown_iff {json : Json} :
    decode json = .ok .unknown ↔ Legible json ∧ ∀ operation, ¬ Denotes json operation := by
  constructor
  · intro read
    refine ⟨legible_iff.2 ⟨_, read⟩, fun operation denotes => ?_⟩
    -- A known operation that is denoted would be read instead.
    obtain ⟨known, read'⟩ := denotes_iff.1 denotes
    obtain rfl : operation = .unknown := Except.ok.inj (read'.symm.trans read)
    cases known
  · rintro ⟨legible, none_⟩
    obtain ⟨operation, read⟩ := legible_iff.1 legible
    cases known : operation.isKnown with
    | true => exact absurd (denotes_iff.2 ⟨known, read⟩) (none_ operation)
    | false => rw [read, isKnown_eq_false_iff.1 known]

/-- What is refused is what is not legible, and the fault tells what it is. -/
theorem decode_eq_error_iff {json : Json} {fault : Fault} :
    decode json = .error fault ↔ ¬ Legible json
      ∧ fault = .wrongType (Source.view json).shape "an operation name or numeric code" := by
  constructor
  · intro refused
    -- What is legible would be read instead.
    have illegible : ¬ Legible json := by
      intro legible
      obtain ⟨operation, read⟩ := legible_iff.1 legible
      rw [read] at refused
      cases refused
    rw [decode_of_not_legible illegible] at refused
    exact ⟨illegible, (Except.error.inj refused).symm⟩
  · rintro ⟨illegible, rfl⟩
    exact decode_of_not_legible illegible

/-- Operations are read back from their names, and so is one that is unknown. -/
theorem recovers : Recovers decode encode :=
  fun operation => congrArg Except.ok operation.ofName_name

/-- A plain value is read as a known operation exactly where it is the number of the operation's
code, or the operation's name with nothing but blanks around it. The codes are the numbers from one
to fifteen; every known operation can be told in both ways, and no two have a code or a name in
common. All other whole numbers and texts are read as the unknown operation, and what is neither is
refused. Every operation is read back from what is written of it, the unknown one as well. -/
theorem decode_exact :
    (∀ json operation,
        operation.isKnown = true ∧ decode json = .ok operation ↔ Denotes json operation)
      ∧ (∀ number : Int, (∃ operation, Denotes (.int number) operation) ↔ 1 ≤ number ∧ number ≤ 15)
      ∧ (∀ operation : Operation,
        ((∃ number, Denotes (.int number) operation) ↔ operation.isKnown = true)
          ∧ ((∃ text, Denotes (.str text) operation) ↔ operation.isKnown = true))
      ∧ (∀ a b : Operation, (a.code = b.code ↔ a = b) ∧ (a.name = b.name ↔ a = b))
      ∧ (∀ json,
        decode json = .ok .unknown ↔ Legible json ∧ ∀ operation, ¬ Denotes json operation)
      ∧ (∀ (json : Json) fault, decode json = .error fault ↔ ¬ Legible json
        ∧ fault = .wrongType (Source.view json).shape "an operation name or numeric code")
      ∧ Recovers decode encode := by
  refine ⟨fun _ _ => denotes_iff.symm, fun _ => exists_denotes_int_iff, fun operation => ⟨?_, ?_⟩,
    fun _ _ => ⟨?_, ?_⟩, fun _ => decode_eq_unknown_iff, fun _ _ => decode_eq_error_iff, recovers⟩
  · exact ⟨fun ⟨_, denotes⟩ => denotes.isKnown, fun known => ⟨_, .code known⟩⟩
  · -- The name alone is one of the texts that denote the operation.
    exact ⟨fun ⟨_, denotes⟩ => denotes.isKnown, fun known => ⟨_, .name known (.refl _)⟩⟩
  · -- What leads back to every operation tells them apart.
    exact (Function.LeftInverse.injective ofByte_code).eq_iff
  · exact (Function.LeftInverse.injective ofName_name).eq_iff

end AnalyticsClient.Operation
