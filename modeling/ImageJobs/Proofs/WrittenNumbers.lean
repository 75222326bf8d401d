import ImageJobs.Json.Reader
import ImageJobs.Json.Writer

namespace ImageJobs.Json

theorem ne_of_isDigit {char other : Char} (digit : char.isDigit = true)
    (noDigit : other.isDigit = false) : char ≠ other := by
  rintro rfl
  exact absurd digit (Bool.eq_false_iff.mp noDigit)

/-- The run of digits before the text ends there. -/
def EndsDigits (rest : List Char) : Prop :=
  ∀ char ∈ rest.head?, char.isDigit = false

namespace EndsDigits

variable {rest : List Char}

theorem takeWhile_eq_nil (stop : EndsDigits rest) : rest.takeWhile Char.isDigit = [] := by
  cases rest with
  | nil => rfl
  | cons head tail => simp [stop head rfl]

theorem dropWhile_eq (stop : EndsDigits rest) : rest.dropWhile Char.isDigit = rest := by
  cases rest with
  | nil => rfl
  | cons head tail => simp [stop head rfl]

theorem take (stop : EndsDigits rest) (count : Nat) : EndsDigits (rest.take count) := by
  intro char member
  rw [List.head?_take] at member
  split at member
  · simp at member
  · exact stop char member

end EndsDigits

theorem readDigits_append {digits rest : List Char} (nonempty : digits ≠ [])
    (all : ∀ char ∈ digits, char.isDigit = true) (stop : EndsDigits rest) :
    readDigits (digits ++ rest) = some (digits, rest) := by
  unfold readDigits
  rw [List.takeWhile_append_of_pos all, stop.takeWhile_eq_nil, List.append_nil,
    List.dropWhile_append_of_pos all, stop.dropWhile_eq]
  cases digits with
  | nil => exact absurd rfl nonempty
  | cons head tail => rfl

theorem isDigit_of_mem_decimal {value : Nat} : ∀ char ∈ decimal value, char.isDigit = true :=
  fun _ member => Nat.isDigit_of_mem_toDigits (by decide) (by decide) member

/-- A digit comes first in a decimal. -/
theorem exists_decimal_eq_cons (value : Nat) :
    ∃ head tail, decimal value = head :: tail ∧ head.isDigit = true := by
  cases written : decimal value with
  | nil => exact absurd written Nat.toDigits_ne_nil
  | cons head tail =>
    exact ⟨head, tail, rfl, isDigit_of_mem_decimal head (written ▸ List.mem_cons_self)⟩

theorem readDigits_decimal (value : Nat) {rest : List Char} (stop : EndsDigits rest) :
    readDigits (decimal value ++ rest) = some (decimal value, rest) :=
  readDigits_append Nat.toDigits_ne_nil isDigit_of_mem_decimal stop

/-- Only zero is written with a leading zero. -/
theorem head?_decimal_ne_zero {value : Nat} (positive : 0 < value) :
    (decimal value).head? ≠ some '0' := by
  induction value using Nat.strongRecOn with
  | ind value ih =>
    unfold decimal at ih ⊢
    rw [Nat.toDigits_eq_if (by decide)]
    split
    · rename_i small
      simp only [List.head?_cons, ne_eq, Option.some.injEq, Nat.digitChar_eq_zero]
      omega
    · rename_i large
      have earlier := ih (value / 10) (by omega) (by omega)
      rwa [List.head?_append, Option.or_of_isSome]
      exact List.isSome_head?.mpr Nat.toDigits_ne_nil

theorem readWhole_decimal (value : Nat) {rest : List Char} (stop : EndsDigits rest) :
    readWhole (decimal value ++ rest) = some (value, rest) := by
  by_cases zero : value = 0
  · subst zero
    rfl
  · have leading := head?_decimal_ne_zero (Nat.pos_of_ne_zero zero)
    have digits := readDigits_decimal value stop
    have back : Nat.ofDigitChars 10 (decimal value) 0 = value := Nat.ofDigitChars_ten_toDigits
    unfold readWhole
    split
    · rename_i starts
      cases written : decimal value with
      | nil => exact absurd written Nat.toDigits_ne_nil
      | cons head tail =>
        rw [written] at starts leading
        exact absurd (congrArg some (List.cons.inj starts).1) leading
    · simp only [digits, Option.map_some, back]

/-- A number before the text ends there. -/
def EndsNumber (rest : List Char) : Prop :=
  ∀ char ∈ rest.head?, char.isDigit = false ∧ char ≠ '.' ∧ char ≠ 'e' ∧ char ≠ 'E'

theorem EndsNumber.endsDigits {rest : List Char} (ends : EndsNumber rest) : EndsDigits rest :=
  fun char member => (ends char member).1

/-- The part of a written number behind its whole part. -/
def writeFraction (fraction : List (Fin 10)) : List Char :=
  if fraction.isEmpty then [] else '.' :: fraction.map fun digit => digit.val.digitChar

/-- The part of a written number behind its fraction. -/
def writeExponent : Option Int → List Char
  | none => []
  | some exponent => 'e' :: decimalInt exponent

theorem write_numeral (numeral : Numeral) :
    numeral.write = (if numeral.negative then ['-'] else []) ++ (decimal numeral.whole ++
      (writeFraction numeral.fraction ++ writeExponent numeral.exponent)) := by
  simp only [Numeral.write, List.append_assoc]
  rfl

theorem endsDigits_writeFraction (fraction : List (Fin 10)) {rest : List Char}
    (stop : EndsDigits rest) : EndsDigits (writeFraction fraction ++ rest) := by
  cases fraction with
  | nil => exact stop
  | cons first others =>
    intro char member
    obtain rfl : '.' = char := Option.some.inj member
    decide

theorem endsDigits_writeExponent (exponent : Option Int) {rest : List Char}
    (ends : EndsNumber rest) : EndsDigits (writeExponent exponent ++ rest) := by
  cases exponent with
  | none => exact ends.endsDigits
  | some value =>
    intro char member
    obtain rfl : 'e' = char := Option.some.inj member
    decide

theorem head?_writeExponent_ne_point (exponent : Option Int) {rest : List Char}
    (ends : EndsNumber rest) : (writeExponent exponent ++ rest).head? ≠ some '.' := by
  cases exponent with
  | none => exact fun point => (ends '.' point).2.1 rfl
  | some value => simp [writeExponent]

theorem readFraction_write (fraction : List (Fin 10)) {rest : List Char} (stop : EndsDigits rest)
    (noPoint : rest.head? ≠ some '.') :
    readFraction (writeFraction fraction ++ rest) = some (fraction, rest) := by
  cases fraction with
  | nil =>
    change readFraction rest = some ([], rest)
    unfold readFraction
    split
    · simp at noPoint
    · rfl
  | cons first others =>
    have all : ∀ char ∈ (first :: others).map (fun digit => digit.val.digitChar),
        char.isDigit = true := by
      intro char member
      obtain ⟨digit, -, rfl⟩ := List.mem_map.mp member
      simp [Nat.isDigit_digitChar]
    have back : ∀ digit : Fin 10, Numeral.digitValue digit.val.digitChar = digit := by decide
    simp only [writeFraction, List.isEmpty_cons, Bool.false_eq_true, ↓reduceIte, List.cons_append,
      readFraction]
    rw [readDigits_append (by simp) all stop, Option.map_some, List.map_map]
    simp [Function.comp_def, back]

theorem readSigned_decimalInt (value : Int) {rest : List Char} (stop : EndsDigits rest) :
    readSigned (decimalInt value ++ rest) = some (value, rest) := by
  have digits := readDigits_decimal value.natAbs stop
  have back : Nat.ofDigitChars 10 (decimal value.natAbs) 0 = value.natAbs :=
    Nat.ofDigitChars_ten_toDigits
  unfold decimalInt
  split
  · rename_i negative
    simp only [List.cons_append, readSigned, digits, Option.map_some, back]
    rw [← Int.eq_neg_natAbs_of_nonpos (Int.le_of_lt negative)]
  · rename_i nonnegative
    obtain ⟨head, tail, written, digit⟩ := exists_decimal_eq_cons value.natAbs
    have natural : (value.natAbs : Int) = value := Int.natAbs_of_nonneg (by omega)
    rw [written, List.cons_append] at digits ⊢
    -- A digit is no sign, so the number is read without one.
    unfold readSigned
    split
    · rename_i starts
      rw [(List.cons.inj starts).1] at digit
      exact absurd digit (by decide)
    · rename_i starts
      rw [(List.cons.inj starts).1] at digit
      exact absurd digit (by decide)
    · rw [written] at back
      simp only [digits, Option.map_some, back, natural]

theorem readExponent_write (exponent : Option Int) {rest : List Char} (ends : EndsNumber rest) :
    readExponent (writeExponent exponent ++ rest) = some (exponent, rest) := by
  cases exponent with
  | none =>
    change readExponent rest = some (none, rest)
    unfold readExponent
    split
    · exact absurd rfl (ends 'e' rfl).2.2.1
    · exact absurd rfl (ends 'E' rfl).2.2.2
    · rfl
  | some value =>
    simp only [writeExponent, List.cons_append, readExponent,
      readSigned_decimalInt value ends.endsDigits, Option.map_some]

theorem readUnsigned_write (numeral : Numeral) {rest : List Char} (ends : EndsNumber rest) :
    readUnsigned numeral.negative (decimal numeral.whole ++ (writeFraction numeral.fraction ++
      (writeExponent numeral.exponent ++ rest))) = some (numeral, rest) := by
  have stop := endsDigits_writeExponent numeral.exponent ends
  have noPoint := head?_writeExponent_ne_point numeral.exponent ends
  have whole := readWhole_decimal numeral.whole (endsDigits_writeFraction numeral.fraction stop)
  have fraction := readFraction_write numeral.fraction stop noPoint
  have exponent := readExponent_write numeral.exponent ends
  simp only [readUnsigned, whole, fraction, exponent, Option.bind_eq_bind, Option.bind_some]
  rfl

theorem readNumeral_write (numeral : Numeral) {rest : List Char} (ends : EndsNumber rest) :
    readNumeral (numeral.write ++ rest) = some (numeral, rest) := by
  have unsigned := readUnsigned_write numeral ends
  rw [write_numeral, List.append_assoc, List.append_assoc, List.append_assoc]
  cases negative : numeral.negative with
  | true =>
    rw [negative] at unsigned
    exact unsigned
  | false =>
    obtain ⟨head, tail, written, digit⟩ := exists_decimal_eq_cons numeral.whole
    rw [negative, written, List.cons_append] at unsigned
    simp only [Bool.false_eq_true, ↓reduceIte, List.nil_append, written, List.cons_append]
    unfold readNumeral
    split
    · rename_i starts
      rw [(List.cons.inj starts).1] at digit
      exact absurd digit (by decide)
    · exact unsigned

end ImageJobs.Json
