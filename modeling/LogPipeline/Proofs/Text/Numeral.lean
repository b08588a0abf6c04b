import LogPipeline.Text.Numeral

/-!
# Numerals and their values

The readers of numerals accept exactly an optional sign with one or more ASCII
digits behind it, leading zeros included, and refuse what is out of range.  The
usual text of a number is one of its numerals.
-/

namespace LogPipeline.Text

/-! ## Digits -/

/-- One or more ASCII digits. -/
def IsDigits (chars : List Char) : Prop :=
  chars ≠ [] ∧ ∀ char ∈ chars, char.isDigit = true

theorem readDigits?_eq_some_iff {chars : List Char} {value : Nat} :
    readDigits? chars = some value ↔
      IsDigits chars ∧ value = Nat.ofDigitChars 10 chars 0 := by
  have accepted : (!chars.isEmpty && chars.all Char.isDigit) = true ↔ IsDigits chars := by
    rw [IsDigits, Bool.and_eq_true, Bool.not_eq_true', List.isEmpty_eq_false_iff,
      List.all_eq_true]
  rw [readDigits?]
  by_cases digits : IsDigits chars
  · rw [if_pos (accepted.mpr digits), Option.some_inj]
    exact ⟨fun equal => ⟨digits, equal.symm⟩, fun both => both.2.symm⟩
  · rw [if_neg (mt accepted.mp digits)]
    exact iff_of_false (Option.some_ne_none value).symm fun both => digits both.1

/-- A sign is no digit. -/
theorem IsDigits.head_ne
    {first : Char}
    {rest : List Char}
    (digits : IsDigits (first :: rest)) :
    first ≠ '+' ∧ first ≠ '-' := by
  have digit := digits.2 first List.mem_cons_self
  constructor
  · rintro rfl
    cases digit
  · rintro rfl
    cases digit

theorem isDigits_toDigits (value : Nat) : IsDigits (Nat.toDigits 10 value) :=
  ⟨Nat.toDigits_ne_nil, fun _ member =>
    Nat.isDigit_of_mem_toDigits (by decide) (by decide) member⟩

/-! ## Signed numerals -/

/-- An optional sign and digits, and the number that they stand for. -/
inductive IsNumeral : List Char → Int → Prop where
  | unsigned
      {digits : List Char}
      (isDigits : IsDigits digits) :
      IsNumeral digits (Nat.ofDigitChars 10 digits 0)
  | plus
      {digits : List Char}
      (isDigits : IsDigits digits) :
      IsNumeral ('+' :: digits) (Nat.ofDigitChars 10 digits 0)
  | minus
      {digits : List Char}
      (isDigits : IsDigits digits) :
      IsNumeral ('-' :: digits) (-(Nat.ofDigitChars 10 digits 0 : Nat))

theorem IsNumeral.readInteger?
    {chars : List Char}
    {value : Int}
    (numeral : IsNumeral chars value) :
    Text.readInteger? chars = some value := by
  have read {digits : List Char} (isDigits : IsDigits digits) :
      readDigits? digits = some (Nat.ofDigitChars 10 digits 0) :=
    readDigits?_eq_some_iff.mpr ⟨isDigits, rfl⟩
  cases numeral with
  | plus isDigits => rw [Text.readInteger?, read isDigits]; rfl
  | minus isDigits => rw [Text.readInteger?, read isDigits]; rfl
  | unsigned isDigits =>
      cases chars with
      | nil => exact absurd rfl isDigits.1
      | cons first rest =>
          have unsigned := isDigits.head_ne
          rw [Text.readInteger?, read isDigits]
          · rfl
          · intro digits equal
            exact unsigned.1 (List.cons.inj equal).1
          · intro digits equal
            exact unsigned.2 (List.cons.inj equal).1

theorem isNumeral_of_readInteger?
    {chars : List Char}
    {value : Int}
    (read : readInteger? chars = some value) :
    IsNumeral chars value := by
  unfold readInteger? at read
  split at read
  all_goals
    rcases Option.map_eq_some_iff.mp read with ⟨magnitude, readDigits, rfl⟩
    rcases readDigits?_eq_some_iff.mp readDigits with ⟨isDigits, rfl⟩
  · exact .plus isDigits
  · exact .minus isDigits
  · exact .unsigned isDigits

/-- A text stands for at most one number. -/
theorem IsNumeral.unique
    {chars : List Char}
    {value other : Int}
    (numeral : IsNumeral chars value)
    (again : IsNumeral chars other) :
    value = other :=
  Option.some.inj (numeral.readInteger?.symm.trans again.readInteger?)

/-- A numeral of a number that fits into 64 bits. -/
structure IsSigned (chars : List Char) (value : Int) : Prop where
  numeral : IsNumeral chars value
  least : -9223372036854775808 ≤ value
  greatest : value ≤ 9223372036854775807

theorem readSigned?_eq_some_iff {chars : List Char} {value : Int} :
    readSigned? chars = some value ↔ IsSigned chars value := by
  rw [readSigned?]
  constructor
  · intro read
    split at read
    next number readNumber =>
      split at read
      next fits =>
        cases read
        exact ⟨isNumeral_of_readInteger? readNumber, fits.1, fits.2⟩
      next => cases read
    next => cases read
  · intro signed
    rw [signed.numeral.readInteger?]
    exact if_pos ⟨signed.least, signed.greatest⟩

/-! ## The usual text of a number -/

theorem isNumeral_toString (value : Int) :
    IsNumeral (toString value).toList value := by
  have digits (magnitude : Nat) :
      Nat.ofDigitChars 10 (Nat.toDigits 10 magnitude) 0 = magnitude :=
    Nat.ofDigitChars_ten_toDigits
  cases value with
  | ofNat magnitude =>
      have numeral := IsNumeral.unsigned (isDigits_toDigits magnitude)
      rw [digits] at numeral
      have text : (toString (Int.ofNat magnitude)).toList = Nat.toDigits 10 magnitude :=
        Nat.toList_repr
      rw [text]
      exact numeral
  | negSucc magnitude =>
      have numeral := IsNumeral.minus (isDigits_toDigits (magnitude + 1))
      rw [digits] at numeral
      have text :
          (toString (Int.negSucc magnitude)).toList =
            '-' :: Nat.toDigits 10 (magnitude + 1) := by
        rw [Int.toString_eq_repr, Int.repr, String.toList_append, Nat.toList_repr]
        rfl
      rw [text]
      exact numeral

theorem isSigned_toString (value : Int64) :
    IsSigned (toString value).toList value.toInt :=
  ⟨isNumeral_toString value.toInt, value.le_toInt, Int.le_of_lt_add_one value.toInt_lt⟩

end LogPipeline.Text
