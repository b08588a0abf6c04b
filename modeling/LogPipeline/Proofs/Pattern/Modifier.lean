import LogPipeline.Pattern.Lexer
import LogPipeline.Proofs.Pattern.ModifierGrammar

/-!
# The characters of modifiers

An accepted modifier consists of signs, dots and digits.  The lexer takes none
of these for the beginning of a word or for a parenthesis, so it reads such a
modifier to its end.
-/

namespace LogPipeline

namespace Text

/-- Digits are no letters. -/
theorem not_isAlphabetic_of_isDigit
    {char : Char}
    (digit : char.isDigit = true) :
    isAlphabetic char = false := by
  have upper :
      char.isUpper = decide (65 ≤ char.toNat ∧ char.toNat ≤ 90) :=
    rfl
  have lower :
      char.isLower = (decide (97 ≤ char.toNat) && decide (char.toNat ≤ 122)) :=
    rfl
  rcases Char.isDigit_iff_toNat.mp digit with ⟨atLeast, atMost⟩
  change 48 ≤ char.toNat at atLeast
  change char.toNat ≤ 57 at atMost
  have ascii : char.toNat < 0x80 := by omega
  rw [isAlphabetic, if_pos ascii]
  change (char.isUpper || char.isLower) = false
  rw [upper, lower, Bool.or_eq_false_iff, Bool.and_eq_false_iff,
    decide_eq_false_iff_not, decide_eq_false_iff_not, decide_eq_false_iff_not]
  omega

end Text

namespace Pattern

/-- The characters that modifiers are made of. -/
def isModifierChar (char : Char) : Bool :=
  char = '+' || char = '-' || char = '.' || char.isDigit

theorem isModifierChar_of_isDigit
    {char : Char}
    (digit : char.isDigit = true) :
    isModifierChar char = true := by
  simp [isModifierChar, digit]

/-- No word begins with a character of a modifier. -/
theorem not_isWordStart_of_isModifierChar
    {char : Char}
    (isModifier : isModifierChar char = true) :
    isWordStart char = false := by
  simp only [isModifierChar, Bool.or_eq_true, decide_eq_true_eq] at isModifier
  rcases isModifier with ((rfl | rfl) | rfl) | digit
  · decide
  · decide
  · decide
  · have notUnderscore : char ≠ '_' := by
      rintro rfl
      cases digit
    have notDollar : char ≠ '$' := by
      rintro rfl
      cases digit
    have notAlphabetic := Text.not_isAlphabetic_of_isDigit digit
    simp [isWordStart, notAlphabetic, notUnderscore, notDollar]

theorem ne_leftParenthesis_of_isModifierChar
    {char : Char}
    (isModifier : isModifierChar char = true) :
    char ≠ '(' := by
  rintro rfl
  cases isModifier

/-- A number of a modifier is a sign, or none, and digits. -/
theorem isModifierChar_of_isNumeral
    {chars : List Char}
    {value : Int}
    (numeral : Text.IsNumeral chars value) :
    ∀ char ∈ chars, isModifierChar char = true := by
  have allDigits {digits : List Char} (isDigits : Text.IsDigits digits) :
      ∀ char ∈ digits, isModifierChar char = true :=
    fun char member => isModifierChar_of_isDigit (isDigits.2 char member)
  cases numeral with
  | unsigned isDigits => exact allDigits isDigits
  | plus isDigits => exact List.forall_mem_cons.mpr ⟨rfl, allDigits isDigits⟩
  | minus isDigits => exact List.forall_mem_cons.mpr ⟨rfl, allDigits isDigits⟩

theorem IsLeast.isModifierChar
    {chars : List Char}
    {least : Option Int}
    (isLeast : IsLeast chars least) :
    ∀ char ∈ chars, Pattern.isModifierChar char = true := by
  cases isLeast with
  | nothing => exact List.forall_mem_nil _
  | number signed => exact isModifierChar_of_isNumeral signed.numeral

/-- An accepted modifier consists of characters of modifiers. -/
theorem FieldFormat.isModifierChar_of_ofModifier
    {modifier : String}
    {format : FieldFormat}
    (accepted : ofModifier modifier = .ok format) :
    ∀ char ∈ modifier.toList, isModifierChar char = true := by
  obtain ⟨least, greatest, isModifier, -⟩ := ofModifier_eq_ok_iff.mp accepted
  generalize modifier.toList = chars at isModifier
  cases isModifier with
  | undotted first => exact first.isModifierChar
  | dotted first second =>
      have behind := isModifierChar_of_isNumeral second.numeral
      exact List.forall_mem_append.mpr
        ⟨first.isModifierChar, List.forall_mem_cons.mpr ⟨rfl, behind⟩⟩

end Pattern

end LogPipeline
