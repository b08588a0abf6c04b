import LogPipeline.Pattern.FieldFormat
import LogPipeline.Proofs.Text.Numeral

/-!
# The grammar of modifiers

A modifier is a number, a dot and a number, where the first number may be
missing, or the dot and the second one, or everything.  The numbers are signed
64-bit ones.  Exactly such modifiers are accepted; the format that they stand
for has the magnitudes of the two numbers as its widths and shows by its sides
which of them are negative.
-/

namespace LogPipeline

/-! ## Splitting a text -/

namespace Text

theorem splitOnce?_cons_self (separator : Char) (rest : List Char) :
    splitOnce? [separator] (separator :: rest) = some ([], rest) := by
  rw [splitOnce?, if_pos (by simp [List.isPrefixOf])]
  rfl

theorem splitOnce?_cons_of_ne
    {separator char : Char}
    (ne : char ≠ separator)
    (rest : List Char) :
    splitOnce? [separator] (char :: rest) =
      (splitOnce? [separator] rest).map fun parts => (char :: parts.1, parts.2) := by
  rw [splitOnce?, if_neg (by simp [List.isPrefixOf, ne.symm])]

/-- A text with a separator is split around the first one. -/
theorem splitOnce?_append
    {separator : Char}
    {before : List Char}
    (first : separator ∉ before)
    (after : List Char) :
    splitOnce? [separator] (before ++ separator :: after) = some (before, after) := by
  induction before with
  | nil => exact splitOnce?_cons_self separator after
  | cons char rest ih =>
      rw [List.mem_cons, not_or] at first
      rw [List.cons_append, splitOnce?_cons_of_ne (Ne.symm first.1), ih first.2]
      rfl

/-- A text without a separator is not split. -/
theorem splitOnce?_eq_none
    {separator : Char}
    {chars : List Char}
    (absent : separator ∉ chars) :
    splitOnce? [separator] chars = none := by
  induction chars with
  | nil => rfl
  | cons char rest ih =>
      rw [List.mem_cons, not_or] at absent
      rw [splitOnce?_cons_of_ne (Ne.symm absent.1), ih absent.2]
      rfl

/-- What stands before the first separator is passed over. -/
theorem dropWhile_ne_append
    {separator : Char}
    {before : List Char}
    (first : separator ∉ before)
    (rest : List Char) :
    (before ++ rest).dropWhile (· ≠ separator) = rest.dropWhile (· ≠ separator) := by
  apply List.dropWhile_append_of_pos
  intro char member
  rw [decide_eq_true_eq]
  rintro rfl
  exact first member

/-- No numeral has a dot in it. -/
theorem IsNumeral.dot_not_mem
    {chars : List Char}
    {value : Int}
    (numeral : IsNumeral chars value) :
    '.' ∉ chars := by
  have dotless {digits : List Char} (isDigits : IsDigits digits) : '.' ∉ digits :=
    fun member => Bool.false_ne_true (isDigits.2 '.' member)
  cases numeral with
  | unsigned isDigits => exact dotless isDigits
  | plus isDigits => simpa using dotless isDigits
  | minus isDigits => simpa using dotless isDigits

theorem IsNumeral.ne_nil
    {chars : List Char}
    {value : Int}
    (numeral : IsNumeral chars value) :
    chars ≠ [] := by
  cases numeral with
  | unsigned isDigits => exact isDigits.1
  | plus => exact List.cons_ne_nil _ _
  | minus => exact List.cons_ne_nil _ _

end Text

namespace Pattern

open Text (IsSigned)

/-! ## Modifiers and their formats -/

/-- What can stand before the dot of a modifier: a number or nothing. -/
inductive IsLeast : List Char → Option Int → Prop where
  | nothing : IsLeast [] none
  | number
      {chars : List Char}
      {value : Int}
      (signed : IsSigned chars value) :
      IsLeast chars (some value)

/-- The texts of modifiers, with the first and the second number if there is one. -/
inductive IsModifier : List Char → Option Int → Option Int → Prop where
  | undotted
      {before : List Char}
      {least : Option Int}
      (first : IsLeast before least) :
      IsModifier before least none
  | dotted
      {before after : List Char}
      {least : Option Int}
      {greatest : Int}
      (first : IsLeast before least)
      (second : IsSigned after greatest) :
      IsModifier (before ++ '.' :: after) least (some greatest)

theorem IsLeast.dot_not_mem
    {chars : List Char}
    {least : Option Int}
    (isLeast : IsLeast chars least) :
    '.' ∉ chars := by
  cases isLeast with
  | nothing => exact List.not_mem_nil
  | number signed => exact signed.numeral.dot_not_mem

/-- Why a text is no modifier: its first dot ends it, or there is no number where one is due. -/
def modifierRefusal (modifier : String) : PatternError :=
  if modifier.toList.dropWhile (· ≠ '.') = ['.'] then .modifierEndsInDot modifier
  else .invalidModifier modifier

namespace FieldFormat

/-- The format of a modifier with the given numbers. -/
def ofNumbers (least greatest : Option Int) : FieldFormat where
  min := (least.map Int.natAbs).getD 0
  max := (greatest.map Int.natAbs).getD 18446744073709551615
  padSide := if least.any (· < 0) then .right else .left
  cutSide := if greatest.any (· < 0) then .right else .left

variable {modifier : String} {before after part : List Char}

/-! ## Numbers -/

theorem side_ofBound (value : Int) :
    (ofBound value).2 = if decide (value < 0) then .right else .left := by
  by_cases negative : value < 0
  · rw [ofBound, if_neg (Int.not_le.mpr negative), decide_eq_true negative]
    rfl
  · rw [ofBound, if_pos (Int.not_lt.mp negative), decide_eq_false negative]
    rfl

theorem readBound_eq_ok_iff {bound : Nat × Side} :
    readBound modifier part = .ok bound ↔
      ∃ value, IsSigned part value ∧ bound = ofBound value := by
  rw [readBound]
  cases read : Text.readSigned? part with
  | none =>
      constructor
      · intro accepted
        cases accepted
      · rintro ⟨value, signed, -⟩
        cases read.symm.trans (Text.readSigned?_eq_some_iff.mpr signed)
  | some number =>
      have isNumber := Text.readSigned?_eq_some_iff.mp read
      constructor
      · intro accepted
        cases accepted
        exact ⟨number, isNumber, rfl⟩
      · rintro ⟨value, signed, rfl⟩
        rw [isNumber.numeral.unique signed.numeral]

theorem eq_invalidModifier_of_readBound
    {error : PatternError}
    (refused : readBound modifier part = .error error) :
    error = .invalidModifier modifier := by
  rw [readBound] at refused
  cases read : Text.readSigned? part with
  | none =>
      rw [read] at refused
      cases refused
      rfl
  | some number =>
      rw [read] at refused
      cases refused

theorem readMin_of_isLeast
    {least : Option Int}
    (isLeast : IsLeast part least) :
    readMin modifier part =
      .ok ((ofNumbers least none).min, (ofNumbers least none).padSide) := by
  cases isLeast with
  | nothing => rfl
  | @number _ value signed =>
      have bound : readBound modifier part = .ok (ofBound value) :=
        readBound_eq_ok_iff.mpr ⟨value, signed, rfl⟩
      have some : part.isEmpty = false := List.isEmpty_eq_false_iff.mpr signed.numeral.ne_nil
      rw [readMin, some, if_neg Bool.false_ne_true, bound, ofNumbers]
      dsimp only
      rw [Option.any_some, ← side_ofBound]
      rfl

theorem exists_isLeast_of_readMin
    {bound : Nat × Side}
    (accepted : readMin modifier part = .ok bound) :
    ∃ least, IsLeast part least := by
  cases part with
  | nil => exact ⟨none, .nothing⟩
  | cons first rest =>
      obtain ⟨value, signed, -⟩ := readBound_eq_ok_iff.mp accepted
      exact ⟨some value, .number signed⟩

theorem eq_invalidModifier_of_readMin
    {error : PatternError}
    (refused : readMin modifier part = .error error) :
    error = .invalidModifier modifier := by
  cases part with
  | nil => cases refused
  | cons first rest => exact eq_invalidModifier_of_readBound refused

/-! ## Around the dot -/

theorem ofModifier_of_not_mem (dotless : '.' ∉ modifier.toList) :
    ofModifier modifier =
      (readMin modifier modifier.toList).map fun least =>
        ⟨least.1, Text.maxWord, least.2, .left⟩ := by
  rw [ofModifier, Text.splitOnce?_eq_none dotless]
  cases readMin modifier modifier.toList <;> rfl

theorem ofModifier_of_dot_last
    (first : '.' ∉ before)
    (split : modifier.toList = before ++ ['.']) :
    ofModifier modifier = .error (.modifierEndsInDot modifier) := by
  rw [ofModifier, split, Text.splitOnce?_append first]

theorem ofModifier_of_dot
    (first : '.' ∉ before)
    (more : after ≠ [])
    (split : modifier.toList = before ++ '.' :: after) :
    ofModifier modifier =
      (readMin modifier before).bind fun least =>
        (readBound modifier after).map fun greatest =>
          ⟨least.1, greatest.1, least.2, greatest.2⟩ := by
  rw [ofModifier, split, Text.splitOnce?_append first]
  cases after with
  | nil => exact absurd rfl more
  | cons char rest =>
      dsimp only
      cases readMin modifier before with
      | error error => rfl
      | ok least => cases readBound modifier (char :: rest) <;> rfl

/-! ## Exactly the modifiers are accepted -/

theorem ofModifier_of_isModifier
    {least greatest : Option Int}
    (isModifier : IsModifier modifier.toList least greatest) :
    ofModifier modifier = .ok (ofNumbers least greatest) := by
  generalize text : modifier.toList = chars at isModifier
  cases isModifier with
  | undotted first =>
      subst text
      rw [ofModifier_of_not_mem first.dot_not_mem, readMin_of_isLeast first]
      rfl
  | @dotted _ _ _ greatest first second =>
      have bound : readBound modifier _ = .ok (ofBound greatest) :=
        readBound_eq_ok_iff.mpr ⟨greatest, second, rfl⟩
      rw [ofModifier_of_dot first.dot_not_mem second.numeral.ne_nil text,
        readMin_of_isLeast first, Except.bind, bound, Except.map, side_ofBound]
      rfl

theorem exists_isModifier_or_refused (modifier : String) :
    (∃ least greatest, IsModifier modifier.toList least greatest) ∨
      ofModifier modifier = .error (modifierRefusal modifier) := by
  by_cases dotted : '.' ∈ modifier.toList
  · obtain ⟨before, after, split, first⟩ := List.eq_append_cons_of_mem dotted
    have behind : modifier.toList.dropWhile (· ≠ '.') = '.' :: after := by
      rw [split, Text.dropWhile_ne_append first]
      rfl
    rw [modifierRefusal, behind]
    cases after with
    | nil => exact Or.inr (ofModifier_of_dot_last first split)
    | cons char rest =>
        rw [ofModifier_of_dot first (List.cons_ne_nil _ _) split, if_neg (by simp)]
        cases readsLeast : readMin modifier before with
        | error error =>
            rw [eq_invalidModifier_of_readMin readsLeast]
            exact Or.inr rfl
        | ok least =>
            cases readsGreatest : readBound modifier (char :: rest) with
            | error error =>
                rw [eq_invalidModifier_of_readBound readsGreatest]
                exact Or.inr rfl
            | ok greatest =>
                obtain ⟨number, isLeast⟩ := exists_isLeast_of_readMin readsLeast
                obtain ⟨value, signed, -⟩ := readBound_eq_ok_iff.mp readsGreatest
                rw [split]
                exact Or.inl ⟨number, some value, .dotted isLeast signed⟩
  · have behind : modifier.toList.dropWhile (· ≠ '.') = [] := by
      rw [← List.append_nil modifier.toList, Text.dropWhile_ne_append dotted]
      rfl
    rw [modifierRefusal, behind, ofModifier_of_not_mem dotted, if_neg (by simp)]
    cases readsLeast : readMin modifier modifier.toList with
    | error error =>
        rw [eq_invalidModifier_of_readMin readsLeast]
        exact Or.inr rfl
    | ok least =>
        obtain ⟨number, isLeast⟩ := exists_isLeast_of_readMin readsLeast
        exact Or.inl ⟨number, none, .undotted isLeast⟩

/-- The accepted texts are the modifiers, and their formats are those of their numbers. -/
theorem ofModifier_eq_ok_iff {format : FieldFormat} :
    ofModifier modifier = .ok format ↔
      ∃ least greatest,
        IsModifier modifier.toList least greatest ∧
          format = ofNumbers least greatest := by
  constructor
  · intro accepted
    rcases exists_isModifier_or_refused modifier with
      ⟨least, greatest, isModifier⟩ | refused
    · have same := accepted.symm.trans (ofModifier_of_isModifier isModifier)
      exact ⟨least, greatest, isModifier, Except.ok.inj same⟩
    · cases accepted.symm.trans refused
  · rintro ⟨least, greatest, isModifier, rfl⟩
    exact ofModifier_of_isModifier isModifier

/-- The usual texts of two 64-bit numbers make a modifier. -/
theorem isModifier_toString (least greatest : Int64) :
    IsModifier (toString least ++ "." ++ toString greatest).toList
      (some least.toInt) (some greatest.toInt) := by
  have text :
      (toString least ++ "." ++ toString greatest).toList =
        (toString least).toList ++ '.' :: (toString greatest).toList := by
    rw [String.toList_append, String.toList_append, List.append_assoc]
    rfl
  rw [text]
  exact .dotted (.number (Text.isSigned_toString least)) (Text.isSigned_toString greatest)

/--
The accepted texts are exactly the modifiers, whose format tells their numbers,
and any other text is a malformed pattern.  Every two 64-bit numbers can be
written as a modifier.
-/
theorem ofModifier_accepts_modifiers :
    (∀ modifier format,
      ofModifier modifier = .ok format ↔
        ∃ least greatest,
          IsModifier modifier.toList least greatest ∧
            format = ofNumbers least greatest) ∧
      (∀ modifier,
        (¬ ∃ least greatest, IsModifier modifier.toList least greatest) →
          ofModifier modifier = .error (modifierRefusal modifier) ∧
            (modifierRefusal modifier).toLogError.isParse = true) ∧
      ∀ least greatest : Int64,
        ofModifier (toString least ++ "." ++ toString greatest) =
          .ok
            { min := least.toInt.natAbs
              max := greatest.toInt.natAbs
              padSide := if least.toInt < 0 then .right else .left
              cutSide := if greatest.toInt < 0 then .right else .left } := by
  refine ⟨fun _ _ => ofModifier_eq_ok_iff, ?_, ?_⟩
  · intro modifier wrong
    exact ⟨(exists_isModifier_or_refused modifier).resolve_left wrong, rfl⟩
  · intro least greatest
    rw [ofModifier_of_isModifier (isModifier_toString least greatest), ofNumbers]
    simp

/-- A second dot is no part of a number, while leading zeros and the extreme numbers are. -/
theorem ofModifier_accepts_modifiers_extremes :
    (¬ ∃ least greatest, IsModifier "5.5.5".toList least greatest) ∧
      ofModifier "5.5.5" = .error (.invalidModifier "5.5.5") ∧
      (∃ least greatest,
        IsModifier "+007.-9223372036854775808".toList least greatest ∧
          ofNumbers least greatest = ⟨7, 9223372036854775808, .left, .right⟩) := by
  obtain ⟨accepted, refused, -⟩ := ofModifier_accepts_modifiers
  have wrong : ¬ ∃ least greatest, IsModifier "5.5.5".toList least greatest := by
    rintro ⟨least, greatest, isModifier⟩
    have read := (accepted "5.5.5" _).mpr ⟨least, greatest, isModifier, rfl⟩
    have unread : ofModifier "5.5.5" = .error (.invalidModifier "5.5.5") := by rfl
    cases read.symm.trans unread
  have extreme :
      ofModifier "+007.-9223372036854775808" =
        .ok ⟨7, 9223372036854775808, .left, .right⟩ := by
    rfl
  obtain ⟨least, greatest, isModifier, same⟩ := (accepted _ _).mp extreme
  exact ⟨wrong, (refused "5.5.5" wrong).1, least, greatest, isModifier, same.symm⟩

end FieldFormat

end Pattern

end LogPipeline
