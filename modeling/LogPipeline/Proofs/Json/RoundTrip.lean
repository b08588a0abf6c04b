import LogPipeline.Proofs.Json.Tokens
import LogPipeline.Proofs.Text.Numeral
import Mathlib.Data.List.TakeWhile

/-!
# Reading written JSON

The text of a value is cut into the tokens of the value again, whatever follows
that does not go on with its last word.  So a value is read back from its text,
however deep its lists and records are nested, if its numbers are whole and fit
into 64 bits and no part of it is garbled.
-/

namespace LogPipeline

namespace JsonToken

/-! ## Texts and their tokens -/

/-- What follows does not go on with a numeral or a word. -/
def Ends (rest : List Char) : Prop :=
  ∀ char ∈ rest.head?, isBare char = false

/-- A text is cut into some tokens if what follows ends it. -/
def Spells (chars : List Char) (tokens : List JsonToken) : Prop :=
  ∀ rest, Ends rest →
    readFrom? .between (chars ++ rest) =
      (readFrom? .between rest).map (tokens ++ ·)

theorem ends_nil : Ends [] := by
  simp [Ends]

theorem ends_cons {char : Char} (ends : isBare char = false) (rest : List Char) :
    Ends (char :: rest) := by
  simpa [Ends] using ends

/-- A punctuation mark is a token by itself. -/
def IsMark (mark : Char) (token : JsonToken) : Prop :=
  isBare mark = false ∧ startToken? mark = some (.between, [token])

theorem readFrom?_mark
    {mark : Char}
    {token : JsonToken}
    (isMark : IsMark mark token)
    (rest : List Char) :
    readFrom? .between (mark :: rest) =
      (readFrom? .between rest).map (token :: ·) := by
  rw [readFrom?, Place.step?, isMark.2]
  rfl

instance (mark : Char) (token : JsonToken) : Decidable (IsMark mark token) :=
  inferInstanceAs (Decidable (_ ∧ _))

namespace Spells

variable {front back chars : List Char} {before after tokens : List JsonToken}
variable {mark : Char} {token : JsonToken}

theorem nil : Spells [] [] := by
  intro rest _
  simp

theorem cons_mark (isMark : IsMark mark token) (spells : Spells chars tokens) :
    Spells (mark :: chars) (token :: tokens) := by
  intro rest ends
  rw [List.cons_append, readFrom?_mark isMark, spells rest ends, Option.map_map]
  rfl

theorem append_mark
    (first : Spells front before)
    (isMark : IsMark mark token)
    (second : Spells back after) :
    Spells (front ++ mark :: back) (before ++ token :: after) := by
  intro rest ends
  rw [List.append_assoc, first (mark :: back ++ rest) (ends_cons isMark.1 _),
    second.cons_mark isMark rest ends, Option.map_map]
  simp [Function.comp_def]

theorem intercalate
    {β : Type}
    {spelling : β → List Char}
    {meaning : β → List JsonToken}
    {parts : List β}
    (isMark : IsMark mark token)
    (each : ∀ part ∈ parts, Spells (spelling part) (meaning part)) :
    Spells ([mark].intercalate (parts.map spelling))
      ([token].intercalate (parts.map meaning)) := by
  induction parts with
  | nil => exact nil
  | cons part parts ih =>
      rw [List.forall_mem_cons] at each
      have rest := ih each.2
      cases parts with
      | nil => simpa using each.1
      | cons next parts =>
          simp only [List.map_cons] at rest ⊢
          rw [List.intercalate_cons_cons, List.intercalate_cons_cons, List.append_assoc,
            List.append_assoc]
          exact each.1.append_mark isMark rest

/-! ## Numerals and words -/

theorem readFrom?_bare_append
    (all : ∀ char ∈ chars, isBare char = true)
    (before rest : List Char) :
    readFrom? (.bare before) (chars ++ rest) =
      readFrom? (.bare (chars.reverse ++ before)) rest := by
  induction chars generalizing before with
  | nil => rfl
  | cons char chars ih =>
      rw [List.forall_mem_cons] at all
      have goesOn :
          readFrom? (.bare before) (char :: chars ++ rest) =
            readFrom? (.bare (char :: before)) (chars ++ rest) := by
        simp [readFrom?, Place.step?, all.1]
      rw [goesOn, ih all.2]
      simp

theorem readFrom?_bare
    {rest : List Char}
    (ends : Ends rest)
    (isToken : ofBare? chars = some token) :
    readFrom? (.bare chars) rest = (readFrom? .between rest).map (token :: ·) := by
  cases rest with
  | nil => simp [readFrom?, Place.finish?, isToken]
  | cons char rest =>
      have notBare : isBare char = false := ends char rfl
      simp only [readFrom?, Place.step?, notBare, isToken, Bool.false_eq_true, if_false]
      cases startToken? char with
      | none => rfl
      | some result =>
          rcases result with ⟨next, tokens⟩
          dsimp only
          rw [Option.map_map]
          rfl

/-- A numeral or a word is a token if it is one by itself. -/
theorem bare
    (nonempty : chars ≠ [])
    (all : ∀ char ∈ chars, isBare char = true)
    (isToken : ofBare? chars.reverse = some token) :
    Spells chars [token] := by
  intro rest ends
  cases chars with
  | nil => exact absurd rfl nonempty
  | cons first more =>
      rw [List.forall_mem_cons] at all
      have notQuote : first ≠ '"' := by
        rintro rfl
        exact absurd all.1 (by decide)
      have begun :
          readFrom? .between (first :: more ++ rest) =
            readFrom? (.bare [first]) (more ++ rest) := by
        simp [readFrom?, Place.step?, startToken?, all.1, notQuote]
      rw [List.reverse_cons] at isToken
      rw [begun, readFrom?_bare_append all.2, readFrom?_bare ends isToken]
      rfl

theorem null : Spells (Json.print .null).toList [.null] :=
  bare (by decide) (List.all_eq_true.mp (by decide)) (by decide)

theorem bool (value : Bool) : Spells (Json.print (.bool value)).toList [.bool value] := by
  cases value with
  | true => exact bare (by decide) (List.all_eq_true.mp (by decide)) (by decide)
  | false => exact bare (by decide) (List.all_eq_true.mp (by decide)) (by decide)

/-! ## Texts -/

theorem hexValue?_digitChar : ∀ digit < 16, hexValue? (Nat.digitChar digit) = some digit := by
  decide

theorem controlCode_eq :
    ∀ code < 32,
      Json.controlCode (Char.ofNat code) =
        [Nat.digitChar (code / 16), Nat.digitChar (code % 16)] := by
  decide

/-- The code of a control character is read as the character. -/
theorem readFrom?_controlCode
    {char : Char}
    (control : char.toNat < 32)
    (before rest : List Char) :
    readFrom? (.code ⟨before, none, false⟩ 0 2) (Json.controlCode char ++ rest) =
      readFrom? (.quoted ⟨char :: before, none, false⟩) rest := by
  have digits := controlCode_eq char.toNat control
  rw [Char.ofNat_toNat] at digits
  have high := hexValue?_digitChar (char.toNat / 16) (by omega)
  have low := hexValue?_digitChar (char.toNat % 16) (by omega)
  have code : 16 * (char.toNat / 16) + char.toNat % 16 = char.toNat :=
    Nat.div_add_mod ..
  have pushed :
      Content.pushCode ⟨before, none, false⟩ char.toNat =
        ⟨char :: before, none, false⟩ := by
    have below : ¬ (0xd800 ≤ char.toNat ∧ char.toNat ≤ 0xdbff) := by
      omega
    have notSecond : ¬ (0xdc00 ≤ char.toNat ∧ char.toNat ≤ 0xdfff) := by
      omega
    simp [Content.pushCode, below, notSecond, Char.ofNat_toNat]
  rw [digits]
  simp [readFrom?, Place.step?, high, low, code, pushed]

theorem readFrom?_escape
    {letter char : Char}
    (means : escapeMeaning? letter = some char)
    (notCode : letter ≠ 'u')
    (before rest : List Char) :
    readFrom? (.quoted ⟨before, none, false⟩) (['\\', letter] ++ rest) =
      readFrom? (.quoted ⟨char :: before, none, false⟩) rest := by
  simp [readFrom?, Place.step?, means, notCode, Content.push]

/-- An escaped character is read as the character. -/
theorem readFrom?_escapeChar (before : List Char) (char : Char) (rest : List Char) :
    readFrom? (.quoted ⟨before, none, false⟩) (Json.escapeChar char ++ rest) =
      readFrom? (.quoted ⟨char :: before, none, false⟩) rest := by
  unfold Json.escapeChar
  split
  next quote =>
    rw [quote]
    exact readFrom?_escape rfl (by decide) before rest
  next notQuote =>
  split
  next backslash =>
    rw [backslash]
    exact readFrom?_escape rfl (by decide) before rest
  next notBackslash =>
  split
  next backspace =>
    rw [backspace]
    exact readFrom?_escape rfl (by decide) before rest
  split
  next formFeed =>
    rw [formFeed]
    exact readFrom?_escape rfl (by decide) before rest
  split
  next newline =>
    rw [newline]
    exact readFrom?_escape rfl (by decide) before rest
  split
  next carriageReturn =>
    rw [carriageReturn]
    exact readFrom?_escape rfl (by decide) before rest
  split
  next tab =>
    rw [tab]
    exact readFrom?_escape rfl (by decide) before rest
  split
  next control =>
    have begun :
        readFrom? (.quoted ⟨before, none, false⟩)
            (['\\', 'u', '0', '0'] ++ Json.controlCode char ++ rest) =
          readFrom? (.code ⟨before, none, false⟩ 0 2)
            (Json.controlCode char ++ rest) := by
      simp [readFrom?, Place.step?, hexValue?]
    rw [begun, readFrom?_controlCode control]
  next visible =>
    simp [readFrom?, Place.step?, notQuote, notBackslash, visible, Content.push]

theorem text (value : String) : Spells (Json.quoted value).toList [.text value] := by
  have read (chars before rest : List Char) :
      readFrom? (.quoted ⟨before, none, false⟩)
          (chars.flatMap Json.escapeChar ++ '"' :: rest) =
        (readFrom? .between rest).map
          (.text (String.ofList (before.reverse ++ chars)) :: ·) := by
    induction chars generalizing before with
    | nil => simp [readFrom?, Place.step?, Content.token]
    | cons char chars ih =>
        rw [List.flatMap_cons, List.append_assoc, readFrom?_escapeChar, ih]
        simp
  intro rest _
  have begun :
      readFrom? .between ((Json.quoted value).toList ++ rest) =
        readFrom? (.quoted .empty)
          (value.toList.flatMap Json.escapeChar ++ '"' :: rest) := by
    simp [Json.quoted, readFrom?, Place.step?, startToken?]
  rw [begun]
  have inner := read value.toList [] rest
  rw [List.reverse_nil, List.nil_append, String.ofList_toList] at inner
  exact inner

end Spells

end JsonToken

/-! ## Numbers -/

namespace JsonNumber

/-- Only zero is written with a zero in front. -/
theorem head?_toDigits {value : Nat} (positive : 0 < value) :
    (Nat.toDigits 10 value).head? ≠ some '0' := by
  have digit : ∀ value < 10, 0 < value → Nat.digitChar value ≠ '0' := by
    decide
  induction value using Nat.strongRecOn with
  | ind value ih =>
      by_cases small : value < 10
      · rw [Nat.toDigits_of_lt_base small]
        simpa using digit value small positive
      · rw [Nat.toDigits_of_base_le (by decide) (by omega)]
        have front := ih (value / 10) (by omega) (by omega)
        cases digits : Nat.toDigits 10 (value / 10) with
        | nil => exact absurd digits Nat.toDigits_ne_nil
        | cons first rest =>
            rw [digits] at front
            exact front

/-- A number is written without a needless zero in front. -/
theorem takeWhole?_toDigits (value : Nat) :
    takeWhole? (Nat.toDigits 10 value) = some (Nat.toDigits 10 value, []) := by
  have isDigits := Text.isDigits_toDigits value
  have taken :
      takeDigits? (Nat.toDigits 10 value) = some (Nat.toDigits 10 value, []) := by
    rw [takeDigits?, List.takeWhile_eq_self_iff.mpr isDigits.2,
      List.dropWhile_eq_nil_iff.mpr isDigits.2]
    cases digits : Nat.toDigits 10 value with
    | nil => exact absurd digits isDigits.1
    | cons first rest => rfl
  rw [takeWhole?, taken]
  split
  next zeros =>
    injection zeros with both
    have front := (Prod.mk.inj both).1
    rcases Nat.eq_zero_or_pos value with rfl | positive
    · cases front
    · exact absurd (congrArg List.head? front) (head?_toDigits positive)
  next => rfl

theorem ofChars?_numeral (value : Nat) :
    Numeral.ofChars? (Nat.toDigits 10 value) =
        some ⟨false, Nat.toDigits 10 value, [], none⟩ ∧
      Numeral.ofChars? ('-' :: Nat.toDigits 10 value) =
        some ⟨true, Nat.toDigits 10 value, [], none⟩ := by
  have isDigits := Text.isDigits_toDigits value
  have whole := takeWhole?_toDigits value
  generalize Nat.toDigits 10 value = digits at isDigits whole
  constructor
  · cases digits with
    | nil => exact absurd rfl isDigits.1
    | cons first rest =>
        have unsigned := isDigits.head_ne.2
        simp [Numeral.ofChars?, unsigned, whole, takeExponent?]
  · simp [Numeral.ofChars?, whole, takeExponent?]

theorem significand_eq
    {digits : List Char}
    (before : Nat)
    (fits : Nat.ofDigitChars 10 digits before ≤ Text.maxWord) :
    significand before digits = (Nat.ofDigitChars 10 digits before, []) := by
  have grows (digits : List Char) :
      ∀ before, before ≤ Nat.ofDigitChars 10 digits before := by
    induction digits with
    | nil => exact fun _ => Nat.le_refl _
    | cons digit digits ih =>
        intro before
        rw [Nat.ofDigitChars_cons]
        exact Nat.le_trans (by omega) (ih _)
  induction digits generalizing before with
  | nil => rfl
  | cons digit digits ih =>
      rw [Nat.ofDigitChars_cons] at fits ⊢
      have longer : 10 * before + Text.digitValue digit ≤ Text.maxWord :=
        Nat.le_trans (grows digits _) fits
      rw [significand, if_pos longer]
      exact ih _ fits

/-- The value of digits without fraction and exponent. -/
theorem value_numeral
    {value : Nat}
    (negative : Bool)
    (fits : value ≤ Text.maxWord) :
    (Numeral.mk negative (Nat.toDigits 10 value) [] none).value =
      if !negative then .whole value
      else if value = 0 ∨ 9223372036854775808 < value then ofParts true value 0
      else .whole (-value) := by
  have digits : Nat.ofDigitChars 10 (Nat.toDigits 10 value) 0 = value :=
    Nat.ofDigitChars_ten_toDigits
  have read := significand_eq 0 (digits.symm ▸ fits)
  rw [digits] at read
  simp [Numeral.value, read]

/-- The usual text of a number that fits is read as the number. -/
theorem ofChars?_toString
    {value : Int}
    (least : -9223372036854775808 ≤ value)
    (greatest : value ≤ 18446744073709551615) :
    ofChars? (toString value).toList = some (.whole value) := by
  cases value with
  | ofNat magnitude =>
      have text : (toString (Int.ofNat magnitude)).toList = Nat.toDigits 10 magnitude :=
        Nat.toList_repr
      have fits : magnitude ≤ Text.maxWord := Int.ofNat_le.mp greatest
      rw [text, ofChars?, (ofChars?_numeral magnitude).1, Option.map_some,
        value_numeral false fits]
      rfl
  | negSucc magnitude =>
      have text :
          (toString (Int.negSucc magnitude)).toList =
            '-' :: Nat.toDigits 10 (magnitude + 1) := by
        rw [Int.toString_eq_repr, Int.repr, String.toList_append, Nat.toList_repr]
        rfl
      have fits : magnitude + 1 ≤ 9223372036854775808 := by
        omega
      have within : magnitude + 1 ≤ Text.maxWord :=
        Nat.le_trans fits (by decide)
      have signed : ¬ (magnitude + 1 = 0 ∨ 9223372036854775808 < magnitude + 1) := by
        omega
      rw [text, ofChars?, (ofChars?_numeral (magnitude + 1)).2, Option.map_some,
        value_numeral true within, if_neg (by decide), if_neg signed]
      rfl

end JsonNumber

namespace JsonToken.Spells

/-- A numeral is no word. -/
theorem ofBare?_numeral
    {chars : List Char}
    {number : JsonNumber}
    (isNumber : JsonNumber.ofChars? chars = some number) :
    ofBare? chars.reverse = some (.number number) := by
  have other
      {word : String}
      (isWord : String.ofList chars = word)
      (noNumber : JsonNumber.ofChars? word.toList = none) :
      False := by
    rw [← isWord, String.toList_ofList, isNumber] at noNumber
    cases noNumber
  unfold ofBare?
  rw [List.reverse_reverse, isNumber]
  split
  next isNull => exact (other isNull rfl).elim
  next isTrue => exact (other isTrue rfl).elim
  next isFalse => exact (other isFalse rfl).elim
  next => rfl

theorem isBare_of_isNumeral
    {chars : List Char}
    {value : Int}
    (numeral : Text.IsNumeral chars value) :
    ∀ char ∈ chars, isBare char = true := by
  have digit {digits : List Char} (isDigits : Text.IsDigits digits) :
      ∀ char ∈ digits, isBare char = true := by
    intro char member
    simp [isBare, Char.isAlphanum, isDigits.2 char member]
  cases numeral with
  | unsigned isDigits => exact digit isDigits
  | plus isDigits => exact List.forall_mem_cons.mpr ⟨by decide, digit isDigits⟩
  | minus isDigits => exact List.forall_mem_cons.mpr ⟨by decide, digit isDigits⟩

theorem number {value : JsonNumber} (exact : value.IsExact) :
    Spells (Json.printNumber value).toList [.number value] := by
  cases exact with
  | @whole value least greatest =>
      have isNumber := JsonNumber.ofChars?_toString least greatest
      have numeral := Text.isNumeral_toString value
      refine bare ?_ (isBare_of_isNumeral numeral) (ofBare?_numeral isNumber)
      intro empty
      have nothing : JsonNumber.ofChars? [] = some (.whole value) :=
        empty ▸ isNumber
      exact Option.some_ne_none _ nothing.symm

end JsonToken.Spells

/-! ## Values -/

namespace Json

open JsonToken

theorem itemTokens_eq_map (items : List Json) : itemTokens items = items.map tokens := by
  induction items with
  | nil => rfl
  | cons item items ih => rw [itemTokens, ih, List.map_cons]

theorem memberTokens_eq_map (members : List (String × Json)) :
    memberTokens members =
      members.map fun member => .text member.1 :: .colon :: member.2.tokens := by
  induction members with
  | nil => rfl
  | cons member members ih => rw [memberTokens, ih, List.map_cons]

theorem printItems_eq_map (items : List Json) : printItems items = items.map print := by
  induction items with
  | nil => rfl
  | cons item items ih => rw [printItems, ih, List.map_cons]

theorem printMembers_eq_map (members : List (String × Json)) :
    printMembers members =
      members.map fun member => quoted member.1 ++ ":" ++ print member.2 := by
  induction members with
  | nil => rfl
  | cons member members ih => rw [printMembers, ih, List.map_cons]

/-- A value that is written is cut into its tokens. -/
theorem IsExact.spells {value : Json} (exact : value.IsExact) :
    Spells (print value).toList value.tokens := by
  induction exact with
  | null => exact .null
  | bool value => exact .bool value
  | number exact => exact .number exact
  | text value => exact .text value
  | @list items each ih =>
      have inner :
          Spells ([','].intercalate (items.map fun item => (print item).toList) ++ [']'])
            ([.comma].intercalate (items.map tokens) ++ [.closeList]) :=
        (Spells.intercalate (by decide) ih).append_mark (by decide) .nil
      have text :
          (print (.list items)).toList =
            '[' :: ([','].intercalate (items.map fun item => (print item).toList) ++ [']']) := by
        simp [print, printItems_eq_map, Function.comp_def]
      rw [text, tokens, itemTokens_eq_map]
      exact inner.cons_mark (by decide)
  | @record members each ih =>
      have member (member : String × Json) (inside : member ∈ members) :
          Spells
            ((quoted member.1).toList ++ ':' :: (print member.2).toList)
            ([.text member.1] ++ .colon :: member.2.tokens) :=
        (Spells.text member.1).append_mark (by decide) (ih member inside)
      have inner :
          Spells
            ([','].intercalate
                (members.map fun member =>
                  (quoted member.1).toList ++ ':' :: (print member.2).toList) ++
              ['}'])
            ([.comma].intercalate
                (members.map fun member =>
                  [.text member.1] ++ .colon :: member.2.tokens) ++
              [.closeRecord]) :=
        (Spells.intercalate (by decide) member).append_mark (by decide) .nil
      have text :
          (print (.record members)).toList =
            '{' ::
              ([','].intercalate
                  (members.map fun member =>
                    (quoted member.1).toList ++ ':' :: (print member.2).toList) ++
                ['}']) := by
        simp [print, printMembers_eq_map, Function.comp_def]
      rw [text, tokens, memberTokens_eq_map]
      exact inner.cons_mark (by decide)

/-- A value is read back from its text. -/
theorem IsExact.read?_print {value : Json} (exact : value.IsExact) :
    read? (print value) = some value := by
  have cut := exact.spells [] ends_nil
  have made := exact.isReadBack [] []
  rw [List.append_nil] at cut made
  rw [read?, cut, readFrom?, Place.finish?, Option.map_some, Option.bind_some,
    List.append_nil, made]
  rfl

end Json

end LogPipeline
