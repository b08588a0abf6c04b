import LogPipeline.Proofs.Pattern.Lexing
import Mathlib.Data.List.Induction
import Mathlib.Data.List.Infix

/-!
# The text that tokens come from

Where nothing is escaped and there are no option lists, the lexer neither drops a
character nor takes one twice: what the tokens were made of, put together, is the
pattern.  The word of a composite that is written without one has the same token
as that word written out, so the latter must not occur.

Such a pattern is refused only if it ends within a modifier.
-/

namespace LogPipeline.Pattern

/-! ## What tokens are made of -/

namespace Token

/--
The characters of the pattern that a token was made of.  What is in an option
list is not kept as it was written, so nothing is said of it.
-/
def surface : Token → List Char
  | .literal text => text.toList
  | .percent => ['%']
  | .modifier text => text.toList
  | .simple word => word.toList
  | .composite word => if word = bareWord then ['('] else word.toList ++ ['(']
  | .options _ => []
  | .rightParenthesis => [')']

/-- Whether a token is an option list. -/
def isOptions : Token → Bool
  | .options _ => true
  | _ => false

end Token

/-- Tokens other than option lists that were made of some characters. -/
structure MadeOf (chars : List Char) (tokens : List Token) : Prop where
  optionless : ∀ token ∈ tokens, token.isOptions = false
  surface_eq : tokens.flatMap Token.surface = chars

namespace MadeOf

theorem nil : MadeOf [] [] :=
  ⟨List.forall_mem_nil _, rfl⟩

theorem singleton
    {chars : List Char}
    {token : Token}
    (optionless : token.isOptions = false)
    (surface_eq : token.surface = chars) :
    MadeOf chars [token] :=
  ⟨List.forall_mem_singleton.mpr optionless, (List.flatMap_singleton _ _).trans surface_eq⟩

theorem append
    {chars more : List Char}
    {tokens others : List Token}
    (front : MadeOf chars tokens)
    (back : MadeOf more others) :
    MadeOf (chars ++ more) (tokens ++ others) where
  optionless := List.forall_mem_append.mpr ⟨front.optionless, back.optionless⟩
  surface_eq := by
    rw [List.flatMap_append, front.surface_eq, back.surface_eq]

theorem literal (buffer : List Char) : MadeOf buffer (bufferToken .literal buffer) := by
  cases buffer with
  | nil => exact nil
  | cons => exact singleton rfl String.toList_ofList

theorem modifier (buffer : List Char) : MadeOf buffer (bufferToken .modifier buffer) := by
  cases buffer with
  | nil => exact nil
  | cons => exact singleton rfl String.toList_ofList

theorem simple (buffer : List Char) : MadeOf buffer [.simple (String.ofList buffer)] :=
  singleton rfl String.toList_ofList

theorem composite
    {buffer : List Char}
    (notBare : buffer ≠ Token.bareWord.toList) :
    MadeOf (buffer ++ ['(']) [.composite (String.ofList buffer)] := by
  have different : String.ofList buffer ≠ Token.bareWord := by
    intro same
    rw [← same, String.toList_ofList] at notBare
    exact notBare rfl
  refine singleton rfl ?_
  rw [Token.surface, if_neg different, String.toList_ofList]

end MadeOf

/-! ## Steps over plain characters -/

/-- A character that continues a modifier. -/
def IsModifierChar (char : Char) : Prop :=
  char ≠ '(' ∧ isWordStart char = false

/-- Neither a backslash nor the brace that opens an option list. -/
def IsPlainChar (char : Char) : Prop :=
  char ≠ '\\' ∧ char ≠ '\x7b'

namespace LexState

/-- Where the lexer can stand if there are no escapes and no option lists. -/
def isPlain : LexState → Bool
  | .literal => true
  | .modifier => true
  | .word => true
  | .closed => true
  | _ => false

/-- The characters that were read but are in no token yet. -/
def pending : LexState → List Char → List Char
  | .closed, _ => [')']
  | _, buffer => buffer

/-- A step that keeps all characters, and where it leads. -/
structure KeepsText
    (state : LexState)
    (buffer : List Char)
    (char : Char)
    (next : LexStep) : Prop where
  plain : next.state.isPlain = true
  made :
    ∃ front,
      MadeOf front next.tokens ∧
        front ++ next.state.pending next.buffer = state.pending buffer ++ [char]
  modifier_iff :
    next.state = .modifier ↔
      state = .modifier ∧ IsModifierChar char ∨
        (state = .literal ∨ state = .word) ∧ char = '%'
  closed_iff : next.state = .closed ↔ state ≠ .modifier ∧ char = ')'

variable {mode : EscapeMode} {buffer : List Char} {char : Char}

theorem exists_keepsText_literal (isPlain : IsPlainChar char) :
    ∃ next,
      LexState.literal.step mode buffer 1 char = .ok next ∧
        KeepsText .literal buffer char next := by
  rw [step, if_neg isPlain.1]
  split_ifs with percent closing
  · refine ⟨_, rfl, rfl, ⟨_, (MadeOf.literal buffer).append (.singleton rfl rfl), ?_⟩, ?_, ?_⟩
    · simp [pending, Token.surface, percent]
    · simp [percent]
    · simp [percent]
  · refine ⟨_, rfl, rfl, ⟨_, MadeOf.literal buffer, ?_⟩, ?_, ?_⟩
    · simp [pending, closing]
    · simp [closing]
    · simp [closing]
  · refine ⟨_, rfl, rfl, ⟨_, .nil, rfl⟩, ?_, ?_⟩
    · simp [percent]
    · simp [closing]

theorem exists_keepsText_modifier :
    ∃ next,
      LexState.modifier.step mode buffer 1 char = .ok next ∧
        KeepsText .modifier buffer char next := by
  rw [step]
  split_ifs with opening starts
  · refine ⟨_, rfl, rfl, ⟨_, (MadeOf.modifier buffer).append (.singleton rfl rfl), ?_⟩, ?_, ?_⟩
    · simp [pending, Token.bare, Token.surface, opening]
    · simp [IsModifierChar, opening]
    · simp
  · refine ⟨_, rfl, rfl, ⟨_, MadeOf.modifier buffer, rfl⟩, ?_, ?_⟩
    · simp [IsModifierChar, starts]
    · simp
  · refine ⟨_, rfl, rfl, ⟨_, .nil, rfl⟩, ?_, ?_⟩
    · simp [IsModifierChar, opening, starts]
    · simp

theorem exists_keepsText_word
    (isPlain : IsPlainChar char)
    (notBare : ¬ "BARE(".toList <:+ buffer ++ [char]) :
    ∃ next,
      LexState.word.step mode buffer 1 char = .ok next ∧
        KeepsText .word buffer char next := by
  rw [step, if_neg isPlain.2, if_neg isPlain.1]
  split_ifs with part opening percent closing
  · have notPercent : char ≠ '%' := by
      rintro rfl
      exact absurd part (by decide)
    have notClosing : char ≠ ')' := by
      rintro rfl
      exact absurd part (by decide)
    refine ⟨_, rfl, rfl, ⟨_, .nil, rfl⟩, ?_, ?_⟩
    · simp [notPercent]
    · simp [notClosing]
  · have different : buffer ≠ Token.bareWord.toList := by
      rintro rfl
      rw [opening] at notBare
      exact notBare List.suffix_rfl
    refine ⟨_, rfl, rfl, ⟨_, .composite different, ?_⟩, ?_, ?_⟩
    · simp [pending, opening]
    · simp [opening]
    · simp [opening]
  · have tokens :
        MadeOf (buffer ++ ['%']) [.simple (String.ofList buffer), .percent] :=
      (MadeOf.simple buffer).append (.singleton rfl rfl)
    refine ⟨_, rfl, rfl, ⟨_, tokens, ?_⟩, ?_, ?_⟩
    · simp [pending, percent]
    · simp [percent]
    · simp [percent]
  · refine ⟨_, rfl, rfl, ⟨_, .simple buffer, ?_⟩, ?_, ?_⟩
    · simp [pending, closing]
    · simp [closing]
    · simp [closing]
  · refine ⟨_, rfl, rfl, ⟨_, .simple buffer, rfl⟩, ?_, ?_⟩
    · simp [percent]
    · simp [closing]

theorem exists_keepsText_closed (isPlain : IsPlainChar char) :
    ∃ next,
      LexState.closed.step mode buffer 1 char = .ok next ∧
        KeepsText .closed buffer char next := by
  rw [step, if_neg isPlain.2, if_neg isPlain.1]
  split_ifs with closing
  · refine ⟨_, rfl, rfl, ⟨_, .singleton rfl rfl, ?_⟩, ?_, ?_⟩
    · simp [pending, Token.surface, closing]
    · simp
    · simp [closing]
  · refine ⟨_, rfl, rfl, ⟨_, .singleton rfl rfl, rfl⟩, ?_, ?_⟩
    · simp
    · simp [closing]

theorem exists_keepsText
    {state : LexState}
    (mode : EscapeMode)
    (stands : state.isPlain = true)
    (isPlain : IsPlainChar char)
    (notBare : ¬ "BARE(".toList <:+ state.pending buffer ++ [char]) :
    ∃ next,
      state.step mode buffer 1 char = .ok next ∧ KeepsText state buffer char next := by
  cases state with
  | literal => exact exists_keepsText_literal isPlain
  | modifier => exact exists_keepsText_modifier
  | word => exact exists_keepsText_word isPlain notBare
  | closed => exact exists_keepsText_closed isPlain
  | _ => cases stands

/-- The end of a pattern completes what is pending, except for a modifier. -/
theorem exists_finish_plain
    {state : LexState}
    (buffer : List Char)
    (stands : state.isPlain = true)
    (complete : state ≠ .modifier) :
    ∃ ending,
      state.finish buffer = .ok ending ∧ MadeOf (state.pending buffer) ending := by
  cases state with
  | literal => exact ⟨_, rfl, .literal buffer⟩
  | modifier => exact absurd rfl complete
  | word => exact ⟨_, rfl, .simple buffer⟩
  | closed => exact ⟨_, rfl, .singleton rfl rfl⟩
  | _ => cases stands

end LexState

theorem LexState.literal_or_word_iff
    {state : LexState}
    (stands : state.isPlain = true)
    (complete : state ≠ .modifier) :
    state = .literal ∨ state = .word ↔ state ≠ .closed := by
  cases state with
  | literal => simp
  | modifier => exact absurd rfl complete
  | word => simp
  | closed => simp
  | _ => cases stands

/-! ## Walks over plain characters -/

/--
A text ends within a modifier: in what stands behind a percent sign there is
neither the beginning of a word nor an opening parenthesis.  Right behind a closing
parenthesis a percent sign opens no modifier.
-/
def EndsInModifier (text : List Char) : Prop :=
  ∃ front modifier,
    text = front ++ '%' :: modifier ∧
      front.getLast? ≠ some ')' ∧
      ∀ char ∈ modifier, IsModifierChar char

theorem endsInModifier_concat {text : List Char} {char : Char} :
    EndsInModifier (text ++ [char]) ↔
      EndsInModifier text ∧ IsModifierChar char ∨
        text.getLast? ≠ some ')' ∧ char = '%' := by
  constructor
  · rintro ⟨front, modifier, split, opens, continues⟩
    rcases List.eq_nil_or_concat' modifier with rfl | ⟨before, last, rfl⟩
    · obtain ⟨rfl, same⟩ := List.append_inj' split rfl
      cases same
      exact Or.inr ⟨opens, rfl⟩
    · rw [← List.cons_append, ← List.append_assoc] at split
      obtain ⟨rfl, same⟩ := List.append_inj' split rfl
      cases same
      rw [List.forall_mem_append, List.forall_mem_singleton] at continues
      exact Or.inl ⟨⟨front, before, rfl, opens, continues.1⟩, continues.2⟩
  · rintro (⟨⟨front, modifier, rfl, opens, continues⟩, more⟩ | ⟨opens, rfl⟩)
    · refine ⟨front, modifier ++ [char], by simp, opens, ?_⟩
      rw [List.forall_mem_append, List.forall_mem_singleton]
      exact ⟨continues, more⟩
    · exact ⟨text, [], rfl, opens, List.forall_mem_nil _⟩

/-- A text in which nothing is escaped, and without option lists and the word of bare composites. -/
structure IsPlainText (text : List Char) : Prop where
  chars : ∀ char ∈ text, IsPlainChar char
  notBare : ¬ "BARE(".toList <:+: text

/-- Where the lexer stands behind a plain text, and what became of it so far. -/
structure StandsBehind (mode : EscapeMode) (text : List Char) (last : LexStep) : Prop where
  walked : LexState.walk mode .literal [] text = some last
  plain : last.state.isPlain = true
  made :
    ∃ front,
      MadeOf front last.tokens ∧ front ++ last.state.pending last.buffer = text
  modifier_iff : last.state = .modifier ↔ EndsInModifier text
  closed_iff :
    last.state ≠ .modifier → (last.state = .closed ↔ text.getLast? = some ')')

theorem IsPlainText.of_concat
    {text : List Char}
    {char : Char}
    (isPlain : IsPlainText (text ++ [char])) :
    IsPlainText text ∧ IsPlainChar char := by
  have inside : text <:+: text ++ [char] := (List.prefix_append text [char]).isInfix
  have chars := List.forall_mem_append.mp isPlain.chars
  exact
    ⟨⟨chars.1, fun bare => isPlain.notBare (bare.trans inside)⟩,
      List.forall_mem_singleton.mp chars.2⟩

theorem StandsBehind.concat
    {mode : EscapeMode}
    {text : List Char}
    {char : Char}
    {last : LexStep}
    (stands : StandsBehind mode text last)
    (isPlain : IsPlainText (text ++ [char])) :
    ∃ next, StandsBehind mode (text ++ [char]) next := by
  obtain ⟨state, buffer, tokens⟩ := last
  obtain ⟨front, made, split⟩ := stands.made
  dsimp only at split made
  have notBare : ¬ "BARE(".toList <:+ state.pending buffer ++ [char] := by
    intro bare
    refine isPlain.notBare (bare.isInfix.trans ?_)
    rw [← split, List.append_assoc]
    exact (List.suffix_append front _).isInfix
  obtain ⟨next, stepped, keeps⟩ :=
    LexState.exists_keepsText mode stands.plain isPlain.of_concat.2 notBare
  obtain ⟨more, madeNext, splitNext⟩ := keeps.made
  refine ⟨⟨next.state, next.buffer, tokens ++ next.tokens⟩, ?_, keeps.plain, ?_, ?_, ?_⟩
  · have once := LexState.walk_cons_trans stepped (LexState.walk_nil mode next.state next.buffer)
    rw [List.append_nil] at once
    exact LexState.walk_trans stands.walked once
  · refine ⟨front ++ more, made.append madeNext, ?_⟩
    rw [List.append_assoc, splitNext, ← List.append_assoc, split]
  · have percent (same : char = '%') : IsModifierChar char := by
      rw [same]
      exact ⟨by decide, by decide⟩
    rw [endsInModifier_concat, ← stands.modifier_iff]
    refine keeps.modifier_iff.trans (or_congr_right' fun outside => and_congr_left ?_)
    intro isPercent
    have complete : state ≠ .modifier := fun inside => outside ⟨inside, percent isPercent⟩
    exact
      (LexState.literal_or_word_iff stands.plain complete).trans
        (not_congr (stands.closed_iff complete))
  · intro complete
    rw [List.getLast?_concat, Option.some.injEq]
    refine keeps.closed_iff.trans (and_iff_right_of_imp ?_)
    rintro rfl inside
    exact complete (keeps.modifier_iff.mpr (Or.inl ⟨inside, by decide, by decide⟩))

theorem exists_standsBehind
    (mode : EscapeMode)
    {text : List Char}
    (isPlain : IsPlainText text) :
    ∃ last, StandsBehind mode text last := by
  induction text using List.reverseRecOn with
  | nil =>
      refine ⟨⟨.literal, [], []⟩, rfl, rfl, ⟨[], .nil, rfl⟩, ?_, ?_⟩
      · simp [EndsInModifier]
      · simp
  | append_singleton text char ih =>
      obtain ⟨last, stands⟩ := ih isPlain.of_concat.1
      exact stands.concat isPlain

/--
A pattern without backslashes, option lists and the word of bare composites is
what its tokens were made of, put together.  It is refused exactly if it ends
within a modifier.
-/
theorem tokenize_surface
    {pattern : String}
    (mode : EscapeMode)
    (nonempty : pattern ≠ "")
    (noBackslash : '\\' ∉ pattern.toList)
    (noBrace : '\x7b' ∉ pattern.toList)
    (notBare : ¬ "BARE(".toList <:+: pattern.toList) :
    (∀ tokens,
        tokenize mode pattern = .ok tokens →
          (∀ values, .options values ∉ tokens) ∧
            tokens.flatMap Token.surface = pattern.toList) ∧
      ∀ error,
        tokenize mode pattern = .error error ↔
          error = .unexpectedEnd ∧ EndsInModifier pattern.toList := by
  have isPlain : IsPlainText pattern.toList := by
    refine ⟨fun char member => ⟨?_, ?_⟩, notBare⟩
    · rintro rfl
      exact noBackslash member
    · rintro rfl
      exact noBrace member
  obtain ⟨last, stands⟩ := exists_standsBehind mode isPlain
  obtain ⟨front, made, split⟩ := stands.made
  have some : ¬ pattern.isEmpty = true := by simpa using nonempty
  have lexed :
      tokenize mode pattern =
        (last.state.finish last.buffer).map (last.tokens ++ ·) := by
    rw [tokenize, if_neg some, lexFrom_of_walk stands.walked]
  by_cases inside : last.state = .modifier
  · have refused : tokenize mode pattern = .error .unexpectedEnd := by
      rw [lexed, inside]
      rfl
    rw [refused]
    refine ⟨?_, fun error => ⟨?_, ?_⟩⟩
    · rintro _ ⟨⟩
    · rintro ⟨⟩
      exact ⟨rfl, stands.modifier_iff.mp inside⟩
    · rintro ⟨rfl, -⟩
      rfl
  · obtain ⟨ending, finished, madeEnding⟩ :=
      LexState.exists_finish_plain last.buffer stands.plain inside
    rw [lexed, finished]
    have whole := made.append madeEnding
    rw [split] at whole
    refine ⟨?_, fun error => ⟨?_, ?_⟩⟩
    · rintro _ ⟨⟩
      refine ⟨fun values member => ?_, whole.surface_eq⟩
      cases whole.optionless _ member
    · rintro ⟨⟩
    · rintro ⟨-, ends⟩
      exact absurd (stands.modifier_iff.mpr ends) inside

/-- Parentheses, modifiers and the word of bare composites without a parenthesis. -/
theorem tokenize_surface_parentheses :
    let pattern := "a) %-5(%BARE%20x(b%y))%z"
    let tokens : List Token :=
      [.literal "a", .rightParenthesis, .literal " ", .percent, .modifier "-5", .bare,
        .percent, .simple "BARE", .percent, .modifier "20", .composite "x", .literal "b",
        .percent, .simple "y", .rightParenthesis, .rightParenthesis, .literal "%z"]
    pattern ≠ "" ∧
      '\\' ∉ pattern.toList ∧
      '\x7b' ∉ pattern.toList ∧
      ¬ "BARE(".toList <:+: pattern.toList ∧
      tokenize .regular pattern = .ok tokens ∧
      tokens.flatMap Token.surface = pattern.toList := by
  intro pattern tokens
  have nonempty : pattern ≠ "" := by decide +kernel
  have noBackslash : '\\' ∉ pattern.toList := by decide +kernel
  have noBrace : '\x7b' ∉ pattern.toList := by decide +kernel
  have notBare : ¬ "BARE(".toList <:+: pattern.toList := by decide +kernel
  have lexed : tokenize .regular pattern = .ok tokens := by decide +kernel
  have kept := tokenize_surface .regular nonempty noBackslash noBrace notBare
  exact ⟨nonempty, noBackslash, noBrace, notBare, lexed, (kept.1 tokens lexed).2⟩

end LogPipeline.Pattern
