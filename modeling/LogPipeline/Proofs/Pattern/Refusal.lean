import LogPipeline.Proofs.Pattern.ModifierGrammar
import LogPipeline.Proofs.Pattern.Order

/-!
# What the parser refuses

Of tokens that are in order the parser refuses two things only: a modifier that
gives no format, and a composite conversion that is still open when the tokens
end.  It stops before their end at a closing parenthesis and at nothing else.

The tokens of a pattern are in order, so this is all that can be wrong with a
pattern once the lexer has accepted it.
-/

namespace LogPipeline.Pattern

/-- Why tokens are refused. -/
inductive Refusal (tokens : List Token) : PatternError → Prop where
  | modifier
      {text : String}
      {error : PatternError}
      (written : .modifier text ∈ tokens)
      (refused : FieldFormat.ofModifier text = .error error) :
      Refusal tokens error
  /-- The children of a composite conversion reach up to the end of the tokens. -/
  | unclosed
      {front inner : List Token}
      {word : String}
      {children : List Node}
      (tokens_eq : tokens = front ++ .composite word :: inner)
      (reached : parseTokens inner = .ok (children, [])) :
      Refusal tokens (.missingParenthesis (describeFront []))

theorem Refusal.behind
    {tokens : List Token}
    {error : PatternError}
    (refusal : Refusal tokens error)
    (before : List Token) :
    Refusal (before ++ tokens) error := by
  cases refusal with
  | modifier written refused =>
      exact .modifier (List.mem_append_right before written) refused
  | @unclosed front inner word children tokens_eq reached =>
      have extended :
          before ++ tokens = (before ++ front) ++ .composite word :: inner := by
        rw [tokens_eq, List.append_assoc]
      exact .unclosed extended reached

/-! ## What is said about a modifier -/

namespace FieldFormat

theorem eq_of_ofModifier_eq_error
    {modifier : String}
    {error : PatternError}
    (refused : ofModifier modifier = .error error) :
    error = .invalidModifier modifier ∨ error = .modifierEndsInDot modifier := by
  rcases exists_isModifier_or_refused modifier with ⟨_, _, isModifier⟩ | wrong
  · cases refused.symm.trans (ofModifier_of_isModifier isModifier)
  · cases refused.symm.trans wrong
    rw [modifierRefusal]
    split
    · exact Or.inr rfl
    · exact Or.inl rfl

end FieldFormat

theorem Refusal.ne_missingKeyword
    {tokens : List Token}
    {error : PatternError}
    (refusal : Refusal tokens error)
    (found : String) :
    error ≠ .missingKeyword found := by
  cases refusal with
  | modifier _ refused =>
      rcases FieldFormat.eq_of_ofModifier_eq_error refused with rfl | rfl
      · exact PatternError.noConfusion
      · exact PatternError.noConfusion
  | unclosed => exact PatternError.noConfusion

/-! ## The parser on tokens in order -/

namespace Runs

variable {before last : Option Token} {tokens : List Token}

theorem opensOptions_eq_false
    (runs : Runs before tokens last)
    (alone : before.any Token.takesOptions = false) :
    opensOptions tokens = false := by
  cases runs with
  | nil => rfl
  | @cons _ _ token tokens follows _ =>
      cases token with
      | options values => exact absurd follows (Bool.eq_false_iff.mp alone)
      | literal | percent | modifier | simple | composite | rightParenthesis =>
          rfl

/-- Behind a conversion the parser goes on where no option list is in front. -/
theorem exists_takeOptions
    {closing : Token}
    (runs : Runs (some closing) tokens last)
    (takes : closing.takesOptions = true) :
    ∃ behind before,
      tokens = behind ++ (takeOptions tokens).2 ∧
        Runs before (takeOptions tokens).2 last ∧
        before.any Token.awaitsWord = false ∧
        opensOptions (takeOptions tokens).2 = false := by
  rcases exists_optionTokens tokens with ⟨behind, optional, split, noOptions⟩
  generalize takeOptions tokens = taken at optional split ⊢
  rcases taken with ⟨values, rest⟩
  dsimp only at optional split ⊢
  cases optional with
  | absent =>
      cases split
      refine ⟨[], some closing, rfl, runs, ?_, noOptions rfl⟩
      rcases Token.eq_simple_or_rightParenthesis_of_takesOptions takes with
        ⟨word, rfl⟩ | rfl
      · rfl
      · rfl
  | present =>
      rw [split] at runs
      cases runs with
      | cons _ more =>
          exact ⟨_, _, split, more, rfl, more.opensOptions_eq_false rfl⟩

end Runs

/-- No derivation ends between a percent sign and its word. -/
theorem Derives.getLast?_idle
    {used : List Token}
    {nodes : List Node}
    (derived : Derives used nodes) :
    used.getLast?.any Token.awaitsWord = false := by
  have step
      {token : Token}
      {tokens : List Token}
      (idle : token.awaitsWord = false)
      (more : tokens.getLast?.any Token.awaitsWord = false) :
      (token :: tokens).getLast?.any Token.awaitsWord = false := by
    cases tokens with
    | nil => exact idle
    | cons next tokens =>
        rw [List.getLast?_cons_cons]
        exact more
  have optionally
      {behind tokens : List Token}
      {values : List String}
      (optional : OptionTokens behind values)
      (more : tokens.getLast?.any Token.awaitsWord = false) :
      (behind ++ tokens).getLast?.any Token.awaitsWord = false := by
    cases optional with
    | absent => exact more
    | present => exact step rfl more
  induction derived with
  | nil => rfl
  | literal _ ih => exact step rfl ih
  | conversion _ optional _ ih =>
      rw [← List.cons_append, any_getLast?_append_cons]
      exact step rfl (optionally optional ih)
  | composite _ _ optional _ _ ih =>
      rw [← List.cons_append, any_getLast?_append_cons, ← List.cons_append,
        any_getLast?_append_cons]
      exact step rfl (optionally optional ih)

/-- The parser stops before the end at a closing parenthesis and at nothing else. -/
theorem Runs.rest_of_parseTokens
    {before last : Option Token}
    {tokens rest : List Token}
    {nodes : List Node}
    (runs : Runs before tokens last)
    (idle : before.any Token.awaitsWord = false)
    (closed : opensOptions tokens = false)
    (parsed : parseTokens tokens = .ok (nodes, rest)) :
    rest = [] ∨ ∃ back, rest = .rightParenthesis :: back := by
  rcases exists_takes_of_parseTokens parsed with
    ⟨used, rfl, derived, stops, apart⟩
  cases rest with
  | nil => exact Or.inl rfl
  | cons token back =>
      right
      rcases runs.exists_of_split rfl with ⟨middle, runsUsed, follows, _⟩
      have idleThere : middle.any Token.awaitsWord = false := by
        rcases runsUsed.last_cases with ⟨_, rfl⟩ | ⟨front, other, rfl, rfl⟩
        · exact idle
        · have usedIdle := derived.getLast?_idle
          rwa [List.getLast?_concat] at usedIdle
      cases token with
      | rightParenthesis => exact ⟨back, rfl⟩
      | literal text => cases stops
      | percent => cases stops
      | modifier text =>
          cases follows.2
          cases idleThere
      | simple word =>
          exact absurd follows.2 (Bool.eq_false_iff.mp idleThere)
      | composite word =>
          exact absurd follows.2 (Bool.eq_false_iff.mp idleThere)
      | options values =>
          rcases runsUsed.last_cases with ⟨rfl, _⟩ | ⟨front, other, rfl, rfl⟩
          · cases closed
          · have untaken := apart rfl
            rw [endsConversion, List.getLast?_concat] at untaken
            exact absurd follows (Bool.eq_false_iff.mp untaken)

/-- A word without a modifier is left to the conversion. -/
theorem takeModifier_of_isWord
    {word : Token}
    (isWord : word.isWord = true)
    (rest : List Token) :
    takeModifier (word :: rest) = .ok (none, word :: rest) := by
  cases word with
  | simple | composite => rfl
  | literal | percent | modifier | options | rightParenthesis => cases isWord

theorem eq_error_of_map_eq_error
    {α β : Type}
    {read : Except PatternError α}
    {change : α → β}
    {error : PatternError}
    (mapped : read.map change = .error error) :
    read = .error error := by
  cases read with
  | error =>
      cases mapped
      rfl
  | ok => cases mapped

/-- What is refused behind a word is refused for a reason if all that comes later is. -/
theorem refusal_of_readConversion
    {last : Option Token}
    {format : Option FieldFormat}
    {word : Token}
    {rest : List Token}
    {error : PatternError}
    (later :
      ∀ before tokens error,
        tokens.length ≤ rest.length →
          Runs before tokens last →
            before.any Token.awaitsWord = false →
              opensOptions tokens = false →
                parseTokens tokens = .error error →
                  Refusal tokens error)
    (runs : Runs (some word) rest last)
    (isWord : word.isWord = true)
    (failed : readConversion format (word :: rest) = .error error) :
    Refusal (word :: rest) error := by
  have behindConversion
      {closing : Token}
      {tokens : List Token}
      (shorter : tokens.length ≤ rest.length)
      (runs : Runs (some closing) tokens last)
      (takes : closing.takesOptions = true)
      (failed : parseTokens (takeOptions tokens).2 = .error error) :
      Refusal tokens error := by
    rcases runs.exists_takeOptions takes with
      ⟨behind, before, split, more, idle, closed⟩
    have fewer := takeOptions_length tokens
    have refusal :=
      later before _ error (Nat.le_trans fewer shorter) more idle closed failed
    rw [split]
    exact refusal.behind behind
  cases word with
  | literal | percent | modifier | options | rightParenthesis => cases isWord
  | simple word =>
      rw [readConversion] at failed
      exact
        (behindConversion (Nat.le_refl _) runs rfl
          (eq_error_of_map_eq_error failed)).behind [.simple word]
  | composite word =>
      have closed : opensOptions rest = false := runs.opensOptions_eq_false rfl
      rw [readConversion] at failed
      cases inside : parseTokens rest with
      | error other =>
          rw [inside] at failed
          cases failed
          have refusal := later _ _ _ (Nat.le_refl _) runs rfl closed inside
          exact refusal.behind [.composite word]
      | ok inner =>
          rcases inner with ⟨children, found⟩
          rw [inside] at failed
          rcases runs.rest_of_parseTokens rfl closed inside with
            rfl | ⟨back, rfl⟩
          · cases failed
            exact .unclosed (List.nil_append _).symm inside
          · rcases exists_takes_of_parseTokens inside with ⟨used, split, _⟩
            rcases runs.exists_of_split split with ⟨_, _, _, more⟩
            have shorter : back.length ≤ rest.length := by
              rw [split, List.length_append, List.length_cons]
              omega
            have refusal :=
              behindConversion shorter more rfl
                (eq_error_of_map_eq_error failed)
            have extended :
                .composite word :: rest =
                  (.composite word :: (used ++ [.rightParenthesis])) ++ back := by
              simp [split]
            rw [extended]
            exact refusal.behind _

/-- Tokens that are in order are refused for the two reasons only. -/
theorem refusal_of_parseTokens
    {before last : Option Token}
    {tokens : List Token}
    {error : PatternError}
    (complete : last.any Token.awaitsWord = false)
    (runs : Runs before tokens last)
    (idle : before.any Token.awaitsWord = false)
    (closed : opensOptions tokens = false)
    (failed : parseTokens tokens = .error error) :
    Refusal tokens error := by
  -- As in the parser, children and what follows are later places of the tokens.
  induction size : tokens.length using Nat.strongRecOn
    generalizing before tokens error with
  | _ size ih =>
  subst size
  cases opens : opensNode tokens with
  | false =>
      rw [parseTokens_of_not_opensNode opens] at failed
      cases failed
  | true =>
      rcases exists_of_opensNode opens with ⟨text, later, rfl⟩ | ⟨later, rfl⟩
      · rw [parseTokens_literal] at failed
        cases runs with
        | cons follows more =>
            have refusal :=
              ih later.length (by simp) more rfl
                (more.opensOptions_eq_false rfl)
                (eq_error_of_map_eq_error failed) rfl
            exact refusal.behind [.literal text]
      · rw [parseTokens_percent] at failed
        cases runs with
        | cons follows more =>
            rcases more.exists_word_of_percent complete with
              ⟨modifier, word, rest, rfl, optional, isWord, behindWord⟩
            have shorterThan
                (before : Option Token)
                (tokens : List Token)
                (error : PatternError)
                (shorter : tokens.length ≤ rest.length) :
                Runs before tokens last →
                  before.any Token.awaitsWord = false →
                    opensOptions tokens = false →
                      parseTokens tokens = .error error →
                        Refusal tokens error := by
              intro runs idle closed failed
              refine ih tokens.length ?_ runs idle closed failed rfl
              simp only [List.length_cons, List.length_append]
              omega
            rcases optional with rfl | ⟨text, rfl⟩
            · rw [List.nil_append, takeModifier_of_isWord isWord] at failed
              have refusal :=
                refusal_of_readConversion shorterThan behindWord isWord failed
              exact refusal.behind [.percent]
            · rw [List.singleton_append, takeModifier] at failed
              cases accepted : FieldFormat.ofModifier text with
              | error refused =>
                  rw [accepted] at failed
                  cases failed
                  exact .modifier (by simp) accepted
              | ok format =>
                  rw [accepted] at failed
                  have refusal :=
                    refusal_of_readConversion shorterThan behindWord isWord
                      failed
                  exact refusal.behind [.percent, .modifier text]

/-! ## The tokens of patterns -/

/--
The tokens of a pattern are in order.  The parser refuses them for a modifier
without a format or for a composite conversion that is open at the end, and
otherwise the first token that it leaves is a closing parenthesis.
-/
theorem orderly_of_tokenize
    {mode : EscapeMode}
    {pattern : String}
    {tokens : List Token}
    (tokenized : tokenize mode pattern = .ok tokens) :
    Orderly tokens ∧
      (∀ error,
        parseTokens tokens = .error error →
          Refusal tokens error ∧ ∀ found, error ≠ .missingKeyword found) ∧
      ∀ nodes rest,
        parseTokens tokens = .ok (nodes, rest) →
          rest = [] ∨ ∃ back, rest = .rightParenthesis :: back := by
  rcases exists_runs_of_tokenize tokenized with ⟨last, runs, complete⟩
  have closed : opensOptions tokens = false := runs.opensOptions_eq_false rfl
  refine ⟨runs.orderly complete, ?_, ?_⟩
  · intro error failed
    have refusal := refusal_of_parseTokens complete runs rfl closed failed
    exact ⟨refusal, refusal.ne_missingKeyword⟩
  · intro nodes rest parsed
    exact runs.rest_of_parseTokens rfl closed parsed

/-- A pattern with all kinds of tokens, and with a parenthesis too many. -/
theorem orderly_of_tokenize_parenthesis :
    let tokens : List Token :=
      [.literal "a", .percent, .modifier "-5.7", .bare, .percent, .simple "d",
        .options ["x", "y,z"], .literal " b", .rightParenthesis, .options ["o"],
        .percent, .simple "m", .rightParenthesis, .literal " c"]
    tokenize .regular "a%-5.7(%d\x7bx, 'y,z'\x7d b)\x7bo\x7d%m) c" = .ok tokens ∧
      Orderly tokens ∧
      (∀ error,
        parseTokens tokens = .error error →
          Refusal tokens error ∧ ∀ found, error ≠ .missingKeyword found) ∧
      ∀ nodes rest,
        parseTokens tokens = .ok (nodes, rest) →
          rest = [] ∨ ∃ back, rest = .rightParenthesis :: back := by
  intro tokens
  have tokenized :
      tokenize .regular "a%-5.7(%d\x7bx, 'y,z'\x7d b)\x7bo\x7d%m) c" = .ok tokens := by
    rfl
  exact ⟨tokenized, orderly_of_tokenize tokenized⟩

end LogPipeline.Pattern
