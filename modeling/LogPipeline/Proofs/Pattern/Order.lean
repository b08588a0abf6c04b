import LogPipeline.Proofs.Pattern.Derivation

/-!
# The order of tokens

The lexer completes tokens in an order that suits the parser.  Which token can
come next depends on the one before it alone, and the place where the lexer
stands tells what that one can be.  So each step of the lexer continues the
order of the tokens that were completed before it, and the end of a pattern
never comes between a percent sign and its word.
-/

namespace LogPipeline.Pattern

/-! ## What may come next -/

namespace Token

/-- The characters of the pattern that a token holds. -/
def text? : Token → Option String
  | .literal text => some text
  | .modifier text => some text
  | .simple word => some word
  | .composite word => some word
  | _ => none

/-- Whether a token is literal text. -/
def isLiteral : Token → Bool
  | .literal _ => true
  | _ => false

/-- Whether a token is the word of a conversion. -/
def isWord : Token → Bool
  | .simple _ => true
  | .composite _ => true
  | _ => false

/-- Whether the word of a conversion is still to come. -/
def awaitsWord : Token → Bool
  | .percent => true
  | .modifier _ => true
  | _ => false

end Token

/-- Whether a token can come next, where `before` is the one before it, if there is one. -/
def Follows (before : Option Token) : Token → Prop
  | .literal text =>
      text ≠ "" ∧
        before.any Token.awaitsWord = false ∧ before.any Token.isLiteral = false
  | .percent => before.any Token.awaitsWord = false
  | .modifier text => text ≠ "" ∧ before = some .percent
  | .simple word => word ≠ "" ∧ before.any Token.awaitsWord = true
  | .composite word => word ≠ "" ∧ before.any Token.awaitsWord = true
  | .options _ => before.any Token.takesOptions = true
  | .rightParenthesis => before.any Token.awaitsWord = false

/-- Each token can come next behind the one before it; `last` is the last one. -/
inductive Runs : Option Token → List Token → Option Token → Prop where
  | nil {before : Option Token} : Runs before [] before
  | cons
      {before last : Option Token}
      {token : Token}
      {tokens : List Token}
      (follows : Follows before token)
      (more : Runs (some token) tokens last) :
      Runs before (token :: tokens) last

namespace Runs

theorem singleton
    {before : Option Token}
    {token : Token}
    (follows : Follows before token) :
    Runs before [token] (some token) :=
  .cons follows .nil

theorem append
    {before middle last : Option Token}
    {front back : List Token}
    (runs : Runs before front middle)
    (more : Runs middle back last) :
    Runs before (front ++ back) last := by
  induction runs with
  | nil => exact more
  | cons follows _ ih => exact .cons follows (ih more)

theorem exists_of_append
    {before last : Option Token}
    {front back : List Token}
    (runs : Runs before (front ++ back) last) :
    ∃ middle, Runs before front middle ∧ Runs middle back last := by
  induction front generalizing before with
  | nil => exact ⟨before, .nil, runs⟩
  | cons token front ih =>
      rw [List.cons_append] at runs
      cases runs with
      | cons follows more =>
          rcases ih more with ⟨middle, runsFront, runsBack⟩
          exact ⟨middle, .cons follows runsFront, runsBack⟩

/-- The last one is the last of the tokens, or the one before them. -/
theorem last_cases
    {before last : Option Token}
    {tokens : List Token}
    (runs : Runs before tokens last) :
    tokens = [] ∧ last = before ∨
      ∃ front token, tokens = front ++ [token] ∧ last = some token := by
  induction runs with
  | nil => exact Or.inl ⟨rfl, rfl⟩
  | @cons before last token tokens _ _ ih =>
      right
      rcases ih with ⟨rfl, rfl⟩ | ⟨front, other, rfl, rfl⟩
      · exact ⟨[], token, rfl, rfl⟩
      · exact ⟨token :: front, other, rfl, rfl⟩

theorem exists_concat
    {tokens : List Token}
    {token : Token}
    (runs : Runs none tokens (some token)) :
    ∃ front, tokens = front ++ [token] := by
  rcases runs.last_cases with ⟨_, impossible⟩ | ⟨front, other, equal, same⟩
  · cases impossible
  · cases same
    exact ⟨front, equal⟩

end Runs

/-! ## Each step of the lexer continues the order -/

theorem ofList_ne_empty
    {buffer : List Char}
    (nonempty : buffer ≠ []) :
    String.ofList buffer ≠ "" := by
  simpa using nonempty

/-- A buffer with literal text is completed to a literal that can come next. -/
theorem exists_runs_literal
    {before : Option Token}
    (complete : before.any Token.awaitsWord = false)
    (apart : before.any Token.isLiteral = false)
    (buffer : List Char) :
    ∃ last,
      Runs before (bufferToken .literal buffer) last ∧
        last.any Token.awaitsWord = false := by
  cases buffer with
  | nil => exact ⟨before, .nil, complete⟩
  | cons char chars =>
      have nonempty := ofList_ne_empty (List.cons_ne_nil char chars)
      exact ⟨_, .singleton ⟨nonempty, complete, apart⟩, rfl⟩

/-- A buffer behind a percent sign is completed to a modifier, and a word can follow. -/
theorem exists_runs_modifier (buffer : List Char) :
    ∃ last,
      Runs (some .percent) (bufferToken .modifier buffer) last ∧
        last.any Token.awaitsWord = true := by
  cases buffer with
  | nil => exact ⟨some .percent, .nil, rfl⟩
  | cons char chars =>
      have nonempty := ofList_ne_empty (List.cons_ne_nil char chars)
      exact ⟨_, .singleton ⟨nonempty, rfl⟩, rfl⟩

namespace LexState

/-- What the last completed token can be where the lexer stands. -/
def Ready (before : Option Token) : LexState → List Char → Prop
  | .literal, _ =>
      before.any Token.awaitsWord = false ∧ before.any Token.isLiteral = false
  | .escaped _, _ =>
      before.any Token.awaitsWord = false ∧ before.any Token.isLiteral = false
  | .modifier, _ => before = some .percent
  | .word, buffer => buffer ≠ [] ∧ before.any Token.awaitsWord = true
  | .closed, _ => before.any Token.awaitsWord = false
  | .opened, _ => before.any Token.takesOptions = true
  | .options _ _, _ => before.any Token.takesOptions = true

/-- A step continues the order of the tokens, and the lexer stands where it may. -/
def Continues (before : Option Token) (next : LexStep) : Prop :=
  ∃ last, Runs before next.tokens last ∧ next.state.Ready last next.buffer

theorem continues_silent
    {before : Option Token}
    {state : LexState}
    {buffer : List Char}
    (ready : state.Ready before buffer) :
    Continues before ⟨state, buffer, []⟩ :=
  ⟨before, .nil, ready⟩

theorem continues_one
    {before : Option Token}
    {state : LexState}
    {buffer : List Char}
    {token : Token}
    (follows : Follows before token)
    (ready : state.Ready (some token) buffer) :
    Continues before ⟨state, buffer, [token]⟩ :=
  ⟨some token, .singleton follows, ready⟩

theorem continues_optionStep
    {before : Option Token}
    (takes : before.any Token.takesOptions = true)
    (values : List String)
    (place : OptionPlace)
    (buffer : List Char)
    (char : Char) :
    Continues before (optionStep values place buffer char) := by
  cases place with
  | expecting =>
      rw [optionStep]
      split_ifs
      · exact continues_silent takes
      · exact continues_silent takes
      · exact continues_one takes ⟨rfl, rfl⟩
      · exact continues_silent takes
  | raw =>
      rw [optionStep]
      split_ifs
      · exact continues_silent takes
      · exact continues_one takes ⟨rfl, rfl⟩
      · exact continues_silent takes
  | quoted quoteMark =>
      rw [optionStep]
      split_ifs
      all_goals exact continues_silent takes
  | escaped quoteMark => exact continues_silent takes

theorem continues_literal
    {mode : EscapeMode}
    {before : Option Token}
    {buffer : List Char}
    {char : Char}
    {next : LexStep}
    (ready : LexState.literal.Ready before buffer)
    (stepped : LexState.literal.step mode buffer 1 char = .ok next) :
    Continues before next := by
  rcases exists_runs_literal ready.1 ready.2 buffer with
    ⟨last, runs, complete⟩
  rw [step] at stepped
  split_ifs at stepped
  · cases stepped
    exact continues_silent ready
  · cases stepped
    exact ⟨_, runs.append (.singleton complete), rfl⟩
  · cases stepped
    exact ⟨last, runs, complete⟩
  · cases stepped
    exact continues_silent ready

theorem continues_modifier
    {mode : EscapeMode}
    {buffer : List Char}
    {char : Char}
    {next : LexStep}
    (stepped : LexState.modifier.step mode buffer 1 char = .ok next) :
    Continues (some .percent) next := by
  rcases exists_runs_modifier buffer with ⟨last, runs, awaits⟩
  rw [step] at stepped
  split_ifs at stepped
  · cases stepped
    have follows : Follows last .bare := ⟨by decide, awaits⟩
    exact ⟨_, runs.append (.singleton follows), rfl, rfl⟩
  · cases stepped
    exact ⟨last, runs, List.cons_ne_nil _ _, awaits⟩
  · cases stepped
    have ready : LexState.modifier.Ready (some .percent) (buffer ++ [char]) :=
      rfl
    exact continues_silent ready

theorem continues_word
    {mode : EscapeMode}
    {before : Option Token}
    {buffer : List Char}
    {char : Char}
    {next : LexStep}
    (ready : LexState.word.Ready before buffer)
    (stepped : LexState.word.step mode buffer 1 char = .ok next) :
    Continues before next := by
  have nonempty := ofList_ne_empty ready.1
  have simple : Follows before (.simple (String.ofList buffer)) :=
    ⟨nonempty, ready.2⟩
  have composite : Follows before (.composite (String.ofList buffer)) :=
    ⟨nonempty, ready.2⟩
  rw [step] at stepped
  split_ifs at stepped
  · cases stepped
    have longer : LexState.word.Ready before (buffer ++ [char]) :=
      ⟨by simp, ready.2⟩
    exact continues_silent longer
  · cases stepped
    exact continues_one simple rfl
  · cases stepped
    exact continues_one composite ⟨rfl, rfl⟩
  · cases stepped
    exact ⟨_, .cons simple (.singleton rfl), rfl⟩
  · cases stepped
    exact continues_one simple rfl
  · cases stepped
    exact continues_one simple ⟨rfl, rfl⟩
  · cases stepped
    exact continues_one simple ⟨rfl, rfl⟩

theorem continues_closed
    {mode : EscapeMode}
    {before : Option Token}
    {buffer : List Char}
    {char : Char}
    {next : LexStep}
    (complete : before.any Token.awaitsWord = false)
    (stepped : LexState.closed.step mode buffer 1 char = .ok next) :
    Continues before next := by
  have follows : Follows before .rightParenthesis := complete
  rw [step] at stepped
  split_ifs at stepped
  · cases stepped
    exact continues_one follows rfl
  · cases stepped
    exact continues_one follows rfl
  · cases stepped
    exact continues_one follows ⟨rfl, rfl⟩
  · cases stepped
    exact continues_one follows ⟨rfl, rfl⟩

/-- One character continues the order of the tokens. -/
theorem continues_step
    {mode : EscapeMode}
    {state : LexState}
    {before : Option Token}
    {buffer : List Char}
    {char : Char}
    {next : LexStep}
    (ready : state.Ready before buffer)
    (stepped : state.step mode buffer 1 char = .ok next) :
    Continues before next := by
  cases state with
  | literal => exact continues_literal ready stepped
  | escaped specials =>
      rw [step] at stepped
      cases meant : mode.escape specials char 1 with
      | error error =>
          rw [meant] at stepped
          cases stepped
      | ok meaning =>
          rw [meant] at stepped
          cases stepped
          have inText : LexState.literal.Ready before (buffer ++ meaning) :=
            ready
          exact continues_silent inText
  | modifier =>
      cases ready
      exact continues_modifier stepped
  | word => exact continues_word ready stepped
  | closed => exact continues_closed ready stepped
  | opened =>
      cases stepped
      exact continues_optionStep ready [] .expecting buffer char
  | options values place =>
      cases stepped
      exact continues_optionStep ready values place buffer char

/-- Any number of characters continue the order of the tokens. -/
theorem continues_walk
    {mode : EscapeMode}
    {state : LexState}
    {before : Option Token}
    {buffer chars : List Char}
    {last : LexStep}
    (ready : state.Ready before buffer)
    (walked : state.walk mode buffer chars = some last) :
    Continues before last := by
  induction chars generalizing state before buffer last with
  | nil =>
      cases walked
      exact continues_silent ready
  | cons char rest ih =>
      rw [walk] at walked
      cases stepped : state.step mode buffer 1 char with
      | error error =>
          rw [stepped] at walked
          cases walked
      | ok next =>
          rw [stepped] at walked
          rcases Option.map_eq_some_iff.mp walked with ⟨final, walkedRest, rfl⟩
          rcases continues_step ready stepped with ⟨middle, runs, readyNext⟩
          rcases ih readyNext walkedRest with ⟨token, more, readyLast⟩
          exact ⟨token, runs.append more, readyLast⟩

/-- The end of a pattern completes the order: no word is still to come. -/
theorem exists_runs_finish
    {state : LexState}
    {before : Option Token}
    {buffer : List Char}
    {ending : List Token}
    (ready : state.Ready before buffer)
    (finished : state.finish buffer = .ok ending) :
    ∃ last, Runs before ending last ∧ last.any Token.awaitsWord = false := by
  cases state with
  | literal =>
      cases finished
      exact exists_runs_literal ready.1 ready.2 buffer
  | escaped specials =>
      cases finished
      exact exists_runs_literal ready.1 ready.2 buffer
  | modifier => cases finished
  | word =>
      cases finished
      have follows : Follows before (.simple (String.ofList buffer)) :=
        ⟨ofList_ne_empty ready.1, ready.2⟩
      exact ⟨_, .singleton follows, rfl⟩
  | closed =>
      cases finished
      have follows : Follows before .rightParenthesis := ready
      exact ⟨_, .singleton follows, rfl⟩
  | opened => cases finished
  | options values place => cases finished

end LexState

/-- The tokens of a pattern are in order, and no word is still to come. -/
theorem exists_runs_of_tokenize
    {mode : EscapeMode}
    {pattern : String}
    {tokens : List Token}
    (tokenized : tokenize mode pattern = .ok tokens) :
    ∃ last, Runs none tokens last ∧ last.any Token.awaitsWord = false := by
  rcases tokenize_eq_ok_iff.mp tokenized with
    ⟨_, last, ending, walked, finished, rfl⟩
  have begins : LexState.literal.Ready none [] := ⟨rfl, rfl⟩
  rcases LexState.continues_walk begins walked with ⟨middle, runs, ready⟩
  rcases LexState.exists_runs_finish ready finished with ⟨token, more, complete⟩
  exact ⟨token, runs.append more, complete⟩

/-! ## What the order comes to -/

/-- What can be said of all tokens of a pattern. -/
structure Orderly (tokens : List Token) : Prop where
  nonempty : ∀ token ∈ tokens, token.text? ≠ some ""
  literals_apart :
    ∀ front first second back,
      tokens ≠ front ++ .literal first :: .literal second :: back
  /-- A percent sign has one modifier at most behind it, and then a word. -/
  percent :
    ∀ front back,
      tokens = front ++ .percent :: back →
        ∃ modifier word rest,
          back = modifier ++ word :: rest ∧
            (modifier = [] ∨ ∃ text, modifier = [.modifier text]) ∧
            word.isWord = true
  modifier :
    ∀ front text back,
      tokens = front ++ .modifier text :: back →
        ∃ before, front = before ++ [.percent]
  word :
    ∀ front word back,
      word.isWord = true →
        tokens = front ++ word :: back →
          ∃ before,
            front = before ++ [.percent] ∨
              ∃ text, front = before ++ [.percent, .modifier text]
  options :
    ∀ front values back,
      tokens = front ++ .options values :: back →
        ∃ before,
          (∃ word, front = before ++ [.simple word]) ∨
            front = before ++ [.rightParenthesis]

namespace Token

theorem eq_percent_or_modifier_of_awaitsWord
    {token : Token}
    (awaits : token.awaitsWord = true) :
    token = .percent ∨ ∃ text, token = .modifier text := by
  cases token with
  | percent => exact Or.inl rfl
  | modifier text => exact Or.inr ⟨text, rfl⟩
  | literal | simple | composite | options | rightParenthesis => cases awaits

theorem eq_simple_or_rightParenthesis_of_takesOptions
    {token : Token}
    (takes : token.takesOptions = true) :
    (∃ word, token = .simple word) ∨ token = .rightParenthesis := by
  cases token with
  | simple word => exact Or.inl ⟨word, rfl⟩
  | rightParenthesis => exact Or.inr rfl
  | literal | percent | modifier | composite | options => cases takes

end Token

namespace Follows

variable {before : Option Token} {token : Token}

theorem text?_ne
    (follows : Follows before token) :
    token.text? ≠ some "" := by
  intro empty
  cases token with
  | literal | modifier | simple | composite =>
      exact follows.1 (Option.some.inj empty)
  | percent | options | rightParenthesis => cases empty

theorem awaitsWord_of_isWord
    (follows : Follows before token)
    (isWord : token.isWord = true) :
    before.any Token.awaitsWord = true := by
  cases token with
  | simple | composite => exact follows.2
  | literal | percent | modifier | options | rightParenthesis => cases isWord

/-- Behind a percent sign or a modifier there is a word, or the modifier. -/
theorem isWord_or_modifier
    {opener : Token}
    (follows : Follows (some opener) token)
    (awaits : opener.awaitsWord = true) :
    token.isWord = true ∨
      opener = .percent ∧ ∃ text, token = .modifier text := by
  have busy : (some opener).any Token.awaitsWord = true := awaits
  cases token with
  | simple | composite => exact Or.inl rfl
  | modifier text => exact Or.inr ⟨Option.some.inj follows.2, text, rfl⟩
  | literal text => exact absurd busy (Bool.eq_false_iff.mp follows.2.1)
  | percent => exact absurd busy (Bool.eq_false_iff.mp follows)
  | rightParenthesis => exact absurd busy (Bool.eq_false_iff.mp follows)
  | options values =>
      have takes : opener.takesOptions = true := follows
      rcases Token.eq_percent_or_modifier_of_awaitsWord awaits with
        rfl | ⟨text, rfl⟩
      · cases takes
      · cases takes

end Follows

namespace Runs

variable {before last : Option Token} {tokens : List Token}

theorem text?_ne
    (runs : Runs before tokens last) :
    ∀ token ∈ tokens, token.text? ≠ some "" := by
  induction runs with
  | nil =>
      intro token inside
      cases inside
  | cons follows _ ih =>
      intro token inside
      rcases List.mem_cons.mp inside with rfl | later
      · exact follows.text?_ne
      · exact ih token later

/-- What stands behind a token, and what stood in front of it. -/
theorem exists_of_split
    {front back : List Token}
    {token : Token}
    (runs : Runs before tokens last)
    (split : tokens = front ++ token :: back) :
    ∃ middle,
      Runs before front middle ∧
        Follows middle token ∧ Runs (some token) back last := by
  subst split
  rcases runs.exists_of_append with ⟨middle, runsFront, runsBack⟩
  cases runsBack with
  | cons follows more => exact ⟨middle, runsFront, follows, more⟩

/-- Where a word is still to come, it comes, behind a modifier or at once. -/
theorem exists_next
    {opener : Token}
    (runs : Runs (some opener) tokens last)
    (awaits : opener.awaitsWord = true)
    (complete : last.any Token.awaitsWord = false) :
    ∃ token rest,
      tokens = token :: rest ∧
        Runs (some token) rest last ∧
        (token.isWord = true ∨
          opener = .percent ∧ ∃ text, token = .modifier text) := by
  cases runs with
  | nil =>
      have busy : (some opener).any Token.awaitsWord = true := awaits
      exact absurd busy (Bool.eq_false_iff.mp complete)
  | cons follows more =>
      exact ⟨_, _, rfl, more, follows.isWord_or_modifier awaits⟩

theorem exists_word_of_percent
    (runs : Runs (some .percent) tokens last)
    (complete : last.any Token.awaitsWord = false) :
    ∃ modifier word rest,
      tokens = modifier ++ word :: rest ∧
        (modifier = [] ∨ ∃ text, modifier = [.modifier text]) ∧
        word.isWord = true ∧ Runs (some word) rest last := by
  rcases runs.exists_next rfl complete with
    ⟨token, rest, rfl, more, isWord | ⟨_, text, rfl⟩⟩
  · exact ⟨[], token, rest, rfl, Or.inl rfl, isWord, more⟩
  · rcases more.exists_next rfl complete with
      ⟨word, behind, rfl, later, isWord | ⟨impossible, _⟩⟩
    · exact
        ⟨[.modifier text], word, behind, rfl, Or.inr ⟨text, rfl⟩, isWord, later⟩
    · cases impossible

theorem orderly
    (runs : Runs none tokens last)
    (complete : last.any Token.awaitsWord = false) :
    Orderly tokens where
  nonempty := runs.text?_ne
  literals_apart front first second back := by
    intro split
    rcases runs.exists_of_split split with ⟨_, _, _, more⟩
    cases more with
    | cons follows _ => cases follows.2.2
  percent front back := by
    intro split
    rcases runs.exists_of_split split with ⟨_, _, _, more⟩
    rcases more.exists_word_of_percent complete with
      ⟨modifier, word, rest, equal, optional, isWord, _⟩
    exact ⟨modifier, word, rest, equal, optional, isWord⟩
  modifier front text back := by
    intro split
    rcases runs.exists_of_split split with ⟨middle, runsFront, follows, _⟩
    cases follows.2
    exact runsFront.exists_concat
  word front word back := by
    intro isWord split
    rcases runs.exists_of_split split with ⟨middle, runsFront, follows, _⟩
    rcases
        (Option.any_eq_true _ _).mp (follows.awaitsWord_of_isWord isWord) with
      ⟨opener, rfl, awaits⟩
    rcases runsFront.exists_concat with ⟨early, rfl⟩
    rcases Token.eq_percent_or_modifier_of_awaitsWord awaits with
      rfl | ⟨text, rfl⟩
    · exact ⟨early, Or.inl rfl⟩
    · rcases runsFront.exists_of_split rfl with
        ⟨first, runsEarly, followsFirst, _⟩
      cases followsFirst.2
      rcases runsEarly.exists_concat with ⟨before, rfl⟩
      exact ⟨before, Or.inr ⟨text, by simp⟩⟩
  options front values back := by
    intro split
    rcases runs.exists_of_split split with ⟨middle, runsFront, follows, _⟩
    rcases (Option.any_eq_true _ _).mp follows with ⟨closing, rfl, takes⟩
    rcases runsFront.exists_concat with ⟨before, rfl⟩
    rcases Token.eq_simple_or_rightParenthesis_of_takesOptions takes with
      ⟨word, rfl⟩ | rfl
    · exact ⟨before, Or.inl ⟨word, rfl⟩⟩
    · exact ⟨before, Or.inr rfl⟩

end Runs

end LogPipeline.Pattern
