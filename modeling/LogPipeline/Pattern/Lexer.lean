import LogPipeline.Pattern.Escape
import LogPipeline.Pattern.Token
import LogPipeline.Text.Trim

/-!
# From a pattern to its tokens

The lexer reads one character at a time.  Between two characters it is in a `LexState` and holds
the characters of the token in progress; `LexState.step` says what one more character does, and
`finish` what the end of the pattern does.  Since a step looks at nothing but the state, lexing a
concatenation is lexing the first part and then, from the state reached, the second.
-/

namespace LogPipeline.Pattern

/-- Characters that can begin a conversion word. -/
def isWordStart (char : Char) : Bool :=
  Text.isAlphabetic char || char = '_' || char = '$'

/-- Characters that can continue a conversion word. -/
def isWordPart (char : Char) : Bool :=
  Text.isAlphanumeric char || char = '_' || char = '$'

/-- The characters that are special in literal text and after a word. -/
def textSpecials : List Char := ['%', '(', ')']

/-- The characters that are special right after a closing parenthesis. -/
def closingSpecials : List Char := ['%', '{', '}']

/-- Where the lexer stands inside an option list. -/
inductive OptionPlace where
  /-- Before a value. -/
  | expecting
  /-- Inside a value written without quotes. -/
  | raw
  /-- Inside a value written in the given quotes. -/
  | quoted (quoteMark : Char)
  /-- After a backslash inside such quotes. -/
  | escaped (quoteMark : Char)
deriving DecidableEq, Repr

/-- Where the lexer stands in a pattern. -/
inductive LexState where
  /-- In literal text. -/
  | literal
  /-- After a backslash, with the characters that may follow it. -/
  | escaped (specials : List Char)
  /-- After `%`, in the modifier if there is one. -/
  | modifier
  /-- In a conversion word. -/
  | word
  /-- After a closing parenthesis, whose token is still to be emitted. -/
  | closed
  /-- Right after the brace that opens an option list. -/
  | opened
  /-- In an option list, after the values read so far. -/
  | options (values : List String) (place : OptionPlace)
deriving DecidableEq, Repr

/-- The effect of one character: the next state and buffer, and the tokens completed. -/
structure LexStep where
  state : LexState
  buffer : List Char
  tokens : List Token
deriving DecidableEq, Repr

/-- The token of a buffer, or none when the buffer is empty. -/
def bufferToken (kind : String → Token) (buffer : List Char) : List Token :=
  if buffer.isEmpty then [] else [kind (String.ofList buffer)]

/-- One character of an option list. -/
def optionStep (values : List String) (place : OptionPlace) (buffer : List Char) (char : Char) :
    LexStep :=
  match place with
  | .expecting =>
      if char = ' ' ∨ char = '\t' ∨ char = '\r' ∨ char = '\n' ∨ char = ',' then
        ⟨.options values .expecting, buffer, []⟩
      else if char = '"' ∨ char = '\'' then
        ⟨.options values (.quoted char), buffer, []⟩
      else if char = '}' then
        ⟨.literal, buffer, [.options values]⟩
      else
        ⟨.options values .raw, buffer ++ [char], []⟩
  | .raw =>
      let value := String.ofList (Text.trim buffer)
      if char = ',' then
        ⟨.options (values ++ [value]) .expecting, [], []⟩
      else if char = '}' then
        ⟨.literal, [], [.options (values ++ [value])]⟩
      else
        ⟨.options values .raw, buffer ++ [char], []⟩
  | .quoted quoteMark =>
      if char = quoteMark then
        ⟨.options (values ++ [String.ofList buffer]) .expecting, [], []⟩
      else if char = '\\' then
        ⟨.options values (.escaped quoteMark), buffer, []⟩
      else
        ⟨.options values (.quoted quoteMark), buffer ++ [char], []⟩
  | .escaped quoteMark =>
      ⟨.options values (.quoted quoteMark), buffer ++ EscapeMode.verbatim [quoteMark] char, []⟩

namespace LexState

/-- One character of a pattern; `column` is its place, counted from one. -/
def step (mode : EscapeMode) (state : LexState) (buffer : List Char) (column : Nat) (char : Char) :
    Except PatternError LexStep :=
  match state with
  | .literal =>
      if char = '\\' then
        .ok ⟨.escaped textSpecials, buffer, []⟩
      else if char = '%' then
        .ok ⟨.modifier, [], bufferToken .literal buffer ++ [.percent]⟩
      else if char = ')' then
        .ok ⟨.closed, [], bufferToken .literal buffer⟩
      else
        .ok ⟨.literal, buffer ++ [char], []⟩
  | .escaped specials =>
      match mode.escape specials char column with
      | .ok meaning => .ok ⟨.literal, buffer ++ meaning, []⟩
      | .error error => .error error
  | .modifier =>
      if char = '(' then
        .ok ⟨.literal, [], bufferToken .modifier buffer ++ [.bare]⟩
      else if isWordStart char then
        .ok ⟨.word, [char], bufferToken .modifier buffer⟩
      else
        .ok ⟨.modifier, buffer ++ [char], []⟩
  | .word =>
      if isWordPart char then
        .ok ⟨.word, buffer ++ [char], []⟩
      else if char = '{' then
        .ok ⟨.opened, [], [.simple (String.ofList buffer)]⟩
      else if char = '(' then
        .ok ⟨.literal, [], [.composite (String.ofList buffer)]⟩
      else if char = '%' then
        .ok ⟨.modifier, [], [.simple (String.ofList buffer), .percent]⟩
      else if char = ')' then
        .ok ⟨.closed, [], [.simple (String.ofList buffer)]⟩
      else if char = '\\' then
        .ok ⟨.escaped textSpecials, [], [.simple (String.ofList buffer)]⟩
      else
        .ok ⟨.literal, [char], [.simple (String.ofList buffer)]⟩
  | .closed =>
      if char = ')' then
        .ok ⟨.closed, [], [.rightParenthesis]⟩
      else if char = '{' then
        .ok ⟨.opened, [], [.rightParenthesis]⟩
      else if char = '\\' then
        .ok ⟨.escaped closingSpecials, [], [.rightParenthesis]⟩
      else
        .ok ⟨.literal, [char], [.rightParenthesis]⟩
  | .opened => .ok (optionStep [] .expecting buffer char)
  | .options values place => .ok (optionStep values place buffer char)

/-- The tokens that the end of the pattern completes. -/
def finish (state : LexState) (buffer : List Char) : Except PatternError (List Token) :=
  match state with
  | .literal => .ok (bufferToken .literal buffer)
  | .escaped _ => .ok (bufferToken .literal buffer)
  | .modifier => .error .unexpectedEnd
  | .word => .ok [.simple (String.ofList buffer)]
  | .closed => .ok [.rightParenthesis]
  | .opened => .error .unexpectedEnd
  | .options _ _ => .error .unclosedOptions

end LexState

/-- The tokens of the characters that follow `column` others, read from a given state. -/
def lexFrom (mode : EscapeMode) (state : LexState) (buffer : List Char) (column : Nat) :
    List Char → Except PatternError (List Token)
  | [] => state.finish buffer
  | char :: rest =>
      match state.step mode buffer (column + 1) char with
      | .error error => .error error
      | .ok next =>
          match lexFrom mode next.state next.buffer (column + 1) rest with
          | .error error => .error error
          | .ok tokens => .ok (next.tokens ++ tokens)

/-- The tokens of a pattern. -/
def tokenize (mode : EscapeMode) (pattern : String) : Except PatternError (List Token) :=
  if pattern.isEmpty then
    .error .emptyPattern
  else
    lexFrom mode .literal [] 0 pattern.toList

end LogPipeline.Pattern
