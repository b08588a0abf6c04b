import LogPipeline.Regex.Automaton
import LogPipeline.Regex.Size
import LogPipeline.Text.Numeral
import LogPipeline.Text.Trim

/-!
# Reading regular expressions

A regular expression is read from left to right.  Open groups, and inside brackets open classes and
unfinished set operations, are kept on a stack.  Options set inside a group hold up to its end.
Every function that takes something from the front of a text returns what is left of it, and the
text is unreadable where one of them finds nothing it can take, or where groups, classes and
repetitions are nested too deeply.
-/

namespace LogPipeline.Regex

open Text (CharSet)

/-- The options of an expression. -/
structure Flags where
  ignoreCase : Bool
  multiLine : Bool
  dotMatchesAll : Bool
  swapGreed : Bool
  carriageReturn : Bool
  unicode : Bool
  /-- White space and comments are skipped. -/
  spaced : Bool
deriving DecidableEq, Repr

namespace Flags

/-- The options at the beginning of an expression. -/
def initial : Flags := ⟨false, false, false, false, false, true, false⟩

/-- Turns the option of a letter on or off. -/
def set? (flags : Flags) (letter : Char) (value : Bool) : Option Flags :=
  if letter = 'i' then some { flags with ignoreCase := value }
  else if letter = 'm' then some { flags with multiLine := value }
  else if letter = 's' then some { flags with dotMatchesAll := value }
  else if letter = 'U' then some { flags with swapGreed := value }
  else if letter = 'R' then some { flags with carriageReturn := value }
  else if letter = 'u' then some { flags with unicode := value }
  else if letter = 'x' then some { flags with spaced := value }
  else none

/-- The characters behind white space and comments. -/
def skipSpace (inComment : Bool) : List Char → List Char
  | [] => []
  | char :: rest =>
      if inComment then skipSpace (char != '\n') rest
      else if Text.isBlank char then skipSpace false rest
      else if char = '#' then skipSpace true rest
      else char :: rest

/-- The characters behind what the options allow to be skipped. -/
def skip (flags : Flags) (chars : List Char) : List Char :=
  if flags.spaced then skipSpace false chars else chars

/-- A set with all cases of its members, if case is ignored. -/
def fold (flags : Flags) (set : CharSet) : CharSet :=
  if flags.ignoreCase then
    if flags.unicode then set.foldCase else foldAscii set
  else
    set

/-- The characters of words. -/
def letters (flags : Flags) : WordLetters :=
  if flags.unicode then .unicode else .ascii

/-- A set or its complement; without Unicode a complement is refused. -/
def negate? (flags : Flags) (negated : Bool) (set : CharSet) : Option CharSet :=
  if negated then
    if flags.unicode then some set.complement else none
  else
    some set

/-- Whether a character can stand for a byte or a member of a class, without Unicode in ASCII. -/
def allows (flags : Flags) (char : Char) : Bool :=
  flags.unicode || char.toNat < 0x80

end Flags

/-- What a backslash can stand for. -/
inductive Escaped where
  | char (char : Char)
  /-- A character given by two hexadecimal digits, which without Unicode is a byte. -/
  | byte (char : Char)
  | set (set : CharSet)
  | boundary (condition : Boundary)

namespace Reader

/-- The value of hexadecimal digits; there must be some. -/
def hexDigits? (digits : List Char) : Option Nat :=
  let value? (char : Char) : Option Nat :=
    if char.isDigit then some (char.toNat - 0x30)
    else if 'a' ≤ char ∧ char ≤ 'f' then some (char.toNat - 0x57)
    else if 'A' ≤ char ∧ char ≤ 'F' then some (char.toNat - 0x37)
    else none
  if digits.isEmpty then none
  else (digits.mapM value?).map fun values => values.foldl (fun total value => 16 * total + value) 0

/-- The character with a code, if there is one. -/
def charOfCode? (code : Nat) : Option Char :=
  if code.isValidChar then some (Char.ofNat code) else none

/-- Takes so many characters, skipping what the options allow behind each. -/
def takeSpaced (flags : Flags) : Nat → List Char → List Char × List Char
  | 0, chars => ([], chars)
  | _, [] => ([], [])
  | count + 1, char :: rest =>
      let (taken, left) := takeSpaced flags count (flags.skip rest)
      (char :: taken, left)

/-- The characters up to a closing brace, less those the options skip, and what follows it. -/
def takeBraced? (flags : Flags) (bound : Nat) (chars : List Char) :
    Option (List Char × List Char) :=
  match bound, flags.skip chars with
  | 0, _ => none
  | _, [] => none
  | bound + 1, char :: rest =>
      if char = '\x7d' then some ([], rest)
      else (takeBraced? flags bound rest).map fun parts => (char :: parts.1, parts.2)

/-- The character given by its code, behind the letter that says how many digits it has. -/
def takeCode? (flags : Flags) (width : Nat) (chars : List Char) :
    Option (Char × List Char) :=
  match flags.skip chars with
  | [] => none
  | first :: rest =>
      let (digits, left) :=
        if first = '\x7b' then
          (takeBraced? flags (rest.length + 1) rest).getD ([], [])
        else
          takeSpaced flags width (first :: rest)
      if first ≠ '\x7b' ∧ digits.length ≠ width then none
      else
        match (hexDigits? digits).bind charOfCode? with
        | some char => some (char, flags.skip left)
        | none => none

/-- The parts of a text around the first occurrence of a separator. -/
def splitAt? (separator : List Char) : List Char → Option (List Char × List Char)
  | [] => none
  | char :: rest =>
      if separator.isPrefixOf (char :: rest) then
        some ([], (char :: rest).drop separator.length)
      else
        (splitAt? separator rest).map fun parts => (char :: parts.1, parts.2)

/--
The set of a property in braces.  An unequal sign negates like the letter that announces the
property, and both together do not.
-/
def propertySet? (flags : Flags) (negated : Bool) (name : List Char) : Option CharSet :=
  if !flags.unicode then
    none
  else
    let (found, negated) :=
      match splitAt? ['!', '='] name with
      | some (property, value) => (Property.ofValue? property value, !negated)
      | none =>
          match splitAt? [':'] name, splitAt? ['='] name with
          | some (property, value), _ => (Property.ofValue? property value, negated)
          | none, some (property, value) => (Property.ofValue? property value, negated)
          | none, none => (Property.ofName? name, negated)
    found.bind fun set => flags.negate? negated (flags.fold set)

/-- The set of a property, behind the letter that announces it. -/
def takeProperty? (flags : Flags) (negated : Bool) (chars : List Char) :
    Option (CharSet × List Char) :=
  match flags.skip chars with
  | [] => none
  | first :: rest =>
      if first = '\x7b' then
        match takeBraced? flags (rest.length + 1) rest with
        | none => none
        | some (name, rest) => (propertySet? flags negated name).map fun set => (set, rest)
      else if first = '\\' then
        none
      else
        (propertySet? flags negated [first]).map fun set => (set, flags.skip rest)

/-- The kinds of word boundaries that are named in braces. -/
def namedBoundary? (flags : Flags) (name : String) : Option Boundary :=
  match name with
  | "start" => some (.wordStart flags.letters)
  | "end" => some (.wordEnd flags.letters)
  | "start-half" => some (.noWordBefore flags.letters)
  | "end-half" => some (.noWordAfter flags.letters)
  | _ => none

/-- Whether a character can be part of the name of a word boundary. -/
def isBoundaryChar (char : Char) : Bool :=
  char.isAlpha || char == '-'

/-- A word boundary, behind its letter; braces that hold no name belong to a repetition. -/
def takeWordEdge? (flags : Flags) (chars : List Char) : Option (Boundary × List Char) :=
  match chars with
  | [] => some (.wordEdge flags.letters, [])
  | first :: rest =>
      if first ≠ '\x7b' then some (.wordEdge flags.letters, first :: rest)
      else
        match flags.skip rest with
        | [] => none
        | second :: later =>
            if !isBoundaryChar second then some (.wordEdge flags.letters, first :: rest)
            else
              match takeBraced? flags (later.length + 2) (second :: later) with
              | none => none
              | some (name, rest) =>
                  (namedBoundary? flags (String.ofList name)).map fun condition => (condition, rest)

/-- The set of a class letter such as `d`. -/
def classLetter? (flags : Flags) (letter : Char) : Option CharSet :=
  if letter = 'd' then some (if flags.unicode then decimalDigits else .range 0x30 0x39)
  else if letter = 's' then some (if flags.unicode then Property.whiteSpace else asciiBlank)
  else if letter = 'w' then some flags.letters.set
  else none

/-- The control character of an escape letter. -/
def controlLetter? (letter : Char) : Option Char :=
  if letter = 'a' then some '\x07'
  else if letter = 'f' then some '\x0c'
  else if letter = 't' then some '\t'
  else if letter = 'n' then some '\n'
  else if letter = 'r' then some '\r'
  else if letter = 'v' then some '\x0b'
  else none

/-- The condition of an escape letter. -/
def boundaryLetter? (flags : Flags) (letter : Char) : Option Boundary :=
  if letter = 'A' then some .textStart
  else if letter = 'z' then some .textEnd
  else if letter = 'B' then some (.notWordEdge flags.letters)
  else if letter = '<' then some (.wordStart flags.letters)
  else if letter = '>' then some (.wordEnd flags.letters)
  else none

/-- Whether a backslash makes a character stand for itself: all of ASCII but letters and digits. -/
def isEscapable (char : Char) : Bool :=
  char.toNat < 0x80 && !char.isAlphanum && char != '<' && char != '>'

/-- What a backslash stands for, with the characters behind it given. -/
def takeEscape? (flags : Flags) : List Char → Option (Escaped × List Char)
  | [] => none
  | letter :: rest =>
      if letter = 'x' then
        let isByte := (flags.skip rest).head? != some '\x7b'
        (takeCode? flags 2 rest).map fun found =>
          (if isByte then .byte found.1 else .char found.1, found.2)
      else if letter = 'u' then (takeCode? flags 4 rest).map fun found => (.char found.1, found.2)
      else if letter = 'U' then (takeCode? flags 8 rest).map fun found => (.char found.1, found.2)
      else if letter = 'p' ∨ letter = 'P' then
        (takeProperty? flags (letter == 'P') rest).map fun found => (.set found.1, found.2)
      else if letter = 'b' then
        (takeWordEdge? flags rest).map fun found => (.boundary found.1, found.2)
      else if isEscapable letter then some (.char letter, rest)
      else
        match controlLetter? letter, boundaryLetter? flags letter,
            classLetter? flags letter.toLower with
        | some char, _, _ => some (.char char, rest)
        | none, some condition, _ => some (.boundary condition, rest)
        | none, none, some set =>
            (flags.negate? letter.isUpper set).map fun set => (.set set, rest)
        | none, none, none => none

/-! ## Bracketed classes -/

/-- The operations between sets inside brackets. -/
inductive SetOperation where
  | intersection
  | difference
  | symmetricDifference

/-- The set that an operation makes of two. -/
def SetOperation.combine (operation : SetOperation) (first second : CharSet) : CharSet :=
  match operation with
  | .intersection => first.intersection second
  | .difference => first.difference second
  | .symmetricDifference => first.symmetricDifference second

/-- The depth of several things side by side, each with its own depth; one alone adds none. -/
def depthOf : List Nat → Nat
  | [] => 0
  | [depth] => depth
  | depths => depths.foldl max 0 + 1

/-- A class that is still open.  Every set in it comes with its depth. -/
structure OpenClass where
  negated : Bool
  /-- The set before an operation, and the operation. -/
  pending : Option ((CharSet × Nat) × SetOperation)
  items : List (CharSet × Nat)

/-- The set of an open class so far. -/
def OpenClass.finish (flags : Flags) (open_ : OpenClass) : CharSet × Nat :=
  let items := CharSet.unions (open_.items.map (·.1))
  let depth := depthOf (open_.items.map (·.2))
  match open_.pending with
  | none => (items, depth)
  | some (before, operation) =>
      (operation.combine (flags.fold before.1) (flags.fold items), max before.2 depth + 1)

/-- One more set in an open class. -/
def OpenClass.push (open_ : OpenClass) (set : CharSet) (depth : Nat) : OpenClass :=
  { open_ with items := (set, depth) :: open_.items }

/-- Takes the beginning of a class behind its bracket. -/
def takeClassStart? (flags : Flags) (chars : List Char) : Option (OpenClass × List Char) :=
  let chars := flags.skip chars
  let (negated, chars) :=
    match chars with
    | '^' :: rest => (true, flags.skip rest)
    | chars => (false, chars)
  let dashes := takeDashes chars.length chars
  let items := List.replicate dashes.1 (CharSet.single '-', 0)
  match items, dashes.2 with
  | _, [] => none
  | [], ']' :: rest => some (⟨negated, none, [(.single ']', 0)]⟩, rest)
  | items, rest => some (⟨negated, none, items⟩, rest)
where
  /-- The number of dashes at the front, and what follows them. -/
  takeDashes : Nat → List Char → Nat × List Char
    | bound + 1, '-' :: rest =>
        let (count, left) := takeDashes bound (flags.skip rest)
        (count + 1, left)
    | _, chars => (0, chars)

/-- A named class such as `[:alpha:]`, behind its bracket. -/
def takeNamedClass? (flags : Flags) (chars : List Char) : Option (Option CharSet × List Char) :=
  match chars with
  | ':' :: rest =>
      let (negated, rest) :=
        match rest with
        | '^' :: rest => (true, rest)
        | rest => (false, rest)
      match rest.span (· != ':') with
      | (name, ':' :: ']' :: rest) =>
          (ofAsciiName? (String.ofList name)).map fun set =>
            (flags.negate? negated (flags.fold set), rest)
      | _ => none
  | _ => none

/-- One item of a class: a character or the set of an escape. -/
def takeClassItem? (flags : Flags) : List Char → Option (Escaped × List Char)
  | [] => none
  | '\\' :: rest =>
      match takeEscape? flags rest with
      | some (.boundary _, _) => none
      | found => found
  | char :: rest => some (.char char, rest)

/-- The set of an item. -/
def itemSet? (flags : Flags) : Escaped → Option CharSet
  | .char char => if flags.allows char then some (.single char) else none
  | .byte char => if flags.allows char then some (.single char) else none
  | .set set => some set
  | .boundary _ => none

/-- The character of an item that is one. -/
def itemChar? : Escaped → Option Char
  | .char char => some char
  | .byte char => some char
  | _ => none

/-- A range of characters, or a single item. -/
def takeClassRange? (flags : Flags) (chars : List Char) : Option (CharSet × List Char) :=
  match takeClassItem? flags chars with
  | none => none
  | some (first, rest) =>
      match flags.skip rest with
      | [] => none
      | '-' :: later =>
          match flags.skip later with
          | [] => none
          | ']' :: _ => (itemSet? flags first).map fun set => (set, '-' :: later)
          | '-' :: _ => (itemSet? flags first).map fun set => (set, '-' :: later)
          | last =>
              match takeClassItem? flags last with
              | none => none
              | some (second, rest) =>
                  match itemChar? first, itemChar? second with
                  | some low, some high =>
                      if low ≤ high && flags.allows high then
                        some (.range low.toNat high.toNat, rest)
                      else none
                  | _, _ => none
      | rest => (itemSet? flags first).map fun set => (set, rest)

/-- A class with an operation begun behind what it holds. -/
def OpenClass.operate (flags : Flags) (open_ : OpenClass) (operation : SetOperation) : OpenClass :=
  ⟨open_.negated, some (open_.finish flags, operation), []⟩

/--
Takes a class behind its first bracket; `outer` are the classes around the innermost one, and
`bound` is at least the number of characters.  The set comes with its depth.
-/
def takeClass? (flags : Flags) (bound : Nat) (current : OpenClass) (outer : List OpenClass)
    (chars : List Char) : Option ((CharSet × Nat) × List Char) :=
  match bound, flags.skip chars with
  | 0, _ => none
  | _, [] => none
  | bound + 1, '[' :: rest =>
      match takeNamedClass? flags rest with
      | some (none, _) => none
      | some (some set, rest) => takeClass? flags bound (current.push set 0) outer rest
      | none =>
          match takeClassStart? flags rest with
          | none => none
          | some (inner, rest) => takeClass? flags bound inner (current :: outer) rest
  | bound + 1, ']' :: rest =>
      let (set, depth) := current.finish flags
      match flags.negate? current.negated (flags.fold set), outer with
      | none, _ => none
      | some set, [] => some ((set, depth + 1), rest)
      | some set, parent :: outer =>
          takeClass? flags bound (parent.push set (depth + 1)) outer rest
  | bound + 1, '&' :: '&' :: rest =>
      takeClass? flags bound (current.operate flags .intersection) outer rest
  | bound + 1, '-' :: '-' :: rest =>
      takeClass? flags bound (current.operate flags .difference) outer rest
  | bound + 1, '~' :: '~' :: rest =>
      takeClass? flags bound (current.operate flags .symmetricDifference) outer rest
  | bound + 1, chars =>
      match takeClassRange? flags chars with
      | none => none
      | some (set, rest) => takeClass? flags bound (current.push set 0) outer rest

/-! ## Groups and repetitions -/

/-- A part of a group with its depth; an option setting has no expression. -/
structure Part where
  expression? : Option Expression
  depth : Nat

/-- A group that is still open. -/
structure OpenGroup where
  /-- The number of a group whose text is remembered. -/
  number : Option Nat
  /-- The options outside the group. -/
  flags : Flags
  /-- Finished choices with their depths, the latest first. -/
  choices : List (Expression × Nat)
  /-- The parts of the current choice, the latest first. -/
  parts : List Part

/-- An empty group. -/
def OpenGroup.start (number : Option Nat) (flags : Flags) : OpenGroup :=
  ⟨number, flags, [], []⟩

/-- The current choice of a group. -/
def OpenGroup.current (group : OpenGroup) : Expression × Nat :=
  (Expression.sequenceOf (group.parts.reverse.filterMap (·.expression?)),
    depthOf (group.parts.map (·.depth)))

/-- The expression of a group without the group itself. -/
def OpenGroup.body (group : OpenGroup) : Expression × Nat :=
  let choices := group.current :: group.choices
  (Expression.choiceOf (choices.reverse.map (·.1)), depthOf (choices.map (·.2)))

/-- The expression of a group. -/
def OpenGroup.finish (group : OpenGroup) : Expression × Nat :=
  let (body, depth) := group.body
  match group.number with
  | some number => (.group number body, depth + 1)
  | none => (body, depth + 1)

/-- One more part in the current choice. -/
def OpenGroup.push (group : OpenGroup) (part : Expression) (depth : Nat) : OpenGroup :=
  { group with parts := ⟨some part, depth⟩ :: group.parts }

/-- Where the reader stands: the options, the groups, and the names and number of groups so far. -/
structure State where
  flags : Flags
  current : OpenGroup
  outer : List OpenGroup
  names : List (String × Nat)
  groupCount : Nat

/-- One more part in the innermost group. -/
def State.push (state : State) (part : Expression) (depth : Nat) : State :=
  { state with current := state.current.push part depth }

/-- Takes a decimal number with blanks around it. -/
def takeDecimal? (flags : Flags) (bound : Nat) (chars : List Char) :
    Option (Option Nat × List Char) :=
  let (digits, rest) := takeDigits bound (Text.trimStart chars)
  let rest := Text.trimStart rest
  match digits with
  | [] => some (none, rest)
  | digits =>
      match Text.readUnsigned? 4294967295 digits with
      | some value => some (some value, rest)
      | none => none
where
  /-- The digits at the front, and what follows them. -/
  takeDigits : Nat → List Char → List Char × List Char
    | bound + 1, char :: rest =>
        if char.isDigit then
          let (digits, left) := takeDigits bound (flags.skip rest)
          (char :: digits, left)
        else ([], char :: rest)
    | _, chars => ([], chars)

/-- The numbers of a counted repetition behind its brace; without an upper one it is unlimited. -/
def takeCounts? (flags : Flags) (chars : List Char) :
    Option ((Nat × Option Nat) × List Char) :=
  match takeDecimal? flags chars.length (flags.skip chars) with
  | none => none
  | some (low, ',' :: rest) =>
      match flags.skip rest with
      | '\x7d' :: rest => low.map fun low => ((low, none), rest)
      | rest =>
          match low, takeDecimal? flags rest.length rest with
          | some low, some (some high, '\x7d' :: rest) =>
              if low ≤ high then some ((low, some high), rest) else none
          | _, _ => none
  | some (some count, '\x7d' :: rest) => some ((count, some count), rest)
  | _ => none

/-- Whether a question mark follows, and what is behind it. -/
def takeLazy : List Char → Bool × List Char
  | '?' :: rest => (true, rest)
  | rest => (false, rest)

/-- Repeats the last part of the innermost group. -/
def State.repeat? (state : State) (lazy : Bool) (low : Nat) (high : Option Nat) : Option State :=
  let greedy := lazy == state.flags.swapGreed
  match state.current.parts with
  | ⟨some body, depth⟩ :: parts =>
      let part : Part := ⟨some (.repeated low high greedy body), depth + 1⟩
      some { state with current := { state.current with parts := part :: parts } }
  | _ => none

/-- Takes option letters up to a colon or a parenthesis, which is returned with them. -/
def takeFlags? (flags : Flags) (value : Bool) (seen : List Char) (last : Char) :
    List Char → Option ((Flags × Bool) × List Char)
  | [] => none
  | char :: rest =>
      if char = ':' ∨ char = ')' then
        if last = '-' then none
        else if char = ')' ∧ seen.isEmpty then none
        else some ((flags, char == ':'), rest)
      else if seen.contains char then none
      else if char = '-' then takeFlags? flags false (char :: seen) char rest
      else
        match flags.set? char value with
        | some flags => takeFlags? flags value (char :: seen) char rest
        | none => none

/-- Whether a character can be part of the name of a group. -/
def isNameChar (isFirst : Bool) (char : Char) : Bool :=
  char == '_' ||
    if isFirst then Text.isAlphabetic char
    else char == '.' || char == '[' || char == ']' || Text.isAlphanumeric char

/-- The name of a group, up to the closing bracket. -/
def takeName? (chars : List Char) : Option (String × List Char) :=
  match chars.span (· != '>') with
  | (first :: others, '>' :: rest) =>
      if isNameChar true first && others.all (isNameChar false) then
        some (String.ofList (first :: others), rest)
      else none
  | _ => none

/-- Opens a group. -/
def State.openGroup (state : State) (number : Option Nat) (inner : Flags) : State :=
  { state with
    flags := inner
    current := .start number state.flags
    outer := state.current :: state.outer
    groupCount := if number.isSome then state.groupCount + 1 else state.groupCount }

/-- Opens a group with a name, which no other group may have. -/
def State.openNamed? (state : State) (chars : List Char) : Option (State × List Char) :=
  match takeName? chars with
  | none => none
  | some (name, rest) =>
      if (state.names.lookup name).isSome then none
      else
        let number := state.groupCount + 1
        let opened := state.openGroup (some number) state.flags
        some ({ opened with names := (name, number) :: state.names }, rest)

/-- Takes what stands behind an opening parenthesis. -/
def State.takeGroup? (state : State) (chars : List Char) : Option (State × List Char) :=
  match state.flags.skip chars with
  | '?' :: '=' :: _ => none
  | '?' :: '!' :: _ => none
  | '?' :: '<' :: '=' :: _ => none
  | '?' :: '<' :: '!' :: _ => none
  | '?' :: 'P' :: '<' :: rest => state.openNamed? rest
  | '?' :: '<' :: rest => state.openNamed? rest
  | '?' :: rest =>
      match takeFlags? state.flags true [] ' ' rest with
      | none => none
      | some ((flags, true), rest) => some (state.openGroup none flags, rest)
      | some ((flags, false), rest) =>
          some ({ state with
            flags
            current := { state.current with parts := ⟨none, 0⟩ :: state.current.parts } }, rest)
  | rest => some (state.openGroup (some (state.groupCount + 1)) state.flags, rest)

/-- Closes the innermost group. -/
def State.closeGroup? (state : State) : Option State :=
  match state.outer with
  | [] => none
  | parent :: outer =>
      some { state with
        flags := state.current.flags
        current := parent.push state.current.finish.1 state.current.finish.2
        outer }

/-- Begins another choice in the innermost group. -/
def State.alternate (state : State) : State :=
  { state with
    current :=
      { state.current with
        choices := state.current.current :: state.current.choices
        parts := [] } }

/-- The set of the characters that a dot matches. -/
def dotSet? (flags : Flags) : Option CharSet :=
  if !flags.unicode then none
  else if flags.dotMatchesAll then some .all
  else if flags.carriageReturn then some (CharSet.ofText "a d").complement
  else some (CharSet.ofText "a").complement

/-- The expression of a character that stands for itself. -/
def charExpression (flags : Flags) (char : Char) : Expression :=
  if flags.unicode || char.toNat < 0x80 then .ofSet (flags.fold (.single char)) else .literal [char]

/-- The expression of a single character or escape. -/
def itemExpression? (flags : Flags) : Escaped → Option Expression
  | .char char => some (charExpression flags char)
  | .byte char => if flags.allows char then some (charExpression flags char) else none
  | .set set => some (.ofSet set)
  | .boundary condition => some (.boundary condition)

/-- The condition of `^`. -/
def startCondition (flags : Flags) : Boundary :=
  if flags.multiLine then .lineStart flags.carriageReturn else .textStart

/-- The condition of `$`. -/
def endCondition (flags : Flags) : Boundary :=
  if flags.multiLine then .lineEnd flags.carriageReturn else .textEnd

/-- Takes one element of an expression from a text that is not empty. -/
def State.step? (state : State) : List Char → Option (State × List Char)
  | [] => none
  | '(' :: rest => state.takeGroup? rest
  | ')' :: rest => state.closeGroup?.map fun state => (state, rest)
  | '|' :: rest => some (state.alternate, rest)
  | '[' :: rest =>
      match takeClassStart? state.flags rest with
      | none => none
      | some (opened, rest) =>
          (takeClass? state.flags (rest.length + 1) opened [] rest).map fun found =>
            (state.push (.ofSet found.1.1) found.1.2, found.2)
  | '?' :: rest =>
      let (lazy, rest) := takeLazy rest
      (state.repeat? lazy 0 (some 1)).map fun state => (state, rest)
  | '*' :: rest =>
      let (lazy, rest) := takeLazy rest
      (state.repeat? lazy 0 none).map fun state => (state, rest)
  | '+' :: rest =>
      let (lazy, rest) := takeLazy rest
      (state.repeat? lazy 1 none).map fun state => (state, rest)
  | '\x7b' :: rest =>
      match takeCounts? state.flags rest with
      | none => none
      | some ((low, high), rest) =>
          let (lazy, rest) := takeLazy (state.flags.skip rest)
          (state.repeat? lazy low high).map fun state => (state, rest)
  | '\\' :: rest =>
      match takeEscape? state.flags rest with
      | none => none
      | some (item, rest) =>
          (itemExpression? state.flags item).map fun part => (state.push part 0, rest)
  | '.' :: rest => (dotSet? state.flags).map fun set => (state.push (.ofSet set) 0, rest)
  | '^' :: rest => some (state.push (.boundary (startCondition state.flags)) 0, rest)
  | '$' :: rest => some (state.push (.boundary (endCondition state.flags)) 0, rest)
  | char :: rest => some (state.push (charExpression state.flags char) 0, rest)

/-- Takes elements up to the end of the text; `bound` is more than its length. -/
def State.readAll? (state : State) (bound : Nat) (chars : List Char) : Option State :=
  match bound, state.flags.skip chars with
  | 0, _ => none
  | _, [] => some state
  | bound + 1, chars =>
      match state.step? chars with
      | none => none
      | some (state, rest) => state.readAll? bound rest

/-- How deeply groups, classes, choices, sequences and repetitions may be nested. -/
def depthLimit : Nat := 250

/-- Reads a regular expression and the names of its groups. -/
def expression? (text : String) : Option (Expression × List (String × Nat)) :=
  let chars := text.toList
  let start : State := ⟨.initial, .start none .initial, [], [], 0⟩
  match start.readAll? (chars.length + 1) chars with
  | some state =>
      let (body, depth) := state.current.body
      if state.outer.isEmpty && depth ≤ depthLimit then some (body, state.names) else none
  | none => none

end Reader

/-- Why a text is refused as a regular expression. -/
inductive Refusal where
  | unreadable
  /-- The expression would be too large when compiled. -/
  | tooLarge
deriving DecidableEq, Repr

/-- The words for a refusal; where the text is unreadable they leave out the details. -/
def Refusal.message : Refusal → String
  | .unreadable => "<regex error>"
  | .tooLarge => "Compiled regex exceeds size limit of " ++ toString sizeLimit ++ " bytes."

/-- Reads a regular expression. -/
def Program.ofText (text : String) : Except Refusal Program :=
  match Reader.expression? text with
  | none => .error .unreadable
  | some (expression, names) =>
      if expression.fits then .ok (.ofExpression expression names) else .error .tooLarge

end LogPipeline.Regex
