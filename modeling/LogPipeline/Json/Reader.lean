import LogPipeline.Json.Number

/-!
# Reading JSON

A text is first cut into tokens, one character at a time, and the tokens are then put together by a
machine that keeps the lists and records still open on a stack.  Each character and each token is
looked at once.
-/

namespace LogPipeline

/-- A token of a JSON text. -/
inductive JsonToken where
  | openList
  | closeList
  | openRecord
  | closeRecord
  | comma
  | colon
  | null
  | bool (value : Bool)
  | number (value : JsonNumber)
  | text (value : String)
  | garbled
deriving DecidableEq, Repr

namespace JsonToken

/-- The content of a text in progress: its characters, and the first half of a character whose
second half has to follow. -/
structure Content where
  chars : List Char
  pending : Option Nat
  broken : Bool
deriving DecidableEq, Repr

namespace Content

/-- The empty content. -/
def empty : Content := ⟨[], none, false⟩

/-- One more character; a half character before it stays without its other half. -/
def push (content : Content) (char : Char) : Content :=
  ⟨char :: content.chars, none, content.broken || content.pending.isSome⟩

/-- One more 16-bit code, which may be half of a character. -/
def pushCode (content : Content) (code : Nat) : Content :=
  match content.pending with
  | some first =>
      if 0xdc00 ≤ code ∧ code ≤ 0xdfff then
        ⟨Char.ofNat (0x10000 + (first - 0xd800) * 0x400 + (code - 0xdc00)) :: content.chars, none,
          content.broken⟩
      else
        ⟨content.chars, none, true⟩
  | none =>
      if 0xd800 ≤ code ∧ code ≤ 0xdbff then ⟨content.chars, some code, content.broken⟩
      else if 0xdc00 ≤ code ∧ code ≤ 0xdfff then ⟨content.chars, none, true⟩
      else ⟨Char.ofNat code :: content.chars, none, content.broken⟩

/-- The token of a finished content. -/
def token (content : Content) : JsonToken :=
  if content.broken || content.pending.isSome then .garbled
  else .text (String.ofList content.chars.reverse)

end Content

/-- Where the lexer stands. -/
inductive Place where
  | between
  /-- Inside a numeral or a word, whose characters are kept in reverse. -/
  | bare (chars : List Char)
  | quoted (content : Content)
  | escape (content : Content)
  /-- After `\u` and some of its four digits. -/
  | code (content : Content) (value digits : Nat)
deriving DecidableEq, Repr

/-- The token of a finished run of bare characters. -/
def ofBare? (chars : List Char) : Option JsonToken :=
  match String.ofList chars.reverse with
  | "null" => some .null
  | "true" => some (.bool true)
  | "false" => some (.bool false)
  | _ => (JsonNumber.ofChars? chars.reverse).map .number

/-- The tokens that end with the current place, if it may end here. -/
def Place.finish? : Place → Option (List JsonToken)
  | .between => some []
  | .bare chars => (ofBare? chars).map fun token => [token]
  | _ => none

/-- The character of a one-letter escape. -/
def escapeMeaning? (char : Char) : Option Char :=
  if char = '"' ∨ char = '\\' ∨ char = '/' then some char
  else if char = 'b' then some '\x08'
  else if char = 'f' then some '\x0c'
  else if char = 'n' then some '\n'
  else if char = 'r' then some '\r'
  else if char = 't' then some '\t'
  else none

/-- The value of a hexadecimal digit. -/
def hexValue? (char : Char) : Option Nat :=
  if char.isDigit then some (char.toNat - 0x30)
  else if 'a' ≤ char ∧ char ≤ 'f' then some (char.toNat - 0x57)
  else if 'A' ≤ char ∧ char ≤ 'F' then some (char.toNat - 0x37)
  else none

/-- Characters that numerals and words consist of. -/
def isBare (char : Char) : Bool :=
  char.isAlphanum || char = '-' || char = '+' || char = '.'

/-- The token of a single punctuation mark, and the blanks that separate tokens. -/
def ofMark? (char : Char) : Option (List JsonToken) :=
  if char = '[' then some [.openList]
  else if char = ']' then some [.closeList]
  else if char = '{' then some [.openRecord]
  else if char = '}' then some [.closeRecord]
  else if char = ',' then some [.comma]
  else if char = ':' then some [.colon]
  else if char = ' ' ∨ char = '\t' ∨ char = '\r' ∨ char = '\n' then some []
  else none

/-- A character outside of texts: the next place and the tokens it completes. -/
def startToken? (char : Char) : Option (Place × List JsonToken) :=
  if char = '"' then some (.quoted .empty, [])
  else if isBare char then some (.bare [char], [])
  else (ofMark? char).map fun tokens => (.between, tokens)

/-- One character: the next place and the tokens it completes. -/
def Place.step? (place : Place) (char : Char) : Option (Place × List JsonToken) :=
  match place with
  | .between => startToken? char
  | .bare chars =>
      if isBare char then
        some (.bare (char :: chars), [])
      else
        match ofBare? chars, startToken? char with
        | some token, some (next, tokens) => some (next, token :: tokens)
        | _, _ => none
  | .quoted content =>
      if char = '"' then some (.between, [content.token])
      else if char = '\\' then some (.escape content, [])
      else if char.toNat < 0x20 then none
      else some (.quoted (content.push char), [])
  | .escape content =>
      if char = 'u' then some (.code content 0 0, [])
      else (escapeMeaning? char).map fun meaning => (.quoted (content.push meaning), [])
  | .code content value digits =>
      match hexValue? char with
      | none => none
      | some digit =>
          if digits = 3 then some (.quoted (content.pushCode (16 * value + digit)), [])
          else some (.code content (16 * value + digit) (digits + 1), [])

/-- The tokens of a text, read from a given place. -/
def readFrom? (place : Place) : List Char → Option (List JsonToken)
  | [] => place.finish?
  | char :: rest =>
      match place.step? char with
      | none => none
      | some (next, tokens) => (readFrom? next rest).map (tokens ++ ·)

end JsonToken

namespace Json

/-- The members of a record so far, in reverse; there are none left once a name is garbled. -/
abbrev Members := Option (List (String × Json))

/-- The members with one more, unless its name is garbled. -/
def addMember (members : Members) (name : Option String) (value : Json) : Members :=
  match members, name with
  | some members, some name => some ((name, value) :: members)
  | _, _ => none

/-- The value of a record with the given members. -/
def closeRecord : Members → Json
  | some members => .record members.reverse
  | none => .garbled

/-- A list or a record that is still open; what it holds so far is kept in reverse. -/
inductive Frame where
  | list (items : List Json)
  | record (members : Members) (name : Option String)

/-- What the machine waits for. -/
inductive Waiting where
  | value
  /-- A value or the end of the list that was just opened. -/
  | valueOrEnd
  /-- A name in a record with the given members. -/
  | name (members : Members)
  /-- A name or the end of the record that was just opened. -/
  | nameOrEnd
  /-- The colon after a name. -/
  | colon (members : Members) (name : Option String)
  /-- A comma or the end of what is open, after a value. -/
  | separator (value : Json)

/-- The value of a token that is a whole value. -/
def ofToken? : JsonToken → Option Json
  | .null => some .null
  | .bool value => some (.bool value)
  | .number value => some (.number value)
  | .text value => some (.text value)
  | .garbled => some .garbled
  | _ => none

/-- A token where a value may begin. -/
def beginValue? (token : JsonToken) (frames : List Frame) : Option (Waiting × List Frame) :=
  match token with
  | .openList => some (.valueOrEnd, .list [] :: frames)
  | .openRecord => some (.nameOrEnd, frames)
  | token => (ofToken? token).map fun value => (.separator value, frames)

/-- One token: what to wait for next, and what is then open. -/
def step? (waiting : Waiting) (frames : List Frame) (token : JsonToken) :
    Option (Waiting × List Frame) :=
  match waiting with
  | .value => beginValue? token frames
  | .valueOrEnd =>
      match token, frames with
      | .closeList, .list _ :: outer => some (.separator (.list []), outer)
      | token, frames => beginValue? token frames
  | .name members =>
      match token with
      | .text name => some (.colon members (some name), frames)
      | .garbled => some (.colon members none, frames)
      | _ => none
  | .nameOrEnd =>
      match token with
      | .text name => some (.colon (some []) (some name), frames)
      | .garbled => some (.colon (some []) none, frames)
      | .closeRecord => some (.separator (.record []), frames)
      | _ => none
  | .colon members name =>
      match token with
      | .colon => some (.value, .record members name :: frames)
      | _ => none
  | .separator value =>
      match token, frames with
      | .comma, .list items :: outer => some (.value, .list (value :: items) :: outer)
      | .closeList, .list items :: outer =>
          some (.separator (.list (value :: items).reverse), outer)
      | .comma, .record members name :: outer => some (.name (addMember members name value), outer)
      | .closeRecord, .record members name :: outer =>
          some (.separator (closeRecord (addMember members name value)), outer)
      | _, _ => none

/-- The value of a list of tokens. -/
def ofTokens? (waiting : Waiting) (frames : List Frame) : List JsonToken → Option Json
  | [] =>
      match waiting, frames with
      | .separator value, [] => some value
      | _, _ => none
  | token :: rest =>
      match step? waiting frames token with
      | none => none
      | some (next, stillOpen) => ofTokens? next stillOpen rest

/-- Reads a JSON text, however deep its lists and records are nested. -/
def read? (text : String) : Option Json :=
  (JsonToken.readFrom? .between text.toList).bind fun tokens => ofTokens? .value [] tokens

end Json

end LogPipeline
