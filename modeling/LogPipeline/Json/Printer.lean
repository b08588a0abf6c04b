import LogPipeline.Json.Value
import LogPipeline.Decimal.Notation
import LogPipeline.Text.Quoted

/-!
# Writing JSON

Values are written without any blanks.  In texts only the quote, the backslash and the control
characters are escaped.  A number that is not finite is written as `null`.
-/

namespace LogPipeline.Json

/-- The two hexadecimal digits of a control character. -/
def controlCode (char : Char) : List Char :=
  let digits := Text.hexCode char
  if digits.length < 2 then '0' :: digits else digits

/-- The form of one character in a text. -/
def escapeChar (char : Char) : List Char :=
  if char = '"' then ['\\', '"']
  else if char = '\\' then ['\\', '\\']
  else if char = '\x08' then ['\\', 'b']
  else if char = '\x0c' then ['\\', 'f']
  else if char = '\n' then ['\\', 'n']
  else if char = '\r' then ['\\', 'r']
  else if char = '\t' then ['\\', 't']
  else if char.toNat < 0x20 then ['\\', 'u', '0', '0'] ++ controlCode char
  else [char]

/-- A text in quotes. -/
def quoted (text : String) : String :=
  String.ofList ('"' :: text.toList.flatMap escapeChar ++ ['"'])

/-- The form of a number. -/
def printNumber : JsonNumber → String
  | .whole value => toString value
  | .real value => (value.json?).getD "null"
  | .excessive => "null"

mutual

/-- The form of a value. -/
def print : Json → String
  | .null => "null"
  | .bool true => "true"
  | .bool false => "false"
  | .number value => printNumber value
  | .text value => quoted value
  | .garbled => "null"
  | .list items => "[" ++ ",".intercalate (printItems items) ++ "]"
  | .record members => "\x7b" ++ ",".intercalate (printMembers members) ++ "\x7d"

/-- The forms of the items of a list. -/
def printItems : List Json → List String
  | [] => []
  | item :: rest => print item :: printItems rest

/-- The forms of the members of a record. -/
def printMembers : List (String × Json) → List String
  | [] => []
  | (name, value) :: rest => (quoted name ++ ":" ++ print value) :: printMembers rest

end

end LogPipeline.Json
