import LogPipeline.Text.CharClass

/-!
# Quoted texts

The form of a text in diagnostics: in double quotes, with a backslash before a quote or a
backslash, short names for the common control characters, and the hexadecimal code of every other
character that has no visible form of its own or would join onto the character before it.
-/

namespace LogPipeline.Text

/-- The code of a character in lowercase hexadecimal. -/
def hexCode (char : Char) : List Char :=
  Nat.toDigits 16 char.toNat

/-- The form of one character between double quotes. -/
def quoteChar (char : Char) : List Char :=
  if char = '\x00' then ['\\', '0']
  else if char = '\t' then ['\\', 't']
  else if char = '\r' then ['\\', 'r']
  else if char = '\n' then ['\\', 'n']
  else if char = '\\' then ['\\', '\\']
  else if char = '"' then ['\\', '"']
  else if extendsPrevious char || !isPrintable char then
    ['\\', 'u', '\x7b'] ++ hexCode char ++ ['\x7d']
  else [char]

/-- A text in double quotes. -/
def quote (text : String) : String :=
  String.ofList ('"' :: text.toList.flatMap quoteChar ++ ['"'])

/-- A list of texts, each in double quotes, in square brackets. -/
def quoteList (texts : List String) : String :=
  "[" ++ ", ".intercalate (texts.map quote) ++ "]"

end LogPipeline.Text
