import LogPipeline.Regex.Property.Name

/-!
# Sets of characters with short names

The sets that a regular expression knows by a letter, such as digits, and those that bracketed
classes know by an English name.  Without Unicode all of them keep to ASCII.
-/

namespace LogPipeline.Regex

open Text (CharSet)

/-- The letters a word is made of: those of all scripts, or of ASCII alone. -/
inductive WordLetters where
  | unicode
  | ascii
deriving DecidableEq, Repr

/-- The digits, letters and underscore of ASCII. -/
def asciiWord : CharSet := .ofText "30-39 41-5a 5f 61-7a"

/-- The white space of ASCII. -/
def asciiBlank : CharSet := .ofText "9-d 20"

/-- The characters of words. -/
def WordLetters.set : WordLetters → CharSet
  | .unicode => Property.word
  | .ascii => asciiWord

/-- The decimal digits of all scripts. -/
def decimalDigits : CharSet := Property.ofCategories [.nd]

/-- The sets that bracketed classes know by name. -/
def ofAsciiName? (name : String) : Option CharSet :=
  match name with
  | "alnum" => some (.ofText "30-39 41-5a 61-7a")
  | "alpha" => some (.ofText "41-5a 61-7a")
  | "ascii" => some (.range 0 0x7f)
  | "blank" => some (.ofText "9 20")
  | "cntrl" => some (.ofText "0-1f 7f")
  | "digit" => some (.ofText "30-39")
  | "graph" => some (.ofText "21-7e")
  | "lower" => some (.ofText "61-7a")
  | "print" => some (.ofText "20-7e")
  | "punct" => some (.ofText "21-2f 3a-40 5b-60 7b-7e")
  | "space" => some asciiBlank
  | "upper" => some (.ofText "41-5a")
  | "word" => some asciiWord
  | "xdigit" => some (.ofText "30-39 41-46 61-66")
  | _ => none

/-- The part of a set in a range, moved by a distance up or down. -/
def shifted (set : CharSet) (low high up down : Nat) : CharSet :=
  let part := set.intersection (.range low high)
  .ofSorted (part.ranges.toList.map fun range => (range.1 + up - down, range.2 + up - down))

/-- A set with the other case of every ASCII letter in it. -/
def foldAscii (set : CharSet) : CharSet :=
  .unions [set, shifted set 0x41 0x5a 0x20 0, shifted set 0x61 0x7a 0 0x20]

end LogPipeline.Regex
