import LogPipeline.Regex.Property.Age
import LogPipeline.Regex.Property.Break
import LogPipeline.Regex.Property.ScriptExtension

/-!
# Names of properties

How a regular expression names the characters with a property: by the name of a property, a
category or a script alone, or by the name of a property and one of its values.  Case, spaces,
hyphens, underscores and a leading `is` do not matter.
-/

namespace LogPipeline.Regex.Property

open Text (CharSet)

/-- The characters of a name that count, in lower case. -/
def plainChars (name : List Char) : List Char :=
  (name.filter fun char =>
    char.toNat < 0x80 && char != ' ' && char != '_' && char != '-').map Char.toLower

/--
A name without what does not matter in it.  The abbreviation `isc` is the one whose `is` belongs
to it.
-/
def plainName (name : List Char) : String :=
  match name with
  | first :: second :: rest =>
      if first.toLower = 'i' ∧ second.toLower = 's' then
        match plainChars rest with
        | ['c'] => "isc"
        | plain => String.ofList plain
      else String.ofList (plainChars name)
  | short => String.ofList (plainChars short)

/-- The characters of a general category, or of one of three wider classes. -/
def ofCategoryName? (name : String) : Option CharSet :=
  match name with
  | "any" => some .all
  | "assigned" => some (ofCategories [.cn]).complement
  | "ascii" => some (.range 0 0x7f)
  | name => (categoriesNamed? name).map ofCategories

/-- The characters that a single name stands for. -/
def ofName? (name : List Char) : Option CharSet :=
  let plain := plainName name
  (ofPropertyName? plain).or
    ((ofCategoryName? plain).or ((Script.ofName? plain).map Script.characters))

/-- The characters with a given value of a property. -/
def ofValue? (property value : List Char) : Option CharSet :=
  let plain := plainName value
  match plainName property with
  | "gc" | "generalcategory" => ofCategoryName? plain
  | "sc" | "script" => (Script.ofName? plain).map Script.characters
  | "scx" | "scriptextensions" => (Script.ofName? plain).map Script.users
  | "age" => ofAge? plain
  | "gcb" | "graphemeclusterbreak" => ofGraphemeBreak? plain
  | "wb" | "wordbreak" => ofWordBreak? plain
  | "sb" | "sentencebreak" => ofSentenceBreak? plain
  | _ => none

end LogPipeline.Regex.Property
