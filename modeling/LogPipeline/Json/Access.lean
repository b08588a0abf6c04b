import LogPipeline.Json.Value
import LogPipeline.Text.Numeral

/-!
# Lenient access to JSON

Descriptions written by hand leave out what is usual.  The functions here look up the members of a
record and give a default for what is missing, null or of another kind.
-/

namespace LogPipeline.Json

/-- The members of a record; anything else has none. -/
def members : Json → List (String × Json)
  | .record members => members
  | _ => []

/-- The member of a record with a name, even if it is null. -/
def member? (json : Json) (name : String) : Option Json :=
  json.members.lookup name

/-- The member of a record with a name; null counts as missing. -/
def at? (json : Json) (name : String) : Option Json :=
  match json.member? name with
  | some .null => none
  | found => found

/-- A text; anything else counts as the empty one. -/
def asText : Json → String
  | .text value => value
  | _ => ""

/-- A whole number, possibly written as a text; anything else counts as zero. -/
def asWhole : Json → Int
  | .number (.whole value) => value
  | .text digits => (Text.readInteger? digits.toList).getD 0
  | _ => 0

/-- A natural number; anything else counts as zero. -/
def asNatural (json : Json) : Nat :=
  json.asWhole.toNat

/-- The items of a list; anything else has none. -/
def items : Json → List Json
  | .list items => items
  | _ => []

/-- The text under a name, if there is one. -/
def textAt? (json : Json) (name : String) : Option String :=
  match json.at? name with
  | some (.text value) => some value
  | _ => none

/-- The text under a name, or a default. -/
def textOr (json : Json) (name default : String) : String :=
  (json.textAt? name).getD default

/-- The text under a name, or the empty one. -/
def textAt (json : Json) (name : String) : String :=
  json.textOr name ""

/-- The truth value under a name, or a default. -/
def flagOr (json : Json) (name : String) (default : Bool) : Bool :=
  match json.at? name with
  | some (.bool value) => value
  | _ => default

/-- The truth value under a name, or false. -/
def flagAt (json : Json) (name : String) : Bool :=
  json.flagOr name false

/-- The whole number under a name. -/
def wholeAt? (json : Json) (name : String) : Option Int :=
  (json.at? name).map asWhole

/-- The natural number under a name. -/
def naturalAt? (json : Json) (name : String) : Option Nat :=
  (json.at? name).map asNatural

/-- The natural number under a name, or a default. -/
def naturalOr (json : Json) (name : String) (default : Nat) : Nat :=
  (json.naturalAt? name).getD default

/-- The natural number under a name, or zero. -/
def naturalAt (json : Json) (name : String) : Nat :=
  json.naturalOr name 0

/-- The items of the list under a name. -/
def itemsAt (json : Json) (name : String) : List Json :=
  ((json.at? name).map items).getD []

/-- The texts of the list under a name. -/
def textsAt (json : Json) (name : String) : List String :=
  (json.itemsAt name).map asText

/-- The value under a name, or a record without members. -/
def recordAt (json : Json) (name : String) : Json :=
  (json.at? name).getD (.record [])

/-- The pairs of a list of lists of two. -/
def pairs (entries : List Json) : List (String × Json) :=
  entries.filterMap fun entry =>
    match entry.items with
    | [name, value] => some (name.asText, value)
    | _ => none

/-- A list of texts. -/
def ofTexts (texts : List String) : Json :=
  .list (texts.map .text)

/-- An optional value; none is null. -/
def ofOption : Option Json → Json
  | some json => json
  | none => .null

/-- An optional text. -/
def ofText? (value : Option String) : Json :=
  ofOption (value.map .text)

/-- A number; one that double precision cannot tell from its neighbours is written as a text. -/
def wide (value : Int) : Json :=
  if value.natAbs < 9007199254740992 then .whole value else .text (toString value)

/-- A number written as a text. -/
def decimal (value : Nat) : Json :=
  .text (toString value)

end LogPipeline.Json
