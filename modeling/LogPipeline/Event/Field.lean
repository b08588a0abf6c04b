import LogPipeline.Decimal.Notation
import LogPipeline.Json.Printer
import LogPipeline.Json.Record

/-!
# Properties of events

A property has a key and a value.  The properties of an event are kept in the order of their keys,
and each key occurs once.
-/

namespace LogPipeline

/-- The value of a property. -/
inductive FieldValue where
  | text (value : String)
  | integer (value : Int)
  | real (value : Decimal.Binary64)
  | boolean (value : Bool)
  | null
deriving DecidableEq, Repr

namespace FieldValue

/-- The text of a value in rendered events. -/
def display : FieldValue → String
  | .text value => value
  | .integer value => toString value
  | .real value => value.display
  | .boolean value => toString value
  | .null => "null"

/-- The JSON form of a value. -/
def toJson : FieldValue → Json
  | .text value => .text value
  | .integer value => .whole value
  | .real value => .number (.real value)
  | .boolean value => .bool value
  | .null => .null

/-- Whether a number fits into 64 bits with a sign. -/
def isWord (value : Int) : Bool :=
  -9223372036854775808 ≤ value && value ≤ 9223372036854775807

/-- Reads a text. -/
def textOf? : Json → Option FieldValue
  | .text value => some (.text value)
  | _ => none

/-- Reads a whole number that fits into 64 bits with a sign. -/
def integerOf? : Json → Option FieldValue
  | .number (.whole value) => if isWord value then some (.integer value) else none
  | _ => none

/-- Reads any number as a real one. -/
def realOf? : Json → Option FieldValue
  | .number (.whole value) =>
      some (.real (Decimal.Binary64.ofRatio (value < 0) value.natAbs 1))
  | .number (.real value) => some (.real value)
  | _ => none

/-- Reads a truth value. -/
def booleanOf? : Json → Option FieldValue
  | .bool value => some (.boolean value)
  | _ => none

/-- Reads `null`. -/
def nullOf? : Json → Option FieldValue
  | .null => some .null
  | _ => none

/-- The readers of the kinds of values in the order in which they are tried. -/
def kinds : List (Json → Option FieldValue) :=
  [textOf?, integerOf?, realOf?, booleanOf?, nullOf?]

/--
Reads a value; nothing written tells its kind, so it is of the first kind that can be read.  A whole
number beyond 64 bits becomes a real one.
-/
def ofJson? (json : Json) : Option FieldValue :=
  kinds.findSome? fun read? => read? json

end FieldValue

/-- Properties in the order of their keys. -/
structure Fields where
  entries : List (String × FieldValue)
deriving DecidableEq, Repr

namespace Fields

/-- No properties. -/
def empty : Fields := ⟨[]⟩

instance : Inhabited Fields := ⟨empty⟩

/-- Puts a value under a key into entries in order, in place of the one it may have. -/
def insertEntry (key : String) (value : FieldValue) :
    List (String × FieldValue) → List (String × FieldValue)
  | [] => [(key, value)]
  | first :: rest =>
      if key < first.1 then (key, value) :: first :: rest
      else if key = first.1 then (key, value) :: rest
      else first :: insertEntry key value rest

/-- The properties with a value put under a key. -/
def insert (fields : Fields) (key : String) (value : FieldValue) : Fields :=
  ⟨insertEntry key value fields.entries⟩

/-- The properties of a list; of several values of a key the last one counts. -/
def ofList (entries : List (String × FieldValue)) : Fields :=
  entries.foldl (fun fields entry => fields.insert entry.1 entry.2) empty

/-- The value of a key. -/
def get? (fields : Fields) (key : String) : Option FieldValue :=
  fields.entries.lookup key

/-- The keys in order. -/
def keys (fields : Fields) : List String :=
  fields.entries.map Prod.fst

/-- Whether there are no properties. -/
def isEmpty (fields : Fields) : Bool :=
  fields.entries.isEmpty

/-- All properties as keys and values. -/
def display (fields : Fields) : String :=
  ", ".intercalate (fields.entries.map fun entry => entry.1 ++ "=" ++ entry.2.display)

/-- The JSON form of properties. -/
def toJson (fields : Fields) : Json :=
  .record [("fields", .record (fields.entries.map fun entry => (entry.1, entry.2.toJson)))]

/-- Reads the values of a record. -/
def readEntries? : List (String × Json) → Option (List (String × FieldValue))
  | [] => some []
  | (key, value) :: rest =>
      match FieldValue.ofJson? value, readEntries? rest with
      | some value, some rest => some ((key, value) :: rest)
      | _, _ => none

/-- Reads the record of all properties. -/
def ofRecord? : Json → Option Fields
  | .record members => (readEntries? members).map ofList
  | _ => none

/-- Reads properties. -/
def ofJson? (json : Json) : Option Fields := do
  let source ← FieldSource.of? ["fields"] json
  source.required? "fields" 0 ofRecord?

end Fields

end LogPipeline
