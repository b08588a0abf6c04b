import LogPipeline.Json.Value

/-!
# Reading records

A type with named fields is written as a record, or as the list of its fields in order.  Fields of
other names are ignored, however deep their values are nested; a field that occurs twice is an
error.  What a missing field means depends
on the form: an absent optional field has no value in a record, while a list may only end early
where the remaining fields have values of their own.
-/

namespace LogPipeline

/-- The greatest nesting of lists and records among the fields that are read. -/
def FieldSource.greatestDepth : Nat := 127

/-- The fields of a value in one of its two written forms. -/
inductive FieldSource where
  | named (members : List (String × Json))
  | listed (items : List Json)

namespace FieldSource

/-- Whether a name occurs at most once among the members. -/
def unrepeated (members : List (String × Json)) (name : String) : Bool :=
  (members.filter fun field => field.1 == name).length ≤ 1

/-- The fields of a JSON value, for a type with the given field names. -/
def of? (names : List String) : Json → Option FieldSource
  | .record members => if names.all (unrepeated members) then some (.named members) else none
  | .list items => if items.length ≤ names.length then some (.listed items) else none
  | _ => none

/-- The value of a field, given its name and its place among the fields. -/
def field? (source : FieldSource) (name : String) (index : Nat) : Option Json :=
  match source with
  | .named members => members.lookup name
  | .listed items => items[index]?

/-- A field that has to be there. -/
def required? {α : Type} (source : FieldSource) (name : String) (index : Nat)
    (read? : Json → Option α) : Option α :=
  (source.field? name index).bind read?

/-- A field that has a value of its own when it is missing. -/
def withDefault? {α : Type} (source : FieldSource) (name : String) (index : Nat) (default : α)
    (read? : Json → Option α) : Option α :=
  match source.field? name index with
  | some value => read? value
  | none => some default

/-- Reads a value or `null`. -/
def nullable? {α : Type} (read? : Json → Option α) : Json → Option (Option α)
  | .null => some none
  | value => (read? value).map some

/-- A field that may be `null`, or missing from a record. -/
def optional? {α : Type} (source : FieldSource) (name : String) (index : Nat)
    (read? : Json → Option α) : Option (Option α) :=
  match source.field? name index, source with
  | some value, _ => nullable? read? value
  | none, .named _ => some none
  | none, .listed _ => none

end FieldSource

namespace Json

/-- The text of a value that is one. -/
def text? : Json → Option String
  | .text value => some value
  | _ => none

/-- The value of a truth value. -/
def bool? : Json → Option Bool
  | .bool value => some value
  | _ => none

/-- The value of a whole number that is neither negative nor above a limit. -/
def natUpTo? (limit : Nat) : Json → Option Nat
  | .number (.whole value) =>
      if 0 ≤ value ∧ value ≤ Int.ofNat limit then some value.toNat else none
  | _ => none

/-- The items of a list, each read in the same way. -/
def listOf? {α : Type} (read? : Json → Option α) : Json → Option (List α)
  | .list items => items.mapM read?
  | _ => none

/-- The name of a case without data: a text, or a record of that name and `null`. -/
def caseName? : Json → Option String
  | .text name => some name
  | .record [(name, .null)] => some name
  | _ => none

end Json

end LogPipeline
