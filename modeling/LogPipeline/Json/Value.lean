import LogPipeline.Decimal.Binary64

/-!
# JSON values

A value keeps the order of the members of its objects, and repeated names too, because a reader of
records has to notice them.  A text whose escapes name no character is kept as `garbled`, and so is
an object with such a name: it is an error only for a reader that asks for the text or the object.
-/

namespace LogPipeline

/-- A number as it is read: whole, or the double precision number nearest to it. -/
inductive JsonNumber where
  | whole (value : Int)
  | real (value : Decimal.Binary64)
  /-- A number too large for double precision. -/
  | excessive
deriving DecidableEq, Repr

/-- A JSON value. -/
inductive Json where
  | null
  | bool (value : Bool)
  | number (value : JsonNumber)
  | text (value : String)
  | garbled
  | list (items : List Json)
  | record (members : List (String × Json))
deriving Repr

namespace Json

/-- A whole number. -/
def whole (value : Int) : Json :=
  .number (.whole value)

mutual

/-- How deeply lists and records are nested in a value. -/
def depth : Json → Nat
  | .null => 0
  | .bool _ => 0
  | .number _ => 0
  | .text _ => 0
  | .garbled => 0
  | .list items => depthOfItems items + 1
  | .record members => depthOfMembers members + 1

/-- The greatest depth among the items of a list. -/
def depthOfItems : List Json → Nat
  | [] => 0
  | item :: rest => max item.depth (depthOfItems rest)

/-- The greatest depth among the members of a record. -/
def depthOfMembers : List (String × Json) → Nat
  | [] => 0
  | (_, value) :: rest => max value.depth (depthOfMembers rest)

end

end Json

end LogPipeline
