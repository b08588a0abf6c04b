import LogPipeline.Text.Rows

/-!
# Sets of characters

A set of code points is kept as its maximal runs, in increasing order.  Two sets with the same
members therefore have the same runs, and a member is found by halving the list of runs.  Tables
of the character standard are written as texts such as `41-5a 61-7a aa`.
-/

namespace LogPipeline.Text

/-- A set of code points: closed ranges in increasing order with gaps between them. -/
structure CharSet where
  ranges : Array (Nat × Nat)
deriving DecidableEq, Repr, Inhabited

namespace CharSet

/-- The greatest code point. -/
def lastCode : Nat := 0x10ffff

/-- The set without members. -/
def empty : CharSet := ⟨#[]⟩

/-- The code points between two, both included. -/
def range (low high : Nat) : CharSet :=
  if low ≤ high then ⟨#[(low, high)]⟩ else empty

/-- The set of one character. -/
def single (char : Char) : CharSet :=
  range char.toNat char.toNat

/-- The set of all code points. -/
def all : CharSet := range 0 lastCode

/-- Whether a character belongs to a set. -/
def has (set : CharSet) (char : Char) : Bool :=
  inRanges set.ranges char.toNat


/-- Merges two lists of ranges into one that is sorted by lower ends. -/
def mergeRanges : List (Nat × Nat) → List (Nat × Nat) → List (Nat × Nat)
  | [], second => second
  | first, [] => first
  | a :: first, b :: second =>
      if a.1 ≤ b.1 then a :: mergeRanges first (b :: second)
      else b :: mergeRanges (a :: first) second

/-- Joins ranges in order, the last of which is still open to be extended. -/
def joinFrom (current : Nat × Nat) (done : Array (Nat × Nat)) :
    List (Nat × Nat) → Array (Nat × Nat)
  | [] => done.push current
  | range :: rest =>
      if range.1 ≤ current.2 + 1 then joinFrom (current.1, max current.2 range.2) done rest
      else joinFrom range (done.push current) rest

/-- The set of ranges that are sorted by their lower ends and may overlap. -/
def ofSorted : List (Nat × Nat) → CharSet
  | [] => empty
  | range :: rest => ⟨joinFrom range #[] rest⟩

/-- The set of any ranges. -/
def ofRanges (ranges : List (Nat × Nat)) : CharSet :=
  ofSorted (ranges.mergeSort fun first second => first.1 ≤ second.1)

/-- The characters of either set. -/
def union (first second : CharSet) : CharSet :=
  ofSorted (mergeRanges first.ranges.toList second.ranges.toList)

/-- The gaps between ranges in order, from a code point on. -/
def gapsFrom (next : Nat) (done : Array (Nat × Nat)) : List (Nat × Nat) → Array (Nat × Nat)
  | [] => if next ≤ lastCode then done.push (next, lastCode) else done
  | range :: rest =>
      gapsFrom (range.2 + 1) (if next < range.1 then done.push (next, range.1 - 1) else done) rest

/-- The characters outside a set. -/
def complement (set : CharSet) : CharSet :=
  ⟨gapsFrom 0 #[] set.ranges.toList⟩

/-- The characters of both sets. -/
def intersection (first second : CharSet) : CharSet :=
  (first.complement.union second.complement).complement

/-- The characters of the first set that are not in the second. -/
def difference (first second : CharSet) : CharSet :=
  first.intersection second.complement

/-- The characters of exactly one of two sets. -/
def symmetricDifference (first second : CharSet) : CharSet :=
  (first.union second).difference (first.intersection second)

/-- The union of several sets. -/
def unions (sets : List CharSet) : CharSet :=
  sets.foldl union empty

/-- Whether a set has no member. -/
def isEmpty (set : CharSet) : Bool := set.ranges.isEmpty

/-- Whether every member is a character of ASCII. -/
def isAscii (set : CharSet) : Bool :=
  set.ranges.all fun range => range.2 < 0x80

/-- The only member of a set that has one. -/
def only? (set : CharSet) : Option Char :=
  match set.ranges.toList with
  | [(low, high)] => if low = high ∧ low.isValidChar then some (Char.ofNat low) else none
  | _ => none

/-- The value of a hexadecimal digit in lower case. -/
def digitValue (char : Char) : Nat :=
  if char.isDigit then char.toNat - 0x30 else char.toNat - 0x57

/--
Reads ranges: two hexadecimal numbers with a dash between them, or one alone.  `low` is the number
before the dash and `current` the one that is being read.
-/
def readRanges (done : Array (Nat × Nat)) (low current : Option Nat) :
    List Char → Array (Nat × Nat)
  | [] => finish
  | char :: rest =>
      if char = '-' then readRanges done current none rest
      else if char = ' ' ∨ char = '\n' then readRanges finish none none rest
      else readRanges done low (some (16 * current.getD 0 + digitValue char)) rest
where
  /-- The ranges with the one that ends here. -/
  finish : Array (Nat × Nat) :=
    match current with
    | none => done
    | some high => done.push (low.getD high, high)

/-- The set whose ranges are listed in a text, in increasing order and apart. -/
def ofText (text : String) : CharSet :=
  ⟨readRanges #[] none none text.toList⟩

end CharSet

end LogPipeline.Text
