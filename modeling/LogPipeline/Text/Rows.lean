/-!
# Tables of rows sorted by a number

A table is an array of pairs in increasing order of their first component.  A row covers the
numbers from its own up to, and not including, the number of the next row.  The search halves the
table at each step, so it makes as many comparisons as the size of the table has binary digits.
-/

namespace LogPipeline.Text

/--
The last row between `low` and `high` whose number is at most `key`.  All rows before `low` are
known to be at most `key` and all rows from `high` on to be greater.
-/
def searchRows {α : Type} (rows : Array (Nat × α)) (key low high : Nat) : Option (Nat × α) :=
  if low < high then
    let middle := (low + high) / 2
    match rows[middle]? with
    | some row =>
        if row.1 ≤ key then
          searchRows rows key (middle + 1) high
        else
          searchRows rows key low middle
    | none => none
  else if low = 0 then
    none
  else
    rows[low - 1]?
termination_by high - low

/-- The row that covers `key`, if the table starts early enough to have one. -/
def rowCovering? {α : Type} (rows : Array (Nat × α)) (key : Nat) : Option (Nat × α) :=
  searchRows rows key 0 rows.size

/-- Whether `key` lies in one of the closed ranges of a sorted table of ranges. -/
def inRanges (ranges : Array (Nat × Nat)) (key : Nat) : Bool :=
  match rowCovering? ranges key with
  | some range => key ≤ range.2
  | none => false

end LogPipeline.Text
