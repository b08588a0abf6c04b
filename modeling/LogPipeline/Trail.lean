/-!
# Trails

What comes one after the other and is only ever added to.  A trail holds its items from the newest
to the oldest, so that adding one is cheap; seen as a list it has them in the order in which they
came.
-/

namespace LogPipeline

/-- Items in the order in which they came. -/
structure Trail (α : Type) where
  /-- The items, the last one first. -/
  newestFirst : List α
deriving DecidableEq, Repr

namespace Trail

variable {α : Type}

/-- No items. -/
def empty : Trail α := ⟨[]⟩

/-- The trail with one more item at its end. -/
def push (trail : Trail α) (item : α) : Trail α :=
  ⟨item :: trail.newestFirst⟩

/-- The trail with more items at its end. -/
def pushAll (trail : Trail α) (items : List α) : Trail α :=
  items.foldl push trail

/-- The items in the order in which they came. -/
def toList (trail : Trail α) : List α :=
  trail.newestFirst.reverse

/-- The number of items. -/
def size (trail : Trail α) : Nat :=
  trail.newestFirst.length

@[simp]
theorem toList_empty : (empty : Trail α).toList = [] := rfl

@[simp]
theorem toList_push (trail : Trail α) (item : α) :
    (trail.push item).toList = trail.toList ++ [item] := by
  simp [toList, push]

@[simp]
theorem toList_pushAll (trail : Trail α) (items : List α) :
    (trail.pushAll items).toList = trail.toList ++ items := by
  induction items generalizing trail with
  | nil => simp [pushAll]
  | cons item rest ih =>
      have step : trail.pushAll (item :: rest) = (trail.push item).pushAll rest := rfl
      rw [step, ih]
      simp

@[simp]
theorem length_toList (trail : Trail α) : trail.toList.length = trail.size := by
  simp [toList, size]

end Trail

end LogPipeline
