import LogPipeline.Attempt
import LogPipeline.Room

/-!
# Ring buffers

A buffer that holds at most a given number of items, the newest ones.  The items are kept from the
oldest to the newest.
-/

namespace LogPipeline

/-- A buffer with a greatest number of items. -/
structure RingBuffer (α : Type) where
  capacity : Nat
  items : List α
  fits : items.length ≤ capacity
deriving DecidableEq, Repr

namespace RingBuffer

variable {α : Type}

/-- An empty buffer. -/
def empty (capacity : Nat) : RingBuffer α :=
  ⟨capacity, [], Nat.zero_le capacity⟩

/-- An empty buffer that can hold something. -/
def ofCapacity (capacity : Nat) : Except LogError (RingBuffer α) :=
  if capacity = 0 then
    .error (.configuration "CyclicBuffer"
      ("The max size argument (" ++ toString capacity ++ ") is not a positive integer"))
  else
    .ok (empty capacity)

/-- An empty buffer that can hold something, with room for its items set aside at once. -/
def reserve (itemSize capacity : Nat) : Attempt (RingBuffer α) :=
  match ofCapacity capacity with
  | .error error => .failed error
  | .ok buffer => if Room.admits capacity itemSize then .done buffer else .panicked Room.excess

/-- The last items of a list. -/
def newest (count : Nat) (items : List α) : List α :=
  items.drop (items.length - count)

theorem newest_length_le (count : Nat) (items : List α) : (newest count items).length ≤ count := by
  simp only [newest, List.length_drop]
  omega

/-- The buffer with another newest item, for which the oldest one may have to go. -/
def add (buffer : RingBuffer α) (item : α) : RingBuffer α :=
  ⟨buffer.capacity, newest buffer.capacity (buffer.items ++ [item]), newest_length_le _ _⟩

/-- The item at a place, counted from the oldest. -/
def get? (buffer : RingBuffer α) (index : Nat) : Option α :=
  buffer.items[index]?

/-- The oldest item. -/
def oldest? (buffer : RingBuffer α) : Option α :=
  buffer.items.head?

/-- The buffer without its oldest item. -/
def dropOldest (buffer : RingBuffer α) : RingBuffer α :=
  ⟨buffer.capacity, buffer.items.tail, by
    have := buffer.fits
    simp only [List.length_tail]
    omega⟩

/-- The number of items. -/
def size (buffer : RingBuffer α) : Nat :=
  buffer.items.length

/-- Whether there are no items. -/
def isEmpty (buffer : RingBuffer α) : Bool :=
  buffer.items.isEmpty

/-- The buffer without its items. -/
def clear (buffer : RingBuffer α) : RingBuffer α :=
  empty buffer.capacity

/-- The buffer with another capacity; what does not fit any more goes, the oldest first. -/
def resize (buffer : RingBuffer α) (capacity : Nat) : RingBuffer α :=
  ⟨capacity, newest capacity buffer.items, newest_length_le _ _⟩

end RingBuffer

end LogPipeline
