import Mathlib.Data.List.DropRight
import LogPipeline.RingBuffer

/-!
# What a ring buffer holds

Whatever is done with a ring buffer, it holds the last of all items that were
ever added to it, in the order in which they were added.  How many of them it
holds follows from what was done alone, without a look at the items.
-/

namespace LogPipeline

/-! ## Ends of lists -/

/-- The end of the end of a list is an end of the list. -/
theorem rtake_rtake {α : Type} (items : List α) (outer inner : Nat) :
    (items.rtake outer).rtake inner = items.rtake (min outer inner) := by
  rw [List.rtake_eq_reverse_take_reverse, List.rtake_eq_reverse_take_reverse,
    List.rtake_eq_reverse_take_reverse, List.reverse_reverse, List.take_take,
    Nat.min_comm]

theorem length_rtake {α : Type} (items : List α) (count : Nat) :
    (items.rtake count).length = min count items.length := by
  rw [List.rtake, List.length_drop]
  omega

theorem tail_rtake
    {α : Type}
    {items : List α}
    {count : Nat}
    (enough : count ≤ items.length) :
    (items.rtake count).tail = items.rtake (count - 1) := by
  cases count with
  | zero => simp
  | succ fewer =>
      have next : items.length - (fewer + 1) + 1 = items.length - fewer := by omega
      rw [List.rtake, List.rtake, List.tail_drop, next, Nat.add_sub_cancel]

theorem getElem?_rtake
    {α : Type}
    {items : List α}
    {count : Nat}
    (enough : count ≤ items.length)
    (index : Nat) :
    (items.rtake count)[index]? =
      if index < count then items[items.length - count + index]? else none := by
  rw [List.rtake, List.getElem?_drop]
  split
  · rfl
  · rw [List.getElem?_eq_none_iff]
    omega

namespace RingBuffer

variable {α : Type}

theorem newest_rtake (items : List α) (kept count : Nat) :
    newest count (items.rtake kept) = items.rtake (min kept count) :=
  rtake_rtake items kept count

/-- One more item at the end of an end of a list. -/
theorem newest_rtake_concat (items : List α) (item : α) (kept count : Nat) :
    newest count (items.rtake kept ++ [item]) =
      (items ++ [item]).rtake (min (kept + 1) count) := by
  rw [← List.rtake_concat_succ, newest_rtake]

@[simp]
theorem items_add (buffer : RingBuffer α) (item : α) :
    (buffer.add item).items = newest buffer.capacity (buffer.items ++ [item]) :=
  rfl

@[simp]
theorem items_dropOldest (buffer : RingBuffer α) :
    buffer.dropOldest.items = buffer.items.tail :=
  rfl

@[simp]
theorem items_resize (buffer : RingBuffer α) (capacity : Nat) :
    (buffer.resize capacity).items = newest capacity buffer.items :=
  rfl

/-! ## What is done with a buffer -/

/-- What can be done with a buffer. -/
inductive Deed (α : Type) where
  | add (item : α)
  | takeOldest
  | resize (capacity : Nat)
  | clear
deriving DecidableEq

/-- The item that is added. -/
def Deed.item? : Deed α → Option α
  | .add item => some item
  | .takeOldest => none
  | .resize _ => none
  | .clear => none

/-- The buffer after something was done with it. -/
def act (buffer : RingBuffer α) : Deed α → RingBuffer α
  | .add item => buffer.add item
  | .takeOldest => buffer.dropOldest
  | .resize capacity => buffer.resize capacity
  | .clear => buffer.clear

/-- The buffer after one thing after the other was done with it. -/
def run (buffer : RingBuffer α) (deeds : List (Deed α)) : RingBuffer α :=
  deeds.foldl act buffer

theorem run_concat (buffer : RingBuffer α) (deeds : List (Deed α)) (deed : Deed α) :
    buffer.run (deeds ++ [deed]) = (buffer.run deeds).act deed := by
  rw [run, List.foldl_concat]
  rfl

/-- All items that are ever added, also those that a buffer without room ignores. -/
def added (deeds : List (Deed α)) : List α :=
  deeds.filterMap Deed.item?

theorem added_concat (deeds : List (Deed α)) (deed : Deed α) :
    added (deeds ++ [deed]) = added deeds ++ deed.item?.toList := by
  rw [added, List.filterMap_append]
  cases deed <;> rfl

/-! ## How many items are held -/

/-- How many items there can be and how many there are. -/
structure Extent where
  capacity : Nat
  size : Nat
deriving DecidableEq, Repr

/-- What becomes of the extent of a buffer. -/
def Extent.act (extent : Extent) : Deed α → Extent
  | .add _ => ⟨extent.capacity, min (extent.size + 1) extent.capacity⟩
  | .takeOldest => ⟨extent.capacity, extent.size - 1⟩
  | .resize capacity => ⟨capacity, min extent.size capacity⟩
  | .clear => ⟨extent.capacity, 0⟩

/-- The extent of a buffer that was empty before everything that was done with it. -/
def extentAfter (capacity : Nat) (deeds : List (Deed α)) : Extent :=
  deeds.foldl Extent.act ⟨capacity, 0⟩

theorem extentAfter_concat (capacity : Nat) (deeds : List (Deed α)) (deed : Deed α) :
    extentAfter capacity (deeds ++ [deed]) = (extentAfter capacity deeds).act deed := by
  rw [extentAfter, List.foldl_concat]
  rfl

/-! ## The newest items -/

/-- A buffer of a given extent that holds the last items of a history. -/
structure Holds (buffer : RingBuffer α) (history : List α) (extent : Extent) : Prop where
  capacity : buffer.capacity = extent.capacity
  items : buffer.items = history.rtake extent.size
  /-- There are as many items as are to be held. -/
  enough : extent.size ≤ history.length
  bounded : extent.size ≤ extent.capacity

variable {buffer : RingBuffer α} {history : List α} {extent : Extent}

theorem Holds.add (holds : buffer.Holds history extent) (item : α) :
    (buffer.add item).Holds (history ++ [item]) (extent.act (.add item)) := by
  have enough := holds.enough
  refine ⟨holds.capacity, ?_, ?_, Nat.min_le_right ..⟩
  · rw [items_add, holds.items, holds.capacity]
    exact newest_rtake_concat history item extent.size extent.capacity
  · rw [List.length_append, List.length_singleton, Extent.act]
    dsimp only
    omega

theorem Holds.dropOldest (holds : buffer.Holds history extent) :
    buffer.dropOldest.Holds history (extent.act (.takeOldest : Deed α)) := by
  have fewer : extent.size - 1 ≤ extent.size := Nat.sub_le ..
  refine
    ⟨holds.capacity, ?_, fewer.trans holds.enough, fewer.trans holds.bounded⟩
  rw [items_dropOldest, holds.items]
  exact tail_rtake holds.enough

theorem Holds.resize (holds : buffer.Holds history extent) (capacity : Nat) :
    (buffer.resize capacity).Holds history
      (extent.act (.resize capacity : Deed α)) := by
  have fewer : min extent.size capacity ≤ extent.size := Nat.min_le_left ..
  refine ⟨rfl, ?_, fewer.trans holds.enough, Nat.min_le_right ..⟩
  rw [items_resize, holds.items]
  exact newest_rtake history extent.size capacity

theorem Holds.clear (holds : buffer.Holds history extent) :
    buffer.clear.Holds history (extent.act (.clear : Deed α)) :=
  ⟨holds.capacity, (List.rtake_zero history).symm, Nat.zero_le _, Nat.zero_le _⟩

/-- Whatever is done, the newest items are held, as many as the extent says. -/
theorem Holds.act (holds : buffer.Holds history extent) (deed : Deed α) :
    (buffer.act deed).Holds (history ++ deed.item?.toList) (extent.act deed) := by
  cases deed with
  | add item => exact holds.add item
  | takeOldest =>
      rw [Deed.item?, Option.toList_none, List.append_nil]
      exact holds.dropOldest
  | resize capacity =>
      rw [Deed.item?, Option.toList_none, List.append_nil]
      exact holds.resize capacity
  | clear =>
      rw [Deed.item?, Option.toList_none, List.append_nil]
      exact holds.clear

theorem holds_run (capacity : Nat) (deeds : List (Deed α)) :
    ((empty capacity).run deeds).Holds (added deeds) (extentAfter capacity deeds) := by
  induction deeds using List.reverseRecOn with
  | nil => exact ⟨rfl, rfl, Nat.zero_le _, Nat.zero_le _⟩
  | append_singleton deeds deed ih =>
      rw [run_concat, added_concat, extentAfter_concat]
      exact ih.act deed

/-! ## Everything a buffer tells -/

/-- What a buffer tells of its items when they are the last ones of a history. -/
structure Newest (history : List α) (extent : Extent) (buffer : RingBuffer α) : Prop where
  capacity : buffer.capacity = extent.capacity
  bounded : extent.size ≤ buffer.capacity
  /-- The items, from the oldest to the newest. -/
  items : ∃ earlier, history = earlier ++ buffer.items
  length : buffer.items.length = extent.size
  size : buffer.size = extent.size
  isEmpty : buffer.isEmpty = true ↔ extent.size = 0
  get? :
    ∀ index,
      buffer.get? index =
        if index < extent.size then history[history.length - extent.size + index]?
        else none
  get?_eq_none : ∀ index, buffer.get? index = none ↔ extent.size ≤ index
  /-- What is taken out is the first item, if there is one. -/
  oldest? : buffer.oldest? = buffer.items.head?
  rest : buffer.dropOldest.items = buffer.items.tail

theorem Holds.newest (holds : buffer.Holds history extent) :
    Newest history extent buffer := by
  have length : buffer.items.length = extent.size := by
    rw [holds.items, length_rtake]
    exact Nat.min_eq_left holds.enough
  refine ⟨holds.capacity, ?_, ?_, length, length, ?_, ?_, ?_, rfl, rfl⟩
  · rw [holds.capacity]
    exact holds.bounded
  · refine ⟨history.take (history.length - extent.size), ?_⟩
    rw [holds.items, List.rtake, List.take_append_drop]
  · rw [isEmpty, List.isEmpty_iff_length_eq_zero, length]
  · intro index
    rw [get?, holds.items]
    exact getElem?_rtake holds.enough index
  · intro index
    rw [get?, List.getElem?_eq_none_iff, length]

/--
A new buffer can be had whenever its capacity is positive and there is room for
it.  From then on it holds the newest of all items that were ever added.
-/
theorem newest_run {capacity : Nat} (positive : 0 < capacity) :
    ∃ fresh : RingBuffer α,
      ofCapacity capacity = .ok fresh ∧
        (∀ itemSize,
          reserve itemSize capacity =
            if Room.admits capacity itemSize then .done fresh
            else .panicked Room.excess) ∧
        ∀ deeds : List (Deed α),
          Newest (added deeds) (extentAfter capacity deeds) (fresh.run deeds) := by
  have made : ofCapacity capacity = .ok (empty capacity : RingBuffer α) :=
    if_neg (Nat.ne_of_gt positive)
  refine ⟨empty capacity, made, ?_, fun deeds => (holds_run capacity deeds).newest⟩
  intro itemSize
  rw [reserve, made]

/-- A buffer that was without room for a while has lost what was added meanwhile. -/
theorem newest_run_resized :
    let deeds : List (Deed Nat) :=
      [.add 1, .add 2, .add 3, .resize 1, .add 4, .resize 0, .add 5, .resize 2,
        .add 6, .add 7, .add 8, .takeOldest]
    0 < 2 ∧
      Newest [1, 2, 3, 4, 5, 6, 7, 8] ⟨2, 1⟩ ((empty 2).run deeds) ∧
      ((empty 2).run deeds).items = [8] := by
  intro deeds
  have positive : 0 < 2 := by decide
  obtain ⟨fresh, made, -, newest⟩ := newest_run positive
  cases made
  exact ⟨positive, newest deeds, rfl⟩

end RingBuffer

end LogPipeline
