import LogPipeline.Event.Basic
import LogPipeline.RingBuffer
import LogPipeline.Room
import LogPipeline.Tracker.Keeper

/-!
# Tracked buffers

A tracker can keep a buffer of the newest events for each key.  Whoever was handed a buffer can
still look at it after it was let go, but then it is empty.
-/

namespace LogPipeline

/-- All buffers that were built, in the order in which they were. -/
structure Buffers where
  /-- How many events each buffer holds. -/
  capacity : Nat
  buffers : List (RingBuffer Event)
deriving DecidableEq, Repr

namespace Buffers

/-- How many events a buffer holds if nothing is said. -/
def defaultCapacity : Nat := 256

/-- The settings of a tracker of buffers if nothing is said: there are at most so many of them. -/
def defaultSettings : TrackerSettings :=
  { TrackerSettings.standard with maxComponents := 64 }

/-- No buffers yet. -/
def ofCapacity (capacity : Nat) : Except LogError Buffers :=
  if capacity = 0 then
    .error (.configuration "CyclicBufferTracker" "buffer size must be positive")
  else
    .ok ⟨capacity, []⟩

/-- A buffer by its number. -/
def buffer? (buffers : Buffers) (number : Nat) : Option (RingBuffer Event) :=
  buffers.buffers[number]?

/-- The buffers with one of them changed. -/
def modify (buffers : Buffers) (number : Nat) (change : RingBuffer Event → RingBuffer Event) :
    Buffers :=
  { buffers with buffers := buffers.buffers.modify number change }

/-- Adds events to a buffer. -/
def addAll (buffers : Buffers) (number : Nat) (events : List Event) : Buffers :=
  buffers.modify number fun buffer => events.foldl RingBuffer.add buffer

/-- The messages of the events in a buffer. -/
def messages? (buffers : Buffers) (number : Nat) : Option (List String) :=
  (buffers.buffer? number).map fun buffer => buffer.items.map Event.message

/-- The keeper of buffers: they are emptied when they are let go, and never stale by themselves. -/
def keeper : Keeper Buffers Nat where
  build _ buffers :=
    if Room.admits buffers.capacity Room.eventSize then
      (.ok buffers.buffers.length,
        { buffers with buffers := buffers.buffers ++ [.empty buffers.capacity] })
    else
      (.error Room.excess, buffers)
  dispose _ number buffers := (.done (), buffers.modify number RingBuffer.clear)
  isStale _ _ := .ok false
  report _ buffers := buffers

end Buffers

end LogPipeline
