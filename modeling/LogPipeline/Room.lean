/-!
# Room

Buffers and queues of fixed size set the room for all their places aside when they are made.  What
asks for more room than there can be breaks off.
-/

namespace LogPipeline.Room

/-- The greatest number of bytes that can be set aside at once. -/
def greatest : Nat := Nat.pow 2 63 - 1

/-- The greatest number of characters of a text that can be held. -/
def greatestText : Nat := Nat.pow 2 47

/-- Whether there can be room for so many places of so many bytes each. -/
def admits (places size : Nat) : Bool :=
  places * size ≤ greatest

/-- The message of what breaks off for lack of room. -/
def excess : String := "capacity overflow"

/-- The bytes of a place for a text, whose characters are kept elsewhere. -/
def textSize : Nat := 24

/-- The bytes of a place for an event. -/
def eventSize : Nat := 272

/-- The bytes of a place in a queue of events, which is numbered. -/
def queuePlaceSize : Nat := eventSize + 8

end LogPipeline.Room
