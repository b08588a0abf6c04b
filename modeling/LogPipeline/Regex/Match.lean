import LogPipeline.Regex.Automaton

/-!
# Matching

The leftmost match of a regular expression, and of several at the same place the one preferred by
the order of choices and the greed of repetitions.  All ways to match advance through the text
together, in the order of preference.  Of two ways that reach the same state at the same place only
the preferred one goes on, so a repetition whose body reads nothing ends, and a text is matched in
a number of steps that is bounded by its length times the number of states.
-/

namespace LogPipeline.Regex

/-- The part of a text between two places. -/
structure Span where
  start : Nat
  stop : Nat
deriving DecidableEq, Repr

/-- A place in a text. -/
structure Cursor where
  place : Nat
  before : Option Char
  rest : List Char
deriving Repr

namespace Cursor

/-- The beginning of a text. -/
def start (text : List Char) : Cursor :=
  ⟨0, none, text⟩

/-- The place after the next character. -/
def advance? (cursor : Cursor) : Option Cursor :=
  match cursor.rest with
  | [] => none
  | char :: rest => some ⟨cursor.place + 1, some char, rest⟩

/-- The place so many characters later. -/
def skip (cursor : Cursor) (count : Nat) : Cursor :=
  ⟨cursor.place + count, (cursor.rest.take count).getLast?.or cursor.before,
    cursor.rest.drop count⟩

/-- Whether a character of a word stands before the place, and whether one follows. -/
def sides (cursor : Cursor) (letters : WordLetters) : Bool × Bool :=
  (cursor.before.any letters.set.has, cursor.rest.head?.any letters.set.has)

/-- Whether a condition holds at a place. -/
def satisfies (cursor : Cursor) : Boundary → Bool
  | .textStart => cursor.before.isNone
  | .textEnd => cursor.rest.isEmpty
  | .lineStart false => cursor.before.all (· == '\n')
  | .lineStart true =>
      match cursor.before with
      | none => true
      | some '\n' => true
      | some '\r' => cursor.rest.head? != some '\n'
      | some _ => false
  | .lineEnd false => cursor.rest.head?.all (· == '\n')
  | .lineEnd true =>
      match cursor.rest.head? with
      | none => true
      | some '\r' => true
      | some '\n' => cursor.before != some '\r'
      | some _ => false
  | .wordEdge letters => (cursor.sides letters).1 != (cursor.sides letters).2
  | .notWordEdge letters => (cursor.sides letters).1 == (cursor.sides letters).2
  | .wordStart letters => !(cursor.sides letters).1 && (cursor.sides letters).2
  | .wordEnd letters => (cursor.sides letters).1 && !(cursor.sides letters).2
  | .noWordBefore letters => !(cursor.sides letters).1
  | .noWordAfter letters => !(cursor.sides letters).2

end Cursor

/-- One way to match: the state it has reached, where it began, and the places remembered. -/
structure Thread where
  state : Nat
  origin : Nat
  /-- The remembered places with their slots, the latest first. -/
  marks : List (Nat × Nat)
deriving Repr

/-- The threads at one place, and which states have been reached there. -/
structure Front where
  /-- For every state one more than the last place at which it was reached. -/
  reached : Array Nat
  /-- The threads that wait for a character or have matched, in the order of preference. -/
  threads : Array Thread

namespace Front

/-- No threads. -/
def empty (states : Nat) : Front :=
  ⟨Array.replicate states 0, #[]⟩

/--
Follows threads, the preferred first, up to the states that read a character or accept.  A state
leads to at most two others, so `bound` need not be more than twice the number of states and one.
-/
def follow (states : Array State) (cursor : Cursor) :
    Nat → List Thread → Front → Front
  | 0, _, front => front
  | _, [], front => front
  | bound + 1, thread :: others, front =>
      if front.reached.getD thread.state 0 = cursor.place + 1 then
        follow states cursor bound others front
      else
        let front :=
          { front with reached := front.reached.setIfInBounds thread.state (cursor.place + 1) }
        match states[thread.state]? with
        | none => follow states cursor bound others front
        | some (.fork preferred other) =>
            follow states cursor bound
              ({ thread with state := preferred } :: { thread with state := other } :: others) front
        | some (.check condition next) =>
            if cursor.satisfies condition then
              follow states cursor bound ({ thread with state := next } :: others) front
            else follow states cursor bound others front
        | some (.mark slot next) =>
            follow states cursor bound
              ({ thread with state := next, marks := (slot, cursor.place) :: thread.marks } ::
                others)
              front
        | some _ =>
            follow states cursor bound others { front with threads := front.threads.push thread }

end Front

/-- A match: its span and the places remembered on the way. -/
structure Found where
  span : Span
  marks : List (Nat × Nat)
deriving Repr

/-- The span of a group, if it took part in a match. -/
def Found.groupSpan? (found : Found) (number : Nat) : Option Span :=
  if number = 0 then some found.span
  else
    match found.marks.lookup (2 * number), found.marks.lookup (2 * number + 1) with
    | some start, some stop => some ⟨start, stop⟩
    | _, _ => none

namespace Program

/-- Adds a thread behind all others. -/
def enter (program : Program) (cursor : Cursor) (thread : Thread) (front : Front) : Front :=
  Front.follow program.states cursor (2 * program.states.size + 1) [thread] front

/--
Lets threads read a character, the preferred first.  A thread that has matched ends those behind
it; the threads before it may still find a longer match, which is preferred.
-/
def read (program : Program) (place : Nat) (char? : Option Char) (next : Cursor) :
    List Thread → Front → Option Found → Front × Option Found
  | [], front, found => (front, found)
  | thread :: others, front, found =>
      match program.states[thread.state]? with
      | some .accept => (front, some ⟨⟨thread.origin, place⟩, thread.marks⟩)
      | some (.char expected state) =>
          let front :=
            if char? == some expected then program.enter next { thread with state } front
            else front
          program.read place char? next others front found
      | some (.set expected state) =>
          let front :=
            if char?.any expected.has then program.enter next { thread with state } front
            else front
          program.read place char? next others front found
      | _ => program.read place char? next others front found

/-- Goes through a text with the threads on the way and the best match so far. -/
def search (program : Program) (place : Nat) (before : Option Char) (front : Front)
    (found : Option Found) : List Char → Option Found
  | [] =>
      let cursor : Cursor := ⟨place, before, []⟩
      let front := begin? cursor front
      (program.read place none cursor front.threads.toList { front with threads := #[] } found).2
  | char :: rest =>
      let front := begin? ⟨place, before, char :: rest⟩ front
      let (front, found) :=
        program.read place (some char) ⟨place + 1, some char, rest⟩ front.threads.toList
          { front with threads := #[] } found
      if front.threads.isEmpty && found.isSome then found
      else program.search (place + 1) (some char) front found rest
where
  /-- The threads with one that begins here, unless a match has been found. -/
  begin? (cursor : Cursor) (front : Front) : Front :=
    if found.isSome then front else program.enter cursor ⟨program.start, cursor.place, []⟩ front

/-- The leftmost match from a place on. -/
def find? (program : Program) (cursor : Cursor) : Option Found :=
  program.search cursor.place cursor.before (.empty program.states.size) none cursor.rest

/-- Whether an expression matches some part of a text. -/
def hasMatch (program : Program) (text : String) : Bool :=
  (program.find? (.start text.toList)).isSome

end Program

end LogPipeline.Regex
