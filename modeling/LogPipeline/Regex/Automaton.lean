import LogPipeline.Regex.Expression

/-!
# Automata of regular expressions

An expression becomes a table of states, each of which names the states it leads to by their place
in the table.  A fork leads to two states, the preferred one first.  An expression is compiled
backwards, from the state that follows it to the state it starts with, so that only the fork at the
end of a loop has to be filled in later.
-/

namespace LogPipeline.Regex

open Text (CharSet)

/-- A state of an automaton. -/
inductive State where
  /-- Reads a given character. -/
  | char (expected : Char) (next : Nat)
  /-- Reads a character of a set. -/
  | set (expected : CharSet) (next : Nat)
  | fork (preferred other : Nat)
  /-- Goes on only where a condition holds. -/
  | check (condition : Boundary) (next : Nat)
  /-- Remembers the place; the start of group `n` has slot `2 n` and its end slot `2 n + 1`. -/
  | mark (slot : Nat) (next : Nat)
  | accept
deriving Repr

/-- A state before which other states have been compiled, and all states so far. -/
abbrev Compiled := Nat × Array State

namespace Compiled

/-- Puts one more state in front. -/
def push (compiled : Compiled) (state : Nat → State) : Compiled :=
  (compiled.2.size, compiled.2.push (state compiled.1))

/-- A fork between two states, the first of which greed prefers. -/
def forkOf (greedy : Bool) (more fewer : Nat) : State :=
  if greedy then .fork more fewer else .fork fewer more

/-- Puts as many copies in front as asked for. -/
def copies (body : Compiled → Compiled) : Nat → Compiled → Compiled
  | 0, compiled => compiled
  | count + 1, compiled => copies body count (body compiled)

/-- Puts the body in front, which may also be left out in favour of the state at `exit`. -/
def orSkip (body : Compiled → Compiled) (greedy : Bool) (exit : Nat) (compiled : Compiled) :
    Compiled :=
  (body compiled).push fun start => forkOf greedy start exit

/-- Puts the body once or more often in front: behind it a fork leads back to its start. -/
def loop (body : Compiled → Compiled) (greedy : Bool) (compiled : Compiled) : Compiled :=
  let fork := compiled.2.size
  let (start, states) := body (compiled.push fun next => .fork next next)
  (start, states.setIfInBounds fork (forkOf greedy start compiled.1))

/--
Puts the body any number of times in front.  A body that is never empty needs one fork, at which
the loop begins and to which it returns.  Otherwise the fork that skips the body differs from the
one behind it, so that a round that reads nothing is still preferred to no round.
-/
def anyTimes (body : Compiled → Compiled) (isNeverEmpty greedy : Bool) (compiled : Compiled) :
    Compiled :=
  if isNeverEmpty then (compiled.2.size, (loop body greedy compiled).2)
  else (loop body greedy compiled).push fun start => forkOf greedy start compiled.1

/-- Puts the body between two numbers of times in front. -/
def times (body : Compiled → Compiled) (low : Nat) (high : Option Nat)
    (isNeverEmpty greedy : Bool) (compiled : Compiled) : Compiled :=
  match high with
  | some high => copies body low (copies (orSkip body greedy compiled.1) (high - low) compiled)
  | none =>
      if low = 0 then anyTimes body isNeverEmpty greedy compiled
      else copies body (low - 1) (loop body greedy compiled)

end Compiled

/-- Puts the states of an expression in front of what follows it. -/
def Expression.compile : Expression → Compiled → Compiled
  | .empty, compiled => compiled
  | .literal text, compiled =>
      text.foldr (fun char compiled => compiled.push (.char char)) compiled
  | .one set, compiled => compiled.push (.set set)
  | .boundary condition, compiled => compiled.push (.check condition)
  | .repetition low high greedy body, compiled =>
      Compiled.times body.compile low high body.isNeverEmpty greedy compiled
  | .group number body, compiled =>
      (body.compile (compiled.push (.mark (2 * number + 1)))).push (.mark (2 * number))
  | .sequence first second, compiled => first.compile (second.compile compiled)
  | .choice first second, compiled =>
      let right := second.compile compiled
      let left := first.compile (compiled.1, right.2)
      left.push fun start => .fork start right.1

/-- An automaton: its states, where it starts, and the names of its groups. -/
structure Program where
  states : Array State
  start : Nat
  names : List (String × Nat)
deriving Repr

/-- The automaton of an expression. -/
def Program.ofExpression (expression : Expression) (names : List (String × Nat)) : Program :=
  let (start, states) := expression.compile (0, #[.accept])
  { states, start, names }

end LogPipeline.Regex
