import LogPipeline.Regex.ClassName

/-!
# Regular expressions

Expressions in the simplified form in which they are matched.  The functions that put expressions
together keep that form: adjacent literals are one literal, a sequence has no empty part, a choice
between single characters is a set, and the factors that all alternatives begin with are taken out
of a choice.
-/

namespace LogPipeline.Regex

open Text (CharSet)

/-- Conditions on the place between two characters. -/
inductive Boundary where
  | textStart
  | textEnd
  /-- The start of a line; with `carriage`, a carriage return ends a line too. -/
  | lineStart (carriage : Bool)
  | lineEnd (carriage : Bool)
  /-- A place where a word starts or ends. -/
  | wordEdge (letters : WordLetters)
  | notWordEdge (letters : WordLetters)
  | wordStart (letters : WordLetters)
  | wordEnd (letters : WordLetters)
  /-- No word goes on before the place. -/
  | noWordBefore (letters : WordLetters)
  | noWordAfter (letters : WordLetters)
deriving DecidableEq, Repr

/-- A regular expression. -/
inductive Expression where
  | empty
  /-- Characters that stand for themselves, at least one. -/
  | literal (text : List Char)
  /-- One character of a set. -/
  | one (set : CharSet)
  | boundary (condition : Boundary)
  /-- A body between two numbers of times; without the second there is no limit. -/
  | repetition (low : Nat) (high : Option Nat) (greedy : Bool) (body : Expression)
  /-- A part whose text is remembered under a number. -/
  | group (number : Nat) (body : Expression)
  | sequence (first second : Expression)
  /-- Either of two expressions, the first one if both fit. -/
  | choice (first second : Expression)
deriving DecidableEq, Repr

namespace Expression

/-- The expression that matches nothing, not even the empty text. -/
def never : Expression := .one .empty

/-- One character of a set; the only character of a set stands for itself. -/
def ofSet (set : CharSet) : Expression :=
  match set.only? with
  | some char => .literal [char]
  | none => .one set

/-- The number of parts of an expression. -/
def size : Expression → Nat
  | .repetition _ _ _ body => body.size + 1
  | .group _ body => body.size + 1
  | .sequence first second => first.size + second.size + 1
  | .choice first second => first.size + second.size + 1
  | _ => 1

/-- The least number of characters of a match, if there can be a match. -/
def leastLength? : Expression → Option Nat
  | .empty => some 0
  | .literal text => some text.length
  | .one set => if set.isEmpty then none else some 1
  | .boundary _ => some 0
  | .repetition low _ _ body => body.leastLength?.map (· * low)
  | .group _ body => body.leastLength?
  | .sequence first second =>
      match first.leastLength?, second.leastLength? with
      | some a, some b => some (a + b)
      | _, _ => none
  | .choice first second =>
      match first.leastLength?, second.leastLength? with
      | some a, some b => some (min a b)
      | _, _ => none

/-- The greatest number of characters of a match, if there is one. -/
def greatestLength? : Expression → Option Nat
  | .empty => some 0
  | .literal text => some text.length
  | .one set => if set.isEmpty then none else some 1
  | .boundary _ => some 0
  | .repetition _ high _ body =>
      match high, body.greatestLength? with
      | some high, some length => some (length * high)
      | _, _ => none
  | .group _ body => body.greatestLength?
  | .sequence first second =>
      match first.greatestLength?, second.greatestLength? with
      | some a, some b => some (a + b)
      | _, _ => none
  | .choice first second =>
      match first.greatestLength?, second.greatestLength? with
      | some a, some b => some (max a b)
      | _, _ => none

/-- Whether every match has at least one character. -/
def isNeverEmpty (expression : Expression) : Bool :=
  expression.leastLength?.any (0 < ·)

/-- The parts of a sequence; any other expression is its own only part. -/
def factors : Expression → List Expression
  | .sequence first second => first.factors ++ second.factors
  | other => [other]

/-- The alternatives of a choice; any other expression is its own only alternative. -/
def alternatives : Expression → List Expression
  | .choice first second => first.alternatives ++ second.alternatives
  | other => [other]

/-- Expressions one after another, taken as they are. -/
def chain : List Expression → Expression
  | [] => .empty
  | [only] => only
  | first :: rest => .sequence first (chain rest)

/-- Alternatives in the order of preference, taken as they are. -/
def among : List Expression → Expression
  | [] => never
  | [only] => only
  | first :: rest => .choice first (among rest)

/-- Parts of a sequence with adjacent literals joined and empty parts left out. -/
def joinLiterals : List Expression → List Expression
  | [] => []
  | .empty :: rest => joinLiterals rest
  | .literal text :: rest =>
      match joinLiterals rest with
      | .literal more :: others => .literal (text ++ more) :: others
      | others => .literal text :: others
  | first :: rest => first :: joinLiterals rest

/-- Several expressions, one after another. -/
def sequenceOf (parts : List Expression) : Expression :=
  chain (joinLiterals (parts.flatMap factors))

/-- The set of an expression that matches single characters. -/
def asSet? : Expression → Option CharSet
  | .one set => some set
  | .literal [char] => some (.single char)
  | _ => none

/-- The number of factors that two lists begin with. -/
def commonFactors : List Expression → List Expression → Nat
  | a :: first, b :: second => if a = b then commonFactors first second + 1 else 0
  | _, _ => 0

/-- The number of factors that all alternatives begin with; only sequences have any. -/
def sharedFactors : List Expression → Nat
  | [] => 0
  | first :: others =>
      if (first :: others).all fun alternative => 2 ≤ alternative.factors.length then
        others.foldl
          (fun count other => min count (commonFactors first.factors other.factors))
          first.factors.length
      else 0

/--
Several expressions, of which the first that fits is taken.  `bound` is the number of times that
common factors may be taken out.
-/
def choiceWith (bound : Nat) (parts : List Expression) : Expression :=
  match bound, parts.flatMap alternatives with
  | _, [only] => only
  | 0, all => among all
  | bound + 1, all =>
      match all.mapM asSet? with
      | some sets => if sets.isEmpty then never else ofSet (CharSet.unions sets)
      | none =>
          let count := sharedFactors all
          if all.length < 2 ∨ count = 0 then among all
          else
            let front := (all.head?.map factors).getD []
            sequenceOf
              (front.take count ++
                [choiceWith bound (all.map fun part => sequenceOf (part.factors.drop count))])

/-- Several expressions, of which the first that fits is taken. -/
def choiceOf (parts : List Expression) : Expression :=
  choiceWith (parts.foldr (fun part total => part.size + total) 0 + 1) parts

/--
An expression between two numbers of times.  One that matches the empty text alone need not be
matched twice, and no repetition is left where there is exactly one time or none.
-/
def repeated (low : Nat) (high : Option Nat) (greedy : Bool) (body : Expression) : Expression :=
  let isIdle := body.greatestLength? == some 0
  let low := if isIdle then min low 1 else low
  let high := if isIdle then some (min (high.getD 1) 1) else high
  if low = 0 ∧ high = some 0 then .empty
  else if low = 1 ∧ high = some 1 then body
  else .repetition low high greedy body

end Expression

end LogPipeline.Regex
