import LogPipeline.Regex.Expression

/-!
# The size of compiled expressions

An expression is refused if a table of byte-wise states for it would take more than ten mebibytes,
read forwards or backwards.  Every state takes 32 bytes, every branch of a state that has several
another 4, and every byte range of a state that has several another 8.  A set beyond ASCII is made
of the sequences of byte ranges that encode its characters.  Forwards, equal ends of sequences are
shared; backwards, equal beginnings are.
-/

namespace LogPipeline.Regex

open Text (CharSet)

/-- The bytes that a state takes. -/
def stateSize : Nat := 32

/-- The bytes that a branch of a state takes. -/
def branchSize : Nat := 4

/-- The bytes that a byte range of a state takes. -/
def rangeSize : Nat := 8

/-- The bytes that a compiled expression may take. -/
def sizeLimit : Nat := 10485760

/-- A range of bytes. -/
abbrev ByteRange := Nat × Nat

/-- The bytes of a code point in the encoding, which takes one to four of them. -/
def encode (code : Nat) : List Nat :=
  if code < 0x80 then [code]
  else if code < 0x800 then [0xc0 + code / 0x40, 0x80 + code % 0x40]
  else if code < 0x10000 then
    [0xe0 + code / 0x1000, 0x80 + code / 0x40 % 0x40, 0x80 + code % 0x40]
  else
    [0xf0 + code / 0x40000, 0x80 + code / 0x1000 % 0x40, 0x80 + code / 0x40 % 0x40,
      0x80 + code % 0x40]

/-- Where a range of code points has to be cut so that both parts are simpler to encode. -/
def cut? (low high : Nat) : Option (Nat × Nat) :=
  if low < 0xd800 ∧ 0xd800 ≤ high then some (0xd7ff, 0xe000)
  else
    match [0x7f, 0x7ff, 0xffff].find? fun last => low ≤ last && last < high with
    | some last => some (last, last + 1)
    | none =>
        if high < 0x80 then none
        else [0x40, 0x1000, 0x40000].findSome? fun unit =>
          if low / unit = high / unit then none
          else if low % unit ≠ 0 then some (low / unit * unit + unit - 1, low / unit * unit + unit)
          else if high % unit ≠ unit - 1 then some (high / unit * unit - 1, high / unit * unit)
          else none

/-- The sequences of byte ranges of a range of code points; `bound` limits the nested cuts. -/
def sequencesOf (bound low high : Nat) : List (List ByteRange) :=
  match bound with
  | 0 => []
  | bound + 1 =>
      if high < low then []
      else
        match cut? low high with
        | some (left, right) => sequencesOf bound low left ++ sequencesOf bound right high
        | none => [(encode low).zip (encode high)]

/-- The sequences of byte ranges of a set, in increasing order. -/
def byteSequences (set : CharSet) : List (List ByteRange) :=
  set.ranges.toList.flatMap fun range =>
    -- The codes of surrogates are no characters.
    if 0xd800 ≤ range.1 ∧ range.1 < 0xe000 then sequencesOf 20 0xe000 range.2
    else if 0xd800 ≤ range.2 ∧ range.2 < 0xe000 then sequencesOf 20 range.1 0xd7ff
    else sequencesOf 20 range.1 range.2

/-- Sequences grouped by their first range, where those with the same one stand together. -/
def byFirst : List (List ByteRange) → List (ByteRange × List (List ByteRange))
  | [] => []
  | [] :: rest => byFirst rest
  | (range :: later) :: rest =>
      match byFirst rest with
      | (next, group) :: others =>
          if next = range then (range, later :: group) :: others
          else (range, [later]) :: (next, group) :: others
      | [] => [(range, [later])]

/-- The number of different beginnings of sequences; `depth` is at least their length. -/
def countBeginnings : Nat → List (List ByteRange) → Nat
  | 0, _ => 0
  | depth + 1, sequences =>
      let groups := byFirst sequences
      groups.length + (groups.map fun group => countBeginnings depth group.2).sum

/-- A state for the rest of some sequences: its ranges with the numbers of the states behind. -/
abbrev Ending := List (ByteRange × Nat)

/--
The number of the state for some sequences and all states so far.  Number 0 is the end of every
sequence, and equal states have one number.
-/
def shareEndings : Nat → List (List ByteRange) → Array Ending → Nat × Array Ending
  | 0, _, states => (0, states)
  | depth + 1, sequences, states =>
      match byFirst sequences with
      | [] => (0, states)
      | groups =>
          let (branches, states) := groups.foldl
            (fun (branches, states) group =>
              let (number, states) := shareEndings depth group.2 states
              ((group.1, number) :: branches, states))
            (([] : Ending), states)
          match states.findIdx? (· == branches) with
          | some index => (index + 1, states)
          | none => (states.size + 1, states.push branches)

/-- The bytes of a set, read forwards or backwards. -/
def setSize (backwards : Bool) (set : CharSet) : Nat :=
  if set.isAscii then 2 * stateSize + set.ranges.size * rangeSize
  else
    let sequences := byteSequences set
    if backwards then
      2 * stateSize + sequences.length * branchSize + countBeginnings 5 sequences * stateSize
    else
      let states := (shareEndings 5 sequences #[]).2
      stateSize + states.foldl (fun total state => total + stateSize + state.length * rangeSize) 0

/-- The bytes of a state with two branches. -/
def forkSize : Nat := stateSize + 2 * branchSize

/-- The bytes of an expression, read forwards or backwards. -/
def Expression.compiledSize (backwards : Bool) : Expression → Nat
  | .empty => stateSize
  | .literal text => (text.map fun char => (encode char.toNat).length).sum * stateSize
  | .one set => setSize backwards set
  | .boundary _ => stateSize
  | .repetition low high _ body =>
      let once := body.compiledSize backwards
      match high with
      | some high =>
          if low = 0 ∧ high = 1 then forkSize + once + stateSize
          else
            (if low = 0 then stateSize else low * once) +
              if low = high then 0 else stateSize + (high - low) * (forkSize + once)
      | none =>
          if low = 0 then
            if body.isNeverEmpty then forkSize + once else once + 2 * forkSize + stateSize
          else low * once + forkSize
  | .group _ body => (if backwards then 0 else 2 * stateSize) + body.compiledSize backwards
  | .sequence first second => first.compiledSize backwards + second.compiledSize backwards
  | .choice first second =>
      -- The state of a choice has a branch for every alternative and one state behind them all.
      let rest := second.compiledSize backwards
      match second with
      | .choice _ _ => first.compiledSize backwards + rest + branchSize
      | _ => first.compiledSize backwards + rest + forkSize + stateSize

/-- The bytes around every expression: a loop over what precedes a match, and the match itself. -/
def surroundingSize (backwards : Bool) : Nat :=
  forkSize + 2 * stateSize + rangeSize + (if backwards then 1 else 3) * stateSize

/-- Whether an expression may be compiled. -/
def Expression.fits (expression : Expression) : Bool :=
  [false, true].all fun backwards =>
    expression.compiledSize backwards + surroundingSize backwards ≤ sizeLimit

end LogPipeline.Regex
