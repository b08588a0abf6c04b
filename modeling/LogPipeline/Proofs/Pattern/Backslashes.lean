import LogPipeline.Proofs.Pattern.Lexing
import LogPipeline.Proofs.Text.Runs
import Mathlib.Data.List.Induction

/-!
# Backslashes in patterns that are taken almost as they are

In a pattern that is taken almost as it is, a backslash is read together with the
character behind it, and both are kept.  So the backslashes of a run are used up
in pairs, and only at the end of the pattern one can be left that has nothing
behind it.  Whether there is one is a matter of how long the last run is.
-/

namespace LogPipeline.Pattern

open Text

/-- A text without the backslash at its end if that is one of an odd number in a row. -/
def withoutLoneBackslash (text : List Char) : List Char :=
  if endRun '\\' text % 2 = 1 then text.dropLast else text

/-- Where the lexer stands behind a text that is taken almost as it is. -/
def verbatimState (text : List Char) : LexState :=
  if endRun '\\' text % 2 = 1 then .escaped textSpecials else .literal

variable {text : List Char} {char : Char}

/-- Behind an even number of backslashes a character is read by itself. -/
theorem step_verbatim_literal
    (even : ¬ endRun '\\' text % 2 = 1)
    (notPercent : char ≠ '%')
    (notClosing : char ≠ ')') :
    LexState.literal.step .almostAsIs text 1 char =
      .ok ⟨verbatimState (text ++ [char]), withoutLoneBackslash (text ++ [char]), []⟩ := by
  rw [verbatimState, withoutLoneBackslash, endRun_concat]
  by_cases backslash : char = '\\'
  · have odd : (endRun '\\' text + 1) % 2 = 1 := by
      omega
    rw [if_pos backslash, if_pos odd, if_pos odd, List.dropLast_concat, LexState.step,
      if_pos backslash]
  · rw [if_neg backslash, if_neg (by decide), if_neg (by decide), LexState.step,
      if_neg backslash, if_neg notPercent, if_neg notClosing]

/-- Behind an odd number of backslashes the last one is kept together with the character. -/
theorem step_verbatim_escaped
    (odd : endRun '\\' text % 2 = 1)
    (notPercent : char ≠ '%')
    (notClosing : char ≠ ')') :
    (LexState.escaped textSpecials).step .almostAsIs text.dropLast 1 char =
      .ok ⟨verbatimState (text ++ [char]), withoutLoneBackslash (text ++ [char]), []⟩ := by
  have least : 1 ≤ endRun '\\' text := by
    omega
  have ends : ['\\'] <:+ text := replicate_suffix least
  obtain ⟨front, rfl⟩ := ends
  have even : ¬ endRun '\\' (front ++ ['\\'] ++ [char]) % 2 = 1 := by
    rw [endRun_concat]
    split
    · omega
    · decide
  have kept : EscapeMode.verbatim ['%', ')'] char = ['\\', char] := by
    simp [EscapeMode.verbatim, notPercent, notClosing]
  rw [verbatimState, withoutLoneBackslash, if_neg even, if_neg even, LexState.step,
    EscapeMode.escape, kept, List.dropLast_concat, List.append_assoc]
  rfl

/-- Reading one more character. -/
theorem step_verbatim
    (text : List Char)
    (notPercent : char ≠ '%')
    (notClosing : char ≠ ')') :
    (verbatimState text).step .almostAsIs (withoutLoneBackslash text) 1 char =
      .ok ⟨verbatimState (text ++ [char]), withoutLoneBackslash (text ++ [char]), []⟩ := by
  by_cases odd : endRun '\\' text % 2 = 1
  · rw [verbatimState, withoutLoneBackslash, if_pos odd, if_pos odd]
    exact step_verbatim_escaped odd notPercent notClosing
  · rw [verbatimState, withoutLoneBackslash, if_neg odd, if_neg odd]
    exact step_verbatim_literal odd notPercent notClosing

theorem walk_verbatim
    (noPercent : '%' ∉ text)
    (noClosing : ')' ∉ text) :
    LexState.walk .almostAsIs .literal [] text =
      some ⟨verbatimState text, withoutLoneBackslash text, []⟩ := by
  -- The pairs of a run are counted from the left, so the text grows at its right end.
  induction text using List.reverseRecOn with
  | nil => rfl
  | append_singleton text char ih =>
      rw [List.mem_append, not_or, List.mem_singleton] at noPercent noClosing
      have stepped := step_verbatim text (Ne.symm noPercent.2) (Ne.symm noClosing.2)
      have once := LexState.walk_cons_trans stepped (LexState.walk_nil .almostAsIs _ _)
      exact LexState.walk_trans (ih noPercent.1 noClosing.1) once

/-- A backslash with nothing behind it is dropped at the end. -/
theorem finish_verbatimState (text buffer : List Char) :
    (verbatimState text).finish buffer = .ok (bufferToken .literal buffer) := by
  rw [verbatimState]
  split
  · rfl
  · rfl

/--
A pattern without percent signs and closing parentheses that is taken almost as it
is gives one literal with all its characters, except that a backslash with nothing
left to escape is lost; of nothing there is no literal.
-/
theorem tokenize_almostAsIs
    {pattern : String}
    (nonempty : pattern ≠ "")
    (noPercent : '%' ∉ pattern.toList)
    (noClosing : ')' ∉ pattern.toList) :
    tokenize .almostAsIs pattern =
      .ok
        (if withoutLoneBackslash pattern.toList = [] then []
        else [.literal (String.ofList (withoutLoneBackslash pattern.toList))]) := by
  have some : ¬ pattern.isEmpty = true := by simpa using nonempty
  rw [tokenize, if_neg some, lexFrom_of_walk (walk_verbatim noPercent noClosing),
    finish_verbatimState]
  cases withoutLoneBackslash pattern.toList with
  | nil => rfl
  | cons => rfl

/-- Paths with one, two and three backslashes in a row. -/
theorem tokenize_almostAsIs_path :
    let pattern := "c:\\logs\\\\app\\n\\\\\\"
    pattern ≠ "" ∧
      '%' ∉ pattern.toList ∧
      ')' ∉ pattern.toList ∧
      tokenize .almostAsIs pattern = .ok [.literal "c:\\logs\\\\app\\n\\\\"] := by
  intro pattern
  have nonempty : pattern ≠ "" := by decide +kernel
  have noPercent : '%' ∉ pattern.toList := by decide +kernel
  have noClosing : ')' ∉ pattern.toList := by decide +kernel
  refine ⟨nonempty, noPercent, noClosing, ?_⟩
  rw [tokenize_almostAsIs nonempty noPercent noClosing]
  decide +kernel

end LogPipeline.Pattern
