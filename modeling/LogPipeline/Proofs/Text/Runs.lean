import Mathlib.Data.List.Infix

/-!
# Runs at the end of texts

How often a character stands in a row at the end of a text, and what becomes of
that when the text grows.
-/

namespace LogPipeline.Text

/-- How often a character stands in a row at the end of a text. -/
def endRun (char : Char) (chars : List Char) : Nat :=
  (chars.reverse.takeWhile (· == char)).length

variable {char : Char} {front back : List Char}

theorem endRun_concat (char : Char) (front : List Char) (next : Char) :
    endRun char (front ++ [next]) = if next = char then endRun char front + 1 else 0 := by
  rw [endRun, List.reverse_append, List.reverse_singleton, List.singleton_append,
    List.takeWhile_cons]
  by_cases same : next = char
  · simp [same, endRun]
  · simp [same]

/-- The run goes on to the left only if there is nothing else in what was added. -/
theorem endRun_append (char : Char) (front back : List Char) :
    endRun char (front ++ back) =
      if endRun char back = back.length then endRun char front + back.length
      else endRun char back := by
  rw [endRun, endRun, endRun, List.reverse_append, List.takeWhile_append,
    List.length_reverse]
  split
  · rw [List.length_append, List.length_reverse, Nat.add_comm]
  · rfl

theorem endRun_append_replicate (char : Char) (front : List Char) (count : Nat) :
    endRun char (front ++ List.replicate count char) = endRun char front + count := by
  induction count with
  | zero => rw [List.replicate_zero, List.append_nil, Nat.add_zero]
  | succ count ih =>
      rw [List.replicate_succ', ← List.append_assoc, endRun_concat, if_pos rfl, ih,
        Nat.add_assoc]

/-- The characters of the run are there. -/
theorem replicate_suffix
    {count : Nat}
    (least : count ≤ endRun char front) :
    List.replicate count char <:+ front := by
  induction count generalizing front with
  | zero => exact List.nil_suffix
  | succ count ih =>
      rcases List.eq_nil_or_concat' front with rfl | ⟨before, last, rfl⟩
      · exact absurd least (Nat.not_succ_le_zero count)
      · rw [endRun_concat] at least
        split at least
        next same =>
          obtain ⟨rest, rfl⟩ := ih (Nat.le_of_succ_le_succ least)
          refine ⟨rest, ?_⟩
          rw [same, List.replicate_succ', List.append_assoc]
        next => exact absurd least (Nat.not_succ_le_zero count)

end LogPipeline.Text
