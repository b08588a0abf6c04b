import LogPipeline.Pattern.Lexer
import Mathlib.Tactic.SplitIfs

/-!
# Walks of the lexer

A walk takes the lexer over some characters without ending the pattern behind
them.  It gives the place that is reached, the buffer there, and the tokens
completed on the way.  The column of a character shows in the text of an error
only, so walks have none.

Walks over a concatenation are walks over its two parts, one after the other.
The tokens of a pattern are those of the walk over it, followed by those that
its end completes.
-/

namespace LogPipeline.Pattern

/-- The place of an escaped character shows in errors only. -/
theorem EscapeMode.escape_column
    {mode : EscapeMode}
    {specials : List Char}
    {next : Char}
    {column : Nat}
    {meaning : List Char}
    (escaped : mode.escape specials next column = .ok meaning)
    (other : Nat) :
    mode.escape specials next other = .ok meaning := by
  cases mode with
  | regular =>
      simp only [EscapeMode.escape] at escaped ⊢
      split_ifs at escaped ⊢
      all_goals exact escaped
  | almostAsIs => exact escaped
  | restricted => exact escaped

/-- The step with tokens that were completed before it. -/
def LexStep.behind (tokens : List Token) (step : LexStep) : LexStep :=
  { step with tokens := tokens ++ step.tokens }

@[simp]
theorem LexStep.behind_mk
    (tokens more : List Token)
    (state : LexState)
    (buffer : List Char) :
    LexStep.behind tokens ⟨state, buffer, more⟩ =
      ⟨state, buffer, tokens ++ more⟩ :=
  rfl

@[simp]
theorem LexStep.behind_nil (step : LexStep) :
    step.behind [] = step :=
  rfl

namespace LexState

/-- The place of a character shows in errors only. -/
theorem step_column
    {mode : EscapeMode}
    {state : LexState}
    {buffer : List Char}
    {column : Nat}
    {char : Char}
    {next : LexStep}
    (stepped : state.step mode buffer column char = .ok next)
    (other : Nat) :
    state.step mode buffer other char = .ok next := by
  cases state with
  | escaped specials =>
      simp only [step] at stepped ⊢
      cases meant : mode.escape specials char column with
      | error error =>
          rw [meant] at stepped
          cases stepped
      | ok meaning =>
          rw [meant] at stepped
          rw [EscapeMode.escape_column meant other]
          exact stepped
  | _ => exact stepped

/--
The place and the buffer that some characters lead to, with the tokens that
they complete; there is none if the lexer refuses one of the characters.
-/
def walk
    (mode : EscapeMode)
    (state : LexState)
    (buffer : List Char) :
    List Char → Option LexStep
  | [] => some ⟨state, buffer, []⟩
  | char :: rest =>
      match state.step mode buffer 1 char with
      | .error _ => none
      | .ok next =>
          (walk mode next.state next.buffer rest).map (.behind next.tokens)

@[simp]
theorem walk_nil
    (mode : EscapeMode)
    (state : LexState)
    (buffer : List Char) :
    walk mode state buffer [] = some ⟨state, buffer, []⟩ :=
  rfl

theorem walk_cons
    {mode : EscapeMode}
    {state : LexState}
    {buffer : List Char}
    {char : Char}
    {next : LexStep}
    (stepped : state.step mode buffer 1 char = .ok next)
    (rest : List Char) :
    walk mode state buffer (char :: rest) =
      (walk mode next.state next.buffer rest).map (.behind next.tokens) := by
  rw [walk, stepped]

/-- A walk over a concatenation, when the walk over its first part is known. -/
theorem walk_append
    {mode : EscapeMode}
    {state : LexState}
    {buffer front : List Char}
    {middle : LexStep}
    (walked : walk mode state buffer front = some middle)
    (back : List Char) :
    walk mode state buffer (front ++ back) =
      (walk mode middle.state middle.buffer back).map
        (.behind middle.tokens) := by
  induction front generalizing state buffer middle with
  | nil =>
      cases walked
      rw [List.nil_append]
      cases walk mode state buffer back <;> rfl
  | cons char rest ih =>
      rw [walk] at walked
      cases stepped : state.step mode buffer 1 char with
      | error error =>
          rw [stepped] at walked
          cases walked
      | ok next =>
          rw [stepped] at walked
          rcases Option.map_eq_some_iff.mp walked with ⟨last, lastWalked, rfl⟩
          rw [List.cons_append, walk_cons stepped, ih lastWalked, Option.map_map]
          congr 1
          funext step
          simp [LexStep.behind]

/-- A step and then a walk. -/
theorem walk_cons_trans
    {mode : EscapeMode}
    {state middle final : LexState}
    {buffer middleBuffer finalBuffer rest : List Char}
    {char : Char}
    {first second : List Token}
    (stepped :
      state.step mode buffer 1 char = .ok ⟨middle, middleBuffer, first⟩)
    (continued :
      walk mode middle middleBuffer rest = some ⟨final, finalBuffer, second⟩) :
    walk mode state buffer (char :: rest) =
      some ⟨final, finalBuffer, first ++ second⟩ := by
  rw [walk_cons stepped, continued]
  rfl

/-- Two walks, one after the other. -/
theorem walk_trans
    {mode : EscapeMode}
    {state middle final : LexState}
    {buffer middleBuffer finalBuffer front back : List Char}
    {first second : List Token}
    (walked : walk mode state buffer front = some ⟨middle, middleBuffer, first⟩)
    (continued :
      walk mode middle middleBuffer back = some ⟨final, finalBuffer, second⟩) :
    walk mode state buffer (front ++ back) =
      some ⟨final, finalBuffer, first ++ second⟩ := by
  rw [walk_append walked, continued]
  rfl

end LexState

/-- The tokens of the characters are those of the walk and of the end. -/
theorem lexFrom_eq_ok_iff
    {mode : EscapeMode}
    {state : LexState}
    {buffer chars : List Char}
    (column : Nat)
    {tokens : List Token} :
    lexFrom mode state buffer column chars = .ok tokens ↔
      ∃ last ending,
        state.walk mode buffer chars = some last ∧
          last.state.finish last.buffer = .ok ending ∧
          tokens = last.tokens ++ ending := by
  induction chars generalizing state buffer column tokens with
  | nil =>
      constructor
      · intro lexed
        exact ⟨_, tokens, rfl, lexed, rfl⟩
      · rintro ⟨last, ending, walked, finished, rfl⟩
        cases walked
        exact finished
  | cons char rest ih =>
      constructor
      · intro lexed
        rw [lexFrom] at lexed
        cases stepped : state.step mode buffer (column + 1) char with
        | error error =>
            rw [stepped] at lexed
            cases lexed
        | ok next =>
            rw [stepped] at lexed
            dsimp only at lexed
            cases lexedRest :
                lexFrom mode next.state next.buffer (column + 1) rest with
            | error error =>
                rw [lexedRest] at lexed
                cases lexed
            | ok more =>
                rw [lexedRest] at lexed
                cases lexed
                rcases (ih _).mp lexedRest with
                  ⟨last, ending, walked, finished, rfl⟩
                refine ⟨last.behind next.tokens, ending, ?_, finished, ?_⟩
                · rw [LexState.walk_cons (LexState.step_column stepped 1), walked]
                  rfl
                · exact (List.append_assoc _ _ _).symm
      · rintro ⟨last, ending, walked, finished, rfl⟩
        rw [LexState.walk] at walked
        cases stepped : state.step mode buffer 1 char with
        | error error =>
            rw [stepped] at walked
            cases walked
        | ok next =>
            rw [stepped] at walked
            rcases Option.map_eq_some_iff.mp walked with
              ⟨final, walkedRest, rfl⟩
            have lexedRest :
                lexFrom mode next.state next.buffer (column + 1) rest =
                  .ok (final.tokens ++ ending) :=
              (ih _).mpr ⟨final, ending, walkedRest, finished, rfl⟩
            rw [lexFrom, LexState.step_column stepped (column + 1)]
            simp only [lexedRest]
            rw [LexStep.behind, List.append_assoc]

/-- The tokens of some characters, when the walk over them is known. -/
theorem lexFrom_of_walk
    {mode : EscapeMode}
    {state : LexState}
    {buffer chars : List Char}
    {last : LexStep}
    (walked : state.walk mode buffer chars = some last)
    (column : Nat) :
    lexFrom mode state buffer column chars =
      (last.state.finish last.buffer).map (last.tokens ++ ·) := by
  induction chars generalizing state buffer column last with
  | nil =>
      cases walked
      rw [lexFrom]
      cases state.finish buffer <;> rfl
  | cons char rest ih =>
      rw [LexState.walk] at walked
      cases stepped : state.step mode buffer 1 char with
      | error error =>
          rw [stepped] at walked
          cases walked
      | ok next =>
          rw [stepped] at walked
          obtain ⟨final, walkedRest, rfl⟩ := Option.map_eq_some_iff.mp walked
          rw [lexFrom, LexState.step_column stepped (column + 1)]
          dsimp only
          rw [ih walkedRest (column + 1), LexStep.behind]
          dsimp only
          cases final.state.finish final.buffer with
          | error error => rfl
          | ok ending => exact congrArg Except.ok (List.append_assoc _ _ _).symm

/-- A pattern has tokens if it is not empty and the lexer accepts its end. -/
theorem tokenize_eq_ok_iff
    {mode : EscapeMode}
    {pattern : String}
    {tokens : List Token} :
    tokenize mode pattern = .ok tokens ↔
      pattern.toList ≠ [] ∧
        ∃ last ending,
          LexState.walk mode .literal [] pattern.toList = some last ∧
            last.state.finish last.buffer = .ok ending ∧
            tokens = last.tokens ++ ending := by
  rw [← lexFrom_eq_ok_iff 0, tokenize]
  by_cases empty : pattern = ""
  · subst empty
    simp
  · have nonempty : pattern.isEmpty = false := by
      simpa using empty
    simp [nonempty, empty]

end LogPipeline.Pattern
