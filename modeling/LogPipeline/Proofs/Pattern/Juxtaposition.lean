import LogPipeline.Proofs.Pattern.Derivation

/-!
# Patterns side by side

A percent sign opens a conversion wherever the lexer can end a pattern, except
behind a backslash and right behind a closing parenthesis.  There it begins
literal text, so that a conversion written directly after the children of
another one is taken as text.
-/

namespace LogPipeline.Pattern

open LexState

/-! ## Where a pattern ends -/

/-- Where the lexer stands at the end of a pattern. -/
def endState? (mode : EscapeMode) (pattern : String) : Option LexState :=
  (walk mode .literal [] pattern.toList).map (·.state)

/-- The pattern ends in a backslash that has nothing to escape. -/
def EndsInBackslash (mode : EscapeMode) (pattern : String) : Prop :=
  ∃ specials, endState? mode pattern = some (.escaped specials)

/-- The pattern ends in a parenthesis that closes the children of a conversion. -/
def EndsInParenthesis (mode : EscapeMode) (pattern : String) : Prop :=
  endState? mode pattern = some .closed

/-- Where a pattern ends that is no open escape, the lexer is in none. -/
theorem ne_escaped_of_walk
    {mode : EscapeMode}
    {pattern : String}
    {last : LexStep}
    (walked : walk mode .literal [] pattern.toList = some last)
    (complete : ¬ EndsInBackslash mode pattern) :
    ∀ specials, last.state ≠ .escaped specials := by
  intro specials escaped
  refine complete ⟨specials, ?_⟩
  rw [endState?, walked, Option.map_some, escaped]

/-! ## Behind literal text and words -/

/-- A percent sign completes what the end of the pattern would complete. -/
theorem LexState.step_percent
    {mode : EscapeMode}
    {state : LexState}
    {buffer : List Char}
    {ending : List Token}
    (finished : state.finish buffer = .ok ending)
    (notEscaped : ∀ specials, state ≠ .escaped specials)
    (notClosed : state ≠ .closed) :
    state.step mode buffer 1 '%' =
      .ok ⟨.modifier, [], ending ++ [.percent]⟩ := by
  cases state with
  | literal =>
      cases finished
      rfl
  | escaped specials => exact absurd rfl (notEscaped specials)
  | modifier => cases finished
  | word =>
      cases finished
      have notPart : isWordPart '%' = false := by decide
      simp [step, notPart]
  | closed => exact absurd rfl notClosed
  | opened => cases finished
  | options values place => cases finished

/-- Behind what ends a pattern, the lexer reads a conversion as in front. -/
theorem LexState.walk_percent
    {mode : EscapeMode}
    {state : LexState}
    {buffer rest : List Char}
    {ending : List Token}
    (stepped :
      state.step mode buffer 1 '%' =
        .ok ⟨.modifier, [], ending ++ [.percent]⟩) :
    walk mode state buffer ('%' :: rest) =
      (walk mode .literal [] ('%' :: rest)).map (.behind ending) := by
  have front :
      LexState.literal.step mode [] 1 '%' = .ok ⟨.modifier, [], [.percent]⟩ :=
    rfl
  rw [walk_cons stepped, walk_cons front, Option.map_map]
  congr 1
  funext last
  simp [LexStep.behind]

/-! ## Behind a parenthesis -/

/-- The lexer reads literal text, or an escape in it. -/
def LexState.inText : LexState → Bool
  | .literal => true
  | .escaped _ => true
  | _ => false

/-- Literal text that was begun grows, or it is completed. -/
theorem LexState.step_inText
    {mode : EscapeMode}
    {state : LexState}
    {buffer : List Char}
    {char : Char}
    {next : LexStep}
    (inside : state.inText = true)
    (begun : buffer ≠ [])
    (stepped : state.step mode buffer 1 char = .ok next) :
    (next.state.inText = true ∧ next.buffer ≠ [] ∧ next.tokens = []) ∨
      ∃ text more, next.tokens = .literal text :: more := by
  have completed : bufferToken .literal buffer = [.literal (String.ofList buffer)] := by
    simp [bufferToken, begun]
  cases state with
  | literal =>
      simp only [step] at stepped
      split_ifs at stepped
      · cases stepped
        exact Or.inl ⟨rfl, begun, rfl⟩
      · cases stepped
        exact Or.inr ⟨_, _, by rw [completed]; rfl⟩
      · cases stepped
        exact Or.inr ⟨_, _, completed⟩
      · cases stepped
        exact Or.inl ⟨rfl, by simp, rfl⟩
  | escaped specials =>
      simp only [step] at stepped
      split at stepped
      · cases stepped
        exact Or.inl ⟨rfl, by simp [begun], rfl⟩
      · cases stepped
  | _ => cases inside

/-- Literal text that was begun comes out first. -/
theorem LexState.exists_literal_of_walk
    {mode : EscapeMode}
    {state : LexState}
    {buffer chars : List Char}
    {last : LexStep}
    {ending : List Token}
    (inside : state.inText = true)
    (begun : buffer ≠ [])
    (walked : walk mode state buffer chars = some last)
    (finished : last.state.finish last.buffer = .ok ending) :
    ∃ text more, last.tokens ++ ending = .literal text :: more := by
  induction chars generalizing state buffer last with
  | nil =>
      cases walked
      have completed :
          bufferToken .literal buffer = [.literal (String.ofList buffer)] := by
        simp [bufferToken, begun]
      cases state with
      | literal =>
          cases finished
          exact ⟨_, [], completed⟩
      | escaped specials =>
          cases finished
          exact ⟨_, [], completed⟩
      | _ => cases inside
  | cons char rest ih =>
      rw [walk] at walked
      cases stepped : state.step mode buffer 1 char with
      | error error =>
          rw [stepped] at walked
          cases walked
      | ok next =>
          rw [stepped] at walked
          rcases Option.map_eq_some_iff.mp walked with
            ⟨final, walkedRest, rfl⟩
          rcases step_inText inside begun stepped with
            grown | ⟨text, more, completed⟩
          · rcases grown with ⟨insideNext, begunNext, silent⟩
            rcases ih insideNext begunNext walkedRest finished with
              ⟨text, more, first⟩
            exact ⟨text, more, by simpa [LexStep.behind, silent] using first⟩
          · refine ⟨text, more ++ (final.tokens ++ ending), ?_⟩
            simp [LexStep.behind, completed]

/-- The tokens of a conversion begin with a percent sign. -/
theorem LexState.exists_percent_of_walk
    {mode : EscapeMode}
    {rest : List Char}
    {last : LexStep}
    (walked : walk mode .literal [] ('%' :: rest) = some last) :
    ∃ tokens, last.tokens = .percent :: tokens := by
  have stepped :
      LexState.literal.step mode [] 1 '%' = .ok ⟨.modifier, [], [.percent]⟩ :=
    rfl
  rw [walk_cons stepped] at walked
  rcases Option.map_eq_some_iff.mp walked with ⟨final, _, rfl⟩
  exact ⟨final.tokens, rfl⟩

/-- What is derived from a percent sign does not begin with literal text. -/
theorem Derives.ne_literal_of_percent
    {text : String}
    {tokens : List Token}
    {nodes more : List Node}
    (derived : Derives (.percent :: tokens) nodes) :
    nodes ≠ .literal text :: more := by
  rintro rfl
  cases derived

/-- Behind derived tokens, text is taken as a literal node. -/
theorem Derives.exists_literal_of_append
    {text : String}
    {first more : List Token}
    {nodes others : List Node}
    (derived : Derives first nodes)
    (together : Derives (first ++ .literal text :: more) (nodes ++ others)) :
    ∃ later, others = .literal text :: later := by
  have parsed :
      Pattern.parseTokens (first ++ .literal text :: more) =
        (Pattern.parseTokens (.literal text :: more)).map (prependRead nodes) :=
    derived.parseTokens_append rfl
  rw [together.parseTokens, parseTokens_literal] at parsed
  cases readMore : Pattern.parseTokens more with
  | error error =>
      rw [readMore] at parsed
      cases parsed
  | ok read =>
      rw [readMore] at parsed
      injection parsed with equal
      exact ⟨read.1, List.append_cancel_left (congrArg Prod.fst equal)⟩

/-! ## A conversion behind a pattern -/

/--
A pattern followed by one that begins with a percent sign has the nodes of
both, unless the first one ends in the parenthesis that closes the children of
a conversion.
-/
theorem reads_append_iff
    {mode : EscapeMode}
    {first second : String}
    {nodes others : List Node}
    (readsFirst : Reads mode first nodes)
    (readsSecond : Reads mode second others)
    (opens : second.toList.head? = some '%')
    (complete : ¬ EndsInBackslash mode first) :
    Reads mode (first ++ second) (nodes ++ others) ↔
      ¬ EndsInParenthesis mode first := by
  rcases reads_iff_derives.mp readsFirst with
    ⟨nonempty, ⟨state, buffer, tokens⟩, ending, walked, finished, derived⟩
  rcases reads_iff_derives.mp readsSecond with
    ⟨_, last, lastEnding, lastWalked, lastFinished, lastDerived⟩
  rcases List.head?_eq_some_iff.mp opens with ⟨rest, equal⟩
  rw [equal] at lastWalked
  have atEnd : endState? mode first = some state := by
    rw [endState?, walked]
    rfl
  have notEscaped : ∀ specials, state ≠ .escaped specials := by
    rintro specials rfl
    exact complete ⟨specials, atEnd⟩
  constructor
  · intro readsBoth closed
    have isClosed : state = .closed :=
      Option.some.inj (atEnd.symm.trans closed)
    subst isClosed
    cases finished
    have stepped :
        LexState.closed.step mode buffer 1 '%' =
          .ok ⟨.literal, ['%'], [.rightParenthesis]⟩ :=
      rfl
    rcases reads_iff_derives.mp readsBoth with
      ⟨_, both, bothEnding, bothWalked, bothFinished, bothDerived⟩
    rw [String.toList_append, equal, walk_append walked, walk_cons stepped]
      at bothWalked
    rcases Option.map_eq_some_iff.mp bothWalked with ⟨_, behindWalked, rfl⟩
    rcases Option.map_eq_some_iff.mp behindWalked with ⟨final, restWalked, rfl⟩
    rcases exists_literal_of_walk rfl (List.cons_ne_nil _ _) restWalked bothFinished with
      ⟨text, more, isText⟩
    have together :
        Derives
          ((tokens ++ [.rightParenthesis]) ++ .literal text :: more)
          (nodes ++ others) := by
      rw [← isText]
      simpa [LexStep.behind] using bothDerived
    rcases derived.exists_literal_of_append together with ⟨later, isLiteral⟩
    rcases exists_percent_of_walk lastWalked with ⟨lastTokens, isPercent⟩
    rw [isPercent] at lastDerived
    exact lastDerived.ne_literal_of_percent isLiteral
  · intro notParenthesis
    have notClosed : state ≠ .closed := by
      rintro rfl
      exact notParenthesis atEnd
    have stepped :
        state.step mode buffer 1 '%' =
          .ok ⟨.modifier, [], ending ++ [.percent]⟩ :=
      step_percent finished notEscaped notClosed
    have continued :
        walk mode state buffer second.toList = some (last.behind ending) := by
      rw [equal, walk_percent stepped, lastWalked]
      rfl
    refine
      reads_iff_derives.mpr
        ⟨by simp [nonempty], (last.behind ending).behind tokens, lastEnding, ?_,
          lastFinished, ?_⟩
    · rw [String.toList_append, walk_append walked, continued]
      rfl
    · simpa [LexStep.behind] using derived.append lastDerived

/-- Two conversions can be written without anything between them. -/
theorem reads_append_words :
    Reads .regular ("%level" ++ "%n")
      [.conversion "level" none [], .conversion "n" none []] := by
  have readsLevel : Reads .regular "%level" [.conversion "level" none []] :=
    reads_iff_derives.mpr
      ⟨by decide, ⟨.word, "level".toList, [.percent]⟩, _, rfl, rfl,
        .conversion .absent .absent .nil⟩
  have readsNewline : Reads .regular "%n" [.conversion "n" none []] :=
    reads_iff_derives.mpr
      ⟨by decide, ⟨.word, "n".toList, [.percent]⟩, _, rfl, rfl,
        .conversion .absent .absent .nil⟩
  have atEnd : endState? .regular "%level" = some .word := rfl
  have complete : ¬ EndsInBackslash .regular "%level" := by
    rintro ⟨specials, ends⟩
    rw [atEnd] at ends
    cases ends
  have notParenthesis : ¬ EndsInParenthesis .regular "%level" := by
    intro ends
    rw [EndsInParenthesis, atEnd] at ends
    cases ends
  exact (reads_append_iff readsLevel readsNewline rfl complete).mpr notParenthesis

/--
Behind the children of a conversion, a conversion is taken as text, although
both patterns are read when they stand alone.
-/
theorem not_reads_append_parenthesis :
    Reads .regular "%(a)" [.composite "BARE" none [] [.literal "a"]] ∧
      Reads .regular "%b" [.conversion "b" none []] ∧
      ¬ EndsInBackslash .regular "%(a)" ∧
      Reads .regular ("%(a)" ++ "%b")
        [.composite "BARE" none [] [.literal "a"], .literal "%b"] ∧
      ¬ Reads .regular ("%(a)" ++ "%b")
        [.composite "BARE" none [] [.literal "a"], .conversion "b" none []] := by
  have readsText :
      Reads .regular ("%(a)" ++ "%b")
        [.composite "BARE" none [] [.literal "a"], .literal "%b"] :=
    reads_iff_derives.mpr
      ⟨by decide,
        ⟨.literal, "%b".toList,
          [.percent, .bare, .literal "a", .rightParenthesis]⟩,
        _, rfl, rfl,
        .composite .absent (.literal .nil) .absent (.literal .nil)⟩
  refine ⟨?_, ?_, ?_, readsText, ?_⟩
  · exact
      reads_iff_derives.mpr
        ⟨by decide, ⟨.closed, [], [.percent, .bare, .literal "a"]⟩, _, rfl, rfl,
          .composite .absent (.literal .nil) .absent .nil⟩
  · exact
      reads_iff_derives.mpr
        ⟨by decide, ⟨.word, "b".toList, [.percent]⟩, _, rfl, rfl,
          .conversion .absent .absent .nil⟩
  · rintro ⟨specials, ends⟩
    have atEnd : endState? .regular "%(a)" = some .closed := rfl
    rw [atEnd] at ends
    cases ends
  · intro readsConversion
    have equal := readsText.unique readsConversion
    simp at equal

end LogPipeline.Pattern
