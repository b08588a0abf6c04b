import LogPipeline.Proofs.Pattern.Interpretation
import LogPipeline.Proofs.Pattern.Juxtaposition
import LogPipeline.Proofs.Pattern.RoundTrip

/-!
# Patterns between parentheses

A pattern that is read when it stands alone is read between parentheses as
well.  The percent sign and the modifier in front of them lead the lexer back
to literal text with an empty buffer, so it walks over the pattern as if that
stood alone.  The parenthesis behind the pattern completes what its end would
complete, and so it is the one that closes the children.

The identity makes the text of a conversion without a word, so only the format
of the modifier comes in between when an event is rendered.
-/

namespace LogPipeline.Pattern

open LexState

/-! ## Behind the opening parenthesis -/

/-- A pattern between parentheses, behind a modifier. -/
def enclose (modifier pattern : String) : String :=
  "%" ++ modifier ++ "(" ++ pattern ++ ")"

theorem toList_enclose (modifier pattern : String) :
    (enclose modifier pattern).toList =
      '%' :: (modifier.toList ++ '(' :: (pattern.toList ++ [')'])) := by
  simp [enclose, String.toList_append]

/-- The lexer comes back to literal text behind the opening parenthesis. -/
theorem walk_opening
    {format : Option FieldFormat}
    {modifier : List Char}
    (mode : EscapeMode)
    (formatted : PrintsFormat format modifier) :
    walk mode .literal [] ('%' :: (modifier ++ ['('])) =
      some
        ⟨.literal, [], .percent :: (bufferToken .modifier modifier ++ [.bare])⟩ := by
  have percent :
      LexState.literal.step mode [] 1 '%' = .ok ⟨.modifier, [], [.percent]⟩ :=
    rfl
  have walkedModifier := walk_modifier mode [] formatted.isModifierChar
  have parenthesis :
      walk mode .modifier modifier ['('] =
        some ⟨.literal, [], bufferToken .modifier modifier ++ [.bare]⟩ := by
    simp [walk, step]
  simpa using walk_cons_trans percent (walk_trans walkedModifier parenthesis)

/-! ## The closing parenthesis -/

/-- A closing parenthesis completes what the end of the pattern would complete. -/
theorem LexState.step_parenthesis
    {mode : EscapeMode}
    {state : LexState}
    {buffer : List Char}
    {ending : List Token}
    (finished : state.finish buffer = .ok ending)
    (notEscaped : ∀ specials, state ≠ .escaped specials) :
    state.step mode buffer 1 ')' = .ok ⟨.closed, [], ending⟩ := by
  cases state with
  | literal =>
      cases finished
      rfl
  | escaped specials => exact absurd rfl (notEscaped specials)
  | modifier => cases finished
  | word =>
      cases finished
      have notPart : isWordPart ')' = false := by decide
      simp [step, notPart]
  | closed =>
      cases finished
      rfl
  | opened => cases finished
  | options values place => cases finished

/-- Between parentheses, a pattern is read as the children of one conversion. -/
theorem Reads.enclosed
    {mode : EscapeMode}
    {modifier pattern : String}
    {format : Option FieldFormat}
    {nodes : List Node}
    (reads : Reads mode pattern nodes)
    (complete : ¬ EndsInBackslash mode pattern)
    (formatted : PrintsFormat format modifier.toList) :
    Reads mode (enclose modifier pattern)
      [.composite Token.bareWord format [] nodes] := by
  rcases reads_iff_derives.mp reads with
    ⟨_, ⟨state, buffer, tokens⟩, ending, walked, finished, derived⟩
  have stepped :
      state.step mode buffer 1 ')' = .ok ⟨.closed, [], ending⟩ :=
    step_parenthesis finished (ne_escaped_of_walk walked complete)
  -- What completes the tokens of the pattern now comes out before the end.
  have closing :
      walk mode state buffer [')'] = some ⟨.closed, [], ending⟩ := by
    rw [walk_cons stepped]
    simp
  have walkedAll :=
    walk_trans (walk_opening mode formatted) (walk_trans walked closing)
  have derivedNode :
      Derives
        (.percent ::
          (bufferToken .modifier modifier.toList ++
            .bare :: ((tokens ++ ending) ++ .rightParenthesis :: ([] ++ []))))
        [.composite Token.bareWord format [] nodes] :=
    .composite formatted.modifierTokens derived .absent .nil
  rw [reads_iff_derives, toList_enclose]
  refine
    ⟨List.cons_ne_nil _ _, _, [.rightParenthesis], by simpa using walkedAll, rfl,
      ?_⟩
  simpa using derivedNode

/-! ## What a pattern between parentheses renders -/

/-- The piece of a pattern between parentheses formats the text of that pattern. -/
theorem render_bare
    (context : Context)
    (scene : Scene)
    (event : Event)
    (format : Option FieldFormat)
    (nodes : List Node) :
    Chain.render scene event
        (assemble .standard context
          [.composite Token.bareWord format [] nodes]).1 =
      (Chain.render scene event (assemble .standard context nodes).1).bind
        (formatted format) := by
  have isIdentity :
      Dictionary.standard.transformation? ⟨Token.bareWord, [], context⟩ =
        some identity :=
    rfl
  simp only [render_assemble, Node.meanings, Node.meaning, isIdentity]
  cases Node.meanings .standard context scene event nodes with
  | error failure => rfl
  | ok texts =>
      change
        (do
          let text ← formatted format (String.join texts)
          Except.ok [text]).map String.join =
          formatted format (String.join texts)
      cases formatted format (String.join texts) with
      | error failure => rfl
      | ok text => simp [Except.map, bind, Except.bind]

/--
A pattern that is read, and that no backslash at its end would tie to what
follows, is read between parentheses as one conversion without a word; its
children are the nodes of the pattern, and its format is that of the modifier.
With the words that are known from the start it renders what the pattern
renders, in that format.
-/
theorem reads_enclosed
    {mode : EscapeMode}
    {modifier pattern : String}
    {format : Option FieldFormat}
    {nodes : List Node}
    (reads : Reads mode pattern nodes)
    (complete : ¬ EndsInBackslash mode pattern)
    (formatted : PrintsFormat format modifier.toList) :
    Reads mode (enclose modifier pattern)
        [.composite Token.bareWord format [] nodes] ∧
      ∀ context,
        ∃ whole inner,
          (Layout.build ⟨enclose modifier pattern, mode, .standard, false⟩
              context).1 = .ok whole ∧
            (Layout.build ⟨pattern, mode, .standard, false⟩ context).1 =
              .ok inner ∧
            ∀ scene event,
              whole.render scene event =
                (inner.render scene event).bind (Pattern.formatted format) := by
  have readsWhole := reads.enclosed complete formatted
  refine ⟨readsWhole, ?_⟩
  intro context
  refine
    ⟨_, _, congrArg Prod.fst (readsWhole.build .standard context),
      congrArg Prod.fst (reads.build .standard context), ?_⟩
  intro scene event
  exact render_bare context scene event format nodes

/-- A pattern that ends in a closing parenthesis itself can be put between others. -/
theorem reads_enclosed_highlight :
    Reads .regular "50\\% %highlight(%level)"
        [.literal "50% ",
          .composite "highlight" none [] [.conversion "level" none []]] ∧
      ¬ EndsInBackslash .regular "50\\% %highlight(%level)" ∧
      FieldFormat.ofModifier "-5.20" = .ok ⟨5, 20, .right, .left⟩ ∧
      Reads .regular "%-5.20(50\\% %highlight(%level))"
        [.composite "BARE" (some ⟨5, 20, .right, .left⟩) []
          [.literal "50% ",
            .composite "highlight" none [] [.conversion "level" none []]]] := by
  have reads :
      Reads .regular "50\\% %highlight(%level)"
        [.literal "50% ",
          .composite "highlight" none [] [.conversion "level" none []]] :=
    reads_iff_derives.mpr
      ⟨by decide,
        ⟨.closed, [],
          [.literal "50% ", .percent, .composite "highlight", .percent,
            .simple "level"]⟩,
        _, rfl, rfl,
        .literal
          (.composite .absent (.conversion .absent .absent .nil) .absent .nil)⟩
  have atEnd :
      endState? .regular "50\\% %highlight(%level)" = some .closed :=
    rfl
  have complete : ¬ EndsInBackslash .regular "50\\% %highlight(%level)" := by
    rintro ⟨specials, ends⟩
    rw [atEnd] at ends
    cases ends
  have accepted :
      FieldFormat.ofModifier "-5.20" = .ok ⟨5, 20, .right, .left⟩ :=
    rfl
  have formatted :
      PrintsFormat (some ⟨5, 20, .right, .left⟩) "-5.20".toList :=
    .present (by decide) accepted
  exact
    ⟨reads, complete, accepted, (reads_enclosed reads complete formatted).1⟩

end LogPipeline.Pattern
