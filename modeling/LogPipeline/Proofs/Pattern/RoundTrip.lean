import LogPipeline.Proofs.Pattern.Modifier
import LogPipeline.Proofs.Pattern.OptionLists

/-!
# Reading what was printed

Reading undoes printing, at any depth.  The lexer walks over what is printed
from literal text to literal text.  Its tokens on the way, followed by that of
the text that it still holds at the end, derive the nodes.
-/

namespace LogPipeline.Pattern

open LexState

/-! ## Walks over literal text and modifiers -/

/-- The lexer gets back a character of literal text. -/
theorem walk_printChar
    (buffer : List Char)
    (char : Char) :
    walk .regular .literal buffer (printChar char) =
      some ⟨.literal, buffer ++ [char], []⟩ := by
  rw [printChar]
  by_cases special : char = '%' ∨ char = '(' ∨ char = ')' ∨ char = '\\'
  · rw [if_pos special]
    rcases special with rfl | rfl | rfl | rfl <;> rfl
  · rw [if_neg special]
    simp only [not_or] at special
    rcases special with ⟨notPercent, _, notRight, notBackslash⟩
    simp [walk, step, notPercent, notRight, notBackslash]

/-- The lexer gets back literal text. -/
theorem walk_printText
    (buffer : List Char)
    (text : String) :
    walk .regular .literal buffer (printText text) =
      some ⟨.literal, buffer ++ text.toList, []⟩ := by
  rw [printText]
  induction text.toList generalizing buffer with
  | nil => simp
  | cons char rest ih =>
      have walked := walk_trans (walk_printChar buffer char) (ih (buffer ++ [char]))
      simpa using walked

/-- The lexer reads an accepted modifier to its end. -/
theorem walk_modifier
    {chars : List Char}
    (mode : EscapeMode)
    (buffer : List Char)
    (modifiers : ∀ char ∈ chars, isModifierChar char = true) :
    walk mode .modifier buffer chars =
      some ⟨.modifier, buffer ++ chars, []⟩ := by
  induction chars generalizing buffer with
  | nil => simp
  | cons char rest ih =>
      have isModifier := modifiers char List.mem_cons_self
      have stepped :
          LexState.modifier.step mode buffer 1 char =
            .ok ⟨.modifier, buffer ++ [char], []⟩ := by
        simp [step, ne_leftParenthesis_of_isModifierChar isModifier,
          not_isWordStart_of_isModifierChar isModifier]
      have continued :=
        ih (buffer ++ [char])
          (fun char member => modifiers char (List.mem_cons_of_mem _ member))
      simpa using walk_cons_trans stepped continued

/-! ## Walks over options -/

/-- Printed options are one of the ways to write them. -/
theorem writesOptions_print
    (first : String)
    {rest : List String}
    (quotable : ∀ value ∈ first :: rest, IsQuotable value) :
    WritesOptions
      (printOption first ++ rest.flatMap fun value => ',' :: printOption value)
      (first :: rest) := by
  have noGap : ∀ char ∈ [], IsGap char := List.forall_mem_nil _
  have printed {value : String} (quotable : IsQuotable value) :
      WritesOption (printOption value) value :=
    .quoted (Or.inl rfl) ⟨quotable.1, quotable.2⟩
  induction rest generalizing first with
  | nil =>
      have only := quotable first List.mem_cons_self
      exact .last noGap (printed only) noGap
  | cons second others ih =>
      rw [List.forall_mem_cons] at quotable
      exact .more noGap (printed quotable.1) noGap (List.cons_ne_nil _ _)
        (ih second quotable.2)

/--
The end of a conversion leads back to literal text.  The pending token is that
of the word, or of the parenthesis that closes the children.
-/
theorem walk_ending
    {state : LexState}
    {buffer : List Char}
    {pending : Token}
    {values : List String}
    (opens :
      state.step .regular buffer 1 '{' = .ok ⟨.opened, [], [pending]⟩)
    (separates :
      walk .regular state buffer separator = some ⟨.literal, [], [pending]⟩)
    (quotable : ∀ value ∈ values, IsQuotable value) :
    ∃ behind,
      OptionTokens behind values ∧
        walk .regular state buffer (printOptions values ++ separator) =
          some ⟨.literal, [], pending :: behind⟩ := by
  cases values with
  | nil => exact ⟨[], .absent, separates⟩
  | cons first rest =>
      refine ⟨[.options (first :: rest)], .present, ?_⟩
      have walkedOptions :
          walk .regular .opened []
              ((printOption first ++
                rest.flatMap fun value => ',' :: printOption value) ++ ['}']) =
            some ⟨.literal, [], [.options (first :: rest)]⟩ := by
        rw [walk_opened (by simp), walk_options (writesOptions_print first quotable),
          List.nil_append]
      have separated :
          walk .regular .literal [] separator = some ⟨.literal, [], []⟩ :=
        rfl
      have walked :=
        walk_cons_trans opens (walk_trans walkedOptions separated)
      simpa [printOptions] using walked

/-! ## Walks over nodes -/

/-- The literal node of a text, or none for the empty text. -/
def literalNodes (buffer : List Char) : List Node :=
  if buffer.isEmpty then [] else [.literal (String.ofList buffer)]

theorem derives_literalNodes (buffer : List Char) :
    Derives (bufferToken .literal buffer) (literalNodes buffer) := by
  rw [bufferToken, literalNodes]
  split
  · exact .nil
  · exact .literal .nil

/-- A printed modifier is an accepted one, or there is none. -/
theorem PrintsFormat.modifierTokens
    {format : Option FieldFormat}
    {modifier : List Char}
    (formatted : PrintsFormat format modifier) :
    ModifierTokens (bufferToken .modifier modifier) format := by
  cases formatted with
  | absent => exact .absent
  | present nonempty accepted =>
      rw [bufferToken, if_neg (by simpa using nonempty), String.ofList_toList]
      exact .present accepted

theorem PrintsFormat.isModifierChar
    {format : Option FieldFormat}
    {modifier : List Char}
    (formatted : PrintsFormat format modifier) :
    ∀ char ∈ modifier, Pattern.isModifierChar char = true := by
  cases formatted with
  | absent =>
      intro char member
      cases member
  | present _ accepted => exact FieldFormat.isModifierChar_of_ofModifier accepted

/-- The lexer reads the beginning of a conversion, up to the end of its word. -/
theorem walk_beginning
    {format : Option FieldFormat}
    {modifier : List Char}
    {word : String}
    (buffer : List Char)
    (formatted : PrintsFormat format modifier)
    (isWord : IsWord word) :
    walk .regular .literal buffer ('%' :: (modifier ++ word.toList)) =
      some
        ⟨.word, word.toList,
          bufferToken .literal buffer ++
            .percent :: bufferToken .modifier modifier⟩ := by
  have percent :
      LexState.literal.step .regular buffer 1 '%' =
        .ok ⟨.modifier, [], bufferToken .literal buffer ++ [.percent]⟩ :=
    rfl
  have walkedModifier := walk_modifier .regular [] formatted.isModifierChar
  have walkedWord := walk_word .regular modifier isWord
  simpa using
    walk_cons_trans percent (walk_trans walkedModifier walkedWord)

/-- What is printed behind a word ends the conversion. -/
theorem exists_walk_word_ending
    {values : List String}
    (word : String)
    (quotable : ∀ value ∈ values, IsQuotable value) :
    ∃ behind,
      OptionTokens behind values ∧
        walk .regular .word word.toList (printOptions values ++ separator) =
          some ⟨.literal, [], .simple word :: behind⟩ := by
  have brace : isWordPart '{' = false := by decide
  have backslash : isWordPart '\\' = false := by decide
  have opens :
      LexState.word.step .regular word.toList 1 '{' =
        .ok ⟨.opened, [], [.simple word]⟩ := by
    simp [step, brace]
  have separates :
      walk .regular .word word.toList separator =
        some ⟨.literal, [], [.simple word]⟩ := by
    simp [separator, walk, step, backslash, EscapeMode.escape, textSpecials]
  exact walk_ending opens separates quotable

/-- What is printed behind the children of a conversion ends it. -/
theorem exists_walk_closed_ending
    {values : List String}
    (quotable : ∀ value ∈ values, IsQuotable value) :
    ∃ behind,
      OptionTokens behind values ∧
        walk .regular .closed [] (printOptions values ++ separator) =
          some ⟨.literal, [], .rightParenthesis :: behind⟩ :=
  walk_ending rfl rfl quotable

/--
The lexer walks over printed nodes from literal text to literal text.  If it
holds some text before, no literal node may come first, as the two texts would
be taken together.
-/
theorem Prints.exists_walk
    {nodes : List Node}
    {printed : List Char}
    (prints : Prints nodes printed)
    (printable : Printable nodes)
    (buffer : List Char)
    (apart : buffer = [] ∨ opensLiteral nodes = false) :
    ∃ tokens left,
      walk .regular .literal buffer printed = some ⟨.literal, left, tokens⟩ ∧
        Derives (tokens ++ bufferToken .literal left)
          (literalNodes buffer ++ nodes) := by
  induction prints generalizing buffer with
  | nil =>
      refine ⟨[], buffer, rfl, ?_⟩
      simpa using derives_literalNodes buffer
  | @literal text nodes printed more ih =>
      cases printable with
      | literal nonempty apartNodes printableNodes =>
          have empty : buffer = [] :=
            apart.resolve_right (by simp [opensLiteral])
          subst empty
          rcases ih printableNodes text.toList (Or.inr apartNodes) with
            ⟨tokens, left, walked, derived⟩
          have isText : literalNodes text.toList = [.literal text] := by
            simp [literalNodes, nonempty]
          rw [isText] at derived
          exact
            ⟨tokens, left, by simpa using walk_trans (walk_printText [] text) walked,
              derived⟩
  | @conversion word format modifier printed values nodes formatted more ih =>
      cases printable with
      | conversion isWord writable quotable printableNodes =>
          rcases ih printableNodes [] (Or.inl rfl) with
            ⟨tokens, left, walked, derived⟩
          rcases exists_walk_word_ending word quotable with
            ⟨behind, optional, walkedEnding⟩
          have walkedAll :=
            walk_trans (walk_beginning buffer formatted isWord)
              (walk_trans walkedEnding walked)
          have derivedNode :
              Derives
                (.percent ::
                  (bufferToken .modifier modifier ++
                    .simple word ::
                      (behind ++ (tokens ++ bufferToken .literal left))))
                (.conversion word format values :: nodes) :=
            .conversion formatted.modifierTokens optional derived
          refine ⟨_, left, by simpa using walkedAll, ?_⟩
          simpa using (derives_literalNodes buffer).append derivedNode
  | @composite word format modifier inner printed values children nodes
      formatted inside more insideIH ih =>
      cases printable with
      | composite isWord writable quotable printableChildren printableNodes =>
          rcases insideIH printableChildren [] (Or.inl rfl) with
            ⟨innerTokens, innerLeft, walkedInner, derivedInner⟩
          rcases ih printableNodes [] (Or.inl rfl) with
            ⟨tokens, left, walked, derived⟩
          rcases exists_walk_closed_ending quotable with
            ⟨behind, optional, walkedEnding⟩
          have parenthesis :
              LexState.word.step .regular word.toList 1 '(' =
                .ok ⟨.literal, [], [.composite word]⟩ := by
            have notPart : isWordPart '(' = false := by decide
            simp [step, notPart]
          have closing :
              LexState.literal.step .regular innerLeft 1 ')' =
                .ok ⟨.closed, [], bufferToken .literal innerLeft⟩ :=
            rfl
          have walkedAll :=
            walk_trans (walk_beginning buffer formatted isWord)
              (walk_cons_trans parenthesis
                (walk_trans walkedInner
                  (walk_cons_trans closing (walk_trans walkedEnding walked))))
          have derivedNode :
              Derives
                (.percent ::
                  (bufferToken .modifier modifier ++
                    .composite word ::
                      (innerTokens ++ bufferToken .literal innerLeft ++
                        .rightParenthesis ::
                          (behind ++ (tokens ++ bufferToken .literal left)))))
                (.composite word format values children :: nodes) :=
            .composite formatted.modifierTokens derivedInner optional derived
          refine ⟨_, left, by simpa using walkedAll, ?_⟩
          simpa using (derives_literalNodes buffer).append derivedNode

/-! ## Reading undoes printing -/

/--
Nodes that can be told apart have a printed form, and each of their printed
forms is read back into them, with no token left over.
-/
theorem reads_printed
    {nodes : List Node}
    (nonempty : nodes ≠ [])
    (printable : Printable nodes) :
    (∃ printed, Prints nodes printed) ∧
      ∀ printed,
        Prints nodes printed → Reads .regular (String.ofList printed) nodes := by
  refine ⟨printable.exists_prints, ?_⟩
  intro printed prints
  rcases prints.exists_walk printable [] (Or.inl rfl) with
    ⟨tokens, left, walked, derived⟩
  have derivedNodes : Derives (tokens ++ bufferToken .literal left) nodes :=
    derived
  refine
    reads_iff_derives.mpr
      ⟨?_, ⟨.literal, left, tokens⟩, _, ?_, rfl, derivedNodes⟩
  · -- No tokens come out of the empty text, so no nodes would.
    rw [String.toList_ofList]
    rintro rfl
    cases walked
    cases derivedNodes
    exact nonempty rfl
  · rw [String.toList_ofList]
    exact walked

/-- A tree with every kind of node is read back from its printed form. -/
theorem reads_printed_nested :
    Reads .regular
      "50\\%%-5.20highlight(%level\\_ \\(%d\x7b\"HH:mm\",\"\\\"\"\x7d\\_)\\_"
      [.literal "50%",
        .composite "highlight" (some ⟨5, 20, .right, .left⟩) []
          [.conversion "level" none [], .literal " (",
            .conversion "d" none ["HH:mm", "\""]]] := by
  have accepted :
      FieldFormat.ofModifier "-5.20" = .ok ⟨5, 20, .right, .left⟩ :=
    rfl
  have nonempty : "-5.20" ≠ "" := by decide
  have writable : IsWritable (some ⟨5, 20, .right, .left⟩) := by
    rintro format ⟨⟩
    exact ⟨"-5.20", nonempty, accepted⟩
  have unformatted : IsWritable none := by
    rintro format ⟨⟩
  have printableInside :
      Printable
        [.conversion "level" none [], .literal " (",
          .conversion "d" none ["HH:mm", "\""]] :=
    .conversion (by decide) unformatted (by decide)
      (.literal (by decide) rfl
        (.conversion (by decide) unformatted (by decide) .nil))
  have printable :
      Printable
        [.literal "50%",
          .composite "highlight" (some ⟨5, 20, .right, .left⟩) []
            [.conversion "level" none [], .literal " (",
              .conversion "d" none ["HH:mm", "\""]]] :=
    .literal (by decide) rfl
      (.composite (by decide) writable (by decide) printableInside .nil)
  exact
    (reads_printed (List.cons_ne_nil _ _) printable).2 _
      (.literal
        (.composite (.present nonempty accepted)
          (.conversion .absent (.literal (.conversion .absent .nil))) .nil))

end LogPipeline.Pattern
