import LogPipeline.Proofs.Pattern.Printing

/-!
# Option lists

The values of an option list are written raw or in quotes, with commas between
them and white space around them at will.  The lexer gets every such list back:
raw values lose only the white space around them, and in quotes a backslash
counts only where it stands before the quote.
-/

namespace LogPipeline

namespace Text

/-- White space around a text that has none at its ends can be told from it. -/
theorem trim_append
    {chars blanks : List Char}
    (some : chars ≠ [])
    (begins : chars.head?.any isBlank = false)
    (ends : chars.getLast?.any isBlank = false)
    (blank : ∀ char ∈ blanks, isBlank char = true) :
    trim (chars ++ blanks) = chars := by
  have start : trimStart (chars ++ blanks) = chars ++ blanks := by
    cases chars with
    | nil => exact absurd rfl some
    | cons first rest =>
        have kept : ¬ isBlank first = true := Bool.eq_false_iff.mp begins
        rw [trimStart, List.cons_append, List.dropWhile_cons_of_neg kept]
  have finish : (chars.reverse).dropWhile isBlank = chars.reverse := by
    rw [List.getLast?_eq_head?_reverse] at ends
    cases backwards : chars.reverse with
    | nil => rfl
    | cons last front =>
        rw [backwards] at ends
        exact List.dropWhile_cons_of_neg (Bool.eq_false_iff.mp ends)
  rw [trim, start, trimEnd, List.reverse_append, List.dropWhile_append_of_pos, finish,
    List.reverse_reverse]
  intro char member
  exact blank char (List.mem_reverse.mp member)

end Text

namespace Pattern

open LexState

/-! ## The texts of option lists -/

/-- The characters that can stand around the values of an option list. -/
def IsGap (char : Char) : Prop :=
  char = ' ' ∨ char = '\t' ∨ char = '\r' ∨ char = '\n'

/-- A character of a value in quotes, behind a backslash if it is the quote. -/
def quoteChar (mark char : Char) : List Char :=
  if char = mark then ['\\', mark] else [char]

/-- A value in quotes. -/
def enquote (mark : Char) (value : String) : List Char :=
  mark :: (value.toList.flatMap (quoteChar mark) ++ [mark])

/--
A value without a backslash at its end or right before the quote; there the
backslash would escape the quote that is written behind it.
-/
structure IsQuotableIn (mark : Char) (value : String) : Prop where
  notLast : ¬ ['\\'] <:+ value.toList
  notBeforeQuote : ¬ ['\\', mark] <:+: value.toList

/-- A value that can be told apart without quotes. -/
structure IsRaw (value : String) : Prop where
  nonempty : value.toList ≠ []
  plain : ',' ∉ value.toList ∧ '}' ∉ value.toList
  unquoted : value.toList.head? ≠ some '"' ∧ value.toList.head? ≠ some '\''
  begins : value.toList.head?.any Text.isBlank = false
  ends : value.toList.getLast?.any Text.isBlank = false

/-- A value is written raw or in single or double quotes. -/
inductive WritesOption : List Char → String → Prop where
  | raw
      {value : String}
      (isRaw : IsRaw value) :
      WritesOption value.toList value
  | quoted
      {mark : Char}
      {value : String}
      (isQuote : mark = '"' ∨ mark = '\'')
      (quotable : IsQuotableIn mark value) :
      WritesOption (enquote mark value) value

/-- Values in their order, with gaps around each of them and commas between them. -/
inductive WritesOptions : List Char → List String → Prop where
  | nothing
      {gap : List Char}
      (isGap : ∀ char ∈ gap, IsGap char) :
      WritesOptions gap []
  | last
      {before text after : List Char}
      {value : String}
      (gapBefore : ∀ char ∈ before, IsGap char)
      (writes : WritesOption text value)
      (gapAfter : ∀ char ∈ after, IsGap char) :
      WritesOptions (before ++ (text ++ after)) [value]
  | more
      {before text after others : List Char}
      {value : String}
      {values : List String}
      (gapBefore : ∀ char ∈ before, IsGap char)
      (writes : WritesOption text value)
      (gapAfter : ∀ char ∈ after, IsGap char)
      (some : values ≠ [])
      (rest : WritesOptions others values) :
      WritesOptions (before ++ (text ++ (after ++ ',' :: others))) (value :: values)

theorem IsGap.isBlank {char : Char} (gap : IsGap char) : Text.isBlank char = true := by
  rcases gap with rfl | rfl | rfl | rfl
  · decide
  · decide
  · decide
  · decide

/-! ## Walks over words -/

/-- The lexer reads a word on to its end. -/
theorem walk_wordParts
    {mode : EscapeMode}
    {chars : List Char}
    (buffer : List Char)
    (parts : ∀ char ∈ chars, isWordPart char = true) :
    walk mode .word buffer chars = some ⟨.word, buffer ++ chars, []⟩ := by
  induction chars generalizing buffer with
  | nil => simp
  | cons char rest ih =>
      have stepped :
          LexState.word.step mode buffer 1 char =
            .ok ⟨.word, buffer ++ [char], []⟩ := by
        simp [step, parts char List.mem_cons_self]
      have continued :=
        ih (buffer ++ [char])
          (fun char member => parts char (List.mem_cons_of_mem _ member))
      simpa using walk_cons_trans stepped continued

/-- A word ends the modifier in front of it. -/
theorem walk_word
    {word : String}
    (mode : EscapeMode)
    (buffer : List Char)
    (isWord : IsWord word) :
    walk mode .modifier buffer word.toList =
      some ⟨.word, word.toList, bufferToken .modifier buffer⟩ := by
  rcases isWord with ⟨first, rest, equal, starts, parts⟩
  have notParenthesis : first ≠ '(' := by
    rintro rfl
    revert starts
    decide
  have stepped :
      LexState.modifier.step mode buffer 1 first =
        .ok ⟨.word, [first], bufferToken .modifier buffer⟩ := by
    simp [step, notParenthesis, starts]
  rw [equal]
  simpa using walk_cons_trans stepped (walk_wordParts [first] parts)

/-! ## Walks over values -/

variable {mode : EscapeMode} {values : List String}

/-- Before a value the lexer passes over white space. -/
theorem walk_gap
    {gap : List Char}
    (isGap : ∀ char ∈ gap, IsGap char) :
    walk mode (.options values .expecting) [] gap =
      some ⟨.options values .expecting, [], []⟩ := by
  induction gap with
  | nil => rfl
  | cons char rest ih =>
      rw [List.forall_mem_cons] at isGap
      have stepped :
          (LexState.options values .expecting).step mode [] 1 char =
            .ok ⟨.options values .expecting, [], []⟩ := by
        rcases isGap.1 with rfl | rfl | rfl | rfl <;> rfl
      exact walk_cons_trans stepped (ih isGap.2)

/-- Behind a backslash a quote does not end its value. -/
theorem walk_escapedQuote
    {mark : Char}
    (buffer : List Char)
    (notBackslash : mark ≠ '\\') :
    walk mode (.options values (.quoted mark)) buffer ['\\', mark] =
      some ⟨.options values (.quoted mark), buffer ++ [mark], []⟩ := by
  simp [walk, step, optionStep, EscapeMode.verbatim, notBackslash.symm]

/-- Behind a backslash any other character is kept, and so is the backslash. -/
theorem walk_backslash
    {mark next : Char}
    (buffer : List Char)
    (notBackslash : mark ≠ '\\')
    (notQuote : next ≠ mark) :
    walk mode (.options values (.quoted mark)) buffer ['\\', next] =
      some ⟨.options values (.quoted mark), buffer ++ ['\\', next], []⟩ := by
  simp [walk, step, optionStep, EscapeMode.verbatim, notQuote, notBackslash.symm]

/-- The lexer gets back the characters of a value in quotes. -/
theorem walk_quoteChars
    {mark : Char}
    {chars : List Char}
    (buffer : List Char)
    (notBackslash : mark ≠ '\\')
    (notLast : ¬ ['\\'] <:+ chars)
    (notBeforeQuote : ¬ ['\\', mark] <:+: chars) :
    walk mode (.options values (.quoted mark)) buffer
        (chars.flatMap (quoteChar mark)) =
      some ⟨.options values (.quoted mark), buffer ++ chars, []⟩ := by
  -- A backslash is read together with the character behind it.
  induction size : chars.length using Nat.strongRecOn
    generalizing chars buffer with
  | _ size ih =>
  subst size
  have continued
      {later : List Char}
      (buffer : List Char)
      (isEnd : later <:+ chars)
      (shorter : later.length < chars.length) :
      walk mode (.options values (.quoted mark)) buffer
          (later.flatMap (quoteChar mark)) =
        some ⟨.options values (.quoted mark), buffer ++ later, []⟩ :=
    ih later.length shorter buffer (fun last => notLast (last.trans isEnd))
      (fun inside => notBeforeQuote (inside.trans isEnd.isInfix)) rfl
  cases chars with
  | nil => simp
  | cons char rest =>
      have isEnd : rest <:+ char :: rest := List.suffix_cons char rest
      have shorter : rest.length < (char :: rest).length := Nat.lt_succ_self _
      by_cases quote : char = mark
      · subst quote
        simpa [quoteChar] using
          walk_trans (walk_escapedQuote buffer notBackslash)
            (continued (buffer ++ [char]) isEnd shorter)
      · by_cases backslash : char = '\\'
        · subst backslash
          cases rest with
          | nil => exact absurd List.suffix_rfl notLast
          | cons next later =>
              have notQuote : next ≠ mark := by
                rintro rfl
                exact notBeforeQuote (List.prefix_append ['\\', next] later).isInfix
              have isLater : later <:+ '\\' :: next :: later :=
                List.suffix_append ['\\', next] later
              have shorterLater : later.length < ('\\' :: next :: later).length :=
                Nat.lt_add_of_pos_right Nat.two_pos
              simpa [quoteChar, notQuote, quote] using
                walk_trans (walk_backslash buffer notBackslash notQuote)
                  (continued (buffer ++ ['\\', next]) isLater shorterLater)
        · have stepped :
              (LexState.options values (.quoted mark)).step mode buffer 1 char =
                .ok ⟨.options values (.quoted mark), buffer ++ [char], []⟩ := by
            simp [step, optionStep, quote, backslash]
          simpa [quoteChar, quote] using
            walk_cons_trans stepped (continued (buffer ++ [char]) isEnd shorter)

/-- The lexer gets back a value in quotes. -/
theorem walk_enquote
    {mark : Char}
    {value : String}
    (isQuote : mark = '"' ∨ mark = '\'')
    (quotable : IsQuotableIn mark value) :
    walk mode (.options values .expecting) [] (enquote mark value) =
      some ⟨.options (values ++ [value]) .expecting, [], []⟩ := by
  have notBackslash : mark ≠ '\\' := by
    rcases isQuote with rfl | rfl
    · decide
    · decide
  have opened :
      (LexState.options values .expecting).step mode [] 1 mark =
        .ok ⟨.options values (.quoted mark), [], []⟩ := by
    rcases isQuote with rfl | rfl <;> rfl
  have inside :
      walk mode (.options values (.quoted mark)) []
          (value.toList.flatMap (quoteChar mark)) =
        some ⟨.options values (.quoted mark), value.toList, []⟩ :=
    walk_quoteChars [] notBackslash quotable.notLast quotable.notBeforeQuote
  have closed :
      walk mode (.options values (.quoted mark)) value.toList [mark] =
        some ⟨.options (values ++ [value]) .expecting, [], []⟩ := by
    simp [walk, step, optionStep]
  exact walk_cons_trans opened (walk_trans inside closed)

/-- The lexer reads a raw value on to its end, together with the white space behind it. -/
theorem walk_rawChars
    {chars : List Char}
    (buffer : List Char)
    (plain : ',' ∉ chars ∧ '}' ∉ chars) :
    walk mode (.options values .raw) buffer chars =
      some ⟨.options values .raw, buffer ++ chars, []⟩ := by
  induction chars generalizing buffer with
  | nil => simp
  | cons char rest ih =>
      simp only [List.mem_cons, not_or] at plain
      have stepped :
          (LexState.options values .raw).step mode buffer 1 char =
            .ok ⟨.options values .raw, buffer ++ [char], []⟩ := by
        simp [step, optionStep, Ne.symm plain.1.1, Ne.symm plain.2.1]
      have continued := ih (buffer ++ [char]) ⟨plain.1.2, plain.2.2⟩
      simpa using walk_cons_trans stepped continued

/-- The lexer begins a raw value at the first of its characters. -/
theorem walk_raw
    {value : String}
    (isRaw : IsRaw value) :
    walk mode (.options values .expecting) [] value.toList =
      some ⟨.options values .raw, value.toList, []⟩ := by
  obtain ⟨nonempty, plain, unquoted, begins, -⟩ := isRaw
  cases chars : value.toList with
  | nil => exact absurd chars nonempty
  | cons first rest =>
      rw [chars] at plain unquoted begins
      simp only [List.mem_cons, not_or] at plain
      have notGap : ¬ IsGap first := by
        intro gap
        exact Bool.false_ne_true (begins.symm.trans gap.isBlank)
      have stepped :
          (LexState.options values .expecting).step mode [] 1 first =
            .ok ⟨.options values .raw, [first], []⟩ := by
        simp only [List.head?_cons, ne_eq, Option.some.injEq] at unquoted
        rw [step, optionStep, if_neg, if_neg (not_or.mpr unquoted),
          if_neg (Ne.symm plain.2.1)]
        · rfl
        · simp only [IsGap, not_or] at notGap ⊢
          exact ⟨notGap.1, notGap.2.1, notGap.2.2.1, notGap.2.2.2, Ne.symm plain.1.1⟩
      simpa using walk_cons_trans stepped (walk_rawChars [first] ⟨plain.1.2, plain.2.2⟩)

/--
The lexer reads a value and the white space behind it, and both the comma and
the brace then complete the value.
-/
theorem exists_walk_option
    {text after : List Char}
    {value : String}
    (writes : WritesOption text value)
    (gapAfter : ∀ char ∈ after, IsGap char) :
    ∃ state buffer,
      walk mode (.options values .expecting) [] (text ++ after) =
          some ⟨state, buffer, []⟩ ∧
        state.step mode buffer 1 ',' =
          .ok ⟨.options (values ++ [value]) .expecting, [], []⟩ ∧
        state.step mode buffer 1 '}' =
          .ok ⟨.literal, [], [.options (values ++ [value])]⟩ := by
  cases writes with
  | quoted isQuote quotable =>
      exact ⟨_, _, walk_trans (walk_enquote isQuote quotable) (walk_gap gapAfter), rfl, rfl⟩
  | raw isRaw =>
      have plainGap : ',' ∉ after ∧ '}' ∉ after :=
        ⟨fun member => absurd (gapAfter ',' member) (by simp [IsGap]),
          fun member => absurd (gapAfter '}' member) (by simp [IsGap])⟩
      have trimmed : String.ofList (Text.trim (value.toList ++ after)) = value := by
        rw [Text.trim_append isRaw.nonempty isRaw.begins isRaw.ends
            fun char member => (gapAfter char member).isBlank,
          String.ofList_toList]
      refine
        ⟨_, _, walk_trans (walk_raw isRaw) (walk_rawChars value.toList plainGap), ?_, ?_⟩
      · rw [step, optionStep, trimmed]
        rfl
      · rw [step, optionStep, trimmed]
        rfl

/-- The lexer gets back the values of an option list, behind those that it has. -/
theorem walk_options
    {text : List Char}
    {more : List String}
    (writes : WritesOptions text more) :
    walk mode (.options values .expecting) [] (text ++ ['}']) =
      some ⟨.literal, [], [.options (values ++ more)]⟩ := by
  induction writes generalizing values with
  | nothing isGap =>
      rw [List.append_nil]
      exact walk_trans (walk_gap isGap) rfl
  | last gapBefore writes gapAfter =>
      obtain ⟨state, buffer, walked, -, brace⟩ := exists_walk_option writes gapAfter
      have closed := walk_trans walked (walk_cons_trans brace (walk_nil mode _ _))
      simpa using walk_trans (walk_gap gapBefore) closed
  | more gapBefore writes gapAfter some rest ih =>
      obtain ⟨state, buffer, walked, comma, -⟩ := exists_walk_option writes gapAfter
      have continued := walk_trans walked (walk_cons_trans comma ih)
      simpa using walk_trans (walk_gap gapBefore) continued

/-- Behind the brace that opens an option list the lexer expects a value. -/
theorem walk_opened
    {chars : List Char}
    (some : chars ≠ []) :
    walk mode .opened [] chars = walk mode (.options [] .expecting) [] chars := by
  cases chars with
  | nil => exact absurd rfl some
  | cons => rfl

/--
The values of an option list are read back as they were written, whichever way
that was.
-/
theorem tokenize_optionList
    {word : String}
    {text : List Char}
    {values : List String}
    (mode : EscapeMode)
    (isWord : IsWord word)
    (writes : WritesOptions text values) :
    tokenize mode (String.ofList ('%' :: (word.toList ++ '{' :: (text ++ ['}'])))) =
      .ok [.percent, .simple word, .options values] := by
  have percent :
      LexState.literal.step mode [] 1 '%' = .ok ⟨.modifier, [], [.percent]⟩ :=
    rfl
  have brace :
      LexState.word.step mode word.toList 1 '{' =
        .ok ⟨.opened, [], [.simple (String.ofList word.toList)]⟩ :=
    rfl
  have list :
      walk mode .opened [] (text ++ ['}']) = some ⟨.literal, [], [.options values]⟩ := by
    rw [walk_opened (by simp), walk_options writes, List.nil_append]
  have walked :=
    walk_cons_trans percent (walk_trans (walk_word mode [] isWord) (walk_cons_trans brace list))
  rw [tokenize_eq_ok_iff, String.toList_ofList]
  refine ⟨List.cons_ne_nil _ _, _, [], walked, rfl, ?_⟩
  rw [String.ofList_toList]
  rfl

/-- Regular expressions keep their backslashes, in quotes and without. -/
theorem tokenize_optionList_expressions :
    let text := " '\\d\x7b2\x7d, it\\'s'\t, \\(x\\) ".toList
    let values := ["\\d\x7b2\x7d, it's", "\\(x\\)"]
    IsWord "replace" ∧
      WritesOptions text values ∧
      tokenize .regular
          (String.ofList ('%' :: ("replace".toList ++ '{' :: (text ++ ['}'])))) =
        .ok [.percent, .simple "replace", .options values] := by
  intro text values
  have isWord : IsWord "replace" := by decide +kernel
  have inQuotes :
      WritesOption (enquote '\'' "\\d\x7b2\x7d, it's") "\\d\x7b2\x7d, it's" :=
    .quoted (Or.inr rfl) ⟨by decide +kernel, by decide +kernel⟩
  have raw : WritesOption "\\(x\\)".toList "\\(x\\)" :=
    .raw
      ⟨by decide +kernel, by decide +kernel, by decide +kernel, by decide +kernel,
        by decide +kernel⟩
  have space : ∀ char ∈ [' '], IsGap char := by simp [IsGap]
  have tab : ∀ char ∈ ['\t'], IsGap char := by simp [IsGap]
  have writes : WritesOptions text values := by
    have split :
        text =
          [' '] ++ (enquote '\'' "\\d\x7b2\x7d, it's" ++ (['\t'] ++ ',' ::
            ([' '] ++ ("\\(x\\)".toList ++ [' '])))) := by
      decide +kernel
    rw [split]
    exact .more space inQuotes tab (List.cons_ne_nil _ _) (.last space raw space)
  exact ⟨isWord, writes, tokenize_optionList .regular isWord writes⟩

end Pattern

end LogPipeline
