import LogPipeline.Proofs.Pattern.Enclosure
import LogPipeline.Proofs.Pattern.Order

/-!
# Patterns with a separator between them

The separator ends whatever the lexer reads and stands for nothing.  Behind it
the lexer is in literal text again, so it reads a second pattern as if that
stood alone, but for text at the end of the first pattern, which it still
holds.  Such text is taken together with text at the beginning of the second
pattern, and apart from that the nodes of the two patterns stand one after the
other.  What is rendered are the texts of the two patterns, joined.
-/

namespace LogPipeline.Pattern

open LexState

/-! ## Lists that are joined at their ends -/

/--
Two lists, one after the other.  The last item of the first one and the first
item of the second one are taken together, if they can be.
-/
def weld {α : Type} (fuse? : α → α → Option α) : List α → List α → List α
  | [], back => back
  | [last], first :: back =>
      match fuse? last first with
      | some whole => whole :: back
      | none => last :: first :: back
  | item :: front, back => item :: weld fuse? front back

section Weld

variable {α : Type} {fuse? : α → α → Option α}

@[simp]
theorem weld_nil_left (back : List α) : weld fuse? [] back = back := by
  rw [weld]

@[simp]
theorem weld_nil_right (front : List α) : weld fuse? front [] = front := by
  induction front with
  | nil => rw [weld_nil_left]
  | cons item front ih =>
      rw [weld, ih]
      intro last first impossible
      cases impossible

/-- Only the last item can be taken together with another one. -/
theorem weld_cons_of_ne_nil
    {front : List α}
    (more : front ≠ [])
    (item : α)
    (back : List α) :
    weld fuse? (item :: front) back = item :: weld fuse? front back := by
  rw [weld]
  intro last first _ isNil
  exact absurd isNil more

/-- What cannot be taken together with anything stays as it is. -/
theorem weld_cons_of_apart
    {item : α}
    (apart : ∀ other, fuse? item other = none)
    (front back : List α) :
    weld fuse? (item :: front) back = item :: weld fuse? front back := by
  cases front with
  | cons next front => exact weld_cons_of_ne_nil (List.cons_ne_nil _ _) item back
  | nil =>
      cases back with
      | nil => simp
      | cons first back => simp [weld, apart]

/-- What stands in front of the items that may be taken together stays as it is. -/
theorem weld_append
    {front back : List α}
    (apart : back = [] → ∀ item ∈ front.getLast?, ∀ other, fuse? item other = none)
    (rest : List α) :
    weld fuse? (front ++ back) rest = front ++ weld fuse? back rest := by
  induction front with
  | nil => rfl
  | cons item front ih =>
      rw [List.cons_append, List.cons_append]
      by_cases last : front ++ back = []
      · rcases List.append_eq_nil_iff.mp last with ⟨rfl, rfl⟩
        exact weld_cons_of_apart (apart rfl item rfl) [] rest
      · rw [weld_cons_of_ne_nil last, ih]
        intro empty other isLast
        subst empty
        rw [List.append_nil] at last
        refine apart rfl other ?_
        rwa [List.getLast?_cons_of_ne_nil last]

end Weld

/-- Literal text is taken together with literal text. -/
def Token.fuse? : Token → Token → Option Token
  | .literal first, .literal second => some (.literal (first ++ second))
  | _, _ => none

/-- Literal text is taken together with literal text. -/
def Node.fuse? : Node → Node → Option Node
  | .literal first, .literal second => some (.literal (first ++ second))
  | _, _ => none

theorem Token.fuse?_eq_none
    {token : Token}
    (apart : token.isLiteral = false)
    (other : Token) :
    token.fuse? other = none := by
  cases token with
  | literal text => cases apart
  | _ => rfl

/-- Tokens that do not end in literal text stay as they are. -/
theorem Token.weld_append
    {front back : List Token}
    (apart : back = [] → front.getLast?.any Token.isLiteral = false)
    (rest : List Token) :
    weld Token.fuse? (front ++ back) rest =
      front ++ weld Token.fuse? back rest := by
  refine Pattern.weld_append ?_ rest
  intro empty token isLast other
  have notLiteral := apart empty
  rw [Option.mem_def.mp isLast] at notLiteral
  exact Token.fuse?_eq_none notLiteral other

/-- The tokens up to the end of a conversion stay as they are. -/
theorem OptionTokens.weld_append
    {behind : List Token}
    {values : List String}
    {closing : Token}
    (optional : OptionTokens behind values)
    (closes : closing.isLiteral = false)
    (front tokens rest : List Token) :
    weld Token.fuse? (front ++ closing :: (behind ++ tokens)) rest =
      front ++ closing :: (behind ++ weld Token.fuse? tokens rest) := by
  have apart :
      (front ++ closing :: behind).getLast?.any Token.isLiteral = false := by
    rw [any_getLast?_append_cons]
    cases optional with
    | absent => exact closes
    | present => rfl
  have welded :
      weld Token.fuse? ((front ++ closing :: behind) ++ tokens) rest =
        (front ++ closing :: behind) ++ weld Token.fuse? tokens rest :=
    Token.weld_append (fun _ => apart) rest
  simpa using welded

/-- A node begins with literal text only if its tokens do. -/
theorem Derives.weld_singleton
    {text : String}
    {tokens : List Token}
    {nodes : List Node}
    (derived : Derives tokens nodes) :
    Derives (weld Token.fuse? [.literal text] tokens)
      (weld Node.fuse? [.literal text] nodes) := by
  cases derived with
  | nil => simpa using Derives.literal .nil
  | literal more => exact .literal more
  | conversion modified optional more =>
      exact .literal (.conversion modified optional more)
  | composite modified inside optional more =>
      exact .literal (.composite modified inside optional more)

/-- Without nodes there were no tokens. -/
theorem Derives.eq_nil
    {tokens : List Token}
    (derived : Derives tokens []) :
    tokens = [] := by
  cases derived
  rfl

/-- What tokens derive that are joined at their ends. -/
theorem Derives.welded
    {first second : List Token}
    {nodes others : List Node}
    (derived : Derives first nodes)
    (continued : Derives second others) :
    Derives (weld Token.fuse? first second) (weld Node.fuse? nodes others) := by
  -- Only a literal at the very end meets what follows; every other node ends
  -- in a token that is taken together with nothing.
  induction derived with
  | nil => simpa using continued
  | @literal text tokens nodes more ih =>
      by_cases last : tokens = []
      · subst last
        cases more
        exact continued.weld_singleton
      · have moreNodes : nodes ≠ [] := by
          rintro rfl
          exact last more.eq_nil
        rw [weld_cons_of_ne_nil last, weld_cons_of_ne_nil moreNodes]
        exact .literal ih
  | @conversion word front behind tokens format values nodes modified optional
      more ih =>
      have closes : (Token.simple word).isLiteral = false := rfl
      rw [← List.cons_append, optional.weld_append closes,
        weld_cons_of_apart (fun _ => rfl)]
      exact .conversion modified optional ih
  | @composite word front inner behind tokens format values children nodes
      modified inside optional more _ ih =>
      have closes : Token.rightParenthesis.isLiteral = false := rfl
      rw [← List.cons_append, ← List.cons_append, ← List.append_assoc,
        optional.weld_append closes, weld_cons_of_apart (fun _ => rfl)]
      simpa using Derives.composite modified inside optional ih

/-! ## Text that was begun before -/

namespace LexState

/-- What a character does in literal text, whatever the text is. -/
inductive TextStep (mode : EscapeMode) (state : LexState) (char : Char) : Prop where
  /-- The text grows. -/
  | grows
      (later : LexState)
      (added : List Char)
      (inside : later.inText = true)
      (steps :
        ∀ buffer,
          state.step mode buffer 1 char = .ok ⟨later, buffer ++ added, []⟩)
  /-- A conversion begins. -/
  | opens
      (steps :
        ∀ buffer,
          state.step mode buffer 1 char =
            .ok ⟨.modifier, [], bufferToken .literal buffer ++ [.percent]⟩)
  /-- A parenthesis is closed. -/
  | closes
      (steps :
        ∀ buffer,
          state.step mode buffer 1 char =
            .ok ⟨.closed, [], bufferToken .literal buffer⟩)
  | refused
      (error : PatternError)
      (steps : ∀ buffer, state.step mode buffer 1 char = .error error)

theorem textStep_of_inText
    {state : LexState}
    (inside : state.inText = true)
    (mode : EscapeMode)
    (char : Char) :
    TextStep mode state char := by
  cases state with
  | literal =>
      by_cases backslash : char = '\\'
      · exact .grows (.escaped textSpecials) [] rfl (by simp [step, backslash])
      · by_cases percent : char = '%'
        · exact .opens (by simp [step, percent])
        · by_cases parenthesis : char = ')'
          · exact .closes (by simp [step, parenthesis])
          · exact
              .grows .literal [char] rfl
                (by simp [step, backslash, percent, parenthesis])
  | escaped specials =>
      cases meant : mode.escape specials char 1 with
      | ok meaning => exact .grows .literal meaning rfl (by simp [step, meant])
      | error error => exact .refused error (by simp [step, meant])
  | _ => cases inside

/-- The token of a closing parenthesis comes out first behind it. -/
theorem exists_parenthesis_of_walk
    {mode : EscapeMode}
    {buffer chars : List Char}
    {last : LexStep}
    {ending : List Token}
    (walked : walk mode .closed buffer chars = some last)
    (finished : last.state.finish last.buffer = .ok ending) :
    ∃ more, last.tokens ++ ending = .rightParenthesis :: more := by
  cases chars with
  | nil =>
      cases walked
      cases finished
      exact ⟨[], rfl⟩
  | cons char rest =>
      rw [walk] at walked
      cases stepped : LexState.closed.step mode buffer 1 char with
      | error error =>
          rw [stepped] at walked
          cases walked
      | ok next =>
          rw [stepped] at walked
          rcases Option.map_eq_some_iff.mp walked with ⟨final, _, rfl⟩
          have first : next.tokens = [.rightParenthesis] := by
            simp only [step] at stepped
            split_ifs at stepped <;> cases stepped <;> rfl
          exact ⟨final.tokens ++ ending, by simp [LexStep.behind, first]⟩

end LexState

/-- Text that was begun before is joined to literal text, if that comes first. -/
theorem weld_bufferToken
    (begun buffer : List Char)
    {rest : List Token}
    (apart : buffer = [] → rest.head?.any Token.isLiteral = false) :
    weld Token.fuse? (bufferToken .literal begun)
        (bufferToken .literal buffer ++ rest) =
      bufferToken .literal (begun ++ buffer) ++ rest := by
  cases begun with
  | nil => simp [bufferToken]
  | cons char chars =>
      cases buffer with
      | cons other others =>
          have joined :
              String.ofList (char :: chars ++ other :: others) =
                String.ofList (char :: chars) ++ String.ofList (other :: others) :=
            String.ofList_append
          change
            .literal
                (String.ofList (char :: chars) ++ String.ofList (other :: others)) ::
                rest =
              .literal (String.ofList (char :: chars ++ other :: others)) :: rest
          rw [joined]
      | nil =>
          have apart := apart rfl
          cases rest with
          | nil => simp [bufferToken]
          | cons token rest =>
              cases token with
              | literal text => cases apart
              | _ => simp [bufferToken, weld, Token.fuse?]

/--
If the lexer holds text already, it walks over characters as it does without
that, and the text comes out together with literal text in front.
-/
theorem LexState.exists_walk_begun
    {mode : EscapeMode}
    {state : LexState}
    {buffer chars : List Char}
    {last : LexStep}
    {ending : List Token}
    (inside : state.inText = true)
    (walked : walk mode state buffer chars = some last)
    (finished : last.state.finish last.buffer = .ok ending)
    (begun : List Char) :
    ∃ other otherEnding,
      walk mode state (begun ++ buffer) chars = some other ∧
        other.state.finish other.buffer = .ok otherEnding ∧
        other.tokens ++ otherEnding =
          weld Token.fuse? (bufferToken .literal begun) (last.tokens ++ ending) := by
  -- As long as the text only grows, both walks go on alike.  The first token
  -- that comes out is the text, with what was begun in front of it.
  induction chars generalizing state buffer last with
  | nil =>
      cases walked
      have completed : ending = bufferToken .literal buffer := by
        cases state with
        | literal => cases finished; rfl
        | escaped specials => cases finished; rfl
        | _ => cases inside
      have nothing : ([] : List Token).head?.any Token.isLiteral = false := rfl
      have joined := weld_bufferToken begun buffer fun _ => nothing
      refine ⟨_, bufferToken .literal (begun ++ buffer), rfl, ?_, ?_⟩
      · cases state with
        | literal => rfl
        | escaped specials => rfl
        | _ => cases inside
      · rw [completed]
        simpa using joined.symm
  | cons char rest ih =>
      rcases textStep_of_inText inside mode char with
        ⟨later, added, insideLater, steps⟩ | steps | steps | ⟨error, steps⟩
      · rw [walk_cons (steps buffer)] at walked
        rcases Option.map_eq_some_iff.mp walked with ⟨final, walkedRest, rfl⟩
        rcases ih insideLater walkedRest finished with
          ⟨other, otherEnding, otherWalked, otherFinished, joined⟩
        rw [← List.append_assoc] at otherWalked
        refine ⟨other, otherEnding, ?_, otherFinished, joined⟩
        rw [walk_cons (steps (begun ++ buffer)), otherWalked]
        rfl
      · rw [walk_cons (steps buffer)] at walked
        rcases Option.map_eq_some_iff.mp walked with ⟨final, walkedRest, rfl⟩
        refine
          ⟨final.behind (bufferToken .literal (begun ++ buffer) ++ [.percent]),
            ending, ?_, finished, ?_⟩
        · rw [walk_cons (steps (begun ++ buffer)), walkedRest]
          rfl
        · have percent :
              (Token.percent :: (final.tokens ++ ending)).head?.any
                  Token.isLiteral =
                false :=
            rfl
          have joined := weld_bufferToken begun buffer fun _ => percent
          simpa [LexStep.behind] using joined.symm
      · rw [walk_cons (steps buffer)] at walked
        rcases Option.map_eq_some_iff.mp walked with ⟨final, walkedRest, rfl⟩
        refine
          ⟨final.behind (bufferToken .literal (begun ++ buffer)),
            ending, ?_, finished, ?_⟩
        · rw [walk_cons (steps (begun ++ buffer)), walkedRest]
          rfl
        · have parenthesis :
              (final.tokens ++ ending).head?.any Token.isLiteral = false := by
            rcases exists_parenthesis_of_walk walkedRest finished with
              ⟨more, first⟩
            rw [first]
            rfl
          have joined := weld_bufferToken begun buffer fun _ => parenthesis
          simpa [LexStep.behind] using joined.symm
      · rw [walk, steps buffer] at walked
        cases walked

/-! ## The separator -/

/-- Two patterns with a separator between them. -/
def separate (first second : String) : String :=
  first ++ "\\_" ++ second

theorem toList_separate (first second : String) :
    (separate first second).toList =
      first.toList ++ (separator ++ second.toList) := by
  simp [separate, separator, String.toList_append]

/--
The separator completes what the end of a pattern would complete, apart from
literal text, which the lexer still holds behind it.
-/
theorem LexState.exists_walk_separator
    {state : LexState}
    {buffer : List Char}
    {ending : List Token}
    (finished : state.finish buffer = .ok ending)
    (notEscaped : ∀ specials, state ≠ .escaped specials) :
    ∃ held tokens,
      walk .regular state buffer separator = some ⟨.literal, held, tokens⟩ ∧
        tokens ++ bufferToken .literal held = ending := by
  cases state with
  | literal =>
      cases finished
      exact
        ⟨buffer, [], by simp [separator, walk, step, EscapeMode.escape, textSpecials],
          rfl⟩
  | escaped specials => exact absurd rfl (notEscaped specials)
  | modifier => cases finished
  | word =>
      cases finished
      have notPart : isWordPart '\\' = false := by decide
      exact
        ⟨[], [.simple (String.ofList buffer)],
          by
            simp [separator, walk, step, notPart, EscapeMode.escape, textSpecials],
          rfl⟩
  | closed =>
      cases finished
      exact ⟨[], [.rightParenthesis], rfl, rfl⟩
  | opened => cases finished
  | options values place => cases finished

/-- The last token is no literal text where the lexer reads such text. -/
theorem LexState.not_isLiteral_of_walk
    {mode : EscapeMode}
    {chars held : List Char}
    {tokens : List Token}
    (walked : walk mode .literal [] chars = some ⟨.literal, held, tokens⟩) :
    tokens.getLast?.any Token.isLiteral = false := by
  have begins : LexState.literal.Ready none [] := ⟨rfl, rfl⟩
  rcases continues_walk begins walked with ⟨last, runs, _, apart⟩
  rcases runs.last_cases with ⟨rfl, _⟩ | ⟨front, token, rfl, rfl⟩
  · rfl
  · simpa using apart

/-- Patterns with a separator between them are read one after the other. -/
theorem Reads.separated
    {first second : String}
    {nodes others : List Node}
    (readsFirst : Reads .regular first nodes)
    (readsSecond : Reads .regular second others)
    (complete : ¬ EndsInBackslash .regular first) :
    Reads .regular (separate first second) (weld Node.fuse? nodes others) := by
  rcases reads_iff_derives.mp readsFirst with
    ⟨nonempty, ⟨state, buffer, tokens⟩, ending, walked, finished, derived⟩
  rcases reads_iff_derives.mp readsSecond with
    ⟨_, last, lastEnding, lastWalked, lastFinished, lastDerived⟩
  rcases exists_walk_separator finished (ne_escaped_of_walk walked complete) with
    ⟨held, more, separates, rfl⟩
  have front := walk_trans walked separates
  -- Behind the separator the lexer holds `held`, not an empty buffer.
  rcases exists_walk_begun rfl lastWalked lastFinished held with
    ⟨⟨final, finalBuffer, finalTokens⟩, finalEnding, finalWalked, finalFinished,
      joined⟩
  rw [List.append_nil] at finalWalked
  have welded :
      weld Token.fuse? (tokens ++ (more ++ bufferToken .literal held))
          (last.tokens ++ lastEnding) =
        (tokens ++ more) ++ (finalTokens ++ finalEnding) := by
    rw [joined, ← List.append_assoc]
    exact Token.weld_append (fun _ => not_isLiteral_of_walk front) _
  rw [reads_iff_derives, toList_separate]
  refine
    ⟨by simp [nonempty], ⟨final, finalBuffer, (tokens ++ more) ++ finalTokens⟩,
      finalEnding, ?_, finalFinished, ?_⟩
  · rw [← List.append_assoc]
    exact walk_trans front finalWalked
  · have derivedBoth := derived.welded lastDerived
    rw [welded] at derivedBoth
    simpa using derivedBoth

/-! ## What patterns with a separator render -/

/-- One text behind another one, unless one of them cannot be made. -/
def joinTexts (first second : Except RenderFailure String) :
    Except RenderFailure String := do
  let front ← first
  let back ← second
  .ok (front ++ back)

@[simp]
theorem joinTexts_empty_left (text : Except RenderFailure String) :
    joinTexts (.ok "") text = text := by
  cases text with
  | error failure => rfl
  | ok back => exact congrArg Except.ok String.empty_append

@[simp]
theorem joinTexts_empty_right (text : Except RenderFailure String) :
    joinTexts text (.ok "") = text := by
  cases text with
  | error failure => rfl
  | ok front => exact congrArg Except.ok String.append_empty

theorem joinTexts_assoc (first second third : Except RenderFailure String) :
    joinTexts (joinTexts first second) third =
      joinTexts first (joinTexts second third) := by
  cases first with
  | error failure => rfl
  | ok front =>
      cases second with
      | error failure => rfl
      | ok middle =>
          cases third with
          | error failure => rfl
          | ok back => exact congrArg Except.ok String.append_assoc

theorem Chain.render_cons
    (scene : Scene)
    (event : Event)
    (piece : Piece)
    (rest : Chain) :
    render scene event (piece :: rest) =
      joinTexts (piece.render scene event) (render scene event rest) := by
  rw [render]
  cases piece.render scene event with
  | error failure => rfl
  | ok text =>
      cases render scene event rest with
      | error failure => rfl
      | ok others => rfl

theorem Node.exists_literals_of_fuse?
    {first second whole : Node}
    (fused : first.fuse? second = some whole) :
    ∃ front back,
      first = .literal front ∧ second = .literal back ∧
        whole = .literal (front ++ back) := by
  unfold fuse? at fused
  split at fused
  · cases fused
    exact ⟨_, _, rfl, rfl, rfl⟩
  · cases fused

section Rendering

variable (dictionary : Dictionary) (context : Context)
variable (scene : Scene) (event : Event)

theorem render_assemble_nil :
    Chain.render scene event (assemble dictionary context []).1 = .ok "" := by
  rw [assemble, Chain.render]

theorem render_assemble_cons (node : Node) (rest : List Node) :
    Chain.render scene event (assemble dictionary context (node :: rest)).1 =
      joinTexts (node.meaning dictionary context scene event)
        (Chain.render scene event (assemble dictionary context rest).1) := by
  rw [assemble, Chain.render_cons, render_assembleNode]

/-- Nodes that are joined at their ends render their texts, joined. -/
theorem render_weld (nodes others : List Node) :
    Chain.render scene event
        (assemble dictionary context (weld Node.fuse? nodes others)).1 =
      joinTexts
        (Chain.render scene event (assemble dictionary context nodes).1)
        (Chain.render scene event (assemble dictionary context others).1) := by
  induction nodes with
  | nil => rw [weld_nil_left, render_assemble_nil, joinTexts_empty_left]
  | cons node rest ih =>
      by_cases last : rest = []
      · subst last
        cases others with
        | nil => rw [weld_nil_right, render_assemble_nil, joinTexts_empty_right]
        | cons other others =>
            cases fused : node.fuse? other with
            | none =>
                simp only [weld, fused, render_assemble_cons,
                  render_assemble_nil, joinTexts_empty_right]
            | some whole =>
                rcases Node.exists_literals_of_fuse? fused with
                  ⟨front, back, rfl, rfl, rfl⟩
                simp only [weld, fused, render_assemble_cons,
                  render_assemble_nil, joinTexts_empty_right, ← joinTexts_assoc]
                rfl
      · rw [weld_cons_of_ne_nil last, render_assemble_cons, ih,
          render_assemble_cons, joinTexts_assoc]

end Rendering

/--
Two patterns that are read, the first of which no backslash at its end would tie
to what follows, are read with a separator between them as their nodes one
after the other, only that text at the end of the first is taken together with
text at the beginning of the second.  Whatever words are known, they render what
the two patterns render, joined.
-/
theorem reads_separate
    {first second : String}
    {nodes others : List Node}
    (readsFirst : Reads .regular first nodes)
    (readsSecond : Reads .regular second others)
    (complete : ¬ EndsInBackslash .regular first) :
    Reads .regular (separate first second) (weld Node.fuse? nodes others) ∧
      ∀ dictionary context,
        ∃ whole front back,
          (Layout.build ⟨separate first second, .regular, dictionary, false⟩
              context).1 = .ok whole ∧
            (Layout.build ⟨first, .regular, dictionary, false⟩ context).1 =
              .ok front ∧
            (Layout.build ⟨second, .regular, dictionary, false⟩ context).1 =
              .ok back ∧
            ∀ scene event,
              whole.render scene event =
                joinTexts (front.render scene event) (back.render scene event) := by
  have readsWhole := readsFirst.separated readsSecond complete
  refine ⟨readsWhole, ?_⟩
  intro dictionary context
  refine
    ⟨_, _, _, congrArg Prod.fst (readsWhole.build dictionary context),
      congrArg Prod.fst (readsFirst.build dictionary context),
      congrArg Prod.fst (readsSecond.build dictionary context), ?_⟩
  intro scene event
  exact render_weld dictionary context scene event nodes others

/-- Text at the end of the first pattern and text in front of the second come together. -/
theorem reads_separate_texts :
    Reads .regular "%(%level) at "
        [.composite "BARE" none [] [.conversion "level" none []],
          .literal " at "] ∧
      Reads .regular "line %line"
        [.literal "line ", .conversion "line" none []] ∧
      ¬ EndsInBackslash .regular "%(%level) at " ∧
      Reads .regular "%(%level) at \\_line %line"
        [.composite "BARE" none [] [.conversion "level" none []],
          .literal " at line ", .conversion "line" none []] := by
  have readsFirst :
      Reads .regular "%(%level) at "
        [.composite "BARE" none [] [.conversion "level" none []],
          .literal " at "] :=
    reads_iff_derives.mpr
      ⟨by decide,
        ⟨.literal, " at ".toList,
          [.percent, .bare, .percent, .simple "level", .rightParenthesis]⟩,
        _, rfl, rfl,
        .composite .absent (.conversion .absent .absent .nil) .absent
          (.literal .nil)⟩
  have readsSecond :
      Reads .regular "line %line"
        [.literal "line ", .conversion "line" none []] :=
    reads_iff_derives.mpr
      ⟨by decide, ⟨.word, "line".toList, [.literal "line ", .percent]⟩, _, rfl, rfl,
        .literal (.conversion .absent .absent .nil)⟩
  have atEnd : endState? .regular "%(%level) at " = some .literal := rfl
  have complete : ¬ EndsInBackslash .regular "%(%level) at " := by
    rintro ⟨specials, ends⟩
    rw [atEnd] at ends
    cases ends
  exact
    ⟨readsFirst, readsSecond, complete,
      (reads_separate readsFirst readsSecond complete).1⟩

end LogPipeline.Pattern
