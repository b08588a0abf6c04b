import LogPipeline.Pattern.Reading
import LogPipeline.Proofs.Pattern.Lexing
import Mathlib.Tactic.Cases

/-!
# Derivations of trees

The grammar of patterns as a relation between tokens and nodes, and the parser
seen against it.

The parser takes the longest list of nodes from the front of its tokens.
Tokens that derive nodes are taken as a whole when the conversion at their end
has no option list behind them, and whatever the parser takes is derived.  So the
parser reads exactly what the grammar allows, and in one way only.  A pattern
has a tree, with no token left over, exactly when the tokens of the pattern
derive the tree.
-/

namespace LogPipeline.Pattern

/-! ## The grammar -/

/-- The tokens of a modifier, if there is one, with the format it gives. -/
inductive ModifierTokens : List Token → Option FieldFormat → Prop where
  | absent : ModifierTokens [] none
  | present
      {text : String}
      {format : FieldFormat}
      (accepted : FieldFormat.ofModifier text = .ok format) :
      ModifierTokens [.modifier text] (some format)

/-- The tokens of an option list, if there is one, with its values. -/
inductive OptionTokens : List Token → List String → Prop where
  | absent : OptionTokens [] []
  | present {values : List String} : OptionTokens [.options values] values

/--
The tokens that a list of nodes is derived from.  A node is literal text, or a
percent sign with an optional modifier and a conversion.
-/
inductive Derives : List Token → List Node → Prop where
  | nil : Derives [] []
  | literal
      {text : String}
      {tokens : List Token}
      {nodes : List Node}
      (more : Derives tokens nodes) :
      Derives (.literal text :: tokens) (.literal text :: nodes)
  | conversion
      {word : String}
      {front behind tokens : List Token}
      {format : Option FieldFormat}
      {values : List String}
      {nodes : List Node}
      (modified : ModifierTokens front format)
      (optional : OptionTokens behind values)
      (more : Derives tokens nodes) :
      Derives
        (.percent :: (front ++ .simple word :: (behind ++ tokens)))
        (.conversion word format values :: nodes)
  | composite
      {word : String}
      {front inner behind tokens : List Token}
      {format : Option FieldFormat}
      {values : List String}
      {children nodes : List Node}
      (modified : ModifierTokens front format)
      (inside : Derives inner children)
      (optional : OptionTokens behind values)
      (more : Derives tokens nodes) :
      Derives
        (.percent ::
          (front ++ .composite word ::
            (inner ++ .rightParenthesis :: (behind ++ tokens))))
        (.composite word format values children :: nodes)

/-- What two lists of tokens derive, one after the other. -/
theorem Derives.append
    {first second : List Token}
    {nodes more : List Node}
    (derived : Derives first nodes)
    (continued : Derives second more) :
    Derives (first ++ second) (nodes ++ more) := by
  induction derived with
  | nil => exact continued
  | literal _ ih => exact .literal ih
  | conversion modified optional _ ih =>
      simpa only [List.cons_append, List.append_assoc] using
        Derives.conversion modified optional ih
  | composite modified inside optional _ _ ih =>
      simpa only [List.cons_append, List.append_assoc] using
        Derives.composite modified inside optional ih

/-! ## What stands in front of a list of tokens -/

/-- Whether an option list is in front. -/
def opensOptions : List Token → Bool
  | .options _ :: _ => true
  | _ => false

/-- Whether a node can begin with the token in front. -/
def opensNode : List Token → Bool
  | .literal _ :: _ => true
  | .percent :: _ => true
  | _ => false

/-- Whether an option list behind the token belongs to its conversion. -/
def Token.takesOptions : Token → Bool
  | .simple _ => true
  | .rightParenthesis => true
  | _ => false

/-- Whether an option list behind some tokens belongs to their last conversion. -/
def endsConversion (tokens : List Token) : Bool :=
  tokens.getLast?.any Token.takesOptions

@[simp]
theorem endsConversion_nil : endsConversion [] = false :=
  rfl

theorem any_getLast?_append_cons
    (holds : Token → Bool)
    (front back : List Token)
    (token : Token) :
    (front ++ token :: back).getLast?.any holds =
      (token :: back).getLast?.any holds := by
  simp [List.getLast?_cons]

theorem endsConversion_append_cons
    (front back : List Token)
    (token : Token) :
    endsConversion (front ++ token :: back) = endsConversion (token :: back) :=
  any_getLast?_append_cons Token.takesOptions front back token

/-- No conversion at the end of `tokens` has an option list in front of `rest`. -/
def Apart (tokens rest : List Token) : Prop :=
  opensOptions rest = true → endsConversion tokens = false

namespace Apart

theorem of_opensOptions
    {rest : List Token}
    (closed : opensOptions rest = false)
    (tokens : List Token) :
    Apart tokens rest := by
  intro opens
  rw [closed] at opens
  cases opens

theorem behind
    {front back rest : List Token}
    (apart : Apart (front ++ back) rest) :
    Apart back rest := by
  cases back with
  | nil =>
      intro _
      exact endsConversion_nil
  | cons token back =>
      intro opens
      rw [← endsConversion_append_cons front back token]
      exact apart opens

theorem opensOptions_eq_false
    {front rest : List Token}
    {closing : Token}
    (apart : Apart (front ++ [closing]) rest)
    (takes : closing.takesOptions = true) :
    opensOptions rest = false := by
  cases opens : opensOptions rest with
  | false => rfl
  | true =>
      have untaken := apart opens
      rw [endsConversion_append_cons] at untaken
      exact absurd takes (Bool.eq_false_iff.mp untaken)

end Apart

/-- No derivation begins with an option list. -/
theorem Derives.opensOptions_append
    {tokens rest : List Token}
    {nodes : List Node}
    (derived : Derives tokens nodes)
    (apart : tokens = [] → opensOptions rest = false) :
    opensOptions (tokens ++ rest) = false := by
  cases derived with
  | nil => exact apart rfl
  | literal more => rfl
  | conversion modified optional more => rfl
  | composite modified inside optional more => rfl

/-- The modifier in front of a conversion word is taken with its format. -/
theorem ModifierTokens.takeModifier
    {front : List Token}
    {format : Option FieldFormat}
    {word : Token}
    (modified : ModifierTokens front format)
    (isWord : ∀ text, word ≠ .modifier text)
    (rest : List Token) :
    Pattern.takeModifier (front ++ word :: rest) =
      .ok (format, word :: rest) := by
  cases modified with
  | absent =>
      rw [List.nil_append, Pattern.takeModifier]
      intro text _ equal
      exact isWord text (List.head_eq_of_cons_eq equal)
  | present accepted =>
      rw [List.cons_append, Pattern.takeModifier, accepted]
      rfl

/-- The option list behind a conversion is taken with its values. -/
theorem OptionTokens.takeOptions
    {front behind tokens rest : List Token}
    {closing : Token}
    {values : List String}
    {nodes : List Node}
    (optional : OptionTokens behind values)
    (takes : closing.takesOptions = true)
    (more : Derives tokens nodes)
    (apart : Apart (front ++ closing :: (behind ++ tokens)) rest) :
    Pattern.takeOptions (behind ++ (tokens ++ rest)) =
      (values, tokens ++ rest) := by
  cases optional with
  | present => rfl
  | absent =>
      have closed : opensOptions (tokens ++ rest) = false := by
        apply more.opensOptions_append
        rintro rfl
        exact apart.opensOptions_eq_false takes
      rw [List.nil_append, Pattern.takeOptions]
      intro values more equal
      rw [equal] at closed
      cases closed

/--
What is taken behind a conversion is an option list or nothing, and nothing only
if no option list is there.
-/
theorem exists_optionTokens (tokens : List Token) :
    ∃ behind,
      OptionTokens behind (takeOptions tokens).1 ∧
        tokens = behind ++ (takeOptions tokens).2 ∧
        (behind = [] → opensOptions tokens = false) := by
  unfold takeOptions
  split
  next values rest => exact ⟨_, .present, rfl, fun empty => nomatch empty⟩
  next noOptions =>
    refine ⟨[], .absent, rfl, ?_⟩
    intro _
    unfold opensOptions
    split
    next values rest => exact absurd rfl (noOptions values rest)
    next => rfl

/-- What is taken of the tokens behind a conversion stays apart from the rest. -/
theorem OptionTokens.apart
    {behind tokens rest : List Token}
    {closing : Token}
    {values : List String}
    (optional : OptionTokens behind values)
    (taken : behind = [] → opensOptions (behind ++ (tokens ++ rest)) = false)
    (apart : Apart tokens rest)
    (front : List Token) :
    Apart (front ++ closing :: (behind ++ tokens)) rest := by
  cases tokens with
  | cons token tokens =>
      intro opens
      rw [← List.cons_append, ← List.append_assoc, endsConversion_append_cons]
      exact apart opens
  | nil =>
      cases optional with
      | absent => exact .of_opensOptions (taken rfl) _
      | present =>
          intro _
          rw [endsConversion_append_cons]
          rfl

/-- What is taken behind a percent sign is a modifier or nothing. -/
theorem exists_modifierTokens
    {tokens rest : List Token}
    {format : Option FieldFormat}
    (taken : takeModifier tokens = .ok (format, rest)) :
    ∃ front, ModifierTokens front format ∧ tokens = front ++ rest := by
  by_cases modified : ∃ text after, tokens = .modifier text :: after
  · rcases modified with ⟨text, after, rfl⟩
    rw [takeModifier] at taken
    cases accepted : FieldFormat.ofModifier text with
    | error error =>
        rw [accepted] at taken
        cases taken
    | ok _ =>
        rw [accepted] at taken
        cases taken
        exact ⟨_, .present accepted, rfl⟩
  · rw [takeModifier] at taken
    · cases taken
      exact ⟨[], .absent, rfl⟩
    · intro text after equal
      exact modified ⟨text, after, equal⟩

/-! ## The parser, token by token -/

/-- What is read, with a node in front. -/
def consRead (node : Node) (read : List Node × List Token) : List Node × List Token :=
  (node :: read.1, read.2)

/-- Tokens that no node begins with are left. -/
theorem parseTokens_of_not_opensNode
    {tokens : List Token}
    (closed : opensNode tokens = false) :
    parseTokens tokens = .ok ([], tokens) := by
  rw [parseTokens, parseNodes]
  · intro text rest equal
    subst equal
    cases closed
  · intro rest equal
    subst equal
    cases closed

theorem parseTokens_literal
    (text : String)
    (rest : List Token) :
    parseTokens (.literal text :: rest) =
      (parseTokens rest).map (consRead (.literal text)) := by
  simp only [parseTokens, parseNodes]
  cases parseNodes rest <;> rfl

/-- What is read behind a percent sign, once its modifier is taken. -/
def readConversion (format : Option FieldFormat) :
    List Token → Except PatternError (List Node × List Token)
  | .simple word :: rest =>
      (parseTokens (takeOptions rest).2).map
        (consRead (.conversion word format (takeOptions rest).1))
  | .composite word :: rest =>
      match parseTokens rest with
      | .error error => .error error
      | .ok (children, .rightParenthesis :: behind) =>
          (parseTokens (takeOptions behind).2).map
            (consRead (.composite word format (takeOptions behind).1 children))
      | .ok (_, found) => .error (.missingParenthesis (describeFront found))
  | found => .error (.missingKeyword (describeFront found))

/-- The parser without the bound that it carries along. -/
theorem parseTokens_eq_map (tokens : List Token) :
    parseTokens tokens =
      (parseNodes tokens).map fun parsed => (parsed.nodes, parsed.rest) := by
  rw [parseTokens]
  cases parseNodes tokens <;> rfl

theorem parseTokens_percent (tokens : List Token) :
    parseTokens (.percent :: tokens) =
      match takeModifier tokens with
      | .error error => .error error
      | .ok (format, front) => readConversion format front := by
  rw [parseTokens_eq_map, parseNodes]
  split
  next error refused =>
    simp only [refused]
    rfl
  next format front taken =>
    simp only [taken]
    split
    next word rest _ _ =>
      rw [readConversion, parseTokens_eq_map]
      cases parseNodes (takeOptions rest).2 <;> rfl
    next word rest _ _ =>
      rw [readConversion, parseTokens_eq_map]
      cases parseNodes rest with
      | error error => rfl
      | ok inner =>
          rcases inner with ⟨children, left, bound⟩
          dsimp only
          split
          next behind =>
            simp only [Except.map, parseTokens]
            cases parseNodes (takeOptions behind).2 <;> rfl
          next unclosed => simp only [Except.map]
    next noSimple noComposite =>
      rw [readConversion]
      · rfl
      · intro word rest equal
        subst equal
        exact noSimple word rest _ _ rfl HEq.rfl HEq.rfl
      · intro word rest equal
        subst equal
        exact noComposite word rest _ _ rfl HEq.rfl HEq.rfl

/-! ## The parser against the grammar -/

/-- What is read, with nodes in front. -/
def prependRead
    (nodes : List Node)
    (read : List Node × List Token) :
    List Node × List Token :=
  (nodes ++ read.1, read.2)

/--
Tokens that derive nodes are taken as a whole, and reading goes on behind
them, unless an option list follows that belongs to them.
-/
theorem Derives.parseTokens_append_of_apart
    {tokens rest : List Token}
    {nodes : List Node}
    (derived : Derives tokens nodes)
    (apart : Apart tokens rest) :
    parseTokens (tokens ++ rest) =
      (parseTokens rest).map (prependRead nodes) := by
  induction derived generalizing rest with
  | nil =>
      rw [List.nil_append]
      cases parseTokens rest <;> rfl
  | @literal text tokens nodes more ih =>
      have apartMore : Apart tokens rest := by
        rw [← List.singleton_append] at apart
        exact apart.behind
      rw [List.cons_append, parseTokens_literal, ih apartMore]
      cases parseTokens rest <;> rfl
  | @conversion word front behind tokens format values nodes modified optional
      more ih =>
      have isWord : ∀ text, Token.simple word ≠ .modifier text :=
        fun _ => Token.noConfusion
      have taken := modified.takeModifier isWord (behind ++ (tokens ++ rest))
      rw [← List.cons_append] at apart
      have optioned := optional.takeOptions rfl more apart
      have apartMore : Apart tokens rest := by
        rw [← List.cons_append, ← List.append_assoc] at apart
        exact apart.behind
      simp only [List.cons_append, List.append_assoc]
      rw [parseTokens_percent, taken]
      simp only [readConversion, optioned, ih apartMore]
      cases parseTokens rest <;> rfl
  | @composite word front inner behind tokens format values children nodes
      modified inside optional more insideIH ih =>
      have isWord : ∀ text, Token.composite word ≠ .modifier text :=
        fun _ => Token.noConfusion
      have taken :=
        modified.takeModifier isWord
          (inner ++ .rightParenthesis :: (behind ++ (tokens ++ rest)))
      rw [← List.cons_append, ← List.cons_append, ← List.append_assoc] at apart
      have optioned := optional.takeOptions rfl more apart
      have apartMore : Apart tokens rest := by
        rw [← List.cons_append, ← List.append_assoc] at apart
        exact apart.behind
      have closed :
          parseTokens
              (inner ++ .rightParenthesis :: (behind ++ (tokens ++ rest))) =
            .ok (children, .rightParenthesis :: (behind ++ (tokens ++ rest))) := by
        rw [insideIH (.of_opensOptions rfl _), parseTokens_of_not_opensNode rfl]
        simp [Except.map, prependRead]
      simp only [List.cons_append, List.append_assoc]
      rw [parseTokens_percent, taken]
      simp only [readConversion, closed, optioned, ih apartMore]
      cases parseTokens rest <;> rfl

/-- Reading goes on behind derived tokens where no option list follows. -/
theorem Derives.parseTokens_append
    {tokens rest : List Token}
    {nodes : List Node}
    (derived : Derives tokens nodes)
    (closed : opensOptions rest = false) :
    parseTokens (tokens ++ rest) =
      (parseTokens rest).map (prependRead nodes) :=
  derived.parseTokens_append_of_apart (.of_opensOptions closed tokens)

/-- Tokens that derive nodes are parsed into these, with nothing left. -/
theorem Derives.parseTokens
    {tokens : List Token}
    {nodes : List Node}
    (derived : Derives tokens nodes) :
    parseTokens tokens = .ok (nodes, []) := by
  have nothing : Pattern.parseTokens [] = .ok ([], []) :=
    parseTokens_of_not_opensNode rfl
  have apart : opensOptions [] = false := rfl
  have parsed := derived.parseTokens_append apart
  rw [List.append_nil, nothing] at parsed
  simpa [Except.map, prependRead] using parsed

/-- What is read with a node in front was read without it before. -/
theorem exists_of_map_consRead
    {read : Except PatternError (List Node × List Token)}
    {node : Node}
    {nodes : List Node}
    {rest : List Token}
    (mapped : read.map (consRead node) = .ok (nodes, rest)) :
    ∃ more, read = .ok (more, rest) ∧ nodes = node :: more := by
  cases read with
  | error error => cases mapped
  | ok result =>
      cases mapped
      exact ⟨result.1, rfl, rfl⟩

/-- How a conversion was read, once its modifier was taken, and what followed. -/
inductive ReadsConversion
    (format : Option FieldFormat) :
    List Token → List Node → List Token → Prop where
  | simple
      {word : String}
      {after rest : List Token}
      {more : List Node}
      (later : parseTokens (takeOptions after).2 = .ok (more, rest)) :
      ReadsConversion format (.simple word :: after)
        (.conversion word format (takeOptions after).1 :: more) rest
  | composite
      {word : String}
      {after behind rest : List Token}
      {children more : List Node}
      (inside :
        parseTokens after = .ok (children, .rightParenthesis :: behind))
      (later : parseTokens (takeOptions behind).2 = .ok (more, rest)) :
      ReadsConversion format (.composite word :: after)
        (.composite word format (takeOptions behind).1 children :: more) rest

theorem readsConversion_of_readConversion
    {format : Option FieldFormat}
    {front rest : List Token}
    {nodes : List Node}
    (read : readConversion format front = .ok (nodes, rest)) :
    ReadsConversion format front nodes rest := by
  unfold readConversion at read
  split at read
  next word after =>
    rcases exists_of_map_consRead read with ⟨more, later, rfl⟩
    exact .simple later
  next word after =>
    cases inside : parseTokens after with
    | error error =>
        rw [inside] at read
        cases read
    | ok inner =>
        rw [inside] at read
        split at read
        next refused => cases refused
        next children behind closed =>
          cases closed
          rcases exists_of_map_consRead read with ⟨more, later, rfl⟩
          exact .composite inside later
        next => cases read
  next => cases read

/-- A node begins with literal text or a percent sign. -/
theorem exists_of_opensNode
    {tokens : List Token}
    (opens : opensNode tokens = true) :
    (∃ text later, tokens = .literal text :: later) ∨
      ∃ later, tokens = .percent :: later := by
  unfold opensNode at opens
  split at opens
  next text later => exact Or.inl ⟨text, later, rfl⟩
  next later => exact Or.inr ⟨later, rfl⟩
  next => cases opens

/--
The front of a list of tokens derives nodes, and it cannot be continued: no node
begins behind it, and no option list there belongs to its last conversion.
-/
structure Takes (tokens used rest : List Token) (nodes : List Node) : Prop where
  tokens_eq : tokens = used ++ rest
  derived : Derives used nodes
  stops : opensNode rest = false
  apart : Apart used rest

/-- What can be taken from the front of some tokens is taken. -/
theorem Takes.parseTokens
    {tokens used rest : List Token}
    {nodes : List Node}
    (takes : Takes tokens used rest nodes) :
    parseTokens tokens = .ok (nodes, rest) := by
  rw [takes.tokens_eq, takes.derived.parseTokens_append_of_apart takes.apart,
    parseTokens_of_not_opensNode takes.stops]
  simp [Except.map, prependRead]

/-- What the parser takes can be taken. -/
theorem exists_takes_of_parseTokens
    {tokens rest : List Token}
    {nodes : List Node}
    (parsed : parseTokens tokens = .ok (nodes, rest)) :
    ∃ used, Takes tokens used rest nodes := by
  -- The recursion of the parser goes to later places of the same tokens.
  induction size : tokens.length using Nat.strongRecOn
    generalizing tokens nodes rest with
  | _ size ih =>
  subst size
  cases opens : opensNode tokens with
  | false =>
      rw [parseTokens_of_not_opensNode opens] at parsed
      cases parsed
      exact ⟨[], rfl, .nil, opens, fun _ => endsConversion_nil⟩
  | true =>
      rcases exists_of_opensNode opens with ⟨text, later, rfl⟩ | ⟨later, rfl⟩
      · rw [parseTokens_literal] at parsed
        rcases exists_of_map_consRead parsed with ⟨more, parsedLater, rfl⟩
        rcases ih later.length (by simp) parsedLater rfl with
          ⟨used, rfl, derived, stops, apart⟩
        refine ⟨_, rfl, .literal derived, stops, ?_⟩
        cases used with
        | nil =>
            intro _
            rfl
        | cons token used => exact apart
      · rw [parseTokens_percent] at parsed
        cases taken : takeModifier later with
        | error error =>
            rw [taken] at parsed
            cases parsed
        | ok result =>
            rcases result with ⟨format, front⟩
            rw [taken] at parsed
            rcases exists_modifierTokens taken with ⟨modifier, modified, rfl⟩
            cases readsConversion_of_readConversion parsed with
            | @simple word after _ more parsedLater =>
                rcases exists_optionTokens after with
                  ⟨behind, optional, split, noOptions⟩
                have shorter := takeOptions_length after
                rcases
                    ih (takeOptions after).2.length
                      (by simp only [List.length_cons, List.length_append]; omega)
                      parsedLater rfl with
                  ⟨used, equal, derived, stops, apart⟩
                rw [equal] at split
                rw [split] at noOptions
                refine
                  ⟨_, ?_, .conversion modified optional derived, stops,
                    optional.apart noOptions apart (.percent :: modifier)⟩
                rw [split]
                simp only [List.cons_append, List.append_assoc]
            | @composite word after behindChildren _ children more
                parsedChildren parsedLater =>
                rcases
                    ih after.length
                      (by simp only [List.length_cons, List.length_append]; omega)
                      parsedChildren rfl with
                  ⟨inner, equalInner, inside, _⟩
                rcases exists_optionTokens behindChildren with
                  ⟨behind, optional, split, noOptions⟩
                have shorter := takeOptions_length behindChildren
                rcases
                    ih (takeOptions behindChildren).2.length
                      (by
                        simp only [equalInner, List.length_cons,
                          List.length_append]
                        omega)
                      parsedLater rfl with
                  ⟨used, equal, derived, stops, apart⟩
                rw [equal] at split
                rw [split] at noOptions
                have apartAll :
                    Apart
                      (.percent :: (modifier ++ .composite word :: inner) ++
                        .rightParenthesis :: (behind ++ used))
                      rest :=
                  optional.apart noOptions apart _
                simp only [List.cons_append, List.append_assoc] at apartAll
                refine
                  ⟨_, ?_, .composite modified inside optional derived, stops,
                    apartAll⟩
                rw [equalInner, split]
                simp only [List.cons_append, List.append_assoc]

/-- The parser takes exactly what can be taken. -/
theorem parseTokens_eq_ok_iff
    {tokens rest : List Token}
    {nodes : List Node} :
    parseTokens tokens = .ok (nodes, rest) ↔
      ∃ used, Takes tokens used rest nodes := by
  constructor
  · exact exists_takes_of_parseTokens
  · rintro ⟨used, takes⟩
    exact takes.parseTokens

/-- Tokens can be taken in one way at most. -/
theorem Takes.unique
    {tokens used other rest otherRest : List Token}
    {nodes others : List Node}
    (takes : Takes tokens used rest nodes)
    (takesOther : Takes tokens other otherRest others) :
    used = other ∧ rest = otherRest ∧ nodes = others := by
  have parsed := takes.parseTokens
  rw [takesOther.parseTokens] at parsed
  cases parsed
  refine ⟨?_, rfl, rfl⟩
  exact
    List.append_cancel_right
      (takes.tokens_eq.symm.trans takesOther.tokens_eq)

/-- The parser takes all tokens exactly when they derive the nodes. -/
theorem parseTokens_eq_ok_nil_iff
    {tokens : List Token}
    {nodes : List Node} :
    parseTokens tokens = .ok (nodes, []) ↔ Derives tokens nodes := by
  constructor
  · intro parsed
    rcases exists_takes_of_parseTokens parsed with ⟨used, equal, derived, _⟩
    rwa [equal, List.append_nil]
  · intro derived
    exact derived.parseTokens

/-- Tokens that are left over do not change what is read. -/
theorem readTokens_fst_eq_ok_iff
    {tokens : List Token}
    {nodes : List Node} :
    (readTokens tokens).1 = .ok nodes ↔
      ∃ rest, parseTokens tokens = .ok (nodes, rest) := by
  rw [readTokens]
  cases parseTokens tokens with
  | error error => simp
  | ok result =>
      rcases result with ⟨read, rest⟩
      cases rest <;> simp

/--
Reading any tokens gives nodes exactly if some front of the tokens derives these
and cannot be continued.  There is one such front at most, and it derives nothing
else.
-/
theorem readTokens_eq_ok_iff_takes (tokens : List Token) :
    (∀ nodes,
        (readTokens tokens).1 = .ok nodes ↔
          ∃ used rest, Takes tokens used rest nodes) ∧
      ∀ used other rest otherRest nodes others,
        Takes tokens used rest nodes →
          Takes tokens other otherRest others →
            used = other ∧ nodes = others := by
  constructor
  · intro nodes
    rw [readTokens_fst_eq_ok_iff, exists_comm]
    apply exists_congr
    intro rest
    exact parseTokens_eq_ok_iff
  · intro used other rest otherRest nodes others takes takesOther
    rcases takes.unique takesOther with ⟨sameFront, _, sameNodes⟩
    exact ⟨sameFront, sameNodes⟩

/-! ## Patterns and their trees -/

/-- The pattern has the given tree, and no token of it is left over. -/
def Reads (mode : EscapeMode) (pattern : String) (nodes : List Node) : Prop :=
  ∃ tokens,
    tokenize mode pattern = .ok tokens ∧ parseTokens tokens = .ok (nodes, [])

/-- A pattern has a tree when reading it gives the tree and no status. -/
theorem reads_iff_read
    {mode : EscapeMode}
    {pattern : String}
    {nodes : List Node} :
    Reads mode pattern nodes ↔ read mode pattern = (.ok nodes, []) := by
  constructor
  · rintro ⟨tokens, tokenized, parsed⟩
    simp only [read, tokenized, readTokens, parsed]
  · intro readAll
    rw [read] at readAll
    cases tokenized : tokenize mode pattern with
    | error error =>
        rw [tokenized] at readAll
        cases readAll
    | ok tokens =>
        rw [tokenized] at readAll
        dsimp only [readTokens] at readAll
        refine ⟨tokens, tokenized, ?_⟩
        cases parsed : parseTokens tokens with
        | error error =>
            rw [parsed] at readAll
            cases readAll
        | ok result =>
            rcases result with ⟨read, left⟩
            rw [parsed] at readAll
            cases left with
            | nil =>
                cases readAll
                rfl
            | cons token rest => cases readAll

/-- A pattern has one tree at most. -/
theorem Reads.unique
    {mode : EscapeMode}
    {pattern : String}
    {nodes others : List Node}
    (reads : Reads mode pattern nodes)
    (readsOthers : Reads mode pattern others) :
    nodes = others := by
  rw [reads_iff_read] at reads readsOthers
  rw [reads] at readsOthers
  cases readsOthers
  rfl

/-- A pattern has a tree when its tokens derive the tree. -/
theorem reads_iff_derives
    {mode : EscapeMode}
    {pattern : String}
    {nodes : List Node} :
    Reads mode pattern nodes ↔
      pattern.toList ≠ [] ∧
        ∃ last ending,
          LexState.walk mode .literal [] pattern.toList = some last ∧
            last.state.finish last.buffer = .ok ending ∧
            Derives (last.tokens ++ ending) nodes := by
  constructor
  · rintro ⟨tokens, tokenized, parsed⟩
    rcases tokenize_eq_ok_iff.mp tokenized with
      ⟨nonempty, last, ending, walked, finished, rfl⟩
    exact
      ⟨nonempty, last, ending, walked, finished,
        parseTokens_eq_ok_nil_iff.mp parsed⟩
  · rintro ⟨nonempty, last, ending, walked, finished, derived⟩
    exact
      ⟨_,
        tokenize_eq_ok_iff.mpr
          ⟨nonempty, last, ending, walked, finished, rfl⟩,
        derived.parseTokens⟩

end LogPipeline.Pattern
