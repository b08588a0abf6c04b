import LogPipeline.Pattern.Node
import LogPipeline.Pattern.Token

/-!
# From tokens to a tree

The grammar has two rules.  A list of nodes is any number of terms, where a term is literal text or
`%`, an optional modifier and a conversion; a conversion is a simple word, or a composite word, a
list of nodes and a closing parenthesis, and either is followed by an optional option list.

`parseNodes` takes the longest list of nodes from the front of a token list.  What it returns
carries a proof that the rest is no longer than what it was given, which is why the recursion ends.
-/

namespace LogPipeline.Pattern

/-- The text of the token in front, for messages. -/
def describeFront : List Token → String
  | [] => "end of pattern"
  | token :: _ => token.describe

/-- The option list in front, if there is one, and the tokens after it. -/
def takeOptions : List Token → List String × List Token
  | .options values :: rest => (values, rest)
  | rest => ([], rest)

theorem takeOptions_length (tokens : List Token) :
    (takeOptions tokens).2.length ≤ tokens.length := by
  unfold takeOptions
  split <;> simp

/-- The modifier in front, if there is one, and the tokens after it. -/
def takeModifier : List Token → Except PatternError (Option FieldFormat × List Token)
  | .modifier text :: rest =>
      match FieldFormat.ofModifier text with
      | .ok format => .ok (some format, rest)
      | .error error => .error error
  | rest => .ok (none, rest)

theorem takeModifier_length
    {tokens rest : List Token}
    {format : Option FieldFormat}
    (taken : takeModifier tokens = .ok (format, rest)) :
    rest.length ≤ tokens.length := by
  unfold takeModifier at taken
  split at taken
  · split at taken
    · cases taken
      simp
    · cases taken
  · cases taken
    simp

/-- A list of nodes read from the front of `tokens`, and the tokens that are left. -/
structure Parsed (tokens : List Token) where
  nodes : List Node
  rest : List Token
  bound : rest.length ≤ tokens.length

/-- A list of nodes with one more in front. -/
def Parsed.cons
    {tokens later : List Token}
    (node : Node)
    (parsed : Parsed later)
    (shorter : later.length ≤ tokens.length) :
    Parsed tokens :=
  ⟨node :: parsed.nodes, parsed.rest, Nat.le_trans parsed.bound shorter⟩

/-- The longest list of nodes at the front of a token list. -/
def parseNodes (tokens : List Token) : Except PatternError (Parsed tokens) :=
  match tokens with
  | .literal text :: rest =>
      match parseNodes rest with
      | .error error => .error error
      | .ok after => .ok (after.cons (.literal text) (by simp))
  | .percent :: rest =>
      match taken : takeModifier rest with
      | .error error => .error error
      | .ok (format, front) =>
          have frontBound := takeModifier_length taken
          match front with
          | .simple word :: rest₁ =>
              have bound₁ := takeOptions_length rest₁
              match parseNodes (takeOptions rest₁).2 with
              | .error error => .error error
              | .ok after =>
                  .ok (after.cons (.conversion word format (takeOptions rest₁).1)
                    (by simp only [List.length_cons] at frontBound ⊢; omega))
          | .composite word :: rest₁ =>
              match parseNodes rest₁ with
              | .error error => .error error
              | .ok inner =>
                  have innerBound := inner.bound
                  match closing : inner.rest with
                  | .rightParenthesis :: rest₂ =>
                      have bound₂ := takeOptions_length rest₂
                      match parseNodes (takeOptions rest₂).2 with
                      | .error error => .error error
                      | .ok after =>
                          .ok (after.cons
                            (.composite word format (takeOptions rest₂).1 inner.nodes)
                            (by
                              simp only [closing, List.length_cons] at frontBound innerBound ⊢
                              omega))
                  | found => .error (.missingParenthesis (describeFront found))
          | found => .error (.missingKeyword (describeFront found))
  | rest => .ok ⟨[], rest, Nat.le_refl _⟩
termination_by tokens.length
decreasing_by
  all_goals simp_all only [List.length_cons]
  all_goals omega

/-- The tree of a token list, and the tokens that are left when it ends early. -/
def parseTokens (tokens : List Token) : Except PatternError (List Node × List Token) :=
  match parseNodes tokens with
  | .ok parsed => .ok (parsed.nodes, parsed.rest)
  | .error error => .error error

end LogPipeline.Pattern
