import LogPipeline.Json.Access
import LogPipeline.Pattern.Node
import LogPipeline.Pattern.Token

/-!
# JSON forms of tokens and nodes

How the pieces and the tree of a pattern are shown to other programs.
-/

namespace LogPipeline.Pattern

namespace Token

/-- The JSON form of a token: a list that begins with its kind. -/
def toJson : Token → Json
  | .literal text => .ofTexts ["literal", text]
  | .percent => .ofTexts ["percent"]
  | .modifier text => .ofTexts ["modifier", text]
  | .simple word => .ofTexts ["simple", word]
  | .composite word => .ofTexts ["composite", word]
  | .options values => .list [.text "options", .ofTexts values]
  | .rightParenthesis => .ofTexts ["right"]

/-- Reads a token; a composite without a word has a kind of its own. -/
def ofJson? (json : Json) : Option Token :=
  match json.items with
  | [.text "literal", .text value] => some (.literal value)
  | [.text "percent"] => some .percent
  | [.text "modifier", .text value] => some (.modifier value)
  | [.text "simple", .text word] => some (.simple word)
  | [.text "composite", .text word] => some (.composite word)
  | [.text "options", values] => some (.options (values.items.map Json.asText))
  | [.text "right"] => some .rightParenthesis
  | [.text "bare"] => some bare
  | _ => none

end Token

/-- The JSON form of an optional format. -/
def formatJson (format : Option FieldFormat) : Json :=
  .ofText? (format.map FieldFormat.describe)

namespace Node

mutual

/-- The JSON form of a node. -/
def toJson : Node → Json
  | .literal text => .record [("literal", .text text)]
  | .conversion word format options =>
      .record
        [("keyword", .text word), ("format", formatJson format), ("options", .ofTexts options)]
  | .composite word format options children =>
      .record
        [("composite", .text word), ("format", formatJson format), ("options", .ofTexts options),
          ("children", .list (toJsons children))]

/-- The JSON forms of nodes. -/
def toJsons : List Node → List Json
  | [] => []
  | node :: rest => toJson node :: toJsons rest

end

end Node

end LogPipeline.Pattern
