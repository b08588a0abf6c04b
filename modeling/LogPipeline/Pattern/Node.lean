import LogPipeline.Pattern.FieldFormat

/-!
# The tree of a pattern

A pattern is a list of sibling nodes.  A node is literal text, a conversion, or a conversion that
applies to the nodes between its parentheses.
-/

namespace LogPipeline.Pattern

/-- One element of a parsed pattern. -/
inductive Node where
  | literal (text : String)
  | conversion (word : String) (format : Option FieldFormat) (options : List String)
  | composite
      (word : String)
      (format : Option FieldFormat)
      (options : List String)
      (children : List Node)
deriving Repr

namespace Node

/-- The conversion word of a node; literal text has none. -/
def word? : Node → Option String
  | .literal _ => none
  | .conversion word _ _ => some word
  | .composite word _ _ _ => some word

/-- A node with another field format; literal text takes none. -/
def withFormat (format : FieldFormat) : Node → Node
  | .literal text => .literal text
  | .conversion word _ options => .conversion word (some format) options
  | .composite word _ options children => .composite word (some format) options children

/-- A node with other options; literal text takes none. -/
def withOptions (options : List String) : Node → Node
  | .literal text => .literal text
  | .conversion word format _ => .conversion word format options
  | .composite word format _ children => .composite word format options children

end Node

end LogPipeline.Pattern
