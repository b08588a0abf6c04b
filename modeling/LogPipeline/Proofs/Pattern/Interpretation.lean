import LogPipeline.Pattern.Layout
import LogPipeline.Proofs.Pattern.Derivation

/-!
# What a pattern means

A tree can be interpreted without a chain.  Literal text means itself.  A
conversion means what its word makes of an event, and one with parentheses what
its word makes of the joined meanings of the nodes between them.  A word that is
not known, that is used with parentheses where it takes none or without them
where it takes some, or whose factory refuses the options, means a mark that
names the word, whatever stands between the parentheses.  The format of a node
applies to the whole text that comes of it.

Rendering an event with the chain of a tree gives what the tree means, also
where an event cannot be rendered.  The layout of a pattern that is read without
leftover tokens holds the chain of its tree.
-/

namespace LogPipeline.Pattern

/-- The text that stands for a conversion that could not be made. -/
def errorMark (word : String) : String :=
  "%PARSER_ERROR[" ++ word ++ "]"

namespace Dictionary

/-- The converter that the factory of a word makes without parentheses. -/
def converter?
    (dictionary : Dictionary)
    (usage : Usage) :
    Option Converter :=
  match dictionary.get? usage.word with
  | some (.simple make) => (make usage).1.toOption
  | _ => none

/-- The transformation that the factory of a word makes for parentheses. -/
def transformation?
    (dictionary : Dictionary)
    (usage : Usage) :
    Option Transformation :=
  match dictionary.get? usage.word with
  | some (.composite make) => (make usage).1.toOption
  | _ => none

end Dictionary

section Meaning

variable (dictionary : Dictionary) (context : Context)
variable (scene : Scene) (event : Event)

mutual

/-- What a node makes of an event. -/
def Node.meaning : Node → Except RenderFailure String
  | .literal text => .ok text
  | .conversion word format options =>
      match dictionary.converter? ⟨word, options, context⟩ with
      | none => formatted format (errorMark word)
      | some converter => do
          let text ← converter.render scene event
          formatted format text
  | .composite word format options children =>
      match dictionary.transformation? ⟨word, options, context⟩ with
      | none => formatted format (errorMark word)
      | some transformation => do
          let texts ← Node.meanings children
          formatted format (transformation.apply event (String.join texts))

/-- What each of some nodes makes of an event, up to the first that fails. -/
def Node.meanings : List Node → Except RenderFailure (List String)
  | [] => .ok []
  | node :: rest => do
      let text ← Node.meaning node
      let others ← Node.meanings rest
      .ok (text :: others)

end

theorem Node.meanings_eq_mapM (nodes : List Node) :
    Node.meanings dictionary context scene event nodes =
      nodes.mapM (Node.meaning dictionary context scene event) := by
  induction nodes with
  | nil => rfl
  | cons node rest ih =>
      rw [Node.meanings, List.mapM_cons, ih]
      rfl

/-! ## What factories come to -/

theorem makeConverter_fst (usage : Usage) :
    (makeConverter dictionary usage).1 =
      (dictionary.converter? usage).getD (.placeholder usage.word) := by
  rw [makeConverter, Dictionary.converter?]
  cases dictionary.get? usage.word with
  | none => rfl
  | some factory =>
      cases factory with
      | composite make => rfl
      | simple make =>
          dsimp only
          generalize make usage = made
          rcases made with ⟨outcome, statuses⟩
          cases outcome with
          | ok converter => rfl
          | error error => rfl

theorem render_makeConverter (usage : Usage) :
    (makeConverter dictionary usage).1.render scene event =
      match dictionary.converter? usage with
      | some converter => converter.render scene event
      | none => .ok (errorMark usage.word) := by
  rw [makeConverter_fst]
  cases dictionary.converter? usage with
  | none => rfl
  | some converter => rfl

theorem makeTransformation_fst (usage : Usage) :
    (makeTransformation dictionary usage).1 =
      dictionary.transformation? usage := by
  rw [makeTransformation, Dictionary.transformation?]
  cases dictionary.get? usage.word with
  | none => rfl
  | some factory =>
      cases factory with
      | simple make => rfl
      | composite make =>
          dsimp only
          generalize make usage = made
          rcases made with ⟨outcome, statuses⟩
          cases outcome with
          | ok transformation => rfl
          | error error => rfl

/-! ## Chains -/

theorem length_assemble (nodes : List Node) :
    (assemble dictionary context nodes).1.length = nodes.length := by
  induction nodes with
  | nil => rfl
  | cons node rest ih =>
      rw [assemble, List.length_cons, List.length_cons, ih]

mutual

/-- The piece of a node renders what the node means. -/
theorem render_assembleNode (node : Node) :
    Piece.render scene event (assembleNode dictionary context node).1 =
      node.meaning dictionary context scene event := by
  cases node with
  | literal text => rw [assembleNode, Piece.render, Node.meaning]
  | conversion word format options =>
      rw [assembleNode, Piece.render, Node.meaning, render_makeConverter]
      cases dictionary.converter? ⟨word, options, context⟩ with
      | none => rfl
      | some converter =>
          dsimp only
          cases converter.render scene event with
          | ok text => rfl
          | error failure => rfl
  | composite word format options children =>
      have inner := render_assemble children
      rw [assembleNode, makeTransformation_fst, Node.meaning]
      cases dictionary.transformation? ⟨word, options, context⟩ with
      | none =>
          rw [Piece.render]
          rfl
      | some transformation =>
          dsimp only
          rw [Piece.render, inner]
          cases Node.meanings dictionary context scene event children with
          | ok texts => rfl
          | error failure => rfl

/-- The chain of some nodes renders their meanings, joined. -/
theorem render_assemble (nodes : List Node) :
    Chain.render scene event (assemble dictionary context nodes).1 =
      (Node.meanings dictionary context scene event nodes).map String.join := by
  cases nodes with
  | nil => rw [assemble, Chain.render, Node.meanings, Except.map, String.join_nil]
  | cons node rest =>
      have first := render_assembleNode node
      have others := render_assemble rest
      rw [assemble, Chain.render, first, others, Node.meanings]
      cases node.meaning dictionary context scene event with
      | error failure => rfl
      | ok text =>
          cases Node.meanings dictionary context scene event rest with
          | error failure => rfl
          | ok texts => exact congrArg Except.ok String.join_cons.symm

end

/--
The chain of a tree has one piece for each top-level node.  It renders an event
as what these nodes mean, one behind the other.
-/
theorem render_assemble_eq_meaning (nodes : List Node) :
    Chain.render scene event (assemble dictionary context nodes).1 =
        (nodes.mapM (Node.meaning dictionary context scene event)).map
          String.join ∧
      (assemble dictionary context nodes).1.length = nodes.length := by
  rw [← Node.meanings_eq_mapM]
  exact
    ⟨render_assemble dictionary context scene event nodes,
      length_assemble dictionary context nodes⟩

end Meaning

/-! ## Layouts -/

/-- The layout of a pattern without leftover tokens holds the chain of its tree. -/
theorem Reads.build
    {mode : EscapeMode}
    {pattern : String}
    {nodes : List Node}
    (reads : Reads mode pattern nodes)
    (dictionary : Dictionary)
    (context : Context) :
    Layout.build ⟨pattern, mode, dictionary, false⟩ context =
      (.ok ⟨pattern, (assemble dictionary context nodes).1⟩,
        (assemble dictionary context nodes).2) := by
  have readAll : read mode pattern = (.ok nodes, []) := reads_iff_read.mp reads
  rcases reads with ⟨tokens, tokenized, _⟩
  have nonempty : pattern.isEmpty = false := by
    simpa using (tokenize_eq_ok_iff.mp tokenized).1
  simp [Layout.build, nonempty, readAll]

end LogPipeline.Pattern
