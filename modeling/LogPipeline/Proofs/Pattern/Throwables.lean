import LogPipeline.Proofs.Pattern.Diagnosis
import LogPipeline.Proofs.Pattern.Separation

/-!
# Throwables of events that are rendered

The throwable of an event is shown once, or it is hidden on purpose.  A chain
deals with throwables just when the tree it was made from has a conversion for
them that was made: such a conversion does not count inside parentheses whose
own conversion could not be made, nor does one whose options were refused.

Where nothing deals with throwables, a piece for them is added at the end.  That
is done once, it leaves no trace in events without a throwable, and otherwise
the throwable follows what was rendered before.
-/

namespace LogPipeline.Pattern

/-! ## Chains of trees -/

section Trees

variable {dictionary : Dictionary} {context : Context}

/-- Some node that is visited was made a converter that deals with throwables. -/
def ShowsThrowable
    (dictionary : Dictionary)
    (context : Context)
    (visited : List Node) : Prop :=
  ∃ node ∈ visited, ∃ converter,
    node.converter? dictionary context = some converter ∧
      converter.handlesThrowable = true

theorem not_showsThrowable_nil :
    ¬ ShowsThrowable dictionary context [] := by
  rintro ⟨node, member, _⟩
  cases member

theorem showsThrowable_append_iff (front back : List Node) :
    ShowsThrowable dictionary context (front ++ back) ↔
      ShowsThrowable dictionary context front ∨
        ShowsThrowable dictionary context back := by
  simp only [ShowsThrowable, List.mem_append, or_and_right, exists_or]

theorem showsThrowable_singleton_iff (node : Node) :
    ShowsThrowable dictionary context [node] ↔
      ∃ converter,
        node.converter? dictionary context = some converter ∧
          converter.handlesThrowable = true := by
  simp [ShowsThrowable]

/-- Only a conversion without parentheses can deal with throwables by itself. -/
theorem showsThrowable_composite_cons_iff
    {word : String}
    {format : Option FieldFormat}
    {options : List String}
    {children : List Node}
    (others : List Node) :
    ShowsThrowable dictionary context
        (.composite word format options children :: others) ↔
      ShowsThrowable dictionary context others := by
  rw [← List.singleton_append, showsThrowable_append_iff,
    showsThrowable_singleton_iff]
  simp [Node.converter?]

/-- What stands for a conversion that could not be made does not deal with throwables. -/
theorem handlesThrowable_makeConverter_iff (usage : Usage) :
    (makeConverter dictionary usage).1.handlesThrowable = true ↔
      ∃ converter,
        dictionary.converter? usage = some converter ∧
          converter.handlesThrowable = true := by
  rw [makeConverter_fst]
  cases dictionary.converter? usage with
  | none => simp [Converter.placeholder, Converter.constant, Converter.ofPart]
  | some converter => simp

mutual

/-- The piece of a node deals with throwables when a node visited with it does. -/
theorem handlesThrowable_assembleNode_iff (node : Node) :
    (assembleNode dictionary context node).1.handlesThrowable = true ↔
      ShowsThrowable dictionary context (node.visited dictionary context) := by
  cases node with
  | literal text =>
      rw [assembleNode, Piece.handlesThrowable, Node.visited,
        showsThrowable_singleton_iff]
      simp [Node.converter?]
  | conversion word format options =>
      rw [assembleNode, Piece.handlesThrowable, Node.visited,
        showsThrowable_singleton_iff]
      exact handlesThrowable_makeConverter_iff ⟨word, options, context⟩
  | composite word format options children =>
      have inner := handlesThrowable_assemble_iff children
      rw [assembleNode, makeTransformation_fst]
      cases made : dictionary.transformation? ⟨word, options, context⟩ with
      | none =>
          rw [(Node.visited_of_unresolved made).2,
            showsThrowable_composite_cons_iff]
          exact iff_of_false Bool.false_ne_true not_showsThrowable_nil
      | some transformation =>
          rw [Node.visited_of_resolved made, showsThrowable_composite_cons_iff,
            ← inner]
          dsimp only
          rw [Piece.handlesThrowable]

/-- The chain of some nodes deals with throwables when a visited node does. -/
theorem handlesThrowable_assemble_iff (nodes : List Node) :
    Chain.handlesThrowable (assemble dictionary context nodes).1 = true ↔
      ShowsThrowable dictionary context
        (Node.visitedAll dictionary context nodes) := by
  cases nodes with
  | nil =>
      rw [assemble, Chain.handlesThrowable, Node.visitedAll]
      exact iff_of_false Bool.false_ne_true not_showsThrowable_nil
  | cons node rest =>
      have first := handlesThrowable_assembleNode_iff node
      have others := handlesThrowable_assemble_iff rest
      rw [assemble, Chain.handlesThrowable, Node.visitedAll, Bool.or_eq_true,
        showsThrowable_append_iff, first, others]

end

end Trees

/-! ## Chains with a piece for throwables -/

namespace Chain

theorem handlesThrowable_concat (chain : Chain) (piece : Piece) :
    handlesThrowable (chain ++ [piece]) =
      (handlesThrowable chain || piece.handlesThrowable) := by
  induction chain with
  | nil => simp [handlesThrowable]
  | cons first rest ih =>
      rw [List.cons_append, handlesThrowable, ih, handlesThrowable,
        Bool.or_assoc]

theorem render_concat
    (scene : Scene)
    (event : Event)
    (chain : Chain)
    (piece : Piece) :
    render scene event (chain ++ [piece]) =
      joinTexts (render scene event chain) (piece.render scene event) := by
  induction chain with
  | nil => simp [render_cons, render]
  | cons first rest ih =>
      rw [List.cons_append, render_cons, ih, render_cons, joinTexts_assoc]

theorem withThrowable_of_handlesThrowable
    {chain : Chain}
    (handles : handlesThrowable chain = true) :
    chain.withThrowable = chain :=
  if_pos handles

theorem handlesThrowable_withThrowable (chain : Chain) :
    handlesThrowable chain.withThrowable = true := by
  rw [withThrowable]
  split
  · assumption
  · rw [handlesThrowable_concat, Piece.handlesThrowable, throwableConverter,
      Bool.or_true]

/-- A chain that does not deal with throwables is followed by the throwable. -/
theorem render_withThrowable_of_not_handlesThrowable
    {chain : Chain}
    (unhandled : handlesThrowable chain = false)
    (scene : Scene)
    (event : Event) :
    render scene event chain.withThrowable =
      joinTexts (render scene event chain)
        ((throwableConverter Throwable.fullDepth).render scene event) := by
  rw [withThrowable, unhandled, if_neg Bool.false_ne_true, render_concat,
    Piece.render]
  rfl

theorem render_withThrowable_of_throwable_eq_none
    (chain : Chain)
    (scene : Scene)
    {event : Event}
    (calm : event.throwable = none) :
    render scene event chain.withThrowable = render scene event chain := by
  cases handles : handlesThrowable chain with
  | true => rw [withThrowable_of_handlesThrowable handles]
  | false =>
      have nothing :
          (throwableConverter Throwable.fullDepth).render scene event =
            .ok "" := by
        simp [throwableConverter, calm]
      rw [render_withThrowable_of_not_handlesThrowable handles, nothing,
        joinTexts_empty_right]

/-- A chain after it was made sure that throwables are dealt with. -/
structure Covered (chain : Chain) : Prop where
  handles : handlesThrowable chain.withThrowable = true
  settled : chain.withThrowable.withThrowable = chain.withThrowable
  calm :
    ∀ scene event,
      event.throwable = none →
        render scene event chain.withThrowable = render scene event chain
  unchanged :
    handlesThrowable chain = true →
      ∀ scene event,
        render scene event chain.withThrowable = render scene event chain
  shown :
    handlesThrowable chain = false →
      ∀ scene event throwable,
        event.throwable = some throwable →
          render scene event chain.withThrowable =
            joinTexts (render scene event chain)
              (.ok (throwable.render Throwable.fullDepth))

end Chain

/--
The chain of a tree deals with throwables just when some conversion of the tree
does that was made, and inside parentheses only if all conversions around it
were made.  In any chain throwables can be taken care of: that is done once, it
changes nothing for events without a throwable or where they are taken care of
already, and otherwise the whole throwable is rendered behind the rest.
-/
theorem throwables_covered
    (dictionary : Dictionary)
    (context : Context)
    (nodes : List Node)
    (chain : Chain) :
    (Chain.handlesThrowable (assemble dictionary context nodes).1 = true ↔
        ∃ node ∈ Node.visitedAll dictionary context nodes, ∃ converter,
          node.converter? dictionary context = some converter ∧
            converter.handlesThrowable = true) ∧
      chain.Covered := by
  constructor
  · exact handlesThrowable_assemble_iff nodes
  · have handles := chain.handlesThrowable_withThrowable
    constructor
    · exact handles
    · exact Chain.withThrowable_of_handlesThrowable handles
    · intro scene event calm
      exact chain.render_withThrowable_of_throwable_eq_none scene calm
    · intro handled scene event
      rw [Chain.withThrowable_of_handlesThrowable handled]
    · intro unhandled scene event throwable thrown
      have text :
          (throwableConverter Throwable.fullDepth).render scene event =
            .ok (throwable.render Throwable.fullDepth) := by
        simp [throwableConverter, thrown]
      rw [Chain.render_withThrowable_of_not_handlesThrowable unhandled, text]

/-- A refused depth, and one inside parentheses that could not be made, do not count. -/
example :
    Chain.handlesThrowable
        (assemble .standard (.echoing Context.defaultName)
          [.conversion "ex" none ["deep"],
            .composite "replace" none [] [.conversion "ex" none []]]).1 =
      false := by
  decide +kernel

end LogPipeline.Pattern
