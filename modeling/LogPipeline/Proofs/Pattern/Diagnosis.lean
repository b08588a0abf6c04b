import LogPipeline.Pattern.Layout
import LogPipeline.Proofs.Pattern.Interpretation
import LogPipeline.Proofs.Pattern.Refusal

/-!
# What is said about a layout

No failure is passed over in silence when a layout is made.  A pattern that is
refused is reported by one error.  Otherwise there are two errors for each word
that is not known and one for each factory that is of the wrong kind or fails,
where the children of a composite conversion that cannot be made are not looked
at.  So there are no errors just when the chain holds no placeholder.  What a
closing parenthesis too many cuts off is the only thing that the reader warns
about.

Factories may have something to say themselves.  All that is asked of them is
that none of it is an error.
-/

namespace LogPipeline.Pattern

/-- How many of some statuses are errors. -/
def errorCount (statuses : List Status) : Nat :=
  statuses.countP fun status => status.level == .error

@[simp]
theorem errorCount_append (first second : List Status) :
    errorCount (first ++ second) = errorCount first + errorCount second :=
  List.countP_append

@[simp]
theorem errorCount_unknownWord (word : String) :
    errorCount (unknownWord word) = 2 :=
  rfl

@[simp]
theorem errorCount_failedWord (word reason : String) :
    errorCount [failedWord word reason] = 1 :=
  rfl

/-! ## Dictionaries whose factories report no errors -/

/-- Nothing that a factory says is an error. -/
def Factory.Discreet : Factory → Prop
  | .simple make => ∀ usage, errorCount (make usage).2 = 0
  | .composite make => ∀ usage, errorCount (make usage).2 = 0

/-- Nothing that the factory of a known word says is an error. -/
def Dictionary.Discreet (dictionary : Dictionary) : Prop :=
  ∀ word factory, dictionary.get? word = some factory → factory.Discreet

namespace Factory

theorem discreet_fixed (converter : Converter) : (fixed converter).Discreet := by
  intro usage
  rfl

theorem discreet_fixedComposite (transformation : Transformation) :
    (fixedComposite transformation).Discreet := by
  intro usage
  rfl

theorem discreet_namedPart (name? : Event → Option String) :
    (namedPart name?).Discreet := by
  intro usage
  dsimp only [namedPart, abbreviationOf]
  cases usage.firstOption? with
  | none => rfl
  | some option =>
      dsimp only
      cases readSize? option with
      | none => rfl
      | some length => rfl

theorem discreet_throwableFactory : throwableFactory.Discreet := by
  intro usage
  dsimp only
  cases depthOf usage with
  | ok depth => rfl
  | error error => rfl

theorem discreet_dateFactory : dateFactory.Discreet := by
  intro usage
  dsimp only
  cases styleOf usage with
  | error error => rfl
  | ok style =>
      dsimp only
      cases zoneOf usage with
      | error error => rfl
      | ok zone => rfl

theorem discreet_replaceFactory : replaceFactory.Discreet := by
  intro usage
  dsimp only
  split
  · split
    · rfl
    · rfl
  · rfl

theorem discreet_of_mem_partWords :
    ∀ group ∈ partWords, group.2.Discreet := by
  have fromOptions
      (make : Usage → Converter) :
      (Factory.simple fun usage => (.ok (make usage), [])).Discreet := by
    intro usage
    rfl
  simp only [partWords, List.forall_mem_cons]
  exact
    ⟨discreet_dateFactory, discreet_fixed _, discreet_fixed _, discreet_fixed _,
      discreet_namedPart _, discreet_fixed _, discreet_namedPart _,
      discreet_fixed _, discreet_fixed _, discreet_fixed _, fromOptions _,
      fromOptions _, discreet_fixed _, discreet_fixed _, discreet_fixed _,
      discreet_throwableFactory, discreet_fixed _, List.forall_mem_nil _⟩

theorem discreet_of_mem_wrapperWords :
    ∀ group ∈ wrapperWords, group.2.Discreet := by
  intro group member
  rw [wrapperWords, List.mem_append] at member
  rcases member with fixedWords | inks
  · revert group
    simp only [List.forall_mem_cons]
    exact
      ⟨discreet_fixedComposite _, discreet_replaceFactory,
        discreet_fixedComposite _, List.forall_mem_nil _⟩
  · rcases List.mem_map.mp inks with ⟨ink, _, rfl⟩
    exact discreet_fixedComposite _

end Factory

namespace Dictionary

theorem discreet_of_entries
    {dictionary : Dictionary}
    (entries : ∀ entry ∈ dictionary.entries, entry.2.Discreet) :
    dictionary.Discreet := by
  intro word factory found
  rcases List.lookup_eq_some_iff.mp found with ⟨front, back, split, _⟩
  apply entries (word, factory)
  rw [split]
  exact List.mem_append_right front List.mem_cons_self

theorem discreet_entries_register
    {dictionary : Dictionary}
    {factory : Factory}
    (entries : ∀ entry ∈ dictionary.entries, entry.2.Discreet)
    (discreet : factory.Discreet)
    (words : List String) :
    ∀ entry ∈ (dictionary.register words factory).entries, entry.2.Discreet := by
  induction words generalizing dictionary with
  | nil => exact entries
  | cons word words ih =>
      have inserted :
          ∀ entry ∈ (dictionary.insert word factory).entries,
            entry.2.Discreet := by
        intro entry member
        rcases List.mem_cons.mp member with rfl | kept
        · exact discreet
        · exact entries entry (List.mem_filter.mp kept).1
      exact ih inserted

theorem discreet_standard : standard.Discreet := by
  have groups :
      ∀ groups : List (List String × Factory),
        (∀ group ∈ groups, group.2.Discreet) →
          ∀ dictionary : Dictionary,
            (∀ entry ∈ dictionary.entries, entry.2.Discreet) →
              ∀ entry ∈
                (groups.foldl
                  (fun dictionary group => dictionary.register group.1 group.2)
                  dictionary).entries,
                entry.2.Discreet := by
    intro groups
    induction groups with
    | nil =>
        intro _ dictionary entries
        exact entries
    | cons group groups ih =>
        intro discreet dictionary entries
        rcases List.forall_mem_cons.mp discreet with ⟨first, others⟩
        exact ih others _ (discreet_entries_register entries first group.1)
  apply discreet_of_entries
  apply groups
  · intro group member
    rcases List.mem_append.mp member with part | wrapper
    · exact Factory.discreet_of_mem_partWords group part
    · exact Factory.discreet_of_mem_wrapperWords group wrapper
  · exact List.forall_mem_nil _

end Dictionary

/-! ## The nodes that are visited -/

/-- What comes of a node. -/
inductive Verdict where
  | resolved
  /-- There is no factory for the word. -/
  | unknown
  /-- The factory is of the wrong kind, or it fails. -/
  | failed
deriving DecidableEq

/-- The errors that are due to what comes of a node. -/
def Verdict.errors : Verdict → Nat
  | .resolved => 0
  | .unknown => 2
  | .failed => 1

theorem Verdict.errors_eq_zero_iff (verdict : Verdict) :
    verdict.errors = 0 ↔ verdict = .resolved := by
  cases verdict with
  | resolved => simp [errors]
  | unknown => simp [errors]
  | failed => simp [errors]

/-- What comes of a word, where `made` says whether there is something made by its factory. -/
def Dictionary.verdict (dictionary : Dictionary) (word : String) (made : Bool) : Verdict :=
  match dictionary.contains word, made with
  | false, _ => .unknown
  | true, false => .failed
  | true, true => .resolved

theorem Dictionary.verdict_of_none
    {dictionary : Dictionary}
    {word : String}
    (missing : dictionary.get? word = none)
    (made : Bool) :
    dictionary.verdict word made = .unknown := by
  simp only [verdict, contains, missing, Option.isSome_none]

theorem Dictionary.verdict_of_some
    {dictionary : Dictionary}
    {word : String}
    {factory : Factory}
    (found : dictionary.get? word = some factory)
    (made : Bool) :
    dictionary.verdict word made = bif made then .resolved else .failed := by
  cases made with
  | false => simp [verdict, contains, found]
  | true => simp [verdict, contains, found]

section Visits

variable (dictionary : Dictionary) (context : Context)

namespace Node

/-- What comes of a node; literal text cannot fail. -/
def verdict : Node → Verdict
  | .literal _ => .resolved
  | .conversion word _ options =>
      dictionary.verdict word
        (dictionary.converter? ⟨word, options, context⟩).isSome
  | .composite word _ options _ =>
      dictionary.verdict word
        (dictionary.transformation? ⟨word, options, context⟩).isSome

mutual

/-- A node and the ones visited inside it: none inside a node that is not resolved. -/
def visited : Node → List Node
  | .literal text => [.literal text]
  | .conversion word format options => [.conversion word format options]
  | .composite word format options children =>
      let node : Node := .composite word format options children
      if node.verdict dictionary context = .resolved then
        node :: visitedAll children
      else
        [node]

/-- The visited ones of some nodes. -/
def visitedAll : List Node → List Node
  | [] => []
  | node :: rest => visited node ++ visitedAll rest

end

/-- Whether the word of a node is not known. -/
def isUnknown (node : Node) : Bool :=
  node.verdict dictionary context == .unknown

/-- Whether the factory for a node is of the wrong kind or fails. -/
def isFailed (node : Node) : Bool :=
  node.verdict dictionary context == .failed

end Node

/-- Two for each unknown word and one for each failure among some nodes. -/
def errorsDue (nodes : List Node) : Nat :=
  2 * nodes.countP (Node.isUnknown dictionary context) +
    nodes.countP (Node.isFailed dictionary context)

theorem errorsDue_cons (node : Node) (nodes : List Node) :
    errorsDue dictionary context (node :: nodes) =
      (node.verdict dictionary context).errors +
        errorsDue dictionary context nodes := by
  cases verdict : node.verdict dictionary context with
  | resolved =>
      simp [errorsDue, Node.isUnknown, Node.isFailed, verdict, Verdict.errors]
  | unknown =>
      simp only [errorsDue, List.countP_cons, Node.isUnknown, Node.isFailed,
        verdict, Verdict.errors]
      simp
      omega
  | failed =>
      simp only [errorsDue, List.countP_cons, Node.isUnknown, Node.isFailed,
        verdict, Verdict.errors]
      simp
      omega

theorem errorsDue_append (front back : List Node) :
    errorsDue dictionary context (front ++ back) =
      errorsDue dictionary context front + errorsDue dictionary context back := by
  simp only [errorsDue, List.countP_append]
  omega

theorem errorsDue_eq_zero_iff (nodes : List Node) :
    errorsDue dictionary context nodes = 0 ↔
      ∀ node ∈ nodes, node.verdict dictionary context = .resolved := by
  induction nodes with
  | nil => simp [errorsDue]
  | cons node nodes ih =>
      rw [errorsDue_cons, Nat.add_eq_zero_iff, Verdict.errors_eq_zero_iff, ih,
        List.forall_mem_cons]

/-! ## Each node is reported once -/

section Reports

variable {dictionary}

theorem errorCount_makeConverter
    (discreet : dictionary.Discreet)
    (usage : Usage) :
    errorCount (makeConverter dictionary usage).2 =
      (dictionary.verdict usage.word (dictionary.converter? usage).isSome).errors := by
  rw [makeConverter, Dictionary.converter?]
  cases found : dictionary.get? usage.word with
  | none =>
      rw [Dictionary.verdict_of_none found]
      exact errorCount_unknownWord usage.word
  | some factory =>
      rw [Dictionary.verdict_of_some found]
      cases factory with
      | composite make => exact errorCount_failedWord usage.word _
      | simple make =>
          have calm : errorCount (make usage).2 = 0 := discreet _ _ found usage
          dsimp only
          rcases made : make usage with ⟨outcome, statuses⟩
          rw [made] at calm
          cases outcome with
          | ok converter => exact calm
          | error error =>
              rw [errorCount_append, calm, errorCount_failedWord]
              rfl

theorem errorCount_makeTransformation
    (discreet : dictionary.Discreet)
    (usage : Usage) :
    errorCount (makeTransformation dictionary usage).2 =
      (dictionary.verdict usage.word
        (dictionary.transformation? usage).isSome).errors := by
  rw [makeTransformation, Dictionary.transformation?]
  cases found : dictionary.get? usage.word with
  | none =>
      rw [Dictionary.verdict_of_none found]
      exact errorCount_unknownWord usage.word
  | some factory =>
      rw [Dictionary.verdict_of_some found]
      cases factory with
      | simple make => exact errorCount_failedWord usage.word _
      | composite make =>
          have calm : errorCount (make usage).2 = 0 := discreet _ _ found usage
          dsimp only
          rcases made : make usage with ⟨outcome, statuses⟩
          rw [made] at calm
          cases outcome with
          | ok transformation => exact calm
          | error error =>
              rw [errorCount_append, calm, errorCount_failedWord]
              rfl

namespace Node

variable {context}

theorem verdict_conversion_eq_resolved_iff
    {word : String}
    {format : Option FieldFormat}
    {options : List String} :
    (conversion word format options).verdict dictionary context = .resolved ↔
      ∃ converter,
        dictionary.converter? ⟨word, options, context⟩ = some converter := by
  rw [verdict, Dictionary.converter?]
  dsimp only
  cases found : dictionary.get? word with
  | none => simp [Dictionary.verdict_of_none found]
  | some factory =>
      rw [Dictionary.verdict_of_some found]
      cases factory with
      | composite make => simp
      | simple make =>
          dsimp only
          cases (make ⟨word, options, context⟩).1.toOption with
          | none => simp
          | some converter => simp

theorem verdict_composite_eq_resolved_iff
    {word : String}
    {format : Option FieldFormat}
    {options : List String}
    {children : List Node} :
    (composite word format options children).verdict dictionary context =
        .resolved ↔
      ∃ transformation,
        dictionary.transformation? ⟨word, options, context⟩ =
          some transformation := by
  rw [verdict, Dictionary.transformation?]
  dsimp only
  cases found : dictionary.get? word with
  | none => simp [Dictionary.verdict_of_none found]
  | some factory =>
      rw [Dictionary.verdict_of_some found]
      cases factory with
      | simple make => simp
      | composite make =>
          dsimp only
          cases (make ⟨word, options, context⟩).1.toOption with
          | none => simp
          | some transformation => simp

theorem visited_of_resolved
    {word : String}
    {format : Option FieldFormat}
    {options : List String}
    {children : List Node}
    {transformation : Transformation}
    (made :
      dictionary.transformation? ⟨word, options, context⟩ =
        some transformation) :
    (composite word format options children).visited dictionary context =
      .composite word format options children ::
        visitedAll dictionary context children := by
  rw [visited]
  exact if_pos (verdict_composite_eq_resolved_iff.mpr ⟨transformation, made⟩)

theorem visited_of_unresolved
    {word : String}
    {format : Option FieldFormat}
    {options : List String}
    {children : List Node}
    (unmade : dictionary.transformation? ⟨word, options, context⟩ = none) :
    (composite word format options children).verdict dictionary context ≠
        .resolved ∧
      (composite word format options children).visited dictionary context =
        [.composite word format options children] := by
  have unresolved :
      (composite word format options children).verdict dictionary context ≠
        .resolved := by
    rw [Ne, verdict_composite_eq_resolved_iff, unmade]
    simp
  rw [visited]
  exact ⟨unresolved, if_neg unresolved⟩

end Node

mutual

/-- The errors about a node are those due to the nodes visited with it. -/
theorem errorCount_assembleNode
    (discreet : dictionary.Discreet)
    (node : Node) :
    errorCount (assembleNode dictionary context node).2 =
      errorsDue dictionary context (node.visited dictionary context) := by
  cases node with
  | literal text => rfl
  | conversion word format options =>
      rw [assembleNode, Node.visited, errorsDue_cons]
      exact errorCount_makeConverter discreet ⟨word, options, context⟩
  | composite word format options children =>
      have inner := errorCount_assemble discreet children
      have own := errorCount_makeTransformation discreet ⟨word, options, context⟩
      rw [assembleNode, makeTransformation_fst]
      cases made : dictionary.transformation? ⟨word, options, context⟩ with
      | none =>
          rw [(Node.visited_of_unresolved made).2, errorsDue_cons]
          exact own
      | some transformation =>
          dsimp only
          rw [Node.visited_of_resolved made, errorsDue_cons, errorCount_append,
            inner]
          exact congrArg (· + _) own

/-- The errors about some nodes are those due to the nodes visited with them. -/
theorem errorCount_assemble
    (discreet : dictionary.Discreet)
    (nodes : List Node) :
    errorCount (assemble dictionary context nodes).2 =
      errorsDue dictionary context (Node.visitedAll dictionary context nodes) := by
  cases nodes with
  | nil => rfl
  | cons node rest =>
      have first := errorCount_assembleNode discreet node
      have others := errorCount_assemble discreet rest
      rw [assemble, Node.visitedAll, errorCount_append, errorsDue_append, first,
        others]

end

end Reports

/-! ## Placeholders -/

/-- The converter that the factory of a node makes for it. -/
def Node.converter? : Node → Option Converter
  | .conversion word _ options =>
      dictionary.converter? ⟨word, options, context⟩
  | _ => none

/--
The chain of some nodes holds a placeholder: at some depth, a piece marks a
conversion that could not be made, and it is not what the factory of its node
made.
-/
inductive HoldsPlaceholder : List Node → Chain → Prop where
  | here
      {node : Node}
      {nodes : List Node}
      {word : String}
      {format : Option FieldFormat}
      {chain : Chain}
      (unmade : node.converter? dictionary context ≠ some (.placeholder word)) :
      HoldsPlaceholder (node :: nodes)
        (.simple (.placeholder word) format :: chain)
  | inside
      {word : String}
      {format outer : Option FieldFormat}
      {options : List String}
      {children nodes : List Node}
      {transformation : Transformation}
      {inner chain : Chain}
      (holds : HoldsPlaceholder children inner) :
      HoldsPlaceholder (.composite word format options children :: nodes)
        (.composite transformation outer inner :: chain)
  | later
      {node : Node}
      {nodes : List Node}
      {piece : Piece}
      {chain : Chain}
      (holds : HoldsPlaceholder nodes chain) :
      HoldsPlaceholder (node :: nodes) (piece :: chain)

/-- A chain has a piece that marks a conversion that could not be made, at some depth. -/
inductive Chain.HasPlaceholder : Chain → Prop where
  | here
      {word : String}
      {format : Option FieldFormat}
      {chain : Chain} :
      HasPlaceholder (.simple (.placeholder word) format :: chain)
  | inside
      {transformation : Transformation}
      {format : Option FieldFormat}
      {inner chain : Chain}
      (holds : HasPlaceholder inner) :
      HasPlaceholder (.composite transformation format inner :: chain)
  | later
      {piece : Piece}
      {chain : Chain}
      (holds : HasPlaceholder chain) :
      HasPlaceholder (piece :: chain)

/-- No factory makes a converter that could be taken for a placeholder. -/
def Dictionary.Plain : Prop :=
  ∀ usage word, dictionary.converter? usage ≠ some (.placeholder word)

section Placeholders

variable {dictionary} {context}

theorem not_holdsPlaceholder_nil (chain : Chain) :
    ¬ HoldsPlaceholder dictionary context [] chain := by
  intro holds
  cases holds

theorem holdsPlaceholder_cons_iff
    {node : Node}
    {nodes : List Node}
    {piece : Piece}
    {chain : Chain} :
    HoldsPlaceholder dictionary context (node :: nodes) (piece :: chain) ↔
      HoldsPlaceholder dictionary context [node] [piece] ∨
        HoldsPlaceholder dictionary context nodes chain := by
  constructor
  · intro holds
    cases holds with
    | here unmade => exact Or.inl (.here unmade)
    | inside holds => exact Or.inl (.inside holds)
    | later holds => exact Or.inr holds
  · rintro (holds | holds)
    · cases holds with
      | here unmade => exact .here unmade
      | inside holds => exact .inside holds
      | later holds => exact absurd holds (not_holdsPlaceholder_nil _)
    · exact .later holds

theorem holdsPlaceholder_conversion_iff
    {word : String}
    {format : Option FieldFormat}
    {options : List String} :
    HoldsPlaceholder dictionary context [.conversion word format options]
        [.simple (makeConverter dictionary ⟨word, options, context⟩).1 format] ↔
      (Node.conversion word format options).verdict dictionary context ≠
        .resolved := by
  rw [makeConverter_fst, Ne, Node.verdict_conversion_eq_resolved_iff]
  cases made : dictionary.converter? ⟨word, options, context⟩ with
  | none =>
      have holds :
          HoldsPlaceholder dictionary context [.conversion word format options]
            [.simple (.placeholder word) format] := by
        apply HoldsPlaceholder.here
        rw [Node.converter?, made]
        simp
      simpa using holds
  | some converter =>
      constructor
      · intro holds
        cases holds with
        | here unmade => exact absurd made unmade
        | later holds => exact absurd holds (not_holdsPlaceholder_nil _)
      · intro unresolved
        exact absurd ⟨converter, rfl⟩ unresolved

mutual

/-- The piece of a node holds a placeholder when a node visited with it is not resolved. -/
theorem holdsPlaceholder_assembleNode_iff (node : Node) :
    HoldsPlaceholder dictionary context [node]
        [(assembleNode dictionary context node).1] ↔
      ∃ other ∈ node.visited dictionary context,
        other.verdict dictionary context ≠ .resolved := by
  cases node with
  | literal text =>
      rw [assembleNode, Node.visited]
      constructor
      · intro holds
        cases holds with
        | later holds => exact absurd holds (not_holdsPlaceholder_nil _)
      · rintro ⟨other, member, unresolved⟩
        rcases List.mem_singleton.mp member with rfl
        exact absurd rfl unresolved
  | conversion word format options =>
      rw [assembleNode, Node.visited]
      simp only [List.mem_singleton, exists_eq_left]
      exact holdsPlaceholder_conversion_iff
  | composite word format options children =>
      have inner := holdsPlaceholder_assemble_iff children
      rw [assembleNode, makeTransformation_fst]
      cases made : dictionary.transformation? ⟨word, options, context⟩ with
      | none =>
          rcases Node.visited_of_unresolved made with ⟨unresolved, visits⟩
          rw [visits]
          simp only [List.mem_singleton, exists_eq_left]
          exact iff_of_true (.here (by simp [Node.converter?])) unresolved
      | some transformation =>
          have resolved :
              (Node.composite word format options children).verdict dictionary
                context = .resolved :=
            Node.verdict_composite_eq_resolved_iff.mpr ⟨transformation, made⟩
          rw [Node.visited_of_resolved made]
          simp only [List.mem_cons, exists_eq_or_imp]
          rw [← inner]
          constructor
          · intro holds
            cases holds with
            | inside holds => exact Or.inr holds
            | later holds => exact absurd holds (not_holdsPlaceholder_nil _)
          · rintro (unresolved | holds)
            · exact absurd resolved unresolved
            · exact .inside holds

/-- The chain of some nodes holds a placeholder when a visited node is not resolved. -/
theorem holdsPlaceholder_assemble_iff (nodes : List Node) :
    HoldsPlaceholder dictionary context nodes
        (assemble dictionary context nodes).1 ↔
      ∃ other ∈ Node.visitedAll dictionary context nodes,
        other.verdict dictionary context ≠ .resolved := by
  cases nodes with
  | nil =>
      rw [assemble, Node.visitedAll]
      simp [not_holdsPlaceholder_nil]
  | cons node rest =>
      have first := holdsPlaceholder_assembleNode_iff node
      have others := holdsPlaceholder_assemble_iff rest
      rw [assemble, Node.visitedAll, holdsPlaceholder_cons_iff, first, others]
      simp only [List.mem_append, or_and_right, exists_or]

end

/-- Errors are due to the visited nodes just when the chain holds a placeholder. -/
theorem errorsDue_eq_zero_iff_not_holdsPlaceholder (nodes : List Node) :
    errorsDue dictionary context (Node.visitedAll dictionary context nodes) = 0 ↔
      ¬ HoldsPlaceholder dictionary context nodes
          (assemble dictionary context nodes).1 := by
  rw [holdsPlaceholder_assemble_iff, errorsDue_eq_zero_iff]
  simp

theorem Chain.hasPlaceholder_cons_iff
    {piece : Piece}
    {chain : Chain} :
    HasPlaceholder (piece :: chain) ↔
      HasPlaceholder [piece] ∨ HasPlaceholder chain := by
  constructor
  · intro has
    cases has with
    | here => exact Or.inl .here
    | inside has => exact Or.inl (.inside has)
    | later has => exact Or.inr has
  · rintro (has | has)
    · cases has with
      | here => exact .here
      | inside has => exact .inside has
      | later has => cases has
    · exact .later has

theorem HoldsPlaceholder.hasPlaceholder
    {nodes : List Node}
    {chain : Chain}
    (holds : HoldsPlaceholder dictionary context nodes chain) :
    chain.HasPlaceholder := by
  induction holds with
  | here unmade => exact .here
  | inside holds ih => exact .inside ih
  | later holds ih => exact .later ih

mutual

theorem holdsPlaceholder_of_assembleNode
    (plain : dictionary.Plain)
    (node : Node)
    (has : Chain.HasPlaceholder [(assembleNode dictionary context node).1]) :
    HoldsPlaceholder dictionary context [node]
      [(assembleNode dictionary context node).1] := by
  cases node with
  | literal text =>
      rw [assembleNode] at has
      cases has with
      | later has => cases has
  | conversion word format options =>
      rw [assembleNode] at has ⊢
      generalize (makeConverter dictionary ⟨word, options, context⟩).1 = converter
        at has ⊢
      cases has with
      | here => exact .here (plain ⟨word, options, context⟩ _)
      | later has => cases has
  | composite word format options children =>
      rw [assembleNode, makeTransformation_fst] at has ⊢
      generalize dictionary.transformation? ⟨word, options, context⟩ = made
        at has ⊢
      cases made with
      | none => exact .here (by simp [Node.converter?])
      | some transformation =>
          dsimp only at has ⊢
          cases has with
          | inside has => exact .inside (holdsPlaceholder_of_assemble plain children has)
          | later has => cases has

/-- Where no factory makes anything like a placeholder, each placeholder was put there. -/
theorem holdsPlaceholder_of_assemble
    (plain : dictionary.Plain)
    (nodes : List Node)
    (has : Chain.HasPlaceholder (assemble dictionary context nodes).1) :
    HoldsPlaceholder dictionary context nodes
      (assemble dictionary context nodes).1 := by
  cases nodes with
  | nil =>
      rw [assemble] at has
      cases has
  | cons node rest =>
      rw [assemble, Chain.hasPlaceholder_cons_iff] at has
      rw [assemble, holdsPlaceholder_cons_iff]
      rcases has with first | others
      · exact Or.inl (holdsPlaceholder_of_assembleNode plain node first)
      · exact Or.inr (holdsPlaceholder_of_assemble plain rest others)

end

/-! ## The piece for throwables is none of them -/

theorem throwableConverter_ne_placeholder
    (depth : Nat)
    (word : String) :
    throwableConverter depth ≠ .placeholder word := by
  intro equal
  have handles := congrArg Converter.handlesThrowable equal
  cases handles

theorem Chain.hasPlaceholder_concat_iff
    {chain : Chain}
    {depth : Nat}
    {format : Option FieldFormat} :
    HasPlaceholder (chain ++ [.simple (throwableConverter depth) format]) ↔
      chain.HasPlaceholder := by
  induction chain with
  | nil =>
      rw [List.nil_append]
      constructor
      · intro has
        generalize converterEq : throwableConverter depth = converter at has
        cases has with
        | here => exact absurd converterEq (throwableConverter_ne_placeholder _ _)
        | later has => exact has
      · intro has
        cases has
  | cons piece chain ih =>
      rw [List.cons_append, hasPlaceholder_cons_iff, ih,
        ← hasPlaceholder_cons_iff]

theorem holdsPlaceholder_append_iff
    {nodes : List Node}
    {chain : Chain}
    (same : chain.length = nodes.length)
    (extra : Chain) :
    HoldsPlaceholder dictionary context nodes (chain ++ extra) ↔
      HoldsPlaceholder dictionary context nodes chain := by
  induction nodes generalizing chain with
  | nil =>
      exact
        iff_of_false (not_holdsPlaceholder_nil _) (not_holdsPlaceholder_nil _)
  | cons node nodes ih =>
      cases chain with
      | nil => cases same
      | cons piece chain =>
          rw [List.cons_append, holdsPlaceholder_cons_iff,
            ih (Nat.succ.inj same), ← holdsPlaceholder_cons_iff]

theorem Chain.hasPlaceholder_withThrowable_iff {chain : Chain} :
    chain.withThrowable.HasPlaceholder ↔ chain.HasPlaceholder := by
  rw [withThrowable]
  split
  · rfl
  · exact hasPlaceholder_concat_iff

theorem holdsPlaceholder_withThrowable_iff {nodes : List Node} :
    HoldsPlaceholder dictionary context nodes
        (assemble dictionary context nodes).1.withThrowable ↔
      HoldsPlaceholder dictionary context nodes
        (assemble dictionary context nodes).1 := by
  rw [Chain.withThrowable]
  split
  · rfl
  · exact holdsPlaceholder_append_iff (length_assemble dictionary context nodes) _

end Placeholders

end Visits

/-! ## What the reader says -/

/-- What is said about the tokens that the parser leaves behind those that it used. -/
inductive LeftoverReported (used : List Token) : List Token → List Status → Prop where
  | nothing : LeftoverReported used [] []
  | parenthesis {back : List Token} :
      LeftoverReported used (.rightParenthesis :: back)
        [.warn readerOrigin (leftoverMessage .rightParenthesis used.length)]

/-- A pattern that is refused is reported by one error. -/
theorem read_error
    {mode : EscapeMode}
    {pattern : String}
    {error : LogError}
    {statuses : List Status}
    (refused : read mode pattern = (.error error, statuses)) :
    ∃ status, statuses = [status] ∧ status.level = .error := by
  rw [read] at refused
  split at refused
  · cases refused
    exact ⟨_, rfl, rfl⟩
  · rw [readTokens] at refused
    split at refused
    · cases refused
      exact ⟨_, rfl, rfl⟩
    · cases refused
    · cases refused

/-- Where a pattern is read, just the tokens behind a parenthesis too many are reported. -/
theorem read_ok
    {mode : EscapeMode}
    {pattern : String}
    {nodes : List Node}
    {statuses : List Status}
    (accepted : read mode pattern = (.ok nodes, statuses)) :
    ∃ tokens used rest,
      tokenize mode pattern = .ok tokens ∧
        Takes tokens used rest nodes ∧ LeftoverReported used rest statuses := by
  rw [read] at accepted
  split at accepted
  · cases accepted
  next tokens tokenized =>
    rcases exists_runs_of_tokenize tokenized with ⟨last, runs, complete⟩
    have closed : opensOptions tokens = false := runs.opensOptions_eq_false rfl
    rw [readTokens] at accepted
    split at accepted
    · cases accepted
    next parsed =>
      cases accepted
      rcases exists_takes_of_parseTokens parsed with ⟨used, takes⟩
      exact ⟨tokens, used, [], tokenized, takes, .nothing⟩
    next token rest parsed =>
      cases accepted
      rcases exists_takes_of_parseTokens parsed with ⟨used, takes⟩
      rcases runs.rest_of_parseTokens rfl closed parsed with none | ⟨back, found⟩
      · cases none
      · cases found
        have place : tokens.length - (rest.length + 1) = used.length := by
          rw [takes.tokens_eq, List.length_append, List.length_cons]
          omega
        rw [place]
        exact ⟨tokens, used, _, tokenized, takes, .parenthesis⟩

/-! ## Layouts -/

/--
What there is to report about a layout that was made, where `used` are the
tokens of its nodes and `rest` those that the parser left.
-/
structure Report
    (settings : LayoutSettings)
    (context : Context)
    (nodes : List Node)
    (used rest : List Token)
    (chain : Chain)
    (statuses : List Status) : Prop where
  /-- The statuses are those of the reader and those of the assembly. -/
  leftover :
    ∃ warnings,
      statuses = warnings ++ (assemble settings.dictionary context nodes).2 ∧
        LeftoverReported used rest warnings
  errors :
    errorCount statuses =
      2 * (Node.visitedAll settings.dictionary context nodes).countP
          (Node.isUnknown settings.dictionary context) +
        (Node.visitedAll settings.dictionary context nodes).countP
          (Node.isFailed settings.dictionary context)
  calm_iff :
    errorCount statuses = 0 ↔
      ¬ HoldsPlaceholder settings.dictionary context nodes chain
  calm_iff_of_plain :
    settings.dictionary.Plain →
      (errorCount statuses = 0 ↔ ¬ chain.HasPlaceholder)

theorem LeftoverReported.errorCount_eq_zero
    {used rest : List Token}
    {statuses : List Status}
    (reported : LeftoverReported used rest statuses) :
    errorCount statuses = 0 := by
  cases reported with
  | nothing => rfl
  | parenthesis => rfl

/-- What is reported about a chain, with or without a piece for throwables. -/
theorem report_assemble
    {settings : LayoutSettings}
    {context : Context}
    {nodes : List Node}
    {used rest : List Token}
    {chain : Chain}
    {warnings : List Status}
    (discreet : settings.dictionary.Discreet)
    (reported : LeftoverReported used rest warnings)
    (ready :
      chain = (assemble settings.dictionary context nodes).1 ∨
        chain = (assemble settings.dictionary context nodes).1.withThrowable) :
    Report settings context nodes used rest chain
      (warnings ++ (assemble settings.dictionary context nodes).2) := by
  have errors :
      errorCount (warnings ++ (assemble settings.dictionary context nodes).2) =
        errorsDue settings.dictionary context
          (Node.visitedAll settings.dictionary context nodes) := by
    rw [errorCount_append, reported.errorCount_eq_zero, Nat.zero_add,
      errorCount_assemble context discreet]
  have holds_iff :
      HoldsPlaceholder settings.dictionary context nodes chain ↔
        HoldsPlaceholder settings.dictionary context nodes
          (assemble settings.dictionary context nodes).1 := by
    rcases ready with rfl | rfl
    · rfl
    · exact holdsPlaceholder_withThrowable_iff
  have has_iff :
      chain.HasPlaceholder ↔
        (assemble settings.dictionary context nodes).1.HasPlaceholder := by
    rcases ready with rfl | rfl
    · rfl
    · exact Chain.hasPlaceholder_withThrowable_iff
  constructor
  · exact ⟨warnings, rfl, reported⟩
  · exact errors
  · rw [errors, holds_iff]
    exact errorsDue_eq_zero_iff_not_holdsPlaceholder nodes
  · intro plain
    rw [errors, has_iff, errorsDue_eq_zero_iff_not_holdsPlaceholder]
    exact
      not_congr
        ⟨HoldsPlaceholder.hasPlaceholder, holdsPlaceholder_of_assemble plain nodes⟩

/--
A layout that is refused is reported by one error.  For a layout that is made,
there are two errors for each visited node with an unknown word and one for each
visited node whose factory is of the wrong kind or fails, so none just when the
chain holds no placeholder.  The reader adds a warning just when a closing
parenthesis too many cuts off the rest of the pattern.
-/
theorem build_reported
    {settings : LayoutSettings}
    (discreet : settings.dictionary.Discreet)
    (context : Context) :
    (∀ error statuses,
      Layout.build settings context = (.error error, statuses) →
        ∃ status, statuses = [status] ∧ status.level = .error) ∧
      ∀ layout statuses,
        Layout.build settings context = (.ok layout, statuses) →
          ∃ tokens used rest nodes,
            tokenize settings.mode settings.pattern = .ok tokens ∧
              Takes tokens used rest nodes ∧
              Report settings context nodes used rest layout.chain statuses := by
  constructor
  · intro error statuses refused
    rw [Layout.build] at refused
    split at refused
    · cases refused
      exact ⟨_, rfl, rfl⟩
    · split at refused
      next reading =>
        cases refused
        exact read_error reading
      next => cases refused
  · intro layout statuses made
    rw [Layout.build] at made
    split at made
    · cases made
    · split at made
      next => cases made
      next nodes warnings reading =>
        cases made
        rcases read_ok reading with
          ⟨tokens, used, rest, tokenized, takes, reported⟩
        refine
          ⟨tokens, used, rest, nodes, tokenized, takes,
            report_assemble discreet reported ?_⟩
        split
        · exact Or.inr rfl
        · exact Or.inl rfl

/--
Two unknown words, one of them inside another conversion, and a word with
parentheses that takes none, whose children are not looked at.
-/
theorem build_reported_standard :
    let settings := Layout.settingsOf "%zz %m(%xx) %highlight(%yy) b) c"
    let context := Context.echoing Context.defaultName
    settings.dictionary.Discreet ∧
      errorCount (Layout.build settings context).2 = 5 ∧
      (∀ error statuses,
        Layout.build settings context = (.error error, statuses) →
          ∃ status, statuses = [status] ∧ status.level = .error) ∧
        ∀ layout statuses,
          Layout.build settings context = (.ok layout, statuses) →
            ∃ tokens used rest nodes,
              tokenize settings.mode settings.pattern = .ok tokens ∧
                Takes tokens used rest nodes ∧
                Report settings context nodes used rest layout.chain statuses := by
  intro settings context
  have counted : errorCount (Layout.build settings context).2 = 5 := by
    decide +kernel
  exact
    ⟨Dictionary.discreet_standard, counted,
      build_reported Dictionary.discreet_standard context⟩

end LogPipeline.Pattern
