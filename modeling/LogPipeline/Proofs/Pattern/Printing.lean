import LogPipeline.Proofs.Pattern.Derivation

/-!
# Printing and reading back

Nodes are printed in such a way that no two of them run into each other: the
special characters of literal text are written behind a backslash, options are
quoted, and every conversion ends in the separator.

Printing is a relation, since a format does not tell the modifier that it was
read from.  Nodes that can be told apart in print have at least one printed
form.
-/

namespace LogPipeline.Pattern

/-! ## Printed forms -/

/-- A character of literal text, behind a backslash if it is special. -/
def printChar (char : Char) : List Char :=
  if char = '%' ∨ char = '(' ∨ char = ')' ∨ char = '\\' then
    ['\\', char]
  else
    [char]

/-- Literal text as it is printed. -/
def printText (text : String) : List Char :=
  text.toList.flatMap printChar

/-- A character of an option, behind a backslash if it is a double quote. -/
def printOptionChar (char : Char) : List Char :=
  if char = '"' then ['\\', '"'] else [char]

/-- An option in double quotes. -/
def printOption (value : String) : List Char :=
  '"' :: (value.toList.flatMap printOptionChar ++ ['"'])

/-- The option list of a conversion that has options, and nothing for others. -/
def printOptions : List String → List Char
  | [] => []
  | first :: rest =>
      '{' :: (printOption first ++
        (rest.flatMap (fun value => ',' :: printOption value) ++ ['}']))

/-- What is printed behind every conversion. -/
def separator : List Char := ['\\', '_']

/-- A format is printed as a modifier that it is the format of. -/
inductive PrintsFormat : Option FieldFormat → List Char → Prop where
  | absent : PrintsFormat none []
  | present
      {modifier : String}
      {format : FieldFormat}
      (nonempty : modifier ≠ "")
      (accepted : FieldFormat.ofModifier modifier = .ok format) :
      PrintsFormat (some format) modifier.toList

/--
What a list of nodes is printed as.  Several modifiers can have the same
format, so there can be more than one way to print a list.
-/
inductive Prints : List Node → List Char → Prop where
  | nil : Prints [] []
  | literal
      {text : String}
      {nodes : List Node}
      {printed : List Char}
      (more : Prints nodes printed) :
      Prints (.literal text :: nodes) (printText text ++ printed)
  | conversion
      {word : String}
      {format : Option FieldFormat}
      {modifier printed : List Char}
      {values : List String}
      {nodes : List Node}
      (formatted : PrintsFormat format modifier)
      (more : Prints nodes printed) :
      Prints (.conversion word format values :: nodes)
        ('%' :: (modifier ++ (word.toList ++
          (printOptions values ++ separator ++ printed))))
  | composite
      {word : String}
      {format : Option FieldFormat}
      {modifier inner printed : List Char}
      {values : List String}
      {children nodes : List Node}
      (formatted : PrintsFormat format modifier)
      (inside : Prints children inner)
      (more : Prints nodes printed) :
      Prints (.composite word format values children :: nodes)
        ('%' :: (modifier ++ (word.toList ++
          '(' :: (inner ++
            ')' :: (printOptions values ++ separator ++ printed)))))

/-! ## Trees that can be printed -/

/-- A conversion word: a character that can begin one, and then others. -/
def IsWord (word : String) : Prop :=
  ∃ first rest,
    word.toList = first :: rest ∧
      isWordStart first = true ∧ ∀ char ∈ rest, isWordPart char = true

instance (word : String) : Decidable (IsWord word) :=
  decidable_of_iff
    ((word.toList.head?.any fun first =>
      isWordStart first && word.toList.tail.all isWordPart) = true) (by
    rw [IsWord]
    cases word.toList <;> simp [and_assoc])

/--
An option without a backslash at its end or right before a double quote; there
the backslash would escape the quote that is printed behind it.
-/
def IsQuotable (value : String) : Prop :=
  ¬ ['\\'] <:+ value.toList ∧ ¬ ['\\', '"'] <:+: value.toList

instance (value : String) : Decidable (IsQuotable value) :=
  inferInstanceAs
    (Decidable
      (¬ ['\\'] <:+ value.toList ∧ ¬ ['\\', '"'] <:+: value.toList))

/-- A format that some modifier other than the empty one has. -/
def IsWritable (format : Option FieldFormat) : Prop :=
  ∀ written ∈ format,
    ∃ modifier, modifier ≠ "" ∧ FieldFormat.ofModifier modifier = .ok written

/-- Whether literal text is in front. -/
def opensLiteral : List Node → Bool
  | .literal _ :: _ => true
  | _ => false

/--
Nodes that can be told apart when they are printed: literal text is not empty
and has no literal text next to it, and words, formats and options can be
written, at every depth.
-/
inductive Printable : List Node → Prop where
  | nil : Printable []
  | literal
      {text : String}
      {nodes : List Node}
      (nonempty : text ≠ "")
      (apart : opensLiteral nodes = false)
      (more : Printable nodes) :
      Printable (.literal text :: nodes)
  | conversion
      {word : String}
      {format : Option FieldFormat}
      {values : List String}
      {nodes : List Node}
      (isWord : IsWord word)
      (writable : IsWritable format)
      (quotable : ∀ value ∈ values, IsQuotable value)
      (more : Printable nodes) :
      Printable (.conversion word format values :: nodes)
  | composite
      {word : String}
      {format : Option FieldFormat}
      {values : List String}
      {children nodes : List Node}
      (isWord : IsWord word)
      (writable : IsWritable format)
      (quotable : ∀ value ∈ values, IsQuotable value)
      (inside : Printable children)
      (more : Printable nodes) :
      Printable (.composite word format values children :: nodes)

theorem IsWritable.exists_printsFormat
    {format : Option FieldFormat}
    (writable : IsWritable format) :
    ∃ modifier, PrintsFormat format modifier := by
  cases format with
  | none => exact ⟨[], .absent⟩
  | some format =>
      rcases writable format rfl with ⟨modifier, nonempty, accepted⟩
      exact ⟨_, .present nonempty accepted⟩

/-- Nodes that can be told apart have a printed form. -/
theorem Printable.exists_prints
    {nodes : List Node}
    (printable : Printable nodes) :
    ∃ printed, Prints nodes printed := by
  induction printable with
  | nil => exact ⟨[], .nil⟩
  | literal _ _ _ ih =>
      rcases ih with ⟨printed, prints⟩
      exact ⟨_, .literal prints⟩
  | conversion _ writable _ _ ih =>
      rcases writable.exists_printsFormat with ⟨modifier, formatted⟩
      rcases ih with ⟨printed, prints⟩
      exact ⟨_, .conversion formatted prints⟩
  | composite _ writable _ _ _ insideIH ih =>
      rcases writable.exists_printsFormat with ⟨modifier, formatted⟩
      rcases insideIH with ⟨inner, insidePrints⟩
      rcases ih with ⟨printed, prints⟩
      exact ⟨_, .composite formatted insidePrints prints⟩

end LogPipeline.Pattern
