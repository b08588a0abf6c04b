import LogPipeline.Pattern.Words.Parts
import LogPipeline.Pattern.Words.Wrappers

/-!
# Dictionaries of conversion words
-/

namespace LogPipeline.Pattern

/-- The conversion words that are known, each with its factory. -/
structure Dictionary where
  entries : List (String × Factory)

namespace Dictionary

/-- No words. -/
def empty : Dictionary := ⟨[]⟩

/-- The factory of a word. -/
def get? (dictionary : Dictionary) (word : String) : Option Factory :=
  dictionary.entries.lookup word

/-- Whether a word is known. -/
def contains (dictionary : Dictionary) (word : String) : Bool :=
  (dictionary.get? word).isSome

/-- The dictionary without a word. -/
def erase (dictionary : Dictionary) (word : String) : Dictionary :=
  ⟨dictionary.entries.filter fun entry => entry.1 != word⟩

/-- The dictionary with a factory for a word, in place of the one it may have. -/
def insert (dictionary : Dictionary) (word : String) (factory : Factory) : Dictionary :=
  ⟨(word, factory) :: (dictionary.erase word).entries⟩

/-- The dictionary with a factory for several words. -/
def register (dictionary : Dictionary) (words : List String) (factory : Factory) : Dictionary :=
  words.foldl (fun dictionary word => dictionary.insert word factory) dictionary

/-- The number of words. -/
def size (dictionary : Dictionary) : Nat :=
  dictionary.entries.length

/-- The words in order. -/
def words (dictionary : Dictionary) : List String :=
  (dictionary.entries.map Prod.fst).mergeSort (· ≤ ·)

/-- The words that are known from the start. -/
def standard : Dictionary :=
  (partWords ++ wrapperWords).foldl
    (fun dictionary group => dictionary.register group.1 group.2) empty

end Dictionary

end LogPipeline.Pattern
