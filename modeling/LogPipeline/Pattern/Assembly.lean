import LogPipeline.Pattern.Chain
import LogPipeline.Pattern.Dictionary
import LogPipeline.Pattern.Node

/-!
# From a tree to a chain

Every node of a tree becomes one piece of a chain.  A conversion that cannot be made is reported
and becomes a placeholder; the nodes inside it are then left alone.  All factories see the context
in which the tree is assembled.
-/

namespace LogPipeline.Pattern

/-- The statuses about a word that is not known. -/
def unknownWord (word : String) : List Status :=
  [.error assemblyOrigin
      ("There is no conversion class registered for conversion word [" ++ word ++ "]"),
    .error assemblyOrigin ("[" ++ word ++ "] is not a valid conversion word")]

/-- The status about a conversion that could not be made. -/
def failedWord (word reason : String) : Status :=
  .error assemblyOrigin ("Failed to instantiate converter for [" ++ word ++ "]: " ++ reason)

/-- What a conversion without parentheses comes to. -/
def makeConverter (dictionary : Dictionary) (usage : Usage) : Converter × List Status :=
  match dictionary.get? usage.word with
  | none => (.placeholder usage.word, unknownWord usage.word)
  | some (.composite _) =>
      (.placeholder usage.word,
        [failedWord usage.word "composite conversion word used without parentheses"])
  | some (.simple make) =>
      match make usage with
      | (.ok converter, statuses) => (converter, statuses)
      | (.error error, statuses) =>
          (.placeholder usage.word, statuses ++ [failedWord usage.word error.message])

/-- What a conversion with parentheses comes to; without it there is only a placeholder. -/
def makeTransformation (dictionary : Dictionary) (usage : Usage) :
    Option Transformation × List Status :=
  match dictionary.get? usage.word with
  | none => (none, unknownWord usage.word)
  | some (.simple _) =>
      (none, [failedWord usage.word "simple conversion word used as a composite"])
  | some (.composite make) =>
      match make usage with
      | (.ok transformation, statuses) => (some transformation, statuses)
      | (.error error, statuses) => (none, statuses ++ [failedWord usage.word error.message])

mutual

/-- The piece of a node, with the statuses of making it. -/
def assembleNode (dictionary : Dictionary) (context : Context) : Node → Piece × List Status
  | .literal text => (.literal text, [])
  | .conversion word format options =>
      let made := makeConverter dictionary ⟨word, options, context⟩
      (.simple made.1 format, made.2)
  | .composite word format options children =>
      let made := makeTransformation dictionary ⟨word, options, context⟩
      match made.1 with
      | none => (.simple (.placeholder word) format, made.2)
      | some transformation =>
          let inner := assemble dictionary context children
          (.composite transformation format inner.1, made.2 ++ inner.2)

/-- The chain of a list of nodes, with the statuses of making it. -/
def assemble (dictionary : Dictionary) (context : Context) : List Node → Chain × List Status
  | [] => ([], [])
  | node :: rest =>
      let first := assembleNode dictionary context node
      let others := assemble dictionary context rest
      (first.1 :: others.1, first.2 ++ others.2)

end

end LogPipeline.Pattern
