import LogPipeline.Json.Printer
import LogPipeline.Json.Record
import LogPipeline.Text.Numeral

/-!
# Throwables

The failure that an event reports, with the failures that caused it.  The links of the chain are
the failure itself and its causes, from the outermost to the innermost.
-/

namespace LogPipeline

/-- One failure of a chain. -/
structure ThrowableLink where
  className : String
  message : String
  frames : List String
deriving DecidableEq, Repr

/-- A failure, and the failure that caused it if there is one. -/
inductive Throwable where
  | root (link : ThrowableLink)
  | causedBy (link : ThrowableLink) (cause : Throwable)
deriving DecidableEq, Repr

/-- An error of a program: what it says, and the error that it comes from if there is one. -/
inductive Failure where
  | plain (message : String)
  | causedBy (message : String) (source : Failure)
deriving DecidableEq, Repr

namespace Failure

/-- What an error says. -/
def message : Failure → String
  | .plain message => message
  | .causedBy message _ => message

/-- The errors that an error comes from, the nearest one first. -/
def sources : Failure → List Failure
  | .plain _ => []
  | .causedBy _ source => source :: source.sources

/-- An error with a message that comes from errors with the given messages. -/
def ofMessages (message : String) : List String → Failure
  | [] => .plain message
  | next :: rest => .causedBy message (ofMessages next rest)

end Failure

namespace Throwable

/-- A failure with the failure that caused it. -/
def of (link : ThrowableLink) : Option Throwable → Throwable
  | none => .root link
  | some cause => .causedBy link cause

/-- The links of a failure and its causes. -/
def chain : Throwable → List ThrowableLink
  | .root link => [link]
  | .causedBy link cause => link :: cause.chain

/-- Puts a link in front of the failure that it was caused by. -/
def wrap (cause? : Option Throwable) (link : ThrowableLink) : Option Throwable :=
  some (.of link cause?)

/--
The throwable of an error and those that it comes from; only the error itself has a class.  The
causes are put together from the innermost one.
-/
def ofFailure (className : String) (failure : Failure) : Throwable :=
  let causes := failure.sources.map fun source => (⟨"", source.message, []⟩ : ThrowableLink)
  .of ⟨className, failure.message, []⟩ (causes.reverse.foldl wrap none)

/-- The throwable of an error whose causes have the given messages. -/
def ofMessages (className message : String) (causes : List String) : Throwable :=
  ofFailure className (.ofMessages message causes)

/-- The headline of a failure: its class, its message, or both. -/
def headline (link : ThrowableLink) : String :=
  if link.className.isEmpty then link.message
  else if link.message.isEmpty then link.className
  else link.className ++ ": " ++ link.message

/-- The lines of a failure with at most `depth` frames. -/
def linkLines (depth : Nat) (link : ThrowableLink) : List String :=
  let omitted := link.frames.length - depth
  headline link :: (link.frames.take depth).map (fun frame => "\tat " ++ frame) ++
    if omitted = 0 then [] else ["\t... " ++ toString omitted ++ " common frames omitted"]

/-- The text of a failure with at most `depth` frames. -/
def linkText (depth : Nat) (link : ThrowableLink) : String :=
  String.join ((linkLines depth link).map fun line => line ++ "\n")

/-- What stands in front of the link at a place of a chain. -/
def opening (place : Nat) : String :=
  if 0 < place then "Caused by: " else ""

/-- The text of a throwable, with at most `depth` frames of each failure. -/
def render (depth : Nat) (throwable : Throwable) : String :=
  String.join (throwable.chain.mapIdx fun place link => opening place ++ linkText depth link)

/-- The depth that shows every frame. -/
def fullDepth : Nat := Text.maxWord

/-- The JSON form of a failure around that of its cause. -/
def linkJson (link : ThrowableLink) (cause : Json) : Json :=
  .record
    [("class_name", .text link.className), ("message", .text link.message),
      ("frames", .list (link.frames.map .text)), ("cause", cause)]

/-- The JSON form of a throwable. -/
def toJson : Throwable → Json
  | .root link => linkJson link .null
  | .causedBy link cause => linkJson link cause.toJson

/-- The names of the fields of a failure. -/
def fieldNames : List String := ["class_name", "message", "frames", "cause"]

/--
Reads a failure and what is given as its cause; `room` is how deep its lists and records may be
nested.  The list of frames needs the second level.
-/
def readWithin? (room : Nat) (json : Json) : Option Throwable :=
  match room with
  | 0 => none
  | 1 => none
  | room + 1 => do
      let source ← FieldSource.of? fieldNames json
      let className ← source.required? "class_name" 0 Json.text?
      let message ← source.required? "message" 1 Json.text?
      let frames ← source.required? "frames" 2 (Json.listOf? Json.text?)
      let cause ← source.optional? "cause" 3 (readWithin? room)
      some (.of ⟨className, message, frames⟩ cause)

/-- Reads a throwable inside so many lists and records. -/
def ofJson? (outside : Nat) (json : Json) : Option Throwable :=
  readWithin? (FieldSource.greatestDepth - outside) json

end Throwable

end LogPipeline
