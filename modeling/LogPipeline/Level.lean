/-!
# Severity levels

The five levels in increasing order of severity, their names, and how a name is read.
-/

namespace LogPipeline

/-- The severity of an event. -/
inductive Level where
  | trace
  | debug
  | info
  | warn
  | error
deriving DecidableEq, Repr

namespace Level

/-- The level where nothing else is said. -/
instance : Inhabited Level := ⟨.info⟩

/-- All levels, from the least to the most severe. -/
def all : List Level := [.trace, .debug, .info, .warn, .error]

/-- The place of a level in the order of severity. -/
def rank : Level → Nat
  | .trace => 0
  | .debug => 1
  | .info => 2
  | .warn => 3
  | .error => 4

/-- Whether a level is at least as severe as another. -/
def atLeast (level minimum : Level) : Bool :=
  minimum.rank ≤ level.rank

/-- The name of a level in rendered events. -/
def name : Level → String
  | .trace => "TRACE"
  | .debug => "DEBUG"
  | .info => "INFO"
  | .warn => "WARN"
  | .error => "ERROR"

/--
The upper case of a character, as far as names of levels need it.  Beyond ASCII only the dotless
`i` and the long `s` have an ASCII letter as their upper case; every other character keeps the
text from being the name of a level, with or without its own upper case.
-/
def upperCase (char : Char) : Char :=
  if char = 'ı' then 'I'
  else if char = 'ſ' then 'S'
  else char.toUpper

/-- Reads the name of a level in any case; `WARNING` is another name of `WARN`. -/
def ofName? (text : String) : Option Level :=
  match String.ofList (text.toList.map upperCase) with
  | "TRACE" => some .trace
  | "DEBUG" => some .debug
  | "INFO" => some .info
  | "WARN" => some .warn
  | "WARNING" => some .warn
  | "ERROR" => some .error
  | _ => none

/-- What is said about a text that names no level. -/
def invalidName (text : String) : String :=
  "Invalid log level: '" ++ text ++ "'"

end Level

end LogPipeline
