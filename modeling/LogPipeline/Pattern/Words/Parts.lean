import LogPipeline.Pattern.Abbreviation
import LogPipeline.Pattern.Converter
import LogPipeline.Text.Trim
import LogPipeline.Time.DateStyle

/-!
# Words for the parts of an event

The conversion words without parentheses: what each makes of an event, and the options it takes.
-/

namespace LogPipeline.Pattern

/-- What stands for an unknown place. -/
def unknownPlace : String := "?"

/-- What ends a line. -/
def lineEnd : String := "\n"

/-- The place where an event was logged, as a line of a call chain. -/
def callerLine (event : Event) : String :=
  match event.modulePath, event.file, event.line with
  | some modulePath, some file, some line =>
      "Caller+0\t at " ++ modulePath ++ "(" ++ file ++ ":" ++ toString line ++ ")" ++ lineEnd
  | _, _, _ => unknownPlace ++ "#" ++ unknownPlace ++ ":" ++ unknownPlace ++ lineEnd

/-- Reads a number of an option, with blanks around it. -/
def readSize? (option : String) : Option Nat :=
  Text.readUnsigned? Text.maxWord (Text.trim option.toList)

/-- The status about an option that is no length. -/
def badLength (word option : String) : Status :=
  .warn assemblyOrigin
    ("Ignoring abbreviation option [" ++ option ++ "] of [" ++ word ++
      "], expected a non-negative integer")

/-- The abbreviation asked for by the first option; one that is no length is ignored. -/
def abbreviationOf (usage : Usage) : Option Abbreviation × List Status :=
  match usage.firstOption? with
  | none => (none, [])
  | some option =>
      match readSize? option with
      | some length => (some (.ofLength length), [])
      | none => (none, [badLength usage.word option])

/-- A name, shortened if that is asked for. -/
def shortened (abbreviation : Option Abbreviation) (name : String) : String :=
  match abbreviation with
  | some abbreviation => abbreviation.apply name
  | none => name

/-- The factory of a name that the first option can shorten. -/
def namedPart (name? : Event → Option String) : Factory :=
  .simple fun usage =>
    let (abbreviation, statuses) := abbreviationOf usage
    let converter := Converter.ofPart fun event =>
      match name? event with
      | some name => shortened abbreviation name
      | none => unknownPlace
    (.ok converter, statuses)

/-- The parts of an option around the first `:-`, which come to a key and a default. -/
def keyAndDefault (option : String) : String × String :=
  match Text.splitOnce? [':', '-'] option.toList with
  | some (key, default) => (String.ofList key, String.ofList default)
  | none => (option, "")

/-- The property of an event under the key of an option, or all properties. -/
def propertyText (option : Option String) (event : Event) : String :=
  match option with
  | none => event.properties.display
  | some option =>
      match event.properties.get? (keyAndDefault option).1 with
      | some value => value.display
      | none => (keyAndDefault option).2

/-- A property of the context, or else a variable of the process. -/
def contextPropertyText (key : Option String) (scene : Scene) : String :=
  match key with
  | none => "Property_HAS_NO_KEY"
  | some key =>
      match scene.properties.lookup key, scene.environment.lookup key with
      | some value, _ => value
      | none, some value => value
      | none, none => ""

/-- The error about an option that is no depth. -/
def badDepth (word option : String) : LogError :=
  .converter word ("invalid depth [" ++ option ++ "], expected full, short or a number")

/-- The number of frames asked for by the first option. -/
def depthOf (usage : Usage) : Except LogError Nat :=
  match usage.firstOption? with
  | none => .ok Throwable.fullDepth
  | some "full" => .ok Throwable.fullDepth
  | some "short" => .ok 1
  | some option =>
      match readSize? option with
      | some depth => .ok depth
      | none => .error (badDepth usage.word option)

/-- The converter that shows the throwable of an event with at most `depth` frames. -/
def throwableConverter (depth : Nat) : Converter :=
  ⟨fun _ event => .ok ((event.throwable.map (Throwable.render depth)).getD ""), true⟩

/-- The converter that hides the throwable of an event. -/
def noThrowableConverter : Converter :=
  ⟨fun _ _ => .ok "", true⟩

/-- The factory of throwables. -/
def throwableFactory : Factory :=
  .simple fun usage =>
    match depthOf usage with
    | .ok depth => (.ok (throwableConverter depth), [])
    | .error error => (.error error, [])

/-- The style asked for by the first option. -/
def styleOf (usage : Usage) : Except LogError Time.DateStyle :=
  match usage.firstOption? with
  | none => .ok .standard
  | some option => Time.DateStyle.ofOption option

/-- The zone asked for by the second option. -/
def zoneOf (usage : Usage) : Except LogError Time.Zone :=
  match usage.secondOption? with
  | none => .ok .universal
  | some option =>
      match String.ofList (option.toList.map Char.toLower) with
      | "utc" => .ok .universal
      | "local" => .ok .home
      | _ => .error (.converter usage.word ("unknown time zone [" ++ option ++ "]"))

/-- The converter of the time of an event. -/
def dateConverter (style : Time.DateStyle) (zone : Time.Zone) : Converter :=
  { render := fun _ event =>
      match style.show? event.timestamp zone with
      | some text => .ok text
      | none => .error .unwritableDate
    handlesThrowable := false }

/-- The factory of dates. -/
def dateFactory : Factory :=
  .simple fun usage =>
    match styleOf usage with
    | .error error => (.error error, [])
    | .ok style =>
        match zoneOf usage with
        | .error error => (.error error, [])
        | .ok zone => (.ok (dateConverter style zone), [])

/-- The converter of the milliseconds since the birth of the context. -/
def ageConverter : Converter :=
  ⟨fun scene event => .ok (toString (event.timestamp.millis - scene.birth.millis)), false⟩

/-- The words without parentheses, each list with the factory its words share. -/
def partWords : List (List String × Factory) :=
  [ (["d", "date"], dateFactory),
    (["r", "relative"], .fixed ageConverter),
    (["level", "le", "p"], .fixed (.ofPart fun event => event.level.name)),
    (["t", "thread"], .fixed (.ofPart Event.threadName)),
    (["lo", "logger", "c"], namedPart fun event => some event.loggerName),
    (["m", "msg", "message"], .fixed (.ofPart Event.message)),
    (["C", "class"], namedPart Event.modulePath),
    (["F", "file"], .fixed (.ofPart fun event => event.file.getD unknownPlace)),
    (["L", "line"], .fixed (.ofPart fun event => (event.line.map toString).getD unknownPlace)),
    (["caller"], .fixed (.ofPart callerLine)),
    (["X", "mdc"], .simple fun usage =>
      (.ok (.ofPart (propertyText usage.firstOption?)), [])),
    (["property"], .simple fun usage =>
      (.ok ⟨fun scene _ => .ok (contextPropertyText usage.firstOption? scene), false⟩, [])),
    (["cn", "contextName"], .fixed ⟨fun scene _ => .ok scene.contextName, false⟩),
    (["marker"], .fixed (.ofPart fun event => event.marker.getD "")),
    (["n"], .fixed (.constant lineEnd)),
    (["ex", "exception", "throwable"], throwableFactory),
    (["nopex", "nopexception"], .fixed noThrowableConverter) ]

end LogPipeline.Pattern
