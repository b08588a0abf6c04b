import LogPipeline.Attempt
import LogPipeline.Pattern.Layout
import LogPipeline.Trail

/-!
# Scripted appenders

A scripted appender does what its script says when it is asked something: it complies, fails, or
breaks off.  With such appenders one can see how the rest of a pipeline takes trouble.
-/

namespace LogPipeline

/-- What a scripted appender can be asked. -/
inductive Demand where
  | append
  | flush
  | stop
  /-- To say whether it is started. -/
  | probe
deriving DecidableEq, Repr

/-- The trouble that a demand can run into, in words. -/
def Demand.trouble : Demand → String
  | .append => "append failure"
  | .flush => "flush failure"
  | .stop => "stop failure"
  | .probe => "probe"

/-- What a scripted appender does when it is asked something. -/
inductive Conduct where
  | comply
  /-- Complies once the gates are open. -/
  | await
  | fail
  /-- Fails to write. -/
  | failToWrite
  | panic
  /-- Panics and says in which trouble. -/
  | panicInDetail
  /-- Panics without a message. -/
  | panicSilently
deriving DecidableEq, Repr

namespace Conduct

/-- How a demand on an appender ends. -/
def outcome (conduct : Conduct) (name : String) (demand : Demand) : Attempt Unit :=
  match conduct with
  | .comply => .done ()
  | .await => .done ()
  | .fail => .failed (.appender name demand.trouble)
  | .failToWrite => .failed (.io "disk gone")
  | .panic => .panicked "scripted panic"
  | .panicInDetail => .panicked ("scripted " ++ demand.trouble ++ " panic")
  | .panicSilently => .panicked Attempt.silentPanic

/-- How a demand ends that cannot fail. -/
def guarded (conduct : Conduct) (name : String) (demand : Demand) : Guarded Unit :=
  match conduct.outcome name demand with
  | .panicked message => .error message
  | _ => .ok ()

end Conduct

/-- The conduct of an appender for each demand. -/
structure Script where
  append : Conduct
  flush : Conduct
  stop : Conduct
  probe : Conduct
deriving DecidableEq, Repr

/-- The script of an appender that always complies. -/
def Script.compliant : Script :=
  ⟨.comply, .comply, .comply, .comply⟩

/-- What a scripted appender remembers of an event. -/
inductive Record where
  | event (event : Event)
  /-- The event as it was rendered. -/
  | text (text : String)
deriving DecidableEq, Repr

/-- An appender that does what its script says. -/
structure ScriptedAppender where
  name : String
  started : Bool
  script : Script
  /-- What events are rendered with; without it they are remembered as they are. -/
  layout : Option Pattern.Layout
  /-- What was taken. -/
  records : Trail Record

namespace ScriptedAppender

/-- Whether an appender is started. -/
def isStarted (appender : ScriptedAppender) : Guarded Bool :=
  (appender.script.probe.guarded appender.name .probe).map fun _ => appender.started

/-- Whether an appender waits for open gates when it is given an event. -/
def waitsForGates (appender : ScriptedAppender) : Bool :=
  appender.started && appender.script.append == .await

/-- What an appender would remember of an event. -/
def recordOf (appender : ScriptedAppender) (scene : Pattern.Scene) (event : Event) :
    Guarded Record :=
  match appender.layout with
  | none => .ok (.event event)
  | some layout =>
      match layout.render scene event with
      | .ok text => .ok (.text text)
      | .error failure => .error failure.message

/-- Takes an event. -/
def append (appender : ScriptedAppender) (scene : Pattern.Scene) (event : Event) :
    Attempt Unit × ScriptedAppender :=
  match appender.script.append.outcome appender.name .append with
  | .done () =>
      match appender.recordOf scene event with
      | .ok record => (.done (), { appender with records := appender.records.push record })
      | .error message => (.panicked message, appender)
  | other => (other, appender)

/-- How flushing ends. -/
def flush (appender : ScriptedAppender) : Attempt Unit :=
  appender.script.flush.outcome appender.name .flush

/-- Starts an appender. -/
def start (appender : ScriptedAppender) : ScriptedAppender :=
  { appender with started := true }

/-- Stops an appender; one that panics stays started. -/
def stop (appender : ScriptedAppender) : Guarded Unit × ScriptedAppender :=
  match appender.script.stop.guarded appender.name .stop with
  | .ok () => (.ok (), { appender with started := false })
  | .error message => (.error message, appender)

end ScriptedAppender

end LogPipeline
