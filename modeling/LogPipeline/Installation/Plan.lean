import LogPipeline.Appender.Scripted
import LogPipeline.Dispatcher.Settings
import LogPipeline.Sifting

/-!
# Plans

A plan says what an appender is to be built as.  The plan of a dispatcher holds those of its
appenders, and the plan of a sifting appender holds that of its children.
-/

namespace LogPipeline

/-- What an appender is to be built as. -/
inductive Plan where
  | memory (name : String)
  /-- With a pattern the appender remembers rendered events. -/
  | scripted (name : String) (started : Bool) (script : Script) (pattern : Option String)
  /-- No child can be built for the values in `unavailable`. -/
  | sifting (name : String) (discriminator : Option Discriminator) (child : Option Plan)
      (unavailable : List String) (timeout maxChildren : Option Nat)
  | dispatching (name : String) (settings : DispatcherSettings) (discardable : Event → Bool)
      (appenders : List Plan)

namespace Plan

/-- The plan with another name; appenders that pass their events on keep the names they have. -/
def named (name : String) : Plan → Plan
  | .memory _ => .memory name
  | .scripted _ started script pattern => .scripted name started script pattern
  | plan => plan

mutual

/-- How deep appenders are nested, the appender itself included. -/
def depth : Plan → Nat
  | .memory _ => 1
  | .scripted _ _ _ _ => 1
  | .sifting _ _ child _ _ _ => childDepth child + 1
  | .dispatching _ _ _ appenders => greatestDepth appenders + 1

/-- The depth of an optional plan. -/
def childDepth : Option Plan → Nat
  | none => 0
  | some plan => depth plan

/-- The greatest depth of some plans. -/
def greatestDepth : List Plan → Nat
  | [] => 0
  | plan :: rest => max (depth plan) (greatestDepth rest)

end

end Plan

end LogPipeline
