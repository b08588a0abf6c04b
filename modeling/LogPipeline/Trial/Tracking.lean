import LogPipeline.Tracker.Buffers
import LogPipeline.Tracker.Labels
import LogPipeline.Trial.Bench

/-!
# Trials of trackers of labels and of buffers
-/

namespace LogPipeline.Trial

/-- A tracker of labels, with what there is to know about these. -/
structure LabelsState where
  tracker : Tracker String
  labels : Labels

/-- What an operation on labels gives, and the state after it. -/
def performOnLabels (state : LabelsState) (operation : Json) : Json × LabelsState :=
  let tracker := state.tracker
  let key := operation.textAt "k"
  let now := operation.naturalAt "now"
  match operation.textAt "do" with
  | "get" =>
      let (label, tracker, labels) := tracker.obtain Labels.keeper key now state.labels
      (.ofText? label.toOption, ⟨tracker, labels⟩)
  | "find" => (.ofText? (tracker.find? key), state)
  | "eol" => (.null, { state with tracker := tracker.endLife key })
  | "sweep" =>
      let (_, tracker, labels) := tracker.sweep Labels.keeper now state.labels
      (.null, ⟨tracker, labels⟩)
  | "lingering" => (.bool (tracker.isLingering key), state)
  | "stale" =>
      let stale := operation.textsAt "components"
      (.null, { state with labels := { state.labels with stale } })
  | "config" =>
      (.list [.decimal tracker.settings.timeoutMillis, .decimal tracker.settings.maxComponents],
        state)
  | "debug" => (.text tracker.describe, state)
  | _ => (.null, state)

/-- Carries out an operation on labels and writes down what can be seen. -/
def stepOnLabels (state : LabelsState) (operation : Json) : Json × LabelsState :=
  let (given, next) := performOnLabels state operation
  let disposed := next.labels.disposed.drop state.labels.disposed.length
  let heard := (heardIn next.labels.context).drop (heardIn state.labels.context).length
  (.record
      [("r", given), ("keys", .ofTexts (sorted next.tracker.markedKeys)),
        ("components", .ofTexts (sorted next.tracker.components)),
        ("count", .wide next.tracker.size), ("disposed", .ofTexts (sorted disposed)),
        ("status", .ofTexts (sorted (statusTexts heard)))],
    next)

/-- Buffers under their keys, and the buffer last handed out for each key. -/
structure BuffersState where
  tracker : Tracker Nat
  buffers : Buffers
  held : List (String × Nat)

namespace BuffersState

/-- The messages in a buffer. -/
def messages (state : BuffersState) (number : Option Nat) : Json :=
  .ofOption ((number.bind state.buffers.messages?).map .ofTexts)

/-- A buffer in short: how much it holds, how much it can hold, and its oldest event. -/
def bufferJson (state : BuffersState) (number : Nat) : Json :=
  .ofOption ((state.buffers.buffer? number).map fun buffer =>
    .list
      [.wide buffer.size, .wide buffer.capacity,
        .ofOption (buffer.oldest?.map fun event => recordJson (.event event))])

end BuffersState

/-- What an operation on buffers gives, and the state after it; making a buffer can break off. -/
def performOnBuffers (state : BuffersState) (operation : Json) :
    Except Halt (Json × BuffersState) :=
  let key := operation.textAt "k"
  let now := operation.naturalAt "now"
  match operation.textAt "do" with
  | "add" =>
      match state.tracker.obtain Buffers.keeper key now state.buffers with
      | (.error _, _) => .error .panicked
      | (.ok number, tracker, buffers) =>
          let state : BuffersState :=
            ⟨tracker, buffers.addAll number (eventsAt operation), (key, number) :: state.held⟩
          .ok (state.bufferJson number, state)
  | "find" => .ok (state.messages (state.tracker.find? key), state)
  | "held" => .ok (state.messages (state.held.lookup key), state)
  | "eol" => .ok (.null, { state with tracker := state.tracker.endLife key })
  | "sweep" =>
      let (_, tracker, buffers) := state.tracker.sweep Buffers.keeper now state.buffers
      .ok (.null, { state with tracker, buffers })
  | _ => .ok (.null, state)

/-- Carries out an operation on buffers and writes down what can be seen. -/
def stepOnBuffers (state : BuffersState) (operation : Json) : Except Halt (Json × BuffersState) :=
  (performOnBuffers state operation).map fun (given, next) =>
    (.record
        [("r", given), ("keys", .ofTexts (sorted next.tracker.markedKeys)),
          ("count", .wide next.tracker.size)],
      next)

/-- Carries out operations one by one. -/
def trace {τ : Type} (step : τ → Json → Except Halt (Json × τ)) :
    τ → List Json → Except Halt (List Json × τ)
  | state, [] => .ok ([], state)
  | state, operation :: rest =>
      match step state operation with
      | .error halt => .error halt
      | .ok (done, state) =>
          (trace step state rest).map fun (others, state) => (done :: others, state)

/-- Tries out a tracker of labels. -/
def tryLabels (request : Json) : Report :=
  let context :=
    if request.flagAt "plain" then Context.echoing Context.defaultName
    else contextOf (request.recordAt "context")
  let start : LabelsState :=
    ⟨.empty (trackerSettingsOf request .standard),
      .create (watched context) (request.textsAt "fail_disposal")⟩
  match trace (fun state operation => .ok (stepOnLabels state operation)) start
      (request.itemsAt "ops") with
  | .error halt => ⟨halt.toJson, start.labels.context⟩
  | .ok (done, final) => ⟨.record [("steps", .list done)], final.labels.context⟩

/-- Tries out a tracker of buffers. -/
def tryBuffers (request : Json) : Json :=
  let size? := request.naturalAt? "size"
  let settings := trackerSettingsOf request
    (if size?.isSome then .standard else Buffers.defaultSettings)
  match Buffers.ofCapacity (size?.getD Buffers.defaultCapacity) with
  | .error error => .record error.members
  | .ok buffers =>
      match trace stepOnBuffers ⟨.empty settings, buffers, []⟩ (request.itemsAt "ops") with
      | .error halt => halt.toJson
      | .ok (done, _) =>
          .record
            [("steps", .list done), ("size", .wide buffers.capacity),
              ("max", .decimal settings.maxComponents),
              ("timeout", .decimal settings.timeoutMillis)]

end LogPipeline.Trial
