import LogPipeline.Trial.Bench

/-!
# Trials of lists of appenders
-/

namespace LogPipeline.Trial

/-- A list of appenders, and one that was taken out of it. -/
structure ListState where
  roster : Roster Handle
  kept : Option Handle

/-- Gives events to all appenders of a list, as long as nothing breaks off. -/
def appendAll (origin : String) (roster : Roster Handle) (site : Installation) :
    List Event → Guarded (List Bool) × Roster Handle × Installation
  | [] => (.ok [], roster, site)
  | event :: rest =>
      match roster.append operations origin event site with
      | (.error message, roster, site) => (.error message, roster, site)
      | (.ok clean, roster, site) =>
          let (others, roster, site) := appendAll origin roster site rest
          (others.map fun others => clean :: others, roster, site)

/-- Carries out an operation on a list of appenders. -/
def performOnList (state : ListState) (site : Installation) (operation : Json) :
    Outcome ListState :=
  let origin := operation.textOr "origin" "test"
  let detached := state.roster.detach? operations (operation.textAt "name") site
  match operation.textAt "do" with
  | "append" =>
      let events := List.replicate (operation.naturalOr "n" 1) (eventAt operation)
      let (clean, roster, site) := appendAll origin state.roster site events
      .ofGuarded { state with roster } (clean.map fun clean => .list (clean.map .bool), site)
  | "add" =>
      withSink operation site fun handle site =>
        .ok ({ state with roster := state.roster.add handle }, site, .null)
  | "start" =>
      let (outcome, roster, site) := state.roster.start operations site
      .ofUnit { state with roster } (outcome, site)
  | "flush" => .ok (state, state.roster.flush operations origin site, .null)
  | "stop" => .ok (state, state.roster.stop operations origin site, .null)
  | "detach" =>
      match detached with
      | none => .ok (state, site, .null)
      | some (handle, roster) => .ofGuarded { state with roster } (appenderJson site handle, site)
  | "take" =>
      match detached with
      | none => .ok (state, site, .bool false)
      | some (handle, roster) => .ok (⟨roster, some handle⟩, site, .bool true)
  | "put" =>
      match state.kept with
      | none => .ok (state, site, .bool false)
      | some handle => .ok (⟨state.roster.add handle, none⟩, site, .bool true)
  | "debug" => .ok (state, site, .text (Text.quoteList (state.roster.names operations site)))
  | _ => .ok (state, site, .null)

/-- A list of appenders as a subject of trials. -/
def listSubject : Subject ListState where
  perform := performOnList
  view state site :=
    [("names", .ofTexts (state.roster.names operations site)),
      ("len", .wide state.roster.size), ("empty", .bool state.roster.isEmpty)]
  unordered := false

/-- Tries out a list of appenders. -/
def tryList (request : Json) : Report :=
  match installAll ((request.itemsAt "sinks").map planOf) (installationOf request) with
  | (.error error, site) => .unbuilt error [] site
  | (.ok handles, site) => .of listSubject request ⟨.ofList handles, none⟩ site

end LogPipeline.Trial
