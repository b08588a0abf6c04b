import LogPipeline.Tracker.Keeper

/-!
# Trackers that know more

A keeper can be told more about its components, and keep more in its state, than
is needed to do its work: a number for each component, say, or a record of what
was done.  A tracker with such a keeper does what it does with the simpler one.
This is shown for each operation in turn: when what is known in addition is left
out of its result, the result of the operation with the simpler keeper remains.
-/

namespace LogPipeline

variable {σ τ α β : Type}

/-! ## Trackers with less about their components -/

section Plain

variable (plain : β → α)

/-- An entry with less about its component. -/
def Entry.map (entry : Entry β) : Entry α :=
  ⟨plain entry.component, entry.used, entry.turn⟩

namespace Tracker

/-- Entries with less about their components. -/
def mapEntries (entries : List (String × Entry β)) : List (String × Entry α) :=
  entries.map fun entry => (entry.1, entry.2.map plain)

/-- Components under their keys with less about them. -/
def mapItems (items : List (String × β)) : List (String × α) :=
  items.map fun item => (item.1, plain item.2)

/-- A tracker with less about its components. -/
def map (tracker : Tracker β) : Tracker α where
  settings := tracker.settings
  live := mapEntries plain tracker.live
  lingering := mapEntries plain tracker.lingering
  lastSweep := tracker.lastSweep
  turn := tracker.turn

variable (tracker : Tracker β) (key : String) (now : Nat)
variable (entries : List (String × Entry β))

theorem map_id (tracker : Tracker α) : tracker.map id = tracker := by
  have same (entries : List (String × Entry α)) :
      mapEntries id entries = entries :=
    List.map_id entries
  rw [map, same, same]

theorem lookup_mapEntries :
    (mapEntries plain entries).lookup key =
      (entries.lookup key).map (Entry.map plain) := by
  induction entries with
  | nil => rfl
  | cons first rest ih =>
      rcases first with ⟨other, entry⟩
      have shape :
          mapEntries plain ((other, entry) :: rest) =
            (other, entry.map plain) :: mapEntries plain rest :=
        rfl
      rw [shape, List.lookup_cons, List.lookup_cons]
      cases key == other with
      | true => rfl
      | false => exact ih

theorem removeEntry_mapEntries :
    removeEntry key (mapEntries plain entries) =
      mapEntries plain (removeEntry key entries) :=
  List.filter_map

theorem updateEntry_mapEntries (turn : Nat) :
    updateEntry key (·.refresh now turn) (mapEntries plain entries) =
      mapEntries plain (updateEntry key (·.refresh now turn) entries) := by
  rw [updateEntry, mapEntries, mapEntries, updateEntry, List.map_map, List.map_map]
  apply List.map_congr_left
  intro entry member
  by_cases same : entry.1 = key
  · simp [same, Entry.refresh, Entry.map]
  · simp [same]

theorem length_mapEntries :
    (mapEntries plain entries).length = entries.length :=
  List.length_map _

theorem touch?_map :
    (tracker.map plain).touch? key now =
      (tracker.touch? key now).map (Prod.map plain (map plain)) := by
  simp only [touch?, map, lookup_mapEntries]
  cases tracker.live.lookup key with
  | some entry => simp [map, updateEntry_mapEntries, Entry.map]
  | none =>
      cases tracker.lingering.lookup key with
      | some entry => simp [map, updateEntry_mapEntries, Entry.map]
      | none => rfl

theorem insert_map (component : β) :
    (tracker.map plain).insert key (plain component) now =
      (tracker.insert key component now).map plain := by
  simp [insert, map, mapEntries, Entry.map]

theorem removeLive_map :
    (tracker.map plain).removeLive key = (tracker.removeLive key).map plain := by
  simp only [removeLive, map, removeEntry_mapEntries]

theorem removeLingering_map :
    (tracker.map plain).removeLingering key =
      (tracker.removeLingering key).map plain := by
  simp only [removeLingering, map, removeEntry_mapEntries]

theorem endLife_map :
    (tracker.map plain).endLife key = (tracker.endLife key).map plain := by
  simp only [endLife, map, lookup_mapEntries]
  cases tracker.live.lookup key with
  | none => rfl
  | some entry =>
      simp only [Option.map_some, removeLive, removeEntry_mapEntries]
      simp [mapEntries]

theorem oldestOf_mapEntries :
    oldestOf (mapEntries plain entries) =
      (oldestOf entries).map fun entry => (entry.1, entry.2.map plain) := by
  induction entries with
  | nil => rfl
  | cons first rest ih =>
      have shape :
          mapEntries plain (first :: rest) =
            (first.1, first.2.map plain) :: mapEntries plain rest :=
        rfl
      rw [shape, oldestOf, ih, oldestOf]
      cases oldestOf rest with
      | none => rfl
      | some other =>
          have older :
              (other.2.map plain).olderThan (first.2.map plain) =
                other.2.olderThan first.2 :=
            rfl
          simp only [Option.map_some, older, Option.some.injEq]
          split <;> rfl

theorem oldest?_map :
    (tracker.map plain).oldest?.toList = mapItems plain tracker.oldest?.toList := by
  simp only [oldest?, map, oldestOf_mapEntries]
  cases oldestOf tracker.live <;> rfl

theorem isOverfull_map :
    (tracker.map plain).isOverfull = tracker.isOverfull := by
  simp only [isOverfull, map, length_mapEntries]

theorem expired_map :
    (tracker.map plain).expired now = mapItems plain (tracker.expired now) := by
  simp only [expired, map, mapItems, mapEntries, List.filter_map, List.map_map]
  rfl

end Tracker

end Plain

/-! ## Keepers that know more -/

/--
A keeper that knows more about components, and keeps more in its state, does
what another keeper does.
-/
structure Keeper.Details
    (detailed : Keeper τ β)
    (keeper : Keeper σ α)
    (plain : β → α)
    (forget : τ → σ) : Prop where
  build (key : String) (state : τ) :
    keeper.build key (forget state) =
      ((detailed.build key state).1.map plain,
        forget (detailed.build key state).2)
  dispose (key : String) (component : β) (state : τ) :
    keeper.dispose key (plain component) (forget state) =
      ((detailed.dispose key component state).1,
        forget (detailed.dispose key component state).2)
  isStale (component : β) (state : τ) :
    keeper.isStale (plain component) (forget state) =
      detailed.isStale component state
  report (status : Status) (state : τ) :
    keeper.report status (forget state) = forget (detailed.report status state)

namespace Tracker

/-- The result of an operation on a tracker with less about it. -/
def plainResult
    {γ : Type}
    (plain : β → α)
    (forget : τ → σ)
    (result : γ × Tracker β × τ) : γ × Tracker α × σ :=
  (result.1, result.2.1.map plain, forget result.2.2)

end Tracker

variable {detailed : Keeper τ β} {keeper : Keeper σ α}
variable {plain : β → α} {forget : τ → σ}

theorem Keeper.Details.letGo
    (details : detailed.Details keeper plain forget)
    (key : String)
    (component : β)
    (state : τ) :
    keeper.letGo key (plain component) (forget state) =
      ((detailed.letGo key component state).1,
        forget (detailed.letGo key component state).2) := by
  rw [Keeper.letGo, Keeper.letGo, details.dispose]
  rcases detailed.dispose key component state with ⟨outcome, after⟩
  cases outcome with
  | done => rfl
  | failed error => exact congrArg (Prod.mk _) (details.report _ after)
  | panicked message => rfl

namespace Tracker

theorem letGoLive_map
    (details : detailed.Details keeper plain forget)
    (items : List (String × β))
    (tracker : Tracker β)
    (state : τ) :
    letGoLive keeper (mapItems plain items) (tracker.map plain) (forget state) =
      plainResult plain forget (letGoLive detailed items tracker state) := by
  induction items generalizing tracker state with
  | nil => rfl
  | cons item rest ih =>
      have shape :
          mapItems plain (item :: rest) =
            (item.1, plain item.2) :: mapItems plain rest :=
        rfl
      rw [shape, letGoLive, letGoLive, details.letGo]
      rcases detailed.letGo item.1 item.2 state with ⟨outcome, after⟩
      cases outcome with
      | error message => rfl
      | ok =>
          dsimp only
          rw [removeLive_map]
          exact ih (tracker.removeLive item.1) after

theorem letGoLingering_map
    (details : detailed.Details keeper plain forget)
    (items : List (String × β))
    (tracker : Tracker β)
    (state : τ) :
    letGoLingering keeper (mapItems plain items) (tracker.map plain)
        (forget state) =
      plainResult plain forget (letGoLingering detailed items tracker state) := by
  induction items generalizing tracker state with
  | nil => rfl
  | cons item rest ih =>
      have shape :
          mapItems plain (item :: rest) =
            (item.1, plain item.2) :: mapItems plain rest :=
        rfl
      rw [shape, letGoLingering, letGoLingering, details.letGo]
      rcases detailed.letGo item.1 item.2 state with ⟨outcome, after⟩
      cases outcome with
      | error message => rfl
      | ok =>
          dsimp only
          rw [removeLingering_map]
          exact ih (tracker.removeLingering item.1) after

theorem evict_map
    (details : detailed.Details keeper plain forget)
    (tracker : Tracker β)
    (state : τ) :
    evict keeper (tracker.map plain) (forget state) =
      plainResult plain forget (evict detailed tracker state) := by
  rw [evict, evict, isOverfull_map, oldest?_map, letGoLive_map details]
  split <;> rfl

theorem evictAll_map
    (details : detailed.Details keeper plain forget)
    (bound : Nat)
    (tracker : Tracker β)
    (state : τ) :
    evictAll keeper bound (tracker.map plain) (forget state) =
      plainResult plain forget (evictAll detailed bound tracker state) := by
  induction bound generalizing tracker state with
  | zero => rfl
  | succ bound ih =>
      rw [evictAll, evictAll, evict_map details]
      rcases evict detailed tracker state with ⟨outcome, later, after⟩
      cases outcome with
      | error message => rfl
      | ok => exact ih later after

theorem create_map
    (details : detailed.Details keeper plain forget)
    (tracker : Tracker β)
    (key : String)
    (now : Nat)
    (state : τ) :
    create keeper (tracker.map plain) key now (forget state) =
      ((create detailed tracker key now state).1.map plain,
        (plainResult plain forget (create detailed tracker key now state)).2) := by
  rw [create, create, details.build]
  rcases detailed.build key state with ⟨outcome, next⟩
  cases outcome with
  | error message => rfl
  | ok component =>
      dsimp only [Except.map]
      rw [insert_map, evict_map details]
      rcases evict detailed (tracker.insert key component now) next with
        ⟨outcome, later, after⟩
      cases outcome <;> rfl

theorem obtain_map
    (details : detailed.Details keeper plain forget)
    (tracker : Tracker β)
    (key : String)
    (now : Nat)
    (state : τ) :
    obtain keeper (tracker.map plain) key now (forget state) =
      ((obtain detailed tracker key now state).1.map plain,
        (plainResult plain forget (obtain detailed tracker key now state)).2) := by
  have counted : (tracker.map plain).nextTurn = tracker.nextTurn.map plain := rfl
  rw [obtain, obtain, counted, touch?_map]
  cases tracker.nextTurn.touch? key now with
  | some result => rfl
  | none => exact create_map details tracker.nextTurn key now state

theorem staleAmong_map
    (details : detailed.Details keeper plain forget)
    (tracker : Tracker β)
    (now : Nat)
    (state : τ)
    (entries : List (String × Entry β)) :
    staleAmong keeper (tracker.map plain) now (forget state)
        (mapEntries plain entries) =
      (staleAmong detailed tracker now state entries).map (mapItems plain) := by
  induction entries with
  | nil => rfl
  | cons first rest ih =>
      rcases first with ⟨key, entry⟩
      have shape :
          mapEntries plain ((key, entry) :: rest) =
            (key, entry.map plain) :: mapEntries plain rest :=
        rfl
      have timedOut :
          (tracker.map plain).isTimedOut now (entry.map plain) =
            tracker.isTimedOut now entry :=
        rfl
      have asked :
          keeper.isStale (entry.map plain).component (forget state) =
            detailed.isStale entry.component state :=
        details.isStale entry.component state
      rw [shape, staleAmong, staleAmong, timedOut, asked, ih]
      -- Both ask the same about this entry, so only the answer matters.
      generalize
        (if tracker.isTimedOut now entry = true then Except.ok true
          else detailed.isStale entry.component state) = answer
      cases answer with
      | error message => rfl
      | ok stale =>
          cases staleAmong detailed tracker now state rest with
          | error message => rfl
          | ok others => cases stale <;> rfl

theorem letGoStale_map
    (details : detailed.Details keeper plain forget)
    (tracker : Tracker β)
    (now : Nat)
    (state : τ) :
    letGoStale keeper (tracker.map plain) now (forget state) =
      plainResult plain forget (letGoStale detailed tracker now state) := by
  have live : (tracker.map plain).live = mapEntries plain tracker.live := rfl
  rw [letGoStale, letGoStale, live, staleAmong_map details]
  cases staleAmong detailed tracker now state tracker.live with
  | error message => rfl
  | ok stale => exact letGoLive_map details stale tracker state

theorem sweep_map
    (details : detailed.Details keeper plain forget)
    (tracker : Tracker β)
    (now : Nat)
    (state : τ) :
    sweep keeper (tracker.map plain) now (forget state) =
      plainResult plain forget (sweep detailed tracker now state) := by
  have may : (tracker.map plain).maySweep now = tracker.maySweep now := rfl
  have length : (tracker.map plain).live.length = tracker.live.length :=
    length_mapEntries plain tracker.live
  have noted :
      (tracker.map plain).noteSweep now = (tracker.noteSweep now).map plain :=
    rfl
  rw [sweep, sweep, may, length, noted, evictAll_map details]
  by_cases maySweep : tracker.maySweep now = true
  · rw [if_pos maySweep, if_pos maySweep]
    rcases evictAll detailed tracker.live.length (tracker.noteSweep now) state
      with ⟨outcome, roomy, between⟩
    cases outcome with
    | error message => rfl
    | ok =>
        dsimp only [plainResult]
        rw [letGoStale_map details]
        rcases letGoStale detailed roomy now between with ⟨outcome, fresh, next⟩
        cases outcome with
        | error message => rfl
        | ok =>
            dsimp only [plainResult]
            rw [expired_map, letGoLingering_map details]
            rfl
  · rw [if_neg maySweep, if_neg maySweep]
    rfl

end Tracker

end LogPipeline
