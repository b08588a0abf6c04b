import LogPipeline.Proofs.Sifting.Memory
import LogPipeline.Proofs.Sifting.Passage
import Mathlib.Data.List.Induction

/-!
# Receipt of sifted events

In a course of a sifting appender with reliable children, each event that is
appended while it is started reaches the child for its value, unless this child
is tracked but not started, or made so late that it goes at once.  The first can
only happen after a stop, since stopped children stay tracked; the second only if
time runs backwards.
-/

namespace LogPipeline.Sifting

open Nursery

variable {σ α : Type}

/-! ## What is offered and received -/

/-- The event that is appended by an action, if a sifting appender is started. -/
def offeredBy (sifting : Sifting α) : Action → List Event
  | .append event => if sifting.started then [event] else []
  | _ => []

/-- The events that are appended while a sifting appender is started. -/
def offered
    (operations : Operations σ α)
    (factory : ChildFactory σ α)
    (situation : Sifting α × σ) :
    List Action → List Event
  | [] => []
  | action :: rest =>
      offeredBy situation.1 action ++
        offered operations factory (act operations factory situation action) rest

/--
Each event was given exactly once to a child that was made for its value, in the
order of the events, and nothing else was given to any child.
-/
def Received
    (discriminator : Discriminator)
    (events : List Event)
    (nursery : Nursery σ α) : Prop :=
  List.Forall₂
    (fun event call =>
      call.2 = event ∧ (discriminator.value event, call.1) ∈ nursery.made)
    events nursery.given

/-- What holds whenever an event is appended while a sifting appender is started. -/
def Throughout
    (operations : Operations σ α)
    (factory : ChildFactory σ α)
    (holds : Sifting α × σ → Event → Prop)
    (situation : Sifting α × σ)
    (actions : List Action) : Prop :=
  ∀ earlier event,
    earlier ++ [.append event] <+: actions →
      (play operations factory situation earlier).1.started = true →
        holds (play operations factory situation earlier) event

variable {operations : Operations σ α} {factory : ChildFactory σ α}
variable {sound : σ → Prop} {started? : α → σ → Option Bool}
variable {discriminator : Discriminator} {settings : TrackerSettings}
variable {actions : List Action}

theorem offered_concat
    (situation : Sifting α × σ)
    (action : Action) :
    offered operations factory situation (actions ++ [action]) =
      offered operations factory situation actions ++
        offeredBy (play operations factory situation actions).1 action := by
  induction actions generalizing situation with
  | nil => exact List.append_nil _
  | cons first rest ih =>
      rw [List.cons_append, offered, ih, offered, List.append_assoc]
      rfl

theorem offered_nursed
    (situation : Sifting α × Nursery σ α) :
    offered operations factory (plain Nursery.state situation) actions =
      offered operations.nursed factory.nursed situation actions := by
  induction actions generalizing situation with
  | nil => rfl
  | cons action rest ih =>
      rw [offered, (Mirror.nursed operations factory).act, ih]
      cases action <;> rfl

theorem throughout_concat_iff
    (holds : Sifting α × σ → Event → Prop)
    (situation : Sifting α × σ)
    (action : Action) :
    Throughout operations factory holds situation (actions ++ [action]) ↔
      Throughout operations factory holds situation actions ∧
        ∀ event,
          action = .append event →
            (play operations factory situation actions).1.started = true →
              holds (play operations factory situation actions) event := by
  constructor
  · intro throughout
    refine ⟨?_, ?_⟩
    · intro earlier event isPrefix
      exact
        throughout earlier event (isPrefix.trans (List.prefix_append _ _))
    · rintro event rfl
      exact throughout actions event (List.prefix_refl _)
  · rintro ⟨before, last⟩ earlier event isPrefix
    rcases List.prefix_concat_iff.mp isPrefix with whole | shorter
    · rcases List.append_inj' whole rfl with ⟨rfl, same⟩
      exact last event (List.singleton_inj.mp same).symm
    · exact before earlier event shorter

/-- It can be told from a nursery what holds throughout a course. -/
theorem throughout_plain
    {holds : Sifting α × σ → Event → Prop}
    {situation : Sifting α × Nursery σ α}
    (throughout :
      ∀ earlier event,
        earlier ++ [.append event] <+: actions →
          (play operations.nursed factory.nursed situation
                earlier).1.started =
              true →
            holds
              (plain Nursery.state
                (play operations.nursed factory.nursed situation earlier))
              event) :
    Throughout operations factory holds (plain Nursery.state situation) actions := by
  intro earlier event isPrefix started
  rw [(Mirror.nursed operations factory).play] at started ⊢
  exact throughout earlier event isPrefix started

theorem Throughout.imp
    {holds others : Sifting α × σ → Event → Prop}
    {situation : Sifting α × σ}
    (throughout : Throughout operations factory holds situation actions)
    (implies : ∀ later event, holds later event → others later event) :
    Throughout operations factory others situation actions :=
  fun earlier event isPrefix started =>
    implies _ _ (throughout earlier event isPrefix started)

/-! ## What stays true in a course -/

/-- What is true of a sifting appender and its children after some actions. -/
structure Steady
    (sound : σ → Prop)
    (started? : α → σ → Option Bool)
    (discriminator : Discriminator)
    (settings : TrackerSettings)
    (actions : List Action)
    (situation : Sifting α × Nursery σ α) : Prop where
  discriminator_eq : situation.1.discriminator = discriminator
  settings_eq : situation.1.tracker.settings = settings
  fits : ¬ situation.1.tracker.isOverfull = true
  family : Family sound started? situation.1.tracker situation.2
  /-- Every child was used by an event. -/
  uses :
    ∀ entry ∈ situation.1.tracker.entries,
      ∃ event ∈ appended actions, entry.2.used = event.millis

variable {situation : Sifting α × Nursery σ α}

theorem Steady.act
    (steady :
      Steady sound started? discriminator settings actions situation)
    (reliable : operations.Reliable factory.make sound started?)
    (action : Action)
    (timely : ∀ event ∈ appended [action], event.millis ≤ Text.maxWord) :
    Steady sound started? discriminator settings (actions ++ [action])
      (act operations.nursed factory.nursed situation action) := by
  rcases situation with ⟨sifting, nursery⟩
  rcases steady with ⟨sameDiscriminator, sameSettings, fits, family, uses⟩
  have usesBefore :
      ∀ entry ∈ sifting.tracker.entries,
        ∃ event ∈ appended (actions ++ [action]),
          entry.2.used = event.millis := by
    intro entry inside
    rcases uses entry inside with ⟨event, isAppended, used⟩
    refine ⟨event, ?_, used⟩
    rw [appended_concat]
    exact List.mem_append_left _ isAppended
  cases action with
  | append event =>
      by_cases started : sifting.started = true
      · rcases
            exists_append family reliable fits started
              (timely event (List.mem_singleton_self _)) with
          ⟨child, reached, later, after, appends, passage⟩
        have goes :
            Sifting.act operations.nursed factory.nursed (sifting, nursery)
                (.append event) =
              (later, after) :=
          congrArg Prod.snd appends
        rw [goes]
        refine
          ⟨?_, passage.settings.trans sameSettings, passage.fits,
            passage.family, ?_⟩
        · rw [passage.rest]
          exact sameDiscriminator
        · intro entry inside
          rcases passage.uses entry inside with old | isNew
          · exact usesBefore entry old
          · refine ⟨event, ?_, isNew⟩
            rw [appended_concat]
            exact List.mem_append_right _ (List.mem_singleton_self _)
      · have rests :
            Sifting.act operations.nursed factory.nursed (sifting, nursery)
                (.append event) =
              (sifting, nursery) := by
          rw [Sifting.act, append, if_neg started]
        rw [rests]
        exact ⟨sameDiscriminator, sameSettings, fits, family, usesBefore⟩
  | stop =>
      rcases exists_stop family reliable with ⟨after, stops, stillFamily⟩
      have goes :
          Sifting.act operations.nursed factory.nursed (sifting, nursery)
              .stop =
            ({ sifting with started := false }, nursery.enter after) :=
        congrArg Prod.snd stops
      rw [goes]
      exact ⟨sameDiscriminator, sameSettings, fits, stillFamily, usesBefore⟩
  | start => exact ⟨sameDiscriminator, sameSettings, fits, family, usesBefore⟩

/-! ## What is received in a course -/

/-- The child for an event can stay, and if it is there, it is started. -/
def Smooth
    (operations : Operations σ α)
    (situation : Sifting α × σ)
    (event : Event) : Prop :=
  ¬ situation.1.Belated event ∧
    ¬ situation.1.Dormant operations event situation.2

/-- What can be said of an event that reached its child. -/
def Arrived
    (operations : Operations σ α)
    (sound : σ → Prop)
    (started? : α → σ → Option Bool)
    (situation : Sifting α × σ)
    (event : Event) : Prop :=
  ¬ situation.1.Dormant operations event situation.2 ∧
    (operations.StopsChildren sound started? → ¬ situation.1.Belated event)

/-- How the events that were given compare with those that were offered. -/
structure Tally
    (operations : Operations σ α)
    (factory : ChildFactory σ α)
    (sound : σ → Prop)
    (started? : α → σ → Option Bool)
    (discriminator : Discriminator)
    (situation : Sifting α × Nursery σ α)
    (actions : List Action) : Prop where
  received :
    Throughout operations factory (Smooth operations)
        (plain Nursery.state situation) actions →
      Received discriminator
        (offered operations.nursed factory.nursed situation actions)
        (play operations.nursed factory.nursed situation actions).2
  few :
    (play operations.nursed factory.nursed situation actions).2.given.length ≤
      (offered operations.nursed factory.nursed situation actions).length
  arrived :
    (play operations.nursed factory.nursed situation actions).2.given.length =
        (offered operations.nursed factory.nursed situation actions).length →
      Throughout operations factory (Arrived operations sound started?)
        (plain Nursery.state situation) actions

theorem Reaches.arrived
    {sifting : Sifting α}
    {event : Event}
    {state : σ}
    (reaches :
      Reaches operations sound started? sifting event state true) :
    Arrived operations sound started? (sifting, state) event := by
  cases reaches with
  | reaches inTime awake => exact ⟨awake, fun _ => inTime⟩
  | belated belated stops =>
      refine ⟨?_, fun stopsAll => nomatch stops stopsAll⟩
      rintro ⟨child, found, _⟩
      rw [belated.1] at found
      cases found

theorem Reaches.eq_true
    {sifting : Sifting α}
    {event : Event}
    {state : σ}
    {reached : Bool}
    (reaches :
      Reaches operations sound started? sifting event state reached)
    (smooth : Smooth operations (sifting, state) event) :
    reached = true := by
  cases reaches with
  | reaches => rfl
  | dormant dormant => exact absurd dormant smooth.2
  | belated belated => exact absurd belated smooth.1

/-- Nothing is received and nothing is offered. -/
theorem Tally.rest
    {action : Action}
    (tally :
      Tally operations factory sound started? discriminator situation actions)
    (silent :
      offeredBy (play operations.nursed factory.nursed situation actions).1
          action =
        [])
    (made :
      (play operations.nursed factory.nursed situation
            (actions ++ [action])).2.made =
        (play operations.nursed factory.nursed situation actions).2.made)
    (given :
      (play operations.nursed factory.nursed situation
            (actions ++ [action])).2.given =
        (play operations.nursed factory.nursed situation actions).2.given) :
    Tally operations factory sound started? discriminator situation
      (actions ++ [action]) := by
  have same :
      offered operations.nursed factory.nursed situation
          (actions ++ [action]) =
        offered operations.nursed factory.nursed situation actions := by
    rw [offered_concat, silent, List.append_nil]
  refine ⟨?_, ?_, ?_⟩
  · intro smooth
    rw [throughout_concat_iff] at smooth
    rw [Received, same, made, given]
    exact tally.received smooth.1
  · rw [same, given]
    exact tally.few
  · rw [same, given, throughout_concat_iff]
    intro all
    refine ⟨tally.arrived all, ?_⟩
    rintro event rfl started
    rw [(Mirror.nursed operations factory).play] at started
    have isStarted :
        (play operations.nursed factory.nursed situation actions).1.started =
          true :=
      started
    rw [offeredBy, if_pos isStarted] at silent
    cases silent

/-- An event is offered to a started sifting appender. -/
theorem Tally.append
    {event : Event}
    {child : α}
    {reached : Bool}
    {later : Sifting α}
    {after : Nursery σ α}
    (tally :
      Tally operations factory sound started? discriminator situation actions)
    (sameDiscriminator :
      (play operations.nursed factory.nursed situation
            actions).1.discriminator =
        discriminator)
    (started :
      (play operations.nursed factory.nursed situation actions).1.started =
        true)
    (goes :
      play operations.nursed factory.nursed situation
          (actions ++ [.append event]) =
        (later, after))
    (passage :
      Passage operations sound started?
        (play operations.nursed factory.nursed situation actions).1 event
        (play operations.nursed factory.nursed situation actions).2 child
        reached later after) :
    Tally operations factory sound started? discriminator situation
      (actions ++ [.append event]) := by
  have more :
      offered operations.nursed factory.nursed situation
          (actions ++ [.append event]) =
        offered operations.nursed factory.nursed situation actions ++
          [event] := by
    rw [offered_concat, offeredBy, if_pos started]
  have given := passage.given_eq
  have few := tally.few
  have same :
      play operations factory (plain Nursery.state situation) actions =
        plain Nursery.state
          (play operations.nursed factory.nursed situation actions) :=
    (Mirror.nursed operations factory).play situation actions
  refine ⟨?_, ?_, ?_⟩
  · rw [throughout_concat_iff, same]
    rintro ⟨smooth, last⟩
    have isReached := passage.reaches.eq_true (last event rfl started)
    rw [isReached, if_pos rfl] at given
    rw [Received, more, goes, given]
    apply List.rel_append
    · apply (tally.received smooth).imp
      rintro offer call ⟨same, isMade⟩
      exact ⟨same, passage.kept isMade⟩
    · exact
        .cons ⟨rfl, sameDiscriminator ▸ passage.made⟩ .nil
  · rw [more, goes, given, List.length_append, List.length_append,
      List.length_singleton]
    split
    · simpa using few
    · simpa using Nat.le_succ_of_le few
  · rw [more, goes, given, List.length_append, List.length_append,
      List.length_singleton, throughout_concat_iff, same]
    intro all
    cases reached with
    | false =>
        simp only [Bool.false_eq_true, if_false, List.length_nil] at all
        omega
    | true =>
        simp only [if_true, List.length_singleton] at all
        refine ⟨tally.arrived (Nat.succ.inj all), ?_⟩
        rintro other same _
        cases same
        exact passage.reaches.arrived

/-- A sifting appender without children, where nothing was received yet. -/
theorem Tally.begin
    (situation : Sifting α × Nursery σ α)
    (nothing : situation.2.given = []) :
    Tally operations factory sound started? discriminator situation [] := by
  refine ⟨?_, ?_, ?_⟩
  · intro _
    rw [Received, play, List.foldl_nil, nothing]
    exact .nil
  · exact Nat.le_of_eq (congrArg List.length nothing)
  · intro _ earlier event isPrefix
    rw [List.prefix_nil] at isPrefix
    exact absurd isPrefix (List.append_ne_nil_of_right_ne_nil _ (by simp))

/-- Every course keeps all that is needed to tell what is received. -/
theorem tally_play
    (reliable : operations.Reliable factory.make sound started?)
    (steady :
      Steady sound started? discriminator settings [] situation)
    (nothing : situation.2.given = [])
    (timely : ∀ event ∈ appended actions, event.millis ≤ Text.maxWord) :
    Steady sound started? discriminator settings actions
        (play operations.nursed factory.nursed situation actions) ∧
      Tally operations factory sound started? discriminator situation
        actions := by
  -- From the end: what is offered and given only grows with the last action.
  induction actions using List.reverseRecOn with
  | nil => exact ⟨steady, .begin situation nothing⟩
  | append_singleton actions action ih =>
      rw [appended_concat] at timely
      have timelyNow :
          ∀ event ∈ appended [action], event.millis ≤ Text.maxWord :=
        fun event inside => timely event (List.mem_append_right _ inside)
      rcases
          ih fun event inside => timely event (List.mem_append_left _ inside)
        with ⟨before, tally⟩
      have goes :
          play operations.nursed factory.nursed situation
              (actions ++ [action]) =
            act operations.nursed factory.nursed
              (play operations.nursed factory.nursed situation actions)
              action :=
        play_concat situation action
      refine ⟨goes ▸ before.act reliable action timelyNow, ?_⟩
      cases action with
      | append event =>
          by_cases started :
              (play operations.nursed factory.nursed situation
                  actions).1.started =
                true
          · rcases
                exists_append before.family reliable before.fits started
                  (timelyNow event (List.mem_singleton_self _)) with
              ⟨child, reached, later, after, appends, passage⟩
            rw [act, appends] at goes
            exact
              tally.append before.discriminator_eq started goes passage
          · rw [act, Sifting.append, if_neg started] at goes
            exact
              tally.rest (if_neg started) (congrArg (fun s => s.2.made) goes)
                (congrArg (fun s => s.2.given) goes)
      | stop =>
          rcases exists_stop before.family reliable with ⟨after, stops, _⟩
          rw [act, stops] at goes
          exact
            tally.rest rfl (congrArg (fun s => s.2.made) goes)
              (congrArg (fun s => s.2.given) goes)
      | start =>
          exact
            tally.rest rfl (congrArg (fun s => s.2.made) goes)
              (congrArg (fun s => s.2.given) goes)

theorem steady_create
    {state : σ}
    (isSound : sound state)
    (name : String)
    (discriminator : Discriminator)
    (timeout maxChildren : Option Nat) :
    Steady sound started? discriminator (trackerSettings timeout maxChildren) []
      (create name discriminator timeout maxChildren, .begin state) where
  discriminator_eq := rfl
  settings_eq := rfl
  fits := by simp [create, Tracker.empty, Tracker.isOverfull]
  family :=
    { sound := isSound
      known := fun _ inside => nomatch inside
      single := List.nodup_nil
      distinct := List.nodup_nil
      ours := List.nil_subset _
      turns := fun _ inside => nomatch inside }
  uses _ inside := nomatch inside

/-! ## Courses without a stop -/

/-- As long as nothing is stopped, no child is. -/
theorem allStarted_play
    (reliable : operations.Reliable factory.make sound started?)
    (steady :
      Steady sound started? discriminator settings [] situation)
    (nothing : situation.2.given = [])
    (timely : ∀ event ∈ appended actions, event.millis ≤ Text.maxWord)
    (started : situation.1.started = true)
    (allStarted : AllStarted started? situation.1 situation.2.state)
    (appends : ∀ action ∈ actions, ∃ event, action = .append event) :
    (play operations.nursed factory.nursed situation actions).1.started =
        true ∧
      AllStarted started?
        (play operations.nursed factory.nursed situation actions).1
        (play operations.nursed factory.nursed situation actions).2.state := by
  induction actions using List.reverseRecOn with
  | nil => exact ⟨started, allStarted⟩
  | append_singleton actions action ih =>
      rw [appended_concat] at timely
      have timelyBefore :
          ∀ event ∈ appended actions, event.millis ≤ Text.maxWord :=
        fun event inside => timely event (List.mem_append_left _ inside)
      rcases
          ih timelyBefore fun other inside =>
            appends other (List.mem_append_left _ inside) with
        ⟨stillStarted, stillAll⟩
      rcases tally_play reliable steady nothing timelyBefore with ⟨before, _⟩
      rcases appends action (List.mem_append_right _ (List.mem_singleton_self _))
        with ⟨event, rfl⟩
      have timelyNow : event.millis ≤ Text.maxWord :=
        timely event (List.mem_append_right _ (List.mem_singleton_self _))
      rcases
          exists_append before.family reliable before.fits stillStarted
            timelyNow with
        ⟨child, reached, later, after, goes, passage⟩
      rw [play_concat, act, goes]
      refine ⟨?_, passage.allStarted stillAll⟩
      rw [passage.rest]
      exact stillStarted

theorem never_dormant_of_appends
    (reliable : operations.Reliable factory.make sound started?)
    (steady :
      Steady sound started? discriminator settings [] situation)
    (nothing : situation.2.given = [])
    (timely : ∀ event ∈ appended actions, event.millis ≤ Text.maxWord)
    (started : situation.1.started = true)
    (allStarted : AllStarted started? situation.1 situation.2.state)
    (appends : ∀ action ∈ actions, ∃ event, action = .append event) :
    Throughout operations factory
      (fun later event => ¬ later.1.Dormant operations event later.2)
      (plain Nursery.state situation) actions := by
  apply throughout_plain
  rintro earlier event isPrefix _ ⟨child, found, isStopped⟩
  have before := (List.prefix_append _ _).trans isPrefix
  have isStarted :=
    (allStarted_play reliable steady nothing
        (fun other inside =>
          timely other ((before.filterMap _).subset inside))
        started allStarted fun action inside =>
          appends action (before.subset inside)).2
      _ (Tracker.mem_held_of_find? found)
  cases (reliable.isStarted isStarted).symm.trans isStopped

theorem offered_appends
    (situation : Sifting α × σ)
    (events : List Event)
    (started :
      ∀ front : List Event,
        front <+: events →
          (play operations factory situation
              (front.map Action.append)).1.started =
            true) :
    offered operations factory situation (events.map Action.append) =
      events := by
  induction events using List.reverseRecOn with
  | nil => rfl
  | append_singleton events event ih =>
      have before :=
        ih fun front isPrefix =>
          started front (isPrefix.trans (List.prefix_append _ _))
      rw [List.map_append, List.map_singleton, offered_concat, before, offeredBy,
        if_pos (started events (List.prefix_append _ _))]

theorem appended_appends (events : List Event) :
    appended (events.map Action.append) = events := by
  rw [appended, List.filterMap_map]
  exact List.filterMap_some

/--
A sifting appender whose children are reliable and that is only appended to
passes each event on exactly once to a child for its value, if no event is
belated.  If stopped children are not started any more, then no other events
come through.
-/
theorem received_iff_never_belated
    {state : σ}
    (reliable : operations.Reliable factory.make sound started?)
    (isSound : sound state)
    (name : String)
    (discriminator : Discriminator)
    (timeout maxChildren : Option Nat)
    (events : List Event)
    (timely : ∀ event ∈ events, event.millis ≤ Text.maxWord) :
    let sifting := create name discriminator timeout maxChildren
    let actions := events.map Action.append
    let seen :=
      play operations.nursed factory.nursed (sifting, .begin state) actions
    let inTime :=
      Throughout operations factory (fun later event => ¬ later.1.Belated event)
        (sifting, state) actions
    play operations factory (sifting, state) actions = plain Nursery.state seen ∧
      (inTime → Received discriminator events seen.2) ∧
      (operations.StopsChildren sound started? →
        Received discriminator events seen.2 →
          inTime) := by
  intro sifting actions seen inTime
  have steady :
      Steady sound started? discriminator (trackerSettings timeout maxChildren)
        [] (sifting, .begin state) :=
    steady_create isSound name discriminator timeout maxChildren
  have timelyAll : ∀ event ∈ appended actions, event.millis ≤ Text.maxWord := by
    rw [appended_appends]
    exact timely
  have allStarted : AllStarted started? sifting state :=
    fun _ inside => nomatch inside
  have appends : ∀ action ∈ actions, ∃ event, action = .append event := by
    intro action inside
    rcases List.mem_map.mp inside with ⟨event, _, same⟩
    exact ⟨event, same.symm⟩
  have awake :=
    never_dormant_of_appends reliable steady rfl timelyAll rfl allStarted appends
  have offers :
      offered operations.nursed factory.nursed (sifting, .begin state) actions =
        events := by
    apply offered_appends
    intro front isPrefix
    have before := isPrefix.map Action.append
    exact
      (allStarted_play reliable steady rfl
        (fun other inside =>
          timelyAll other ((before.filterMap _).subset inside))
        rfl allStarted fun action inside =>
          appends action (before.subset inside)).1
  rcases tally_play reliable steady rfl timelyAll with ⟨_, tally⟩
  have same :=
    (Mirror.nursed operations factory).play (sifting, .begin state) actions
  refine ⟨same, ?_, ?_⟩
  · intro noneBelated
    rw [← offers]
    exact
      tally.received fun earlier event isPrefix started =>
        ⟨noneBelated earlier event isPrefix started,
          awake earlier event isPrefix started⟩
  · intro stopsAll received
    have all := received.length_eq.symm
    have arrived := tally.arrived (offers.symm ▸ all)
    exact arrived.imp fun later event hasArrived => hasArrived.2 stopsAll

section Memory

open Installation

/-- Where there is room for one child, it makes room for the next one. -/
theorem received_iff_never_belated_memory :
    let sifting := create defaultName byUser none (some 1)
    let events := [userEvent "a" 1000, userEvent "b" 1500, userEvent "a" 1500]
    let actions := events.map Action.append
    let seen :=
      play Installation.operations.withIdle.nursed
        (childFactory memoryChildren).nursed
        (sifting, .begin emptySite) actions
    let inTime :=
      Throughout Installation.operations.withIdle (childFactory memoryChildren)
        (fun later event => ¬ later.1.Belated event) (sifting, emptySite)
        actions
    (∀ event ∈ events, event.millis ≤ Text.maxWord) ∧
      Nest.IsSound HasDepth emptySite ∧
      (play Installation.operations.withIdle (childFactory memoryChildren)
            (sifting, emptySite)
            actions =
          plain Nursery.state seen ∧
        (inTime → Received byUser events seen.2) ∧
        (Installation.operations.withIdle.StopsChildren
              (Nest.IsSound HasDepth) (Nest.started? memoryStarted?) →
          Received byUser events seen.2 →
            inTime)) ∧
      Installation.operations.withIdle.StopsChildren (Nest.IsSound HasDepth)
        (Nest.started? memoryStarted?) ∧
      Received byUser events seen.2 ∧
      seen.2.given.map Prod.fst = [.made 0, .made 1, .made 2] := by
  intro sifting events actions seen inTime
  have timely : ∀ event ∈ events, event.millis ≤ Text.maxWord := by
    decide
  have hasDepth : Nest.IsSound HasDepth emptySite := Nat.zero_lt_one
  exact
    ⟨timely, hasDepth,
      received_iff_never_belated reliable_memory.withIdle hasDepth defaultName
        byUser none (some 1) events timely,
      stopsChildren_memory.withIdle, by unfold Received; decide +kernel,
      by decide +kernel⟩

/--
There is room for one child.  The child for the second event is made, and it goes
at once, since the event is earlier than the first one.  Nobody gets the event.
-/
theorem not_received_earlier_event :
    let sifting := create defaultName byUser none (some 1)
    let events := [userEvent "a" 1000, userEvent "b" 500]
    let seen :=
      play Installation.operations.withIdle.nursed
        (childFactory memoryChildren).nursed
        (sifting, .begin emptySite) (events.map Action.append)
    problem? (some byUser) true (some 1) = none ∧
      Installation.operations.withIdle.Reliable (childFactory memoryChildren).make
        (Nest.IsSound HasDepth) (Nest.started? memoryStarted?) ∧
      Nest.IsSound HasDepth emptySite ∧
      seen.2.given = [(.made 0, userEvent "a" 1000)] ∧
      ¬ Received byUser events seen.2 := by
  intro sifting events seen
  have given : seen.2.given = [(.made 0, userEvent "a" 1000)] := by
    decide +kernel
  refine ⟨rfl, reliable_memory.withIdle, Nat.zero_lt_one, given, ?_⟩
  intro received
  have length := received.length_eq
  rw [given] at length
  cases length

end Memory

/-! ## Courses with stops, where time does not run backwards -/

theorem maxComponents_pos
    {maxChildren : Option Nat}
    (timeout : Option Nat)
    (buildable : problem? (some discriminator) true maxChildren = none) :
    0 < (trackerSettings timeout maxChildren).maxComponents := by
  cases maxChildren with
  | none =>
      change 0 < Text.maxWord
      decide
  | some count =>
      cases count with
      | zero => cases buildable
      | succ count => exact Nat.succ_pos count

/-- No event is belated that is not earlier than those before. -/
theorem Steady.not_belated
    {event : Event}
    (steady :
      Steady sound started? discriminator settings actions situation)
    (room : 0 < settings.maxComponents)
    (latest : ∀ other ∈ appended actions, other.millis ≤ event.millis) :
    ¬ situation.1.Belated event := by
  rintro ⟨_, crowded, later⟩
  rw [steady.settings_eq] at crowded
  rcases List.exists_mem_of_length_pos (Nat.lt_of_lt_of_le room crowded) with
    ⟨entry, isLive⟩
  rcases steady.uses entry (List.mem_append_left _ isLive) with
    ⟨other, isAppended, used⟩
  have before := latest other isAppended
  have after := later entry isLive
  omega

theorem never_belated_of_ordered
    (reliable : operations.Reliable factory.make sound started?)
    (steady :
      Steady sound started? discriminator settings [] situation)
    (nothing : situation.2.given = [])
    (room : 0 < settings.maxComponents)
    (timely : ∀ event ∈ appended actions, event.millis ≤ Text.maxWord)
    (ordered :
      (appended actions).Pairwise fun earlier later =>
        earlier.millis ≤ later.millis) :
    Throughout operations factory (fun later event => ¬ later.1.Belated event)
      (plain Nursery.state situation) actions := by
  apply throughout_plain
  intro earlier event isPrefix _
  have front : appended earlier ++ [event] <+: appended actions := by
    have shorter :
        appended (earlier ++ [.append event]) <+: appended actions :=
      isPrefix.filterMap _
    rw [appended_concat] at shorter
    exact shorter
  have latest : ∀ other ∈ appended earlier, other.millis ≤ event.millis :=
    fun other inside =>
      (List.pairwise_append.mp (ordered.sublist front.sublist)).2.2 other inside
        event (List.mem_singleton_self _)
  rcases
      tally_play reliable steady nothing fun other inside =>
        timely other (front.subset (List.mem_append_left _ inside)) with
    ⟨steadyThere, _⟩
  exact steadyThere.not_belated room latest

/--
A sifting appender whose children are reliable is appended to, stopped and
started, and the times of the events never decrease.  It passes each event that
is appended while it is started on exactly once to a child for its value,
exactly if it never has a child for an event that is tracked but not started.
-/
theorem received_iff_never_dormant
    {state : σ}
    (reliable : operations.Reliable factory.make sound started?)
    (isSound : sound state)
    (name : String)
    (discriminator : Discriminator)
    (timeout maxChildren : Option Nat)
    (buildable : problem? (some discriminator) true maxChildren = none)
    (actions : List Action)
    (timely : ∀ event ∈ appended actions, event.millis ≤ Text.maxWord)
    (ordered :
      (appended actions).Pairwise fun earlier later =>
        earlier.millis ≤ later.millis) :
    let sifting := create name discriminator timeout maxChildren
    let seen :=
      play operations.nursed factory.nursed (sifting, .begin state) actions
    play operations factory (sifting, state) actions = plain Nursery.state seen ∧
      (Received discriminator
          (offered operations factory (sifting, state) actions) seen.2 ↔
        Throughout operations factory
          (fun later event => ¬ later.1.Dormant operations event later.2)
          (sifting, state) actions) := by
  intro sifting seen
  have steady :
      Steady sound started? discriminator (trackerSettings timeout maxChildren)
        [] (sifting, .begin state) :=
    steady_create isSound name discriminator timeout maxChildren
  have inTime :=
    never_belated_of_ordered reliable steady rfl
      (maxComponents_pos timeout buildable) timely ordered
  have offers :
      offered operations factory (sifting, state) actions =
        offered operations.nursed factory.nursed (sifting, .begin state)
          actions :=
    offered_nursed (sifting, .begin state)
  rcases tally_play reliable steady rfl timely with ⟨_, tally⟩
  have same :=
    (Mirror.nursed operations factory).play (sifting, .begin state) actions
  refine ⟨same, ?_⟩
  rw [offers]
  constructor
  · intro received
    exact
      (tally.arrived received.length_eq.symm).imp fun later event hasArrived =>
        hasArrived.1
  · intro awake
    exact
      tally.received fun earlier event isPrefix started =>
        ⟨inTime earlier event isPrefix started,
          awake earlier event isPrefix started⟩

section Memory

open Installation

/-- After a pause the old children are let go before their values come again. -/
theorem received_iff_never_dormant_memory :
    let sifting := create defaultName byUser none none
    let actions :=
      [.append (userEvent "a" 1000), .stop, .append (userEvent "a" 1500), .start,
        .append (userEvent "b" 2000), .append (userEvent "a" 2000)]
    let seen :=
      play Installation.operations.withIdle.nursed
        (childFactory memoryChildren).nursed
        (sifting, .begin emptySite) actions
    problem? (some byUser) true none = none ∧
      (∀ event ∈ appended actions, event.millis ≤ Text.maxWord) ∧
      ((appended actions).Pairwise fun earlier later =>
        earlier.millis ≤ later.millis) ∧
      Nest.IsSound HasDepth emptySite ∧
      (play Installation.operations.withIdle (childFactory memoryChildren)
            (sifting, emptySite)
            actions =
          plain Nursery.state seen ∧
        (Received byUser
            (offered Installation.operations.withIdle (childFactory memoryChildren)
              (sifting, emptySite) actions)
            seen.2 ↔
          Throughout Installation.operations.withIdle (childFactory memoryChildren)
            (fun later event =>
              ¬ later.1.Dormant Installation.operations.withIdle event later.2)
            (sifting, emptySite) actions)) ∧
      seen.2.given.map Prod.fst = [.made 0, .made 1, .made 2] := by
  intro sifting actions seen
  have timely : ∀ event ∈ appended actions, event.millis ≤ Text.maxWord := by
    decide
  have ordered :
      (appended actions).Pairwise fun earlier later =>
        earlier.millis ≤ later.millis := by
    decide
  have hasDepth : Nest.IsSound HasDepth emptySite := Nat.zero_lt_one
  exact
    ⟨rfl, timely, ordered, hasDepth,
      received_iff_never_dormant reliable_memory.withIdle hasDepth defaultName
        byUser none none rfl actions timely ordered,
      by decide +kernel⟩

/--
A sifting appender is stopped and started again.  The child for the event that
comes next is still tracked, but it was stopped.  Nobody gets the event.
-/
theorem not_received_restarted :
    let sifting := create defaultName byUser none none
    let actions :=
      [.append (userEvent "a" 1000), .stop, .start, .append (userEvent "a" 1001)]
    let seen :=
      play Installation.operations.withIdle.nursed
        (childFactory memoryChildren).nursed
        (sifting, .begin emptySite) actions
    problem? (some byUser) true none = none ∧
      Installation.operations.withIdle.Reliable (childFactory memoryChildren).make
        (Nest.IsSound HasDepth) (Nest.started? memoryStarted?) ∧
      Nest.IsSound HasDepth emptySite ∧
      ((appended actions).Pairwise fun earlier later =>
        earlier.millis ≤ later.millis) ∧
      offered Installation.operations.withIdle (childFactory memoryChildren)
          (sifting, emptySite) actions =
        [userEvent "a" 1000, userEvent "a" 1001] ∧
      seen.2.given = [(.made 0, userEvent "a" 1000)] ∧
      ¬ Received byUser
          (offered Installation.operations.withIdle (childFactory memoryChildren)
            (sifting, emptySite) actions)
          seen.2 := by
  intro sifting actions seen
  have offers :
      offered Installation.operations.withIdle (childFactory memoryChildren)
          (sifting, emptySite) actions =
        [userEvent "a" 1000, userEvent "a" 1001] := by
    decide +kernel
  have given : seen.2.given = [(.made 0, userEvent "a" 1000)] := by
    decide +kernel
  refine
    ⟨rfl, reliable_memory.withIdle, Nat.zero_lt_one, by decide, offers, given, ?_⟩
  intro received
  have length := received.length_eq
  rw [offers, given] at length
  cases length

end Memory

end LogPipeline.Sifting
