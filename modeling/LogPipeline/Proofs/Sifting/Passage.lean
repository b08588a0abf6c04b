import LogPipeline.Proofs.Sifting.Family

/-!
# How events pass sifting appenders

A sifting appender finds or makes the child for the value of an event, ends its
life if the event says so, sweeps, and gives the child the event if it is
started.  So an event reaches its child with two exceptions: the child was
tracked but not started, or it was made so late that it had to go at once.

Stopping a sifting appender stops its children; they stay tracked.
-/

namespace LogPipeline

variable {σ α : Type}

namespace Sifting

/-- The child for an event is not there yet, and it would be the first to go. -/
def Belated (sifting : Sifting α) (event : Event) : Prop :=
  sifting.tracker.find? (sifting.discriminator.value event) = none ∧
    sifting.tracker.Outrun event.millis

/-- The child for an event is there, but it is not started. -/
def Dormant
    (operations : Operations σ α)
    (sifting : Sifting α)
    (event : Event)
    (state : σ) : Prop :=
  ∃ child,
    sifting.tracker.find? (sifting.discriminator.value event) = some child ∧
      operations.isStarted child state = .ok false

open Nursery

variable {operations : Operations σ α} {factory : ChildFactory σ α}
variable {sound : σ → Prop} {started? : α → σ → Option Bool}
variable {sifting : Sifting α} {event : Event}
variable {nursery next after : Nursery σ α} {child : α}

/-- All children that are tracked are started. -/
def AllStarted
    (started? : α → σ → Option Bool)
    (sifting : Sifting α)
    (state : σ) : Prop :=
  ∀ item ∈ Tracker.held sifting.tracker.entries,
    started? item.2 state = some true

/-- Whether the child for an event is started when the event is given to it. -/
inductive Reaches
    (operations : Operations σ α)
    (sound : σ → Prop)
    (started? : α → σ → Option Bool)
    (sifting : Sifting α)
    (event : Event)
    (state : σ) :
    Bool → Prop where
  | reaches
      (inTime : ¬ sifting.Belated event)
      (awake : ¬ sifting.Dormant operations event state) :
      Reaches operations sound started? sifting event state true
  | dormant (dormant : sifting.Dormant operations event state) :
      Reaches operations sound started? sifting event state false
  | belated
      {reached : Bool}
      (belated : sifting.Belated event)
      (stops :
        operations.StopsChildren sound started? → reached = false) :
      Reaches operations sound started? sifting event state reached

/-- What an event leaves when it has passed. -/
structure Passage
    (operations : Operations σ α)
    (sound : σ → Prop)
    (started? : α → σ → Option Bool)
    (sifting : Sifting α)
    (event : Event)
    (nursery : Nursery σ α)
    (child : α)
    (reached : Bool)
    (later : Sifting α)
    (after : Nursery σ α) : Prop where
  rest : later = { sifting with tracker := later.tracker }
  settings : later.tracker.settings = sifting.tracker.settings
  fits : ¬ later.tracker.isOverfull = true
  family : Family sound started? later.tracker after
  made : (sifting.discriminator.value event, child) ∈ after.made
  kept : nursery.made ⊆ after.made
  given_eq :
    after.given = nursery.given ++ if reached then [(child, event)] else []
  reaches : Reaches operations sound started? sifting event nursery.state reached
  uses :
    ∀ entry ∈ later.tracker.entries,
      entry ∈ sifting.tracker.entries ∨ entry.2.used = event.millis
  allStarted :
    AllStarted started? sifting nursery.state →
      AllStarted started? later after.state

/-! ## The steps of an event -/

theorem exists_pass
    {started : Bool}
    (reliable : operations.Reliable factory.make sound started?)
    (event : Event)
    (isSound : sound nursery.state)
    (isStarted : started? child nursery.state = some started) :
    ∃ after,
      pass operations.nursed child event nursery = (.done (), after) ∧
        sound after.state ∧
        after.made = nursery.made ∧
        after.given =
          nursery.given ++ (if started then [(child, event)] else []) ∧
        ∀ other, started? other after.state = started? other nursery.state := by
  have asks :
      operations.nursed.isStarted child nursery = .ok started :=
    reliable.isStarted isStarted
  rw [pass, asks]
  cases started with
  | false =>
      exact
        ⟨nursery, rfl, isSound, rfl, (List.append_nil _).symm, fun _ => rfl⟩
  | true =>
      rcases reliable.append event isSound isStarted with
        ⟨state, appends, stillSound, unchanged⟩
      have gives :
          operations.nursed.append child event nursery =
            ((operations.append child event nursery.state).1,
              ⟨(operations.append child event nursery.state).2, nursery.made,
                nursery.given ++ [(child, event)]⟩) :=
        rfl
      rw [appends] at gives
      exact ⟨_, gives, stillSound, rfl, rfl, unchanged⟩

/-- What is left before a sweep: the life of the child may have ended. -/
theorem exists_ended
    {tracker later : Tracker α}
    {value : String}
    {now : Nat}
    (provided :
      Provided sound started? tracker value now nursery child later next)
    (fits : ¬ later.isOverfull = true)
    (isFinal : Bool) :
    ∃ ended : Tracker α,
      (if isFinal = true then later.endLife value else later) = ended ∧
        ended.entries.Perm later.entries ∧
        ¬ ended.isOverfull = true ∧
        Provided sound started? tracker value now nursery child ended next := by
  cases isFinal with
  | false => exact ⟨later, rfl, .refl _, fits, provided⟩
  | true =>
      have perm : (later.endLife value).entries.Perm later.entries :=
        Tracker.entries_endLife_perm provided.family.distinct
      refine ⟨later.endLife value, rfl, perm, ?_, ?_⟩
      · have fewer : (later.endLife value).live.Sublist later.live :=
          Tracker.live_endLife_sublist
        have shorter := fewer.length_le
        rw [Tracker.isOverfull, decide_eq_true_iff] at fits ⊢
        rw [Tracker.settings_endLife]
        omega
      · exact
          provided.calm (provided.family.reorder perm Tracker.turn_endLife)
            (.refl _ next) perm.subset Tracker.settings_endLife

/--
The sweep spares the child for the event if it is started; if it is not, then it
is not started by the sweep either.
-/
theorem exists_sweep
    {tracker later : Tracker α}
    {value : String}
    {now : Nat}
    (reliable : operations.Reliable factory.make sound started?)
    (provided :
      Provided sound started? tracker value now nursery child later next)
    (fits : ¬ later.isOverfull = true)
    (timely : now ≤ Text.maxWord) :
    ∃ last after,
      later.sweep (factory.nurse operations) now next = (.ok (), last, after) ∧
        ¬ last.isOverfull = true ∧
        last.entries ⊆ later.entries ∧
        Provided sound started? tracker value now nursery child last after ∧
        (started? child next.state = some false →
          started? child after.state = some false) ∧
        ((value, child) ∈ Tracker.held later.entries →
          started? child next.state = some true →
            started? child after.state = some true) := by
  have inUse
      {entry : String × Entry α}
      (time : Nat)
      (inside : entry ∈ later.entries)
      (own : entry.1 = value) :
      ¬ entry.2.unusedFor time now = true := by
    rw [Entry.unusedFor_iff timely, provided.recent entry inside own]
    omega
  -- A started child that was just used is neither too old nor stale, so what the
  -- sweep lets go has another key.
  rcases
      provided.family.sweep reliable
        (fun key => key = value → started? child next.state = some false) now
        fits
        (by
          intro entry isLive reason own
          have inside := List.mem_append_left later.lingering isLive
          rcases reason with timedOut | isStopped
          · exact absurd timedOut (inUse _ inside own)
          · have isChild := provided.own _ (Tracker.mem_held inside) own
            exact isChild ▸ isStopped)
        (by
          intro entry lingers old own
          exact absurd old (inUse _ (List.mem_append_right _ lingers) own)) with
    ⟨last, after, swept, family, calmed, fewer, spared, settings, stillFits⟩
  refine
    ⟨last, after, swept, stillFits, fewer,
      provided.calm family calmed fewer settings, ?_, ?_⟩
  · intro isStopped
    rcases calmed.stopped child with stopped | unchanged
    · exact stopped
    · exact unchanged.trans isStopped
  · intro tracked isStarted
    rcases Tracker.exists_of_mem_held tracked with ⟨entry, inside, rfl⟩
    have remains : (value, entry) ∈ last.entries := by
      apply spared _ inside
      intro lets
      rw [lets rfl] at isStarted
      cases isStarted
    exact (calmed.remaining _ (Tracker.mem_held remains)).trans isStarted

/-! ## The passage of an event -/

/-- Whether an event reaches its child is known from what was there before. -/
theorem exists_reaches
    {later last : Tracker α}
    (reliable : operations.Reliable factory.make sound started?)
    (family : Family sound started? sifting.tracker nursery)
    (provision :
      Provision operations sound started? sifting.tracker
        (sifting.discriminator.value event) event.millis nursery child later
        next)
    (made :
      Provided sound started? sifting.tracker
        (sifting.discriminator.value event) event.millis nursery child last
        after)
    (fewer : last.entries ⊆ later.entries)
    (staysStopped :
      started? child next.state = some false →
        started? child after.state = some false)
    (staysStarted :
      (sifting.discriminator.value event, child) ∈
          Tracker.held later.entries →
        started? child next.state = some true →
          started? child after.state = some true) :
    ∃ reached,
      started? child after.state = some reached ∧
        Reaches operations sound started? sifting event nursery.state reached ∧
        ((sifting.discriminator.value event, child) ∈
            Tracker.held last.entries →
          AllStarted started? sifting nursery.state →
            reached = true) := by
  cases provision with
  | found found tracked unchanged =>
      have inTracker := Tracker.mem_held_of_find? found
      have known := family.known _ (family.ours inTracker)
      rcases Option.isSome_iff_exists.mp known with ⟨started, isStarted⟩
      cases started with
      | true =>
          refine
            ⟨true, staysStarted tracked (unchanged.trans isStarted),
              .reaches ?_ ?_, fun _ _ => rfl⟩
          · rintro ⟨missing, _⟩
            rw [found] at missing
            cases missing
          · rintro ⟨other, isOther, isStopped⟩
            rw [found] at isOther
            cases isOther
            rw [reliable.isStarted isStarted] at isStopped
            cases isStopped
      | false =>
          refine
            ⟨false, staysStopped (unchanged.trans isStarted),
              .dormant ⟨child, found, reliable.isStarted isStarted⟩, ?_⟩
          intro _ allStarted
          have impossible := allStarted _ inTracker
          rw [isStarted] at impossible
          cases impossible
  | stays missing inTime tracked isStarted =>
      refine
        ⟨true, staysStarted tracked isStarted,
          .reaches (fun belated => inTime belated.2) ?_, fun _ _ => rfl⟩
      rintro ⟨other, isOther, _⟩
      rw [missing] at isOther
      cases isOther
  | goes missing outrun absent stops =>
      have known := made.family.known _ made.made
      rcases Option.isSome_iff_exists.mp known with ⟨reached, isReached⟩
      refine
        ⟨reached, isReached, .belated ⟨missing, outrun⟩ ?_, ?_⟩
      · intro stopsAll
        rw [staysStopped (stops stopsAll)] at isReached
        cases isReached
        rfl
      · intro tracked _
        rcases Tracker.exists_of_mem_held tracked with ⟨entry, inside, _⟩
        exact absurd (List.mem_map_of_mem (fewer inside)) absent

/-- Each event passes, and it is known whether it reaches its child. -/
theorem exists_append
    (family : Family sound started? sifting.tracker nursery)
    (reliable : operations.Reliable factory.make sound started?)
    (fits : ¬ sifting.tracker.isOverfull = true)
    (isStarted : sifting.started = true)
    (timely : event.millis ≤ Text.maxWord) :
    ∃ child reached later after,
      sifting.append operations.nursed factory.nursed event nursery =
          (.done (), later, after) ∧
        Passage operations sound started? sifting event nursery child reached
          later after := by
  rcases
      family.obtain reliable fits (sifting.discriminator.value event)
        event.millis with
    ⟨child, found, between, obtains, roomy, provided, provision⟩
  rcases exists_ended provided roomy event.isFinal with
    ⟨out, isOut, perm, outFits, outProvided⟩
  rcases exists_sweep reliable outProvided outFits timely with
    ⟨tracker, next, swept, lastFits, fewer, lastProvided, staysStopped,
      staysStarted⟩
  have heldPerm := perm.map fun entry => (entry.1, entry.2.component)
  rcases
      exists_reaches reliable family provision lastProvided
        (List.Subset.trans fewer perm.subset) staysStopped
        (fun tracked => staysStarted (heldPerm.symm.subset tracked)) with
    ⟨reached, isReached, reaches, own⟩
  rcases exists_pass reliable event lastProvided.family.sound isReached with
    ⟨after, passes, isSound, made, given, unchanged⟩
  refine ⟨child, reached, { sifting with tracker }, after, ?_, ?_⟩
  · rw [append, if_pos isStarted]
    dsimp only
    rw [obtains]
    dsimp only
    rw [isOut, swept]
    dsimp only
    rw [passes]
  · exact
      { rest := rfl
        settings := lastProvided.settings
        fits := lastFits
        family :=
          lastProvided.family.congr isSound made fun other known =>
            (unchanged other).symm ▸ known
        made := made ▸ lastProvided.made
        kept := made ▸ lastProvided.kept
        given_eq := by rw [given, lastProvided.given_eq]
        reaches := reaches
        uses := by
          intro entry inside
          by_cases isOwn : entry.1 = sifting.discriminator.value event
          · exact Or.inr (lastProvided.recent entry inside isOwn)
          · exact Or.inl (lastProvided.others entry inside isOwn).1
        allStarted := by
          intro allStarted item inside
          rw [unchanged]
          rcases List.mem_map.mp inside with ⟨entry, tracked, rfl⟩
          by_cases isOwn : entry.1 = sifting.discriminator.value event
          · have isChild := lastProvided.own _ inside isOwn
            have inHeld :
                (sifting.discriminator.value event, child) ∈
                  Tracker.held tracker.entries := by
              rw [← isOwn, ← isChild]
              exact inside
            dsimp only at isChild ⊢
            rw [isChild, isReached, own inHeld allStarted]
          · rcases lastProvided.others entry tracked isOwn with ⟨old, same⟩
            rw [same]
            exact allStarted _ (Tracker.mem_held old) }

/-! ## Stopping -/

theorem exists_stopChildren
    (reliable : operations.Reliable factory.make sound started?)
    (children : List α)
    (isSound : sound nursery.state)
    (known :
      ∀ child ∈ children, (started? child nursery.state).isSome = true) :
    ∃ after,
      stopChildren operations.nursed children nursery =
          (.ok (), nursery.enter after) ∧
        sound after ∧
        ∀ child,
          (started? child nursery.state).isSome = true →
            (started? child after).isSome = true := by
  induction children generalizing nursery with
  | nil => exact ⟨nursery.state, rfl, isSound, fun _ known => known⟩
  | cons child rest ih =>
      rcases reliable.exists_letGo "" isSound (known child List.mem_cons_self)
        with ⟨next, _, stops, stillSound, stopped, others⟩
      have stays
          (other : α)
          (isKnown : (started? other nursery.state).isSome = true) :
          (started? other next).isSome = true := by
        by_cases same : other = child
        · subst other
          rcases stopped with isStopped | unchanged
          · exact Option.isSome_iff_exists.mpr ⟨false, isStopped⟩
          · exact unchanged ▸ isKnown
        · exact (others other same).symm ▸ isKnown
      have restKnown :
          ∀ other ∈ rest,
            (started? other (nursery.enter next).state).isSome = true :=
        fun other inside =>
          stays other (known other (List.mem_cons_of_mem _ inside))
      rcases ih stillSound restKnown with
        ⟨after, stopsRest, atLast, staysKnown⟩
      refine ⟨after, ?_, atLast, fun other isKnown =>
        staysKnown other (stays other isKnown)⟩
      have stopsFirst :
          operations.nursed.stop child nursery =
            ((operations.stop child nursery.state).1,
              nursery.enter (operations.stop child nursery.state).2) :=
        rfl
      rw [stops] at stopsFirst
      rw [stopChildren, stopsFirst]
      exact stopsRest

theorem exists_stop
    (family : Family sound started? sifting.tracker nursery)
    (reliable : operations.Reliable factory.make sound started?) :
    ∃ after,
      sifting.stop operations.nursed nursery =
          (.ok (), { sifting with started := false }, nursery.enter after) ∧
        Family sound started? sifting.tracker (nursery.enter after) := by
  have known :
      ∀ child ∈ sifting.tracker.components,
        (started? child nursery.state).isSome = true := by
    intro child inside
    rcases List.mem_map.mp inside with ⟨entry, tracked, rfl⟩
    exact family.known_of_entry tracked
  rcases
      exists_stopChildren reliable sifting.tracker.components family.sound known
    with ⟨after, stops, isSound, stays⟩
  refine ⟨after, ?_, family.congr isSound rfl stays⟩
  rw [stop, stops]

end Sifting

end LogPipeline
