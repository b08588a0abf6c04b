import LogPipeline.Proofs.Tracker.Conservation
import Mathlib.Data.List.Chain
import Mathlib.Data.List.Induction

/-!
# The time between sweeps

A sweep takes effect unless another one did less than a second before, and then
it does what it would do if it was the first one.  A sweep that takes no effect
changes nothing.

The time from which on the next sweep takes effect is never later than the last
time there is.  So at that time a sweep takes effect however short a time ago
another one did, and there alone two sweeps can follow each other too closely.
-/

namespace LogPipeline

variable {σ α : Type}

namespace Tracker

variable {tracker : Tracker α} {now : Nat}

/-! ## Which sweeps take effect -/

/-- The tracker as if it was never swept. -/
def unswept (tracker : Tracker α) : Tracker α :=
  { tracker with lastSweep := none }

/-- The time of a use that is a sweep and takes effect. -/
def sweepTime? (tracker : Tracker α) : Use σ → Option Nat
  | .sweep now => if tracker.maySweep now then some now else none
  | _ => none

/-- The times of the sweeps that take effect among further uses, the first one first. -/
def sweepTimesFrom
    (keeper : Keeper σ α)
    (situation : Tracker α × σ) : List (Use σ) → List Nat
  | [] => []
  | oneUse :: rest =>
      (situation.1.sweepTime? oneUse).toList ++
        sweepTimesFrom keeper (use keeper situation oneUse) rest

/-- The times of the sweeps that take effect when a new tracker is used. -/
def sweepTimes
    (keeper : Keeper σ α)
    (settings : TrackerSettings)
    (state : σ)
    (uses : List (Use σ)) : List Nat :=
  sweepTimesFrom keeper (.empty settings, state) uses

theorem maySweep_iff :
    tracker.maySweep now = true ↔
      ∀ last ∈ tracker.lastSweep, last + 1000 ≤ now ∨ Text.maxWord ≤ now := by
  rw [maySweep]
  cases tracker.lastSweep with
  | none => simp
  | some last =>
      dsimp only
      rw [decide_eq_true_iff, sweepInterval]
      simp only [Option.mem_some_iff, forall_eq']
      omega

/-- A sweep that takes effect does what the first one would do. -/
theorem sweep_eq_unswept
    (keeper : Keeper σ α)
    (due : tracker.maySweep now = true)
    (state : σ) :
    sweep keeper tracker now state = sweep keeper tracker.unswept now state := by
  have first : tracker.unswept.maySweep now = true := rfl
  rw [sweep, sweep, if_pos due, if_pos first]
  rfl

theorem sweep_of_not_maySweep
    (keeper : Keeper σ α)
    (early : ¬ tracker.maySweep now = true)
    (state : σ) :
    sweep keeper tracker now state = (.ok (), tracker, state) := by
  rw [sweep, if_neg early]

/-! ## What a tracker remembers of sweeps -/

-- Nothing is assumed of the keeper here: letting go of a component may break off,
-- so what is said of steps for composed keepers does not apply.
section Remembered

variable (keeper : Keeper σ α) (tracker : Tracker α) (now : Nat) (state : σ)

theorem lastSweep_letGoLive (items : List (String × α)) :
    (letGoLive keeper items tracker state).2.1.lastSweep = tracker.lastSweep := by
  fun_induction letGoLive keeper items tracker state with
  | case1 => rfl
  | case2 _ _ _ _ _ _ _ ih => exact ih
  | case3 => rfl

theorem lastSweep_letGoLingering (items : List (String × α)) :
    (letGoLingering keeper items tracker state).2.1.lastSweep = tracker.lastSweep := by
  fun_induction letGoLingering keeper items tracker state with
  | case1 => rfl
  | case2 _ _ _ _ _ _ _ ih => exact ih
  | case3 => rfl

theorem lastSweep_evict :
    (evict keeper tracker state).2.1.lastSweep = tracker.lastSweep := by
  rw [evict]
  split
  · exact lastSweep_letGoLive keeper tracker state _
  · rfl

theorem lastSweep_evictAll (bound : Nat) :
    (evictAll keeper bound tracker state).2.1.lastSweep = tracker.lastSweep := by
  induction bound generalizing tracker state with
  | zero => rfl
  | succ bound ih =>
      have once := lastSweep_evict keeper tracker state
      rw [evictAll]
      split
      next evicts =>
        rw [evicts] at once
        rw [ih, once]
      next => exact once

theorem lastSweep_letGoStale :
    (letGoStale keeper tracker now state).2.1.lastSweep = tracker.lastSweep := by
  rw [letGoStale]
  split
  · rfl
  · exact lastSweep_letGoLive keeper tracker state _

/-- A sweep that takes effect is remembered, also if it breaks off. -/
theorem lastSweep_sweep :
    (sweep keeper tracker now state).2.1.lastSweep =
      if tracker.maySweep now then some now else tracker.lastSweep := by
  rw [sweep]
  split
  · have evicted :=
      lastSweep_evictAll keeper (tracker.noteSweep now) state tracker.live.length
    split
    next broken =>
      rw [broken] at evicted
      exact evicted
    next roomy between evicts =>
      rw [evicts] at evicted
      have stale := lastSweep_letGoStale keeper roomy now between
      split
      next broken =>
        rw [broken] at stale
        exact stale.trans evicted
      next fresh onward lets =>
        rw [lets] at stale
        rw [lastSweep_letGoLingering]
        exact stale.trans evicted
  · rfl

theorem lastSweep_touch?
    {key : String}
    {component : α}
    {later : Tracker α}
    (touched : tracker.touch? key now = some (component, later)) :
    later.lastSweep = tracker.lastSweep := by
  rw [touch?] at touched
  split at touched
  · cases touched
    rfl
  · cases touched
    rfl
  · cases touched

theorem lastSweep_create (key : String) :
    (create keeper tracker key now state).2.1.lastSweep = tracker.lastSweep := by
  rw [create]
  split
  · rfl
  next component next built =>
    have evicted := lastSweep_evict keeper (tracker.insert key component now) next
    split
    next evicts =>
      rw [evicts] at evicted
      exact evicted
    next evicts =>
      rw [evicts] at evicted
      exact evicted

theorem lastSweep_obtain (key : String) :
    (obtain keeper tracker key now state).2.1.lastSweep = tracker.lastSweep := by
  rw [obtain]
  split
  next touched => exact lastSweep_touch? tracker.nextTurn now touched
  next => exact lastSweep_create keeper tracker.nextTurn now state key

theorem lastSweep_endLife (key : String) :
    (tracker.endLife key).lastSweep = tracker.lastSweep := by
  rw [endLife]
  split <;> rfl

/-- Only sweeps that take effect are remembered. -/
theorem lastSweep_use (situation : Tracker α × σ) (oneUse : Use σ) :
    (use keeper situation oneUse).1.lastSweep =
      (situation.1.sweepTime? oneUse).or situation.1.lastSweep := by
  cases oneUse with
  | obtain key now => exact lastSweep_obtain keeper situation.1 now situation.2 key
  | find key => rfl
  | endLife key => exact lastSweep_endLife situation.1 key
  | sweep now =>
      rw [use, lastSweep_sweep, sweepTime?]
      split <;> rfl
  | stir change => rfl

end Remembered

/-! ## Runs -/

section Runs

variable (keeper : Keeper σ α) (settings : TrackerSettings) (state : σ)

theorem sweepTimesFrom_append
    (situation : Tracker α × σ)
    (front back : List (Use σ)) :
    sweepTimesFrom keeper situation (front ++ back) =
      sweepTimesFrom keeper situation front ++
        sweepTimesFrom keeper (front.foldl (use keeper) situation) back := by
  induction front generalizing situation with
  | nil => rfl
  | cons oneUse rest ih =>
      rw [List.cons_append, sweepTimesFrom, ih, sweepTimesFrom, List.append_assoc]
      rfl

theorem sweepTimes_concat (uses : List (Use σ)) (oneUse : Use σ) :
    sweepTimes keeper settings state (uses ++ [oneUse]) =
      sweepTimes keeper settings state uses ++
        ((run keeper settings state uses).1.sweepTime? oneUse).toList := by
  rw [sweepTimes, sweepTimesFrom_append, sweepTimesFrom, sweepTimesFrom, List.append_nil]
  rfl

/-- The tracker remembers the last sweep that took effect. -/
theorem lastSweep_run (uses : List (Use σ)) :
    (run keeper settings state uses).1.lastSweep =
      (sweepTimes keeper settings state uses).getLast? := by
  induction uses using List.reverseRecOn with
  | nil => rfl
  | append_singleton uses oneUse ih =>
      have step :
          run keeper settings state (uses ++ [oneUse]) =
            use keeper (run keeper settings state uses) oneUse := by
        simp [run]
      rw [step, lastSweep_use, sweepTimes_concat, List.getLast?_append, ih]
      cases (run keeper settings state uses).1.sweepTime? oneUse <;> rfl

/-- The latest sweep is far enough back for another one, or time is at its end. -/
def IsDue (times : List Nat) (now : Nat) : Prop :=
  ∀ last ∈ times.getLast?, last + 1000 ≤ now ∨ Text.maxWord ≤ now

theorem maySweep_run_iff (uses : List (Use σ)) :
    (run keeper settings state uses).1.maySweep now = true ↔
      IsDue (sweepTimes keeper settings state uses) now := by
  rw [maySweep_iff, lastSweep_run, IsDue]

/-- Before the last time there is, sweeps that take effect are a second apart. -/
theorem isChain_sweepTimes (uses : List (Use σ)) :
    (sweepTimes keeper settings state uses).IsChain fun earlier later =>
      earlier + 1000 ≤ later ∨ Text.maxWord ≤ later := by
  induction uses using List.reverseRecOn with
  | nil => exact .nil
  | append_singleton uses oneUse ih =>
      rw [sweepTimes_concat]
      refine ih.append ?_ ?_
      · cases (run keeper settings state uses).1.sweepTime? oneUse with
        | none => exact .nil
        | some time => exact .singleton time
      · intro last isLast time isFirst
        cases oneUse with
        | sweep now =>
            rw [sweepTime?] at isFirst
            split at isFirst
            next due =>
              cases isFirst
              exact (maySweep_run_iff keeper settings state uses).mp due last isLast
            next => cases isFirst
        | _ => cases isFirst

/-! ## The rate of sweeps -/

/-- What a sweep does behind some uses: it takes effect like the first one, or it changes nothing. -/
inductive SweepCall (before : List (Use σ)) (now : Nat) : Prop where
  | effective
      (due : IsDue (sweepTimes keeper settings state before) now)
      (noted :
        sweepTimes keeper settings state (before ++ [.sweep now]) =
          sweepTimes keeper settings state before ++ [now])
      (sweeps :
        sweep keeper (run keeper settings state before).1 now
            (run keeper settings state before).2 =
          sweep keeper (run keeper settings state before).1.unswept now
            (run keeper settings state before).2)
  | early
      (notDue : ¬ IsDue (sweepTimes keeper settings state before) now)
      (noted :
        sweepTimes keeper settings state (before ++ [.sweep now]) =
          sweepTimes keeper settings state before)
      (rests :
        sweep keeper (run keeper settings state before).1 now
            (run keeper settings state before).2 =
          (.ok (), run keeper settings state before))

/--
Sweeps that take effect are at least a second apart, and none fails to take
effect that comes a second or more after the latest one that did.
-/
structure RateLimited (uses : List (Use σ)) : Prop where
  apart :
    (sweepTimes keeper settings state uses).IsChain fun earlier later =>
      earlier + 1000 ≤ later
  prompt :
    ∀ before now,
      before ++ [.sweep now] <+: uses →
        (∀ last ∈ (sweepTimes keeper settings state before).getLast?,
          last + 1000 ≤ now) →
          sweepTimes keeper settings state (before ++ [.sweep now]) =
            sweepTimes keeper settings state before ++ [now]

theorem sweepCall (before : List (Use σ)) (now : Nat) :
    SweepCall keeper settings state before now := by
  have noted := sweepTimes_concat keeper settings state before (.sweep now)
  by_cases due : (run keeper settings state before).1.maySweep now = true
  · rw [sweepTime?, if_pos due] at noted
    exact
      .effective ((maySweep_run_iff keeper settings state before).mp due) noted
        (sweep_eq_unswept keeper due _)
  · rw [sweepTime?, if_neg due, Option.toList_none, List.append_nil] at noted
    exact
      .early (mt (maySweep_run_iff keeper settings state before).mpr due) noted
        (sweep_of_not_maySweep keeper due _)

/--
Whatever is done with a tracker at whatever times, its sweeps are rate limited
exactly if no sweep at the last time there is takes effect within a second of
the one that did so before it.  A sweep that is not due changes nothing, and any
other does what the first one would do.
-/
theorem rateLimited_iff (uses : List (Use σ)) :
    (RateLimited keeper settings state uses ↔
        (sweepTimes keeper settings state uses).IsChain fun earlier later =>
          Text.maxWord ≤ later → earlier + 1000 ≤ later) ∧
      ∀ before now, SweepCall keeper settings state before now := by
  refine ⟨⟨fun limited => limited.apart.imp fun _ _ apart _ => apart, ?_⟩,
    sweepCall keeper settings state⟩
  intro apartAtEnd
  constructor
  · rw [List.isChain_iff_forall_rel_of_append_cons_cons] at apartAtEnd ⊢
    have always :=
      List.isChain_iff_forall_rel_of_append_cons_cons.mp
        (isChain_sweepTimes keeper settings state uses)
    intro earlier later front back split
    exact (always split).elim id (apartAtEnd split)
  · intro before now _ late
    cases sweepCall keeper settings state before now with
    | effective _ noted _ => exact noted
    | early notDue _ _ => exact absurd (fun last isLast => Or.inl (late last isLast)) notDue

end Runs

/-- Sweeps at the last time there is, and a label that is obtained between them. -/
def latestUses : List (Use Labels) :=
  [.sweep Text.maxWord, .obtain "a" 0, .sweep Text.maxWord]

/-- Two sweeps at the same time take effect, if that is the last time there is. -/
theorem not_rateLimited_maxWord :
    ¬ RateLimited Labels.keeper .standard crowdedLabels latestUses ∧
      sweepTimes Labels.keeper .standard crowdedLabels latestUses =
        [Text.maxWord, Text.maxWord] ∧
      (run Labels.keeper .standard crowdedLabels latestUses).1.keys = [] := by
  have times :
      sweepTimes Labels.keeper .standard crowdedLabels latestUses =
        [Text.maxWord, Text.maxWord] := by
    decide
  refine ⟨fun limited => ?_, times, by decide⟩
  have apart := limited.apart
  rw [times] at apart
  exact absurd apart (by decide)

end Tracker

end LogPipeline
