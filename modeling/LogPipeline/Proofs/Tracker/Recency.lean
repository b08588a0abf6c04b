import LogPipeline.Proofs.Tracker.Conservation
import Mathlib.Data.List.Induction

/-!
# Components that were used recently

An entry remembers the most recent call by which its component was obtained: its
turn is the place of that call among all calls, and its time the time of that
call.  If time does not run backwards, of two entries the one with the earlier
call is the older one, also where the times are the same.

A tracker never has more live components than it may have, so a sweep never
finds one too many.  Only a component that was just built can be one too many,
and then one is disposed of.  If time does not run backwards and there may be any
live components at all, that is the one whose most recent call is the earliest,
and what was just obtained can be found afterwards.
-/

namespace LogPipeline

variable {σ α : Type}

namespace Tracker

/-! ## Calls -/

/-- The calls by which components were obtained, with the key and the time of each. -/
def obtained (uses : List (Use σ)) : List (String × Nat) :=
  uses.filterMap fun
    | .obtain key now => some (key, now)
    | _ => none

/-- How many calls there were after the most recent one for a key. -/
def callsSince (key : String) (calls : List (String × Nat)) : Nat :=
  (calls.map Prod.fst).reverse.idxOf key

/-- Time does not run backwards from one call to the next. -/
def Chronological (calls : List (String × Nat)) : Prop :=
  calls.Pairwise fun earlier later => earlier.2 ≤ later.2

theorem obtained_append (front back : List (Use σ)) :
    obtained (front ++ back) = obtained front ++ obtained back :=
  List.filterMap_append

/-- The calls are the same where a chronicle is kept. -/
theorem obtained_map_chronicled (uses : List (Use σ)) :
    obtained (uses.map (Use.chronicled (α := α))) = obtained uses := by
  rw [obtained, obtained, List.filterMap_map]
  apply List.filterMap_congr
  intro oneUse member
  cases oneUse <;> rfl

variable {calls : List (String × Nat)} {key : String} {now : Nat}

theorem callsSince_concat_self :
    callsSince key (calls ++ [(key, now)]) = 0 := by
  simp [callsSince]

theorem callsSince_concat_of_ne
    {other : String}
    (differs : other ≠ key) :
    callsSince other (calls ++ [(key, now)]) = callsSince other calls + 1 := by
  simp [callsSince, List.idxOf_cons_ne _ differs.symm]

/-- An entry tells the place and the time of the most recent call for its key. -/
structure Remembers
    (calls : List (String × Nat))
    (entry : String × Entry α) : Prop where
  call :
    ∃ place,
      entry.2.turn = place + 1 ∧ calls[place]? = some (entry.1, entry.2.used)
  latest : entry.2.turn + callsSince entry.1 calls = calls.length

namespace Remembers

variable {entry other : String × Entry α}

/-- A call for another key does not matter. -/
theorem concat
    (remembers : Remembers calls entry)
    (differs : entry.1 ≠ key) :
    Remembers (calls ++ [(key, now)]) entry := by
  constructor
  · rcases remembers.call with ⟨place, turn, found⟩
    refine ⟨place, turn, ?_⟩
    have inside := (List.getElem?_eq_some_iff.mp found).1
    rw [List.getElem?_append_left inside, found]
  · rw [callsSince_concat_of_ne differs, List.length_append,
      List.length_singleton, ← remembers.latest, Nat.add_assoc]

/-- The last call is the most recent one for its key. -/
theorem of_concat
    (own : entry.1 = key)
    (used : entry.2.used = now)
    (turn : entry.2.turn = calls.length + 1) :
    Remembers (calls ++ [(key, now)]) entry := by
  constructor
  · refine ⟨calls.length, turn, ?_⟩
    simp [own, used]
  · rw [own, callsSince_concat_self, turn]
    simp

theorem turn_le (remembers : Remembers calls entry) :
    entry.2.turn ≤ calls.length := by
  have latest := remembers.latest
  omega

/-- Two keys do not share their most recent call. -/
theorem key_eq
    (remembers : Remembers calls entry)
    (others : Remembers calls other)
    (same : entry.2.turn = other.2.turn) :
    entry.1 = other.1 := by
  rcases remembers.call with ⟨place, turn, found⟩
  rcases others.call with ⟨otherPlace, otherTurn, otherFound⟩
  have places : place = otherPlace := by
    omega
  rw [places, otherFound] at found
  exact (Prod.mk.inj (Option.some.inj found)).1.symm

theorem used_le
    (chronological : Chronological calls)
    (remembers : Remembers calls entry)
    (others : Remembers calls other)
    (earlier : entry.2.turn < other.2.turn) :
    entry.2.used ≤ other.2.used := by
  rcases remembers.call with ⟨place, turn, found⟩
  rcases others.call with ⟨otherPlace, otherTurn, otherFound⟩
  rcases List.getElem?_eq_some_iff.mp found with ⟨inside, call⟩
  rcases List.getElem?_eq_some_iff.mp otherFound with ⟨otherInside, otherCall⟩
  have before : place < otherPlace := by
    omega
  have ordered :=
    List.pairwise_iff_getElem.mp chronological place otherPlace inside
      otherInside before
  rw [call, otherCall] at ordered
  exact ordered

end Remembers

/-- If time does not run backwards, the oldest entry is the one with the earliest call. -/
theorem turn_le_of_oldestOf
    {entries : List (String × Entry α)}
    {oldest other : String × Entry α}
    (chronological : Chronological calls)
    (remember : ∀ entry ∈ entries, Remembers calls entry)
    (found : oldestOf entries = some oldest)
    (member : other ∈ entries) :
    oldest.2.turn ≤ other.2.turn := by
  by_contra later
  have earlier : other.2.turn < oldest.2.turn := by
    omega
  have used :=
    (remember other member).used_le chronological
      (remember oldest (mem_of_oldestOf found)) earlier
  have notOlder := not_olderThan_oldestOf found member
  rw [Entry.olderThan_iff] at notOlder
  omega

/-! ## What all uses keep -/

/-- What a tracker knows of the calls so far, and that it keeps within its capacity. -/
structure Recent
    (settings : TrackerSettings)
    (calls : List (String × Nat))
    (tracker : Tracker α) : Prop where
  settings_eq : tracker.settings = settings
  distinct : tracker.keys.Nodup
  fits : tracker.live.length ≤ settings.maxComponents
  turn_eq : tracker.turn = calls.length
  remembers : ∀ entry ∈ tracker.entries, Remembers calls entry

namespace Recent

variable {settings : TrackerSettings} {tracker later : Tracker α}
variable {keeper : Keeper σ α} {state after : σ}

theorem empty (settings : TrackerSettings) :
    Recent settings [] (.empty settings : Tracker α) := by
  constructor
  · rfl
  · exact List.nodup_nil
  · exact Nat.zero_le _
  · rfl
  · exact List.forall_mem_nil _

theorem not_isOverfull (recent : Recent settings calls tracker) :
    ¬ tracker.isOverfull = true := by
  rw [isOverfull, decide_eq_true_iff, recent.settings_eq]
  exact Nat.not_lt.mpr recent.fits

theorem letsGo
    {lets : String → Prop}
    (recent : Recent settings calls tracker)
    (letsGo : LetsGo keeper lets tracker state later after) :
    Recent settings calls later where
  settings_eq := letsGo.settings.trans recent.settings_eq
  distinct := letsGo.distinct recent.distinct
  fits := Nat.le_trans letsGo.sublist.1.length_le recent.fits
  turn_eq := letsGo.turn.trans recent.turn_eq
  remembers entry member :=
    recent.remembers entry (letsGo.entries_sublist.subset member)

/-- Using a component makes the call the most recent one for its key. -/
theorem touch
    {component : α}
    (recent : Recent settings calls tracker)
    (step : TouchStep tracker.nextTurn key now component later) :
    Recent settings (calls ++ [(key, now)]) later where
  settings_eq := step.settings.trans recent.settings_eq
  distinct := step.keys ▸ recent.distinct
  fits := step.length_live ▸ recent.fits
  turn_eq := by
    rw [step.turn, nextTurn, recent.turn_eq, List.length_append,
      List.length_singleton]
  remembers entry member := by
    by_cases own : entry.1 = key
    · rcases step.refreshed recent.distinct member own with ⟨used, turn⟩
      exact .of_concat own used (turn.trans (congrArg (· + 1) recent.turn_eq))
    · rcases step.exists_of_mem member with old | ⟨same, _⟩
      · exact (recent.remembers entry old).concat own
      · exact absurd same own

/-- A call for a key that is not tracked does not matter to those that are. -/
theorem remembers_concat
    (recent : Recent settings calls tracker)
    (missing : tracker.find? key = none) :
    ∀ entry ∈ tracker.entries, Remembers (calls ++ [(key, now)]) entry := by
  intro entry member
  exact
    (recent.remembers entry member).concat (ne_of_find?_eq_none missing member)

theorem remembers_insert
    {component : α}
    (recent : Recent settings calls tracker)
    (missing : tracker.find? key = none) :
    ∀ entry ∈ (tracker.nextTurn.insert key component now).entries,
      Remembers (calls ++ [(key, now)]) entry := by
  intro entry member
  rcases mem_entries_insert missing member with rfl | ⟨old, _⟩
  · exact .of_concat rfl rfl (congrArg (· + 1) recent.turn_eq)
  · exact recent.remembers_concat missing entry old

/-- There is room again after one component was built. -/
theorem build
    {component : α}
    (recent : Recent settings calls tracker)
    (missing : tracker.find? key = none)
    (step :
      EvictStep keeper (tracker.nextTurn.insert key component now) state later
        after) :
    Recent settings (calls ++ [(key, now)]) later := by
  have inserted :
      (tracker.nextTurn.insert key component now).keys.Nodup :=
    distinct_insert component recent.distinct missing
  have letsGo :
      LetsGo keeper (fun _ => True) _ state later after :=
    step.letsGo fun _ _ _ => trivial
  have settings_eq : later.settings = settings :=
    letsGo.settings.trans recent.settings_eq
  constructor
  · exact settings_eq
  · exact letsGo.distinct inserted
  · have roomy := step.not_isOverfull inserted recent.not_isOverfull
    rw [isOverfull, decide_eq_true_iff, settings_eq] at roomy
    exact Nat.not_lt.mp roomy
  · rw [letsGo.turn, insert, nextTurn, recent.turn_eq, List.length_append,
      List.length_singleton]
  · intro entry member
    exact
      recent.remembers_insert missing entry
        (letsGo.entries_sublist.subset member)

theorem obtain
    (recent : Recent settings calls tracker)
    (composed : keeper.Composed fun _ _ => True)
    (key : String)
    (now : Nat)
    (state : σ) :
    Recent settings (calls ++ [(key, now)])
      (tracker.obtain keeper key now state).2.1 := by
  have step :
      ObtainStep keeper tracker key now state _ _ _ :=
    obtainStep_obtain key now composed fun _ _ _ _ _ _ => trivial
  generalize tracker.obtain keeper key now state = result at step
  rcases result with ⟨outcome, later, after⟩
  cases step with
  | touched found step => exact recent.touch step
  | refused missing refused =>
      constructor
      · exact recent.settings_eq
      · exact recent.distinct
      · exact recent.fits
      · simp [recent.turn_eq]
      · exact recent.remembers_concat missing
  | built missing built step => exact recent.build missing step

theorem endLife
    (recent : Recent settings calls tracker)
    (key : String) :
    Recent settings calls (tracker.endLife key) := by
  have perm : (tracker.endLife key).entries.Perm tracker.entries :=
    entries_endLife_perm recent.distinct
  constructor
  · exact settings_endLife.trans recent.settings_eq
  · exact (perm.map Prod.fst).nodup_iff.mpr recent.distinct
  · exact Nat.le_trans live_endLife_sublist.length_le recent.fits
  · exact turn_endLife.trans recent.turn_eq
  · intro entry member
    exact recent.remembers entry (perm.subset member)

theorem sweep
    (recent : Recent settings calls tracker)
    (composed : keeper.Composed fun _ _ => True)
    (now : Nat)
    (state : σ) :
    Recent settings calls (tracker.sweep keeper now state).2.1 := by
  have allSafe : AllSafe (fun _ _ => True) tracker state := fun _ _ => trivial
  rcases
      letsGo_sweep (fun _ => True) now composed recent.distinct allSafe
        (fun _ _ => trivial) (fun _ _ _ => trivial) (fun _ _ _ => trivial) with
    ⟨outcome, later, after, swept, letsGo, _⟩
  have begun : Recent settings calls (tracker.beforeSweep now) := by
    constructor
    · exact settings_beforeSweep.trans recent.settings_eq
    · rw [keys_beforeSweep]
      exact recent.distinct
    · rw [live_beforeSweep]
      exact recent.fits
    · exact turn_beforeSweep.trans recent.turn_eq
    · rw [entries_beforeSweep]
      exact recent.remembers
  rw [swept]
  exact begun.letsGo letsGo

theorem run
    (composed : keeper.Composed fun _ _ => True)
    (settings : TrackerSettings)
    (state : σ)
    (uses : List (Use σ)) :
    Recent settings (obtained uses)
      (Tracker.run keeper settings state uses).1 := by
  induction uses using List.reverseRecOn with
  | nil => exact empty settings
  | append_singleton uses oneUse ih =>
      rw [Tracker.run] at ih
      rw [obtained_append, Tracker.run, List.foldl_append]
      generalize uses.foldl (use keeper) (.empty settings, state) = situation
        at ih
      cases oneUse with
      | obtain key now => exact ih.obtain composed key now situation.2
      | find key => simpa [obtained, use] using ih
      | endLife key => simpa [obtained, use] using ih.endLife key
      | sweep now =>
          simpa [obtained, use] using ih.sweep composed now situation.2
      | stir change => simpa [obtained, use] using ih

/-- The capacity is no concern of a sweep. -/
theorem evictAll_eq
    (recent : Recent settings calls tracker)
    (keeper : Keeper σ α)
    (now : Nat)
    (state : σ) :
    evictAll keeper tracker.live.length (tracker.noteSweep now) state =
      (.ok (), tracker.noteSweep now, state) := by
  have room : ¬ (tracker.noteSweep now).isOverfull = true :=
    recent.not_isOverfull
  exact evictAll_of_not_isOverfull _ room

/--
If there may be live components and time does not run backwards, the one just
built is not the oldest, but the one with the earliest call is.
-/
theorem oldest
    {component : α}
    {victim : String × Entry α}
    (recent : Recent settings calls tracker)
    (missing : tracker.find? key = none)
    (full : tracker.live.length = settings.maxComponents)
    (capable : 1 ≤ settings.maxComponents)
    (chronological : Chronological (calls ++ [(key, now)]))
    (found :
      oldestOf (tracker.nextTurn.insert key component now).live =
        some victim) :
    victim ∈ tracker.live ∧
      victim.1 ≠ key ∧
        ∀ other ∈ tracker.live,
          other.1 ≠ victim.1 →
            callsSince other.1 calls < callsSince victim.1 calls := by
  have remember :
      ∀ entry ∈ (tracker.nextTurn.insert key component now).live,
        Remembers (calls ++ [(key, now)]) entry := fun entry member =>
    recent.remembers_insert missing entry (List.mem_append_left _ member)
  have earliest
      (other : String × Entry α)
      (isLive : other ∈ tracker.live) :
      victim.2.turn ≤ other.2.turn :=
    turn_le_of_oldestOf chronological remember found
      (List.mem_append_left _ isLive)
  have remembers
      {other : String × Entry α}
      (isLive : other ∈ tracker.live) :
      Remembers calls other :=
    recent.remembers other (List.mem_append_left _ isLive)
  have isLive : victim ∈ tracker.live := by
    rcases List.mem_append.mp (mem_of_oldestOf found) with isLive | isNew
    · exact isLive
    · -- Some other component is live, and its call was before the one just made.
      have length : 0 < tracker.live.length := by
        omega
      rcases List.exists_mem_of_length_pos length with ⟨other, among⟩
      have before := earliest other among
      have within := (remembers among).turn_le
      rw [List.mem_singleton.mp isNew] at before
      have turn := recent.turn_eq
      simp only [nextTurn] at before
      omega
  refine
    ⟨isLive, ne_of_find?_eq_none missing (List.mem_append_left _ isLive), ?_⟩
  intro other among differs
  have latest := (remembers among).latest
  have victimLatest := (remembers isLive).latest
  have turns : other.2.turn ≠ victim.2.turn := fun same =>
    differs ((remembers among).key_eq (remembers isLive) same)
  have before := earliest other among
  omega

end Recent

/-! ## Making room for what is obtained -/

/--
How room is made for the component of a key, where `calls` are the calls before
this one: at most one component is disposed of, and only for one that was built
when there were as many as there may be.  If there may be any and time does not
run backwards, it is the live one whose most recent call is the earliest, and
the component that was obtained can be found.
-/
structure MakesRoom
    (capacity : Nat)
    (calls : List (String × Nat))
    (key : String)
    (now : Nat)
    (tracker : Tracker (α × Nat))
    (chronicle : Chronicle σ α)
    (outcome : Guarded (α × Nat))
    (later : Tracker (α × Nat))
    (after : Chronicle σ α) : Prop where
  disposals :
    after.disposals = chronicle.disposals ∨
      ∃ victim component,
        after.disposals = chronicle.disposals ++ [victim] ∧
          tracker.find? key = none ∧
          outcome = .ok component ∧
          after.built = chronicle.built ++ [(key, component.1)] ∧
          tracker.live.length = capacity
  leastRecent :
    1 ≤ capacity →
      Chronological (calls ++ [(key, now)]) →
        ∀ victim,
          after.disposals = chronicle.disposals ++ [victim] →
            victim.key ≠ key ∧
              (victim.key, victim.component, victim.number) ∈
                held tracker.live ∧
              ∀ other ∈ tracker.live.map Prod.fst,
                other ≠ victim.key →
                  callsSince other calls < callsSince victim.key calls
  found :
    1 ≤ capacity →
      Chronological (calls ++ [(key, now)]) →
        ∀ component,
          outcome = .ok component → later.find? key = some component

/-- What is tracked under a key can be found. -/
theorem find?_of_mem_held
    {tracker : Tracker α}
    {component : α}
    (distinct : tracker.keys.Nodup)
    (member : (key, component) ∈ held tracker.entries) :
    tracker.find? key = some component := by
  cases found : tracker.find? key with
  | none =>
      rcases exists_of_mem_held member with ⟨entry, inside, _⟩
      exact absurd rfl (ne_of_find?_eq_none found inside)
  | some other =>
      rw [eq_of_mem_held distinct member (mem_held_of_find? found)]

section Room

variable {keeper : Keeper σ α} {settings : TrackerSettings}
variable {tracker later : Tracker (α × Nat)} {chronicle next after : Chronicle σ α}
variable {component : α × Nat}

theorem disposals_build
    (keeper : Keeper σ α)
    (key : String)
    (chronicle : Chronicle σ α) :
    (keeper.chronicled.build key chronicle).2.disposals =
      chronicle.disposals := by
  unfold Keeper.chronicled
  dsimp only
  split <;> rfl

theorem built_build
    (built : keeper.chronicled.build key chronicle = (.ok component, next)) :
    next.built = chronicle.built ++ [(key, component.1)] := by
  unfold Keeper.chronicled at built
  dsimp only at built
  split at built
  · cases built
    rfl
  · cases built

/-- Nothing is disposed of where there is room already. -/
theorem makesRoom_of_disposals_eq
    {capacity : Nat}
    {outcome : Guarded (α × Nat)}
    (calm : after.disposals = chronicle.disposals)
    (found :
      ∀ component,
        outcome = .ok component → later.find? key = some component) :
    MakesRoom capacity calls key now tracker chronicle outcome later after := by
  constructor
  · exact Or.inl calm
  · intro _ _ victim more
    have length := congrArg List.length (calm.symm.trans more)
    simp at length
  · intro _ _
    exact found

/-- What was just built can be found unless it had to go again. -/
theorem find?_of_built
    (distinct : tracker.keys.Nodup)
    (missing : tracker.find? key = none)
    (step :
      EvictStep keeper.chronicled (tracker.nextTurn.insert key component now)
        next later after)
    (stays :
      ∀ victim,
        oldestOf (tracker.nextTurn.insert key component now).live =
            some victim →
          (tracker.nextTurn.insert key component now).isOverfull = true →
            victim.1 ≠ key) :
    later.find? key = some component := by
  have inserted :
      (tracker.nextTurn.insert key component now).keys.Nodup :=
    distinct_insert component distinct missing
  have isLive :
      (key, ⟨component, now, tracker.turn + 1⟩) ∈
        (tracker.nextTurn.insert key component now).live :=
    List.mem_append_right _ (List.mem_singleton_self _)
  have letsGo :
      LetsGo keeper.chronicled (· ≠ key) _ next later after :=
    step.letsGo fun crowded victim found => stays victim found crowded
  apply find?_of_mem_held (letsGo.distinct inserted)
  exact
    mem_held
      (letsGo.mem_of_not_lets (List.mem_append_left _ isLive) (· rfl))

/-- The oldest live component goes for the one that was just built. -/
theorem Recent.makesRoom_of_built
    (recent : Recent settings calls tracker)
    (settles : keeper.Settles)
    (missing : tracker.find? key = none)
    (built : keeper.chronicled.build key chronicle = (.ok component, next))
    (step :
      EvictStep keeper.chronicled (tracker.nextTurn.insert key component now)
        next later after) :
    MakesRoom settings.maxComponents calls key now tracker chronicle
      (.ok component) later after := by
  have unchanged : next.disposals = chronicle.disposals := by
    rw [← disposals_build keeper key chronicle, built]
  have full
      (crowded :
        (tracker.nextTurn.insert key component now).isOverfull = true) :
      tracker.live.length = settings.maxComponents := by
    have least := isOverfull_insert_iff.mp crowded
    rw [recent.settings_eq] at least
    exact Nat.le_antisymm recent.fits least
  have findable := find?_of_built recent.distinct missing step
  cases step with
  | roomy room =>
      apply makesRoom_of_disposals_eq unchanged
      rintro _ ⟨⟩
      exact findable fun _ _ crowded => absurd crowded room
  | evicted crowded found gone =>
      rename_i victim
      rcases
          Keeper.exists_letGo_chronicled settles victim.1 victim.2.component
            next with
        ⟨disposal, last, goes, isVictim, builtBefore, disposals, _⟩
      rw [gone] at goes
      cases goes
      rw [unchanged] at disposals
      constructor
      · exact
          Or.inr
            ⟨disposal, component, disposals, missing, rfl,
              builtBefore.trans (built_build built), full crowded⟩
      · intro capable chronological other more
        rw [disposals] at more
        cases List.append_cancel_left more
        rcases
            recent.oldest missing (full crowded) capable chronological found with
          ⟨isLive, differs, earliest⟩
        injection isVictim with item number
        injection item with ownKey own
        rw [ownKey, own, number]
        refine ⟨differs, mem_held isLive, ?_⟩
        intro other isOther
        rcases List.mem_map.mp isOther with ⟨entry, among, rfl⟩
        exact earliest entry among
      · rintro capable chronological _ ⟨⟩
        apply findable
        intro other foundOther _
        have oldest :=
          recent.oldest missing (full crowded) capable chronological foundOther
        exact oldest.2.1

theorem Recent.makesRoom
    (recent : Recent settings calls tracker)
    (settles : keeper.Settles)
    (key : String)
    (now : Nat)
    (chronicle : Chronicle σ α) :
    MakesRoom settings.maxComponents calls key now tracker chronicle
      (tracker.obtain keeper.chronicled key now chronicle).1
      (tracker.obtain keeper.chronicled key now chronicle).2.1
      (tracker.obtain keeper.chronicled key now chronicle).2.2 := by
  have step :
      ObtainStep keeper.chronicled tracker key now chronicle _ _ _ :=
    obtainStep_obtain key now (Keeper.composed_chronicled settles)
      fun _ _ _ _ _ _ => trivial
  generalize tracker.obtain keeper.chronicled key now chronicle = result at step
  rcases result with ⟨outcome, later, after⟩
  cases step with
  | touched found step =>
      apply makesRoom_of_disposals_eq rfl
      rintro _ ⟨⟩
      apply find?_of_mem_held (step.keys ▸ recent.distinct)
      rw [step.held_entries]
      exact mem_held_of_find? found
  | refused missing refused =>
      apply makesRoom_of_disposals_eq
      · rw [← disposals_build keeper key chronicle, refused]
      · rintro _ ⟨⟩
  | built missing built step =>
      exact recent.makesRoom_of_built settles missing built step

end Room

/-- A tracker keeps within its capacity, and the components used last stay. -/
structure KeepsRecent
    (keeper : Keeper σ α)
    (capacity : Nat)
    (calls : List (String × Nat))
    (tracker : Tracker (α × Nat))
    (chronicle : Chronicle σ α) : Prop where
  length_le : tracker.live.length ≤ capacity
  /-- A sweep lets nothing go for the sake of the capacity. -/
  roomy (now : Nat) :
    evictAll keeper.chronicled tracker.live.length (tracker.noteSweep now)
        chronicle =
      (.ok (), tracker.noteSweep now, chronicle)
  makesRoom (key : String) (now : Nat) :
    MakesRoom capacity calls key now tracker chronicle
      (tracker.obtain keeper.chronicled key now chronicle).1
      (tracker.obtain keeper.chronicled key now chronicle).2.1
      (tracker.obtain keeper.chronicled key now chronicle).2.2

/--
Whatever is done with a tracker at whatever times, it keeps within its capacity.
When another component is obtained, one is disposed of only where there would be
one too many, and as long as time does not run backwards it is the one whose most
recent call is the earliest.
-/
theorem run_keepsRecent
    {keeper : Keeper σ α}
    (settles : keeper.Settles)
    (settings : TrackerSettings)
    (state : σ)
    (uses : List (Use σ)) :
    ∃ tracker chronicle,
      run keeper.chronicled settings (.begin state) (uses.map Use.chronicled) =
          (tracker, chronicle) ∧
        run keeper settings state uses =
          (tracker.map Prod.fst, chronicle.state) ∧
        (∀ key now,
          obtain keeper (tracker.map Prod.fst) key now chronicle.state =
            ((obtain keeper.chronicled tracker key now chronicle).1.map Prod.fst,
              (plainResult Prod.fst Chronicle.state
                (obtain keeper.chronicled tracker key now chronicle)).2)) ∧
        KeepsRecent keeper settings.maxComponents (obtained uses) tracker
          chronicle := by
  have recent :=
    Recent.run (Keeper.composed_chronicled settles) settings (.begin state)
      (uses.map Use.chronicled)
  rw [obtained_map_chronicled] at recent
  refine ⟨_, _, rfl, run_chronicled keeper settings state uses, ?_, ?_⟩
  · intro key now
    exact obtain_map keeper.details_chronicled _ key now _
  · constructor
    · exact recent.fits
    · intro now
      exact recent.evictAll_eq keeper.chronicled now _
    · intro key now
      exact recent.makesRoom settles key now _

/-- Labels for three keys where there is room for two, with calls at the same time. -/
def busyUses : List (Use Labels) :=
  [.obtain "a" 4, .obtain "b" 4, .endLife "b", .obtain "c" 4, .obtain "b" 4,
    .obtain "a" 4, .find "c", .sweep 2000]

/-- The label of the third key goes, since that of the first was used once more after it. -/
theorem run_keepsRecent_labels :
    Labels.keeper.Settles ∧
      (∃ tracker chronicle,
        run Labels.keeper.chronicled ⟨5000, 2⟩ (.begin crowdedLabels)
              (busyUses.map Use.chronicled) =
            (tracker, chronicle) ∧
          run Labels.keeper ⟨5000, 2⟩ crowdedLabels busyUses =
            (tracker.map Prod.fst, chronicle.state) ∧
          (∀ key now,
            obtain Labels.keeper (tracker.map Prod.fst) key now chronicle.state =
              ((obtain Labels.keeper.chronicled tracker key now chronicle).1.map
                  Prod.fst,
                (plainResult Prod.fst Chronicle.state
                  (obtain Labels.keeper.chronicled tracker key now
                    chronicle)).2)) ∧
          KeepsRecent Labels.keeper 2 (obtained busyUses) tracker chronicle) ∧
      Chronological (obtained busyUses ++ [("d", 9)]) ∧
      ((run Labels.keeper.chronicled ⟨5000, 2⟩ (.begin crowdedLabels)
            ((busyUses ++ [Use.obtain "d" 9]).map Use.chronicled)).2.disposals.map
          Disposal.key) =
        ["c"] := by
  refine ⟨settles_labels, ?_, ?_, rfl⟩
  · exact run_keepsRecent settles_labels ⟨5000, 2⟩ crowdedLabels busyUses
  · simp [Chronological, obtained, busyUses]

end Tracker

end LogPipeline
