import LogPipeline.Proofs.Sifting.Children
import LogPipeline.Proofs.Sifting.Conduct
import LogPipeline.Proofs.Tracker.Steps

/-!
# Families of children

The children that a sifting appender knows are among those that were made, and a
child is made for one value only.  So letting go of some of them leaves the
others as they are.

The child for a value is found, or it is made.  A child that was made goes again
at once if it is one too many and the time is before the last uses of all the
others.  A sweep lets children go that are of no use any more, but none that was
just used and is started.
-/

namespace LogPipeline

variable {σ α : Type}

/-- The keeper of children in a nursery. -/
abbrev ChildFactory.nurse
    (factory : ChildFactory σ α)
    (operations : Operations σ α) : Keeper (Nursery σ α) α :=
  factory.nursed.keeper operations.nursed

variable {operations : Operations σ α} {factory : ChildFactory σ α}
variable {sound : σ → Prop} {started? : α → σ → Option Bool}
variable {tracker later last : Tracker α} {nursery next after : Nursery σ α}
variable {value : String} {now : Nat} {child : α}

/-! ## Making children and letting them go -/

namespace Operations.Reliable

theorem exists_letGo
    (reliable : operations.Reliable factory.make sound started?)
    (key : String)
    (isSound : sound nursery.state)
    (known : (started? child nursery.state).isSome = true) :
    ∃ after,
      (factory.nurse operations).letGo key child nursery =
          (.ok (), nursery.enter after) ∧
        operations.stop child nursery.state = (.ok (), after) ∧
        sound after ∧
        (started? child after = some false ∨
          started? child after = started? child nursery.state) ∧
        ∀ other,
          other ≠ child → started? other after = started? other nursery.state := by
  rcases reliable.stop isSound known with
    ⟨after, stops, stillSound, stopped, others⟩
  have disposes :
      (factory.nurse operations).dispose key child nursery =
        (.ofGuarded (operations.stop child nursery.state).1,
          nursery.enter (operations.stop child nursery.state).2) :=
    rfl
  rw [stops] at disposes
  refine ⟨after, ?_, stops, stillSound, stopped, others⟩
  rw [Keeper.letGo, disposes]
  rfl

theorem stopped_of_letGo
    {key : String}
    (reliable : operations.Reliable factory.make sound started?)
    (stopsAll : operations.StopsChildren sound started?)
    (isSound : sound nursery.state)
    (known : (started? child nursery.state).isSome = true)
    (gone :
      (factory.nurse operations).letGo key child nursery = (.ok (), after)) :
    started? child after.state = some false := by
  rcases reliable.exists_letGo key isSound known with ⟨state, goes, stops, _⟩
  rw [gone] at goes
  cases goes
  exact stopsAll child nursery.state state isSound known stops

theorem exists_build
    (reliable : operations.Reliable factory.make sound started?)
    (value : String)
    (isSound : sound nursery.state) :
    ∃ child after,
      (factory.nurse operations).build value nursery =
          (.ok child,
            ⟨after, nursery.made ++ [(value, child)], nursery.given⟩) ∧
        sound after ∧
        started? child nursery.state = none ∧
        started? child after = some true ∧
        ∀ other,
          other ≠ child → started? other after = started? other nursery.state := by
  rcases reliable.make value isSound with
    ⟨child, between, makes, stillSound, fresh, known, others⟩
  have provides :
      factory.nursed.provide operations.nursed value nursery =
        (child, ⟨between, nursery.made ++ [(value, child)], nursery.given⟩) := by
    unfold ChildFactory.provide ChildFactory.nursed
    dsimp only
    rw [makes]
  have builds :
      (factory.nurse operations).build value nursery =
        factory.nursed.build operations.nursed value nursery :=
    rfl
  rw [builds, ChildFactory.build_eq_start, provides]
  dsimp only
  rw [operations.startIfNeeded_nursed, startIfNeeded]
  rcases Option.isSome_iff_exists.mp known with ⟨started, isStarted⟩
  rw [reliable.isStarted isStarted]
  cases started with
  | true => exact ⟨child, between, rfl, stillSound, fresh, isStarted, others⟩
  | false =>
      rcases reliable.start stillSound known with
        ⟨after, starts, atLast, startedNow, unchanged⟩
      refine ⟨child, after, ?_, atLast, fresh, startedNow, ?_⟩
      · dsimp only
        rw [starts]
        rfl
      · intro other differs
        rw [unchanged other differs, others other differs]

theorem composed
    (reliable : operations.Reliable factory.make sound started?) :
    (factory.nurse operations).Composed fun child nursery =>
      sound nursery.state ∧ (started? child nursery.state).isSome = true where
  letGo key {child nursery} isSafe := by
    rcases reliable.exists_letGo key isSafe.1 isSafe.2 with
      ⟨after, gone, _, stillSound, stopped, others⟩
    refine ⟨_, gone, ?_⟩
    rintro other ⟨_, known⟩
    refine ⟨stillSound, ?_⟩
    by_cases same : other = child
    · subst other
      rcases stopped with isStopped | unchanged
      · exact Option.isSome_iff_exists.mpr ⟨false, isStopped⟩
      · exact unchanged ▸ known
    · exact (others other same).symm ▸ known

end Operations.Reliable

namespace Nursery

/-- The children that a tracker knows are among those that were made. -/
structure Family
    (sound : σ → Prop)
    (started? : α → σ → Option Bool)
    (tracker : Tracker α)
    (nursery : Nursery σ α) : Prop where
  sound : sound nursery.state
  known :
    ∀ item ∈ nursery.made, (started? item.2 nursery.state).isSome = true
  single : (nursery.made.map Prod.snd).Nodup
  distinct : tracker.keys.Nodup
  ours : Tracker.held tracker.entries ⊆ nursery.made
  turns : ∀ entry ∈ tracker.entries, entry.2.turn ≤ tracker.turn

/-- Some children were let go, and nothing else happened to the others. -/
structure Calmed
    (started? : α → σ → Option Bool)
    (later : Tracker α)
    (nursery after : Nursery σ α) : Prop where
  made_eq : after.made = nursery.made
  given_eq : after.given = nursery.given
  stopped (child : α) :
    started? child after.state = some false ∨
      started? child after.state = started? child nursery.state
  remaining :
    ∀ item ∈ Tracker.held later.entries,
      started? item.2 after.state = started? item.2 nursery.state

namespace Calmed

theorem refl (tracker : Tracker α) (nursery : Nursery σ α) :
    Calmed started? tracker nursery nursery :=
  ⟨rfl, rfl, fun _ => Or.inr rfl, fun _ _ => rfl⟩

theorem trans
    (front : Calmed started? later nursery next)
    (back : Calmed started? last next after)
    (fewer : last.entries ⊆ later.entries) :
    Calmed started? last nursery after where
  made_eq := back.made_eq.trans front.made_eq
  given_eq := back.given_eq.trans front.given_eq
  stopped child := by
    rcases back.stopped child with isStopped | unchanged
    · exact Or.inl isStopped
    · exact unchanged ▸ front.stopped child
  remaining item inside := by
    rw [back.remaining item inside,
      front.remaining item (Tracker.held_subset fewer inside)]

end Calmed

namespace Family

theorem known_of_entry
    (family : Family sound started? tracker nursery)
    {entry : String × Entry α}
    (member : entry ∈ tracker.entries) :
    (started? entry.2.component nursery.state).isSome = true :=
  family.known _ (family.ours (Tracker.mem_held member))

theorem ne_of_fresh
    {item : String × α}
    (family : Family sound started? tracker nursery)
    (fresh : started? child nursery.state = none)
    (made : item ∈ nursery.made) :
    item.2 ≠ child := by
  rintro rfl
  have known := family.known item made
  rw [fresh] at known
  cases known

/-- The order of the entries does not matter. -/
theorem reorder
    (family : Family sound started? tracker nursery)
    (perm : later.entries.Perm tracker.entries)
    (turn : later.turn = tracker.turn) :
    Family sound started? later nursery where
  sound := family.sound
  known := family.known
  single := family.single
  distinct := (perm.map Prod.fst).nodup_iff.mpr family.distinct
  ours := List.Subset.trans (Tracker.held_subset perm.subset) family.ours
  turns entry member := turn ▸ family.turns entry (perm.subset member)

/-- It only matters which children were made and which of them are known. -/
theorem congr
    (family : Family sound started? tracker nursery)
    (isSound : sound after.state)
    (made : after.made = nursery.made)
    (known :
      ∀ child,
        (started? child nursery.state).isSome = true →
          (started? child after.state).isSome = true) :
    Family sound started? tracker after where
  sound := isSound
  known item member := known item.2 (family.known item (made ▸ member))
  single := made ▸ family.single
  distinct := family.distinct
  ours := made ▸ family.ours
  turns := family.turns

theorem letGo
    {key : String}
    {entry : Entry α}
    (family : Family sound started? tracker nursery)
    (reliable : operations.Reliable factory.make sound started?)
    (removed : tracker.entries.Perm ((key, entry) :: later.entries))
    (turn : later.turn = tracker.turn)
    (gone :
      (factory.nurse operations).letGo key entry.component nursery =
        (.ok (), after)) :
    Family sound started? later after ∧
      Calmed started? later nursery after := by
  have keys := (removed.map Prod.fst).nodup_iff.mp family.distinct
  rcases List.nodup_cons.mp keys with ⟨absent, distinct⟩
  have member : (key, entry) ∈ tracker.entries :=
    removed.symm.subset List.mem_cons_self
  have fewer : later.entries ⊆ tracker.entries := fun other inside =>
    removed.symm.subset (List.mem_cons_of_mem _ inside)
  rcases reliable.exists_letGo key family.sound (family.known_of_entry member)
    with ⟨state, goes, _, isSound, stopped, others⟩
  rw [gone] at goes
  cases goes
  -- A child is made for one value only, so no other entry has the same child.
  have apart :
      ∀ item ∈ Tracker.held later.entries, item.2 ≠ entry.component := by
    intro item inside same
    have one :=
      List.inj_on_of_nodup_map family.single
        (family.ours (Tracker.held_subset fewer inside))
        (family.ours (Tracker.mem_held member)) same
    rcases List.mem_map.mp inside with ⟨other, isThere, rfl⟩
    have tracked : other.1 ∈ later.keys := List.mem_map_of_mem isThere
    rw [(Prod.mk.inj one).1] at tracked
    exact absent tracked
  refine ⟨⟨isSound, ?_, family.single, distinct, ?_, ?_⟩, ⟨rfl, rfl, ?_, ?_⟩⟩
  · intro item made
    have known := family.known item made
    by_cases same : item.2 = entry.component
    · rcases stopped with isStopped | unchanged
      · exact Option.isSome_iff_exists.mpr ⟨false, same ▸ isStopped⟩
      · rw [same] at known ⊢
        exact unchanged ▸ known
    · exact (others item.2 same).symm ▸ known
  · exact List.Subset.trans (Tracker.held_subset fewer) family.ours
  · intro other inside
    rw [turn]
    exact family.turns other (fewer inside)
  · intro child
    by_cases same : child = entry.component
    · exact same ▸ stopped
    · exact Or.inr (others child same)
  · intro item inside
    exact others item.2 (apart item inside)

theorem letsGo
    {lets : String → Prop}
    (family : Family sound started? tracker nursery)
    (reliable : operations.Reliable factory.make sound started?)
    (goes :
      Tracker.LetsGo (factory.nurse operations) lets tracker nursery later
        after) :
    Family sound started? later after ∧
      Calmed started? later nursery after := by
  induction goes with
  | rests tracker nursery => exact ⟨family, .refl tracker nursery⟩
  | live member _ gone others ih =>
      rcases
          family.letGo reliable
            (Tracker.entries_removeLive_perm family.distinct member) rfl gone with
        ⟨fewer, front⟩
      rcases ih fewer with ⟨least, back⟩
      exact ⟨least, front.trans back others.entries_sublist.subset⟩
  | lingering member _ gone others ih =>
      rcases
          family.letGo reliable
            (Tracker.entries_removeLingering_perm family.distinct member) rfl
            gone with
        ⟨fewer, front⟩
      rcases ih fewer with ⟨least, back⟩
      exact ⟨least, front.trans back others.entries_sublist.subset⟩

/-! ## Sweeping -/

theorem isStale_eq
    (family : Family sound started? tracker nursery)
    (reliable : operations.Reliable factory.make sound started?)
    {entry : String × Entry α}
    (member : entry ∈ tracker.entries) :
    ∃ started,
      started? entry.2.component nursery.state = some started ∧
        (factory.nurse operations).isStale entry.2.component nursery =
          .ok (!started) := by
  rcases Option.isSome_iff_exists.mp (family.known_of_entry member) with
    ⟨started, isStarted⟩
  refine ⟨started, isStarted, ?_⟩
  have asks :
      (factory.nurse operations).isStale entry.2.component nursery =
        (operations.isStarted entry.2.component nursery.state).map not :=
    rfl
  rw [asks, reliable.isStarted isStarted]
  rfl

/--
A sweep comes to its end.  It lets no child go that was used in time and is
started.
-/
theorem sweep
    (family : Family sound started? tracker nursery)
    (reliable : operations.Reliable factory.make sound started?)
    (lets : String → Prop)
    (now : Nat)
    (fits : ¬ tracker.isOverfull = true)
    (outdated :
      ∀ entry ∈ tracker.live,
        tracker.isTimedOut now entry.2 = true ∨
            started? entry.2.component nursery.state = some false →
          lets entry.1)
    (expired :
      ∀ entry ∈ tracker.lingering,
        entry.2.unusedFor Tracker.lingeringTime now = true → lets entry.1) :
    ∃ later after,
      tracker.sweep (factory.nurse operations) now nursery =
          (.ok (), later, after) ∧
        Family sound started? later after ∧
        Calmed started? later nursery after ∧
        later.entries ⊆ tracker.entries ∧
        (∀ entry ∈ tracker.entries, ¬ lets entry.1 → entry ∈ later.entries) ∧
        later.settings = tracker.settings ∧
        ¬ later.isOverfull = true := by
  have allSafe :
      Tracker.AllSafe
        (fun child nursery =>
          sound nursery.state ∧ (started? child nursery.state).isSome = true)
        tracker nursery :=
    fun entry member => ⟨family.sound, family.known_of_entry member⟩
  have stale :
      ∀ entry ∈ tracker.live,
        tracker.isTimedOut now entry.2 = true ∨
            (factory.nurse operations).isStale entry.2.component nursery =
              .ok true →
          lets entry.1 := by
    intro entry isLive reason
    apply outdated entry isLive
    rcases reason with timedOut | isStale
    · exact Or.inl timedOut
    · rcases family.isStale_eq reliable (List.mem_append_left _ isLive) with
        ⟨started, isStarted, asks⟩
      rw [asks] at isStale
      cases started with
      | true => cases isStale
      | false => exact Or.inr isStarted
  rcases
      Tracker.letsGo_sweep lets now reliable.composed family.distinct allSafe
        (fun overfull => absurd overfull fits) stale expired with
    ⟨outcome, later, after, swept, goes, ends⟩
  have ended : outcome = .ok () := by
    apply ends fits
    intro entry isLive
    rcases family.isStale_eq reliable (List.mem_append_left _ isLive) with
      ⟨started, _, asks⟩
    exact ⟨_, asks⟩
  have same : (tracker.beforeSweep now).entries = tracker.entries :=
    Tracker.entries_beforeSweep
  have settings : (tracker.beforeSweep now).settings = tracker.settings :=
    Tracker.settings_beforeSweep
  have live : (tracker.beforeSweep now).live = tracker.live :=
    Tracker.live_beforeSweep
  have begun : Family sound started? (tracker.beforeSweep now) nursery :=
    family.reorder (.of_eq same) Tracker.turn_beforeSweep
  rcases begun.letsGo reliable goes with ⟨atLast, calmed⟩
  subst outcome
  refine ⟨later, after, swept, atLast, calmed, ?_, ?_, ?_, ?_⟩
  · rw [← same]
    exact goes.entries_sublist.subset
  · intro entry member kept
    exact goes.mem_of_not_lets (same.symm ▸ member) kept
  · rw [goes.settings, settings]
  · have shorter := goes.sublist.1.length_le
    rw [live] at shorter
    rw [Tracker.isOverfull, decide_eq_true_iff] at fits ⊢
    rw [goes.settings, settings]
    omega

end Family

/-! ## Finding and making the child for a value -/

/-- A child was found or made for a value, whether it is still tracked or not. -/
structure Provided
    (sound : σ → Prop)
    (started? : α → σ → Option Bool)
    (tracker : Tracker α)
    (value : String)
    (now : Nat)
    (nursery : Nursery σ α)
    (child : α)
    (later : Tracker α)
    (after : Nursery σ α) : Prop where
  family : Family sound started? later after
  settings : later.settings = tracker.settings
  made : (value, child) ∈ after.made
  kept : nursery.made ⊆ after.made
  given_eq : after.given = nursery.given
  recent : ∀ entry ∈ later.entries, entry.1 = value → entry.2.used = now
  own : ∀ item ∈ Tracker.held later.entries, item.1 = value → item.2 = child
  others :
    ∀ entry ∈ later.entries,
      entry.1 ≠ value →
        entry ∈ tracker.entries ∧
          started? entry.2.component after.state =
            started? entry.2.component nursery.state

/-- Where the child for a value comes from, and whether it stays. -/
inductive Provision
    (operations : Operations σ α)
    (sound : σ → Prop)
    (started? : α → σ → Option Bool)
    (tracker : Tracker α)
    (value : String)
    (now : Nat)
    (nursery : Nursery σ α)
    (child : α)
    (later : Tracker α)
    (after : Nursery σ α) : Prop where
  | found
      (found : tracker.find? value = some child)
      (tracked : (value, child) ∈ Tracker.held later.entries)
      (unchanged :
        started? child after.state = started? child nursery.state)
  | stays
      (missing : tracker.find? value = none)
      (inTime : ¬ tracker.Outrun now)
      (tracked : (value, child) ∈ Tracker.held later.entries)
      (isStarted : started? child after.state = some true)
  | goes
      (missing : tracker.find? value = none)
      (outrun : tracker.Outrun now)
      (absent : value ∉ later.keys)
      (stops :
        operations.StopsChildren sound started? →
          started? child after.state = some false)

namespace Provided

/-- What was provided remains so when other children are let go. -/
theorem calm
    (provided :
      Provided sound started? tracker value now nursery child later next)
    (family : Family sound started? last after)
    (calmed : Calmed started? last next after)
    (fewer : last.entries ⊆ later.entries)
    (settings : last.settings = later.settings) :
    Provided sound started? tracker value now nursery child last after where
  family := family
  settings := settings.trans provided.settings
  made := calmed.made_eq ▸ provided.made
  kept := calmed.made_eq ▸ provided.kept
  given_eq := calmed.given_eq.trans provided.given_eq
  recent entry inside := provided.recent entry (fewer inside)
  own item inside := provided.own item (Tracker.held_subset fewer inside)
  others entry inside differs := by
    rcases provided.others entry (fewer inside) differs with ⟨old, unchanged⟩
    refine ⟨old, ?_⟩
    rw [← unchanged]
    exact calmed.remaining _ (Tracker.mem_held inside)

end Provided

namespace Family

/-- A child that is tracked already is used once more. -/
theorem touch
    (family : Family sound started? tracker nursery)
    (found : tracker.find? value = some child)
    (step : Tracker.TouchStep tracker.nextTurn value now child later) :
    Provided sound started? tracker value now nursery child later nursery ∧
      (value, child) ∈ Tracker.held later.entries := by
  have held : Tracker.held later.entries = Tracker.held tracker.entries :=
    step.held_entries
  have tracked := Tracker.mem_held_of_find? found
  have settings : later.settings = tracker.settings := step.settings
  have old :
      ∀ entry ∈ later.entries, entry.1 ≠ value → entry ∈ tracker.entries := by
    intro entry inside differs
    rcases step.exists_of_mem inside with same | ⟨own, _⟩
    · exact same
    · exact absurd own differs
  have distinct : later.keys.Nodup := step.keys ▸ family.distinct
  refine ⟨⟨?_, settings, family.ours tracked, List.Subset.refl _, rfl, ?_, ?_, ?_⟩,
    held ▸ tracked⟩
  · refine ⟨family.sound, family.known, family.single, distinct,
      held ▸ family.ours, ?_⟩
    intro entry inside
    rw [step.turn]
    rcases step.exists_of_mem inside with same | ⟨_, _, turn⟩
    · exact Nat.le_succ_of_le (family.turns entry same)
    · exact Nat.le_of_eq turn
  · intro entry inside own
    exact (step.refreshed family.distinct inside own).1
  · rintro ⟨key, other⟩ inside rfl
    exact Tracker.eq_of_mem_held family.distinct (held ▸ inside) tracked
  · intro entry inside differs
    exact ⟨old entry inside differs, rfl⟩

/-- A child that was just made is one of the family under its value. -/
theorem insert
    {state : σ}
    (family : Family sound started? tracker nursery)
    (missing : tracker.find? value = none)
    (isSound : sound state)
    (fresh : started? child nursery.state = none)
    (isStarted : started? child state = some true)
    (unchanged :
      ∀ other,
        other ≠ child → started? other state = started? other nursery.state) :
    Family sound started? (tracker.nextTurn.insert value child now)
      ⟨state, nursery.made ++ [(value, child)], nursery.given⟩ where
  sound := isSound
  known item made := by
    rcases List.mem_append.mp made with old | isNew
    · rw [unchanged item.2 (family.ne_of_fresh fresh old)]
      exact family.known item old
    · rw [List.mem_singleton.mp isNew]
      exact Option.isSome_iff_exists.mpr ⟨true, isStarted⟩
  single := by
    rw [List.map_append, List.nodup_append]
    refine ⟨family.single, List.nodup_singleton _, ?_⟩
    intro other old another isNew
    rcases List.mem_map.mp old with ⟨item, made, rfl⟩
    rw [List.map_singleton, List.mem_singleton] at isNew
    exact isNew ▸ family.ne_of_fresh fresh made
  distinct := Tracker.distinct_insert child family.distinct missing
  ours item inside := by
    rcases List.mem_map.mp inside with ⟨entry, tracked, rfl⟩
    rcases Tracker.mem_entries_insert missing tracked with rfl | ⟨old, _⟩
    · exact List.mem_append_right _ (List.mem_singleton_self _)
    · exact List.mem_append_left _ (family.ours (Tracker.mem_held old))
  turns entry inside := by
    rcases Tracker.mem_entries_insert missing inside with rfl | ⟨old, _⟩
    · exact Nat.le_refl _
    · exact Nat.le_succ_of_le (family.turns entry old)

theorem provided_insert
    {state : σ}
    (family : Family sound started? tracker nursery)
    (missing : tracker.find? value = none)
    (isSound : sound state)
    (fresh : started? child nursery.state = none)
    (isStarted : started? child state = some true)
    (unchanged :
      ∀ other,
        other ≠ child → started? other state = started? other nursery.state) :
    Provided sound started? tracker value now nursery child
      (tracker.nextTurn.insert value child now)
      ⟨state, nursery.made ++ [(value, child)], nursery.given⟩ where
  family := family.insert missing isSound fresh isStarted unchanged
  settings := rfl
  made := List.mem_append_right _ (List.mem_singleton_self _)
  kept := List.subset_append_left _ _
  given_eq := rfl
  recent entry inside own := by
    rcases Tracker.mem_entries_insert missing inside with rfl | ⟨_, differs⟩
    · rfl
    · exact absurd own differs
  own item inside own := by
    rcases List.mem_map.mp inside with ⟨entry, tracked, rfl⟩
    rcases Tracker.mem_entries_insert missing tracked with rfl | ⟨_, differs⟩
    · rfl
    · exact absurd own differs
  others entry inside differs := by
    rcases Tracker.mem_entries_insert missing inside with rfl | ⟨old, _⟩
    · exact absurd rfl differs
    · refine ⟨old, unchanged _ ?_⟩
      exact family.ne_of_fresh fresh (family.ours (Tracker.mem_held old))

/--
If there is no room for a child that was just made, one child goes.  It is the
new one exactly if all others were last used later.
-/
theorem evict
    {made : Nursery σ α}
    (family : Family sound started? tracker nursery)
    (reliable : operations.Reliable factory.make sound started?)
    (provided :
      Provided sound started? tracker value now nursery child
        (tracker.nextTurn.insert value child now) made)
    (missing : tracker.find? value = none)
    (isStarted : started? child made.state = some true)
    (step :
      Tracker.EvictStep (factory.nurse operations)
        (tracker.nextTurn.insert value child now) made later after) :
    Provided sound started? tracker value now nursery child later after ∧
      Provision operations sound started? tracker value now nursery child later
        after := by
  have tracked :
      (value, ⟨child, now, tracker.turn + 1⟩) ∈
        (tracker.nextTurn.insert value child now).entries :=
    (Tracker.entries_insert_perm child).symm.subset List.mem_cons_self
  cases step with
  | roomy room =>
      refine
        ⟨provided, .stays missing ?_ (Tracker.mem_held tracked) isStarted⟩
      intro outrun
      exact room (Tracker.isOverfull_insert_iff.mpr outrun.1)
  | evicted crowded found gone =>
      rename_i oldest
      have member := Tracker.mem_of_oldestOf found
      have inside :
          oldest ∈ (tracker.nextTurn.insert value child now).entries :=
        List.mem_append_left _ member
      have removed :=
        Tracker.entries_removeLive_perm provided.family.distinct member
      have turns : ∀ other ∈ tracker.live, other.2.turn ≤ tracker.turn :=
        fun other isLive => family.turns other (List.mem_append_left _ isLive)
      have isNew : oldest.1 = value ↔ tracker.Outrun now :=
        Tracker.oldestOf_insert_iff_outrun turns missing crowded found
      rcases provided.family.letGo reliable removed rfl gone with
        ⟨remaining, calmed⟩
      refine
        ⟨provided.calm remaining calmed
          (Tracker.entries_removeLive_subset oldest.1) rfl, ?_⟩
      -- The new child is not spared: it goes if it is the oldest.
      by_cases own : oldest.1 = value
      · refine .goes missing (isNew.mp own) ?_ ?_
        · have keys :=
            (removed.map Prod.fst).nodup_iff.mp provided.family.distinct
          exact own ▸ (List.nodup_cons.mp keys).1
        · intro stopsAll
          have isChild : oldest.2.component = child :=
            provided.own _ (Tracker.mem_held inside) own
          exact
            isChild ▸
              reliable.stopped_of_letGo stopsAll provided.family.sound
                (provided.family.known_of_entry inside) gone
      · have stillTracked :
            (value, ⟨child, now, tracker.turn + 1⟩) ∈
              ((tracker.nextTurn.insert value child now).removeLive
                oldest.1).entries := by
          rcases List.mem_cons.mp (removed.subset tracked) with same | other
          · exact absurd (Prod.mk.inj same).1.symm own
          · exact other
        refine
          .stays missing (fun outrun => own (isNew.mpr outrun))
            (Tracker.mem_held stillTracked) ?_
        rw [calmed.remaining _ (Tracker.mem_held stillTracked)]
        exact isStarted

/-- There is a child for each value, and room for all that are still tracked. -/
theorem obtain
    (family : Family sound started? tracker nursery)
    (reliable : operations.Reliable factory.make sound started?)
    (fits : ¬ tracker.isOverfull = true)
    (value : String)
    (now : Nat) :
    ∃ child later after,
      tracker.obtain (factory.nurse operations) value now nursery =
          (.ok child, later, after) ∧
        ¬ later.isOverfull = true ∧
        Provided sound started? tracker value now nursery child later after ∧
        Provision operations sound started? tracker value now nursery child
          later after := by
  rcases reliable.exists_build value family.sound with
    ⟨made, state, builds, isSound, fresh, isStarted, unchanged⟩
  have insertion
      (missing : tracker.find? value = none) :
      Provided sound started? tracker value now nursery made
        (tracker.nextTurn.insert value made now)
        ⟨state, nursery.made ++ [(value, made)], nursery.given⟩ :=
    family.provided_insert missing isSound fresh isStarted unchanged
  have builtSafe
      (missing : tracker.find? value = none)
      (component : α)
      (next : Nursery σ α)
      (built :
        (factory.nurse operations).build value nursery =
          (.ok component, next)) :
      Tracker.AllSafe
        (fun child nursery =>
          sound nursery.state ∧ (started? child nursery.state).isSome = true)
        (tracker.nextTurn.insert value component now) next := by
    rw [builds] at built
    cases built
    have added := (insertion missing).family
    exact fun entry inside => ⟨added.sound, added.known_of_entry inside⟩
  have step :=
    Tracker.obtainStep_obtain value now reliable.composed builtSafe
  generalize tracker.obtain (factory.nurse operations) value now nursery = result
    at step
  rcases result with ⟨outcome, later, after⟩
  cases step with
  | touched found step =>
      rcases family.touch found step with ⟨provided, tracked⟩
      refine ⟨_, later, _, rfl, ?_, provided, .found found tracked rfl⟩
      rw [Tracker.isOverfull, step.settings, step.length_live]
      exact fits
  | refused missing refused =>
      rw [builds] at refused
      cases refused
  | built missing built step =>
      rw [builds] at built
      cases built
      exact
        ⟨_, later, after, rfl,
          step.not_isOverfull (insertion missing).family.distinct fits,
          family.evict reliable (insertion missing) missing isStarted step⟩

end Family

end Nursery

end LogPipeline
