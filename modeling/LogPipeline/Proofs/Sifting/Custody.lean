import LogPipeline.Proofs.Sifting.Diary
import LogPipeline.Proofs.Sifting.Memory
import Mathlib.Data.List.Induction

/-!
# Custody of children

A sifting appender has custody of its children: each that was made is tracked
until it is stopped.  It keeps custody whatever it does, also when a child is
made and goes again at once, because all that lets a child go stops it before.
So nothing is ever given to a child that was let go, and after a stop none of
all children that were made is started.

An event is given to one child at most, when it is appended, and this child was
made for the value of the event.
-/

namespace LogPipeline

variable {σ α : Type}

/--
Each child that was made is tracked, or was stopped; one that was stopped is not
started and gets nothing more; and each event was given to a child for its value.
-/
structure Custody
    (sound : σ → Prop)
    (started? : α → σ → Option Bool)
    (discriminator : Discriminator)
    (tracker : Tracker α)
    (diary : Diary σ α) : Prop where
  sound : sound diary.state
  known :
    ∀ item ∈ diary.made, (started? item.2 diary.state).isSome = true
  single : (diary.made.map Prod.snd).Nodup
  distinct : tracker.keys.Nodup
  ours : Tracker.held tracker.entries ⊆ diary.made
  kept :
    ∀ item ∈ diary.made,
      item ∈ Tracker.held tracker.entries ∨ .stopped item.2 ∈ diary.deeds
  rests :
    ∀ child,
      .stopped child ∈ diary.deeds → started? child diary.state = some false
  final : diary.deeds.Pairwise Deed.MayFollow
  routed :
    ∀ call ∈ diary.given, (discriminator.value call.2, call.1) ∈ diary.made

variable {operations : Operations σ α} {factory : ChildFactory σ α}
variable {sound : σ → Prop} {started? : α → σ → Option Bool}
variable {discriminator : Discriminator}
variable {tracker later : Tracker α} {diary after : Diary σ α}
variable {value : String} {now : Nat} {child : α} {event : Event}

namespace Custody

theorem known_of_entry
    (custody : Custody sound started? discriminator tracker diary)
    {entry : String × Entry α}
    (member : entry ∈ tracker.entries) :
    (started? entry.2.component diary.state).isSome = true :=
  custody.known _ (custody.ours (Tracker.mem_held member))

/-- The entries matter only with their keys and children. -/
theorem reorder
    (custody : Custody sound started? discriminator tracker diary)
    (distinct : later.keys.Nodup)
    (perm :
      (Tracker.held later.entries).Perm (Tracker.held tracker.entries)) :
    Custody sound started? discriminator later diary where
  sound := custody.sound
  known := custody.known
  single := custody.single
  distinct := distinct
  ours := List.Subset.trans perm.subset custody.ours
  kept item made :=
    (custody.kept item made).imp_left fun tracked => perm.symm.subset tracked
  rests := custody.rests
  final := custody.final
  routed := custody.routed

/-! ## What can happen to children -/

theorem stop
    {state : σ}
    (custody : Custody sound started? discriminator tracker diary)
    (isSound : sound state)
    (stopped : started? child state = some false)
    (others :
      ∀ other,
        other ≠ child → started? other state = started? other diary.state) :
    Custody sound started? discriminator tracker
      (diary.note (.stopped child) state) := by
  have made : (diary.note (.stopped child) state).made = diary.made :=
    diary.made_note_of_none state rfl
  have given : (diary.note (.stopped child) state).given = diary.given :=
    diary.given_note_of_none state rfl
  refine
    { sound := isSound
      known := ?_
      single := made ▸ custody.single
      distinct := custody.distinct
      ours := made ▸ custody.ours
      kept := ?_
      rests := ?_
      final := ?_
      routed := ?_ }
  · intro item isMade
    rw [made] at isMade
    by_cases same : item.2 = child
    · rw [Diary.state_note, same]
      exact Option.isSome_iff_exists.mpr ⟨false, stopped⟩
    · rw [Diary.state_note, others item.2 same]
      exact custody.known item isMade
  · intro item isMade
    rw [made] at isMade
    exact
      (custody.kept item isMade).imp_right fun wasStopped =>
        List.mem_append_left _ wasStopped
  · intro other wasStopped
    by_cases same : other = child
    · exact same ▸ stopped
    · rw [Diary.state_note, others other same]
      apply custody.rests
      rcases List.mem_append.mp wasStopped with before | now
      · exact before
      · cases List.mem_singleton.mp now
        exact absurd rfl same
  · apply diary.pairwise_note state custody.final
    exact fun earlier _ => Deed.mayFollow_of_given? rfl earlier
  · rw [given, made]
    exact custody.routed

/-- A child that was stopped need not be tracked any more. -/
theorem release
    {key : String}
    {entry : Entry α}
    (custody : Custody sound started? discriminator tracker diary)
    (wasStopped : .stopped entry.component ∈ diary.deeds)
    (removed : tracker.entries.Perm ((key, entry) :: later.entries)) :
    Custody sound started? discriminator later diary := by
  have keys := (removed.map Prod.fst).nodup_iff.mp custody.distinct
  have fewer : later.entries ⊆ tracker.entries := fun other inside =>
    removed.symm.subset (List.mem_cons_of_mem _ inside)
  refine
    { sound := custody.sound
      known := custody.known
      single := custody.single
      distinct := (List.nodup_cons.mp keys).2
      ours := List.Subset.trans (Tracker.held_subset fewer) custody.ours
      kept := ?_
      rests := custody.rests
      final := custody.final
      routed := custody.routed }
  intro item made
  rcases custody.kept item made with tracked | stopped
  · rcases List.mem_map.mp tracked with ⟨other, inside, rfl⟩
    rcases List.mem_cons.mp (removed.subset inside) with rfl | remains
    · exact Or.inr wasStopped
    · exact Or.inl (Tracker.mem_held remains)
  · exact Or.inr stopped

theorem letGo
    {key : String}
    {entry : Entry α}
    (custody : Custody sound started? discriminator tracker diary)
    (obedient : operations.Obedient factory sound started?)
    (removed : tracker.entries.Perm ((key, entry) :: later.entries))
    (gone :
      (factory.clerk operations).letGo key entry.component diary =
        (.ok (), after)) :
    Custody sound started? discriminator later after ∧
      after.made = diary.made ∧ after.given = diary.given := by
  have member : (key, entry) ∈ tracker.entries :=
    removed.symm.subset List.mem_cons_self
  rcases obedient.exists_stop custody.sound (custody.known_of_entry member) with
    ⟨state, stops, isSound, stopped, others⟩
  rw [Operations.Obedient.letGo_eq key stops] at gone
  cases gone
  refine
    ⟨?_, diary.made_note_of_none state rfl,
      diary.given_note_of_none state rfl⟩
  apply (custody.stop isSound stopped others).release _ removed
  exact List.mem_append_right _ (List.mem_singleton_self _)

theorem letsGo
    {lets : String → Prop}
    (custody : Custody sound started? discriminator tracker diary)
    (obedient : operations.Obedient factory sound started?)
    (goes :
      Tracker.LetsGo (factory.clerk operations) lets tracker diary later
        after) :
    Custody sound started? discriminator later after ∧
      after.made = diary.made ∧ after.given = diary.given := by
  induction goes with
  | rests => exact ⟨custody, rfl, rfl⟩
  | live member _ gone _ ih =>
      rcases
          custody.letGo obedient
            (Tracker.entries_removeLive_perm custody.distinct member) gone with
        ⟨front, made, given⟩
      rcases ih front with ⟨back, stillMade, stillGiven⟩
      exact ⟨back, stillMade.trans made, stillGiven.trans given⟩
  | lingering member _ gone _ ih =>
      rcases
          custody.letGo obedient
            (Tracker.entries_removeLingering_perm custody.distinct member)
            gone with
        ⟨front, made, given⟩
      rcases ih front with ⟨back, stillMade, stillGiven⟩
      exact ⟨back, stillMade.trans made, stillGiven.trans given⟩

/-- A child that is made is tracked under its value. -/
theorem insert
    {state : σ}
    (custody : Custody sound started? discriminator tracker diary)
    (missing : tracker.find? value = none)
    (born : Born sound started? diary.state child state) :
    Custody sound started? discriminator
      (tracker.nextTurn.insert value child now)
      (diary.note (.made value child) state) := by
  have made :
      (diary.note (.made value child) state).made =
        diary.made ++ [(value, child)] :=
    diary.made_note _ state
  have given : (diary.note (.made value child) state).given = diary.given :=
    diary.given_note_of_none state rfl
  have isNew :
      ∀ item ∈ diary.made, item.2 ≠ child := by
    rintro item isMade rfl
    have known := custody.known item isMade
    rw [born.fresh] at known
    cases known
  have held :
      (Tracker.held (tracker.nextTurn.insert value child now).entries).Perm
        ((value, child) :: Tracker.held tracker.entries) :=
    (Tracker.entries_insert_perm child).map _
  refine
    { sound := born.sound
      known := ?_
      single := ?_
      distinct := Tracker.distinct_insert child custody.distinct missing
      ours := ?_
      kept := ?_
      rests := ?_
      final := ?_
      routed := ?_ }
  · intro item isMade
    rw [made] at isMade
    rcases List.mem_append.mp isMade with old | last
    · rw [Diary.state_note, born.others item.2 (isNew item old)]
      exact custody.known item old
    · rw [List.mem_singleton.mp last]
      exact born.known
  · rw [made, List.map_append, List.nodup_append]
    refine ⟨custody.single, List.nodup_singleton _, ?_⟩
    intro other old another last
    rcases List.mem_map.mp old with ⟨item, isMade, rfl⟩
    rw [List.map_singleton, List.mem_singleton] at last
    exact last ▸ isNew item isMade
  · intro item inside
    rw [made]
    rcases List.mem_cons.mp (held.subset inside) with rfl | old
    · exact List.mem_append_right _ (List.mem_singleton_self _)
    · exact List.mem_append_left _ (custody.ours old)
  · intro item isMade
    rw [made] at isMade
    rcases List.mem_append.mp isMade with old | last
    · rcases custody.kept item old with tracked | stopped
      · exact Or.inl (held.symm.subset (List.mem_cons_of_mem _ tracked))
      · exact Or.inr (List.mem_append_left _ stopped)
    · rw [List.mem_singleton.mp last]
      exact Or.inl (held.symm.subset List.mem_cons_self)
  · intro other wasStopped
    rcases List.mem_append.mp wasStopped with before | now
    · have stopped := custody.rests other before
      have differs : other ≠ child := by
        rintro rfl
        rw [born.fresh] at stopped
        cases stopped
      rw [Diary.state_note, born.others other differs]
      exact stopped
    · cases List.mem_singleton.mp now
  · apply diary.pairwise_note state custody.final
    exact fun earlier _ => Deed.mayFollow_of_given? rfl earlier
  · intro call isGiven
    rw [given] at isGiven
    rw [made]
    exact List.mem_append_left _ (custody.routed call isGiven)

/-- A child that is started gets an event of its value. -/
theorem give
    (custody : Custody sound started? discriminator tracker diary)
    (obedient : operations.Obedient factory sound started?)
    (isStarted : started? child diary.state = some true)
    (made : (discriminator.value event, child) ∈ diary.made) :
    Custody sound started? discriminator tracker
      (diary.note (.gave child event)
        (operations.append child event diary.state).2) := by
  rcases obedient.append event custody.sound isStarted with
    ⟨isSound, known, others⟩
  generalize (operations.append child event diary.state).2 = state
    at isSound known others ⊢
  have sameMade : (diary.note (.gave child event) state).made = diary.made :=
    diary.made_note_of_none state rfl
  have given :
      (diary.note (.gave child event) state).given =
        diary.given ++ [(child, event)] :=
    diary.given_note _ state
  have awake : .stopped child ∉ diary.deeds := by
    intro wasStopped
    have stopped := custody.rests child wasStopped
    rw [isStarted] at stopped
    cases stopped
  refine
    { sound := isSound
      known := ?_
      single := sameMade ▸ custody.single
      distinct := custody.distinct
      ours := sameMade ▸ custody.ours
      kept := ?_
      rests := ?_
      final := ?_
      routed := ?_ }
  · intro item isMade
    rw [sameMade] at isMade
    by_cases same : item.2 = child
    · rw [Diary.state_note, same]
      exact known
    · rw [Diary.state_note, others item.2 same]
      exact custody.known item isMade
  · intro item isMade
    rw [sameMade] at isMade
    exact
      (custody.kept item isMade).imp_right fun wasStopped =>
        List.mem_append_left _ wasStopped
  · intro other wasStopped
    rcases List.mem_append.mp wasStopped with before | now
    · have differs : other ≠ child := by
        rintro rfl
        exact awake before
      rw [Diary.state_note, others other differs]
      exact custody.rests other before
    · cases List.mem_singleton.mp now
  · apply diary.pairwise_note state custody.final
    rintro earlier before other offered rfl same
    cases same
    exact awake before
  · intro call isGiven
    rw [given] at isGiven
    rw [sameMade]
    rcases List.mem_append.mp isGiven with before | last
    · exact custody.routed call before
    · rw [List.mem_singleton.mp last]
      exact made

/-! ## What the tracker does -/

theorem allSafe
    (custody : Custody sound started? discriminator tracker diary) :
    Tracker.AllSafe
      (fun child diary =>
        sound diary.state ∧ (started? child diary.state).isSome = true)
      tracker diary :=
  fun _ member => ⟨custody.sound, custody.known_of_entry member⟩

/-- There is a child for each value, and it was made for this value. -/
theorem obtain
    (custody : Custody sound started? discriminator tracker diary)
    (obedient : operations.Obedient factory sound started?)
    (value : String)
    (now : Nat) :
    ∃ child later after,
      tracker.obtain (factory.clerk operations) value now diary =
          (.ok child, later, after) ∧
        Custody sound started? discriminator later after ∧
        (value, child) ∈ after.made ∧
        after.given = diary.given := by
  rcases obedient.exists_build value custody.sound with
    ⟨newborn, state, builds, born⟩
  have builtSafe
      (missing : tracker.find? value = none)
      (component : α)
      (next : Diary σ α)
      (built :
        (factory.clerk operations).build value diary = (.ok component, next)) :
      Tracker.AllSafe
        (fun child diary =>
          sound diary.state ∧ (started? child diary.state).isSome = true)
        (tracker.nextTurn.insert value component now) next := by
    rw [builds] at built
    cases built
    exact (custody.insert missing born).allSafe
  have step :=
    Tracker.obtainStep_obtain value now obedient.composed builtSafe
  generalize tracker.obtain (factory.clerk operations) value now diary = result
    at step
  rcases result with ⟨outcome, later, after⟩
  cases step with
  | touched found step =>
      have keys : later.keys = tracker.keys := step.keys
      have held :
          Tracker.held later.entries = Tracker.held tracker.entries :=
        step.held_entries
      refine ⟨_, later, _, rfl, ?_, ?_, rfl⟩
      · exact custody.reorder (keys ▸ custody.distinct) (.of_eq held)
      · exact custody.ours (Tracker.mem_held_of_find? found)
  | refused missing refused =>
      rw [builds] at refused
      cases refused
  | built missing built step =>
      rw [builds] at built
      cases built
      have goes :
          Tracker.LetsGo (factory.clerk operations) (fun _ => True) _ _ later
            after :=
        step.letsGo fun _ _ _ => True.intro
      rcases (custody.insert missing born).letsGo obedient goes with
        ⟨inCustody, made, given⟩
      refine ⟨_, later, after, rfl, inCustody, ?_, ?_⟩
      · rw [made, Diary.made_note]
        exact List.mem_append_right _ (List.mem_singleton_self _)
      · rw [given]
        exact diary.given_note_of_none state rfl

theorem endLife
    (custody : Custody sound started? discriminator tracker diary)
    (value : String) :
    Custody sound started? discriminator (tracker.endLife value) diary := by
  have perm : (tracker.endLife value).entries.Perm tracker.entries :=
    Tracker.entries_endLife_perm custody.distinct
  exact
    custody.reorder ((perm.map Prod.fst).nodup_iff.mpr custody.distinct)
      (perm.map _)

theorem sweep
    (custody : Custody sound started? discriminator tracker diary)
    (obedient : operations.Obedient factory sound started?)
    (now : Nat) :
    ∃ outcome later after,
      tracker.sweep (factory.clerk operations) now diary =
          (outcome, later, after) ∧
        Custody sound started? discriminator later after ∧
        after.made = diary.made ∧
        after.given = diary.given := by
  rcases
      Tracker.letsGo_sweep (fun _ => True) now obedient.composed
        custody.distinct custody.allSafe (fun _ _ => True.intro)
        (fun _ _ _ => True.intro) (fun _ _ _ => True.intro) with
    ⟨outcome, later, after, swept, goes, _⟩
  have distinct : (tracker.beforeSweep now).keys.Nodup := by
    rw [Tracker.keys_beforeSweep]
    exact custody.distinct
  have held :
      Tracker.held (tracker.beforeSweep now).entries =
        Tracker.held tracker.entries := by
    rw [Tracker.entries_beforeSweep]
  have begun := custody.reorder distinct (.of_eq held)
  exact ⟨outcome, later, after, swept, begun.letsGo obedient goes⟩

end Custody

/-! ## What the sifting appender does -/

/-- An event is given to one child at most, and nothing else is given. -/
def Diary.GivesOnce (event : Event) (diary after : Diary σ α) : Prop :=
  after.given = diary.given ∨
    ∃ child, after.given = diary.given ++ [(child, event)]

namespace Custody

theorem pass
    (custody : Custody sound started? discriminator tracker diary)
    (obedient : operations.Obedient factory sound started?)
    (made : (discriminator.value event, child) ∈ diary.made) :
    ∃ outcome after,
      Sifting.pass operations.noted child event diary = (outcome, after) ∧
        Custody sound started? discriminator tracker after ∧
        diary.GivesOnce event after := by
  rcases Option.isSome_iff_exists.mp (custody.known _ made) with
    ⟨started, isStarted⟩
  have asks : operations.noted.isStarted child diary = .ok started :=
    obedient.isStarted isStarted
  rw [Sifting.pass, asks]
  cases started with
  | false => exact ⟨_, diary, rfl, custody, Or.inl rfl⟩
  | true =>
      refine ⟨_, _, rfl, custody.give obedient isStarted made, Or.inr ⟨child, ?_⟩⟩
      exact diary.given_note (.gave child event) _

/-- An event that is appended is given to one child at most. -/
theorem append
    {sifting : Sifting α}
    (custody :
      Custody sound started? sifting.discriminator sifting.tracker diary)
    (obedient : operations.Obedient factory sound started?)
    (event : Event) :
    ∃ outcome tracker after,
      sifting.append operations.noted (factory.noted operations) event diary =
          (outcome, { sifting with tracker }, after) ∧
        Custody sound started? sifting.discriminator tracker after ∧
        diary.GivesOnce event after := by
  rw [Sifting.append]
  by_cases isStarted : sifting.started = true
  · rw [if_pos isStarted]
    dsimp only
    rcases
        custody.obtain obedient (sifting.discriminator.value event)
          event.millis with
      ⟨child, between, next, obtains, inCustody, made, given⟩
    rw [obtains]
    dsimp only
    generalize ended :
      (if event.isFinal = true then
        between.endLife (sifting.discriminator.value event)
      else between) = tracker
    have afterEnd :
        Custody sound started? sifting.discriminator tracker next := by
      subst ended
      split
      · exact inCustody.endLife _
      · exact inCustody
    rcases afterEnd.sweep obedient event.millis with
      ⟨outcome, later, swept, sweeps, stillInCustody, stillMade, stillGiven⟩
    have before : swept.given = diary.given := stillGiven.trans given
    rw [sweeps]
    cases outcome with
    | error message =>
        exact ⟨_, later, swept, rfl, stillInCustody, Or.inl before⟩
    | ok =>
        rcases stillInCustody.pass obedient (stillMade ▸ made) with
          ⟨outcome, after, passes, atLast, once⟩
        dsimp only
        rw [passes]
        rw [Diary.GivesOnce, before] at once
        exact ⟨_, later, after, rfl, atLast, once⟩
  · rw [if_neg isStarted]
    exact ⟨_, sifting.tracker, diary, rfl, custody, Or.inl rfl⟩

theorem stopChildren
    (custody : Custody sound started? discriminator tracker diary)
    (obedient : operations.Obedient factory sound started?)
    (children : List α)
    (ours : ∀ child ∈ children, ∃ value, (value, child) ∈ diary.made) :
    ∃ after,
      Sifting.stopChildren operations.noted children diary = (.ok (), after) ∧
        Custody sound started? discriminator tracker after ∧
        after.given = diary.given ∧
        diary.deeds ⊆ after.deeds ∧
        ∀ child ∈ children, .stopped child ∈ after.deeds := by
  induction children generalizing diary with
  | nil =>
      exact
        ⟨diary, rfl, custody, rfl, List.Subset.refl _, fun _ inside =>
          nomatch inside⟩
  | cons child rest ih =>
      rcases ours child List.mem_cons_self with ⟨value, made⟩
      rcases obedient.exists_stop custody.sound (custody.known _ made) with
        ⟨state, stops, isSound, stopped, others⟩
      have sameMade : (diary.note (.stopped child) state).made = diary.made :=
        diary.made_note_of_none state rfl
      rcases
          ih (custody.stop isSound stopped others) (fun other inside =>
            sameMade ▸ ours other (List.mem_cons_of_mem _ inside)) with
        ⟨after, stopsRest, inCustody, given, grows, restStopped⟩
      refine
        ⟨after, ?_, inCustody,
          given.trans (diary.given_note_of_none state rfl),
          List.Subset.trans (List.subset_append_left _ _) grows, ?_⟩
      · rw [Sifting.stopChildren, stops]
        exact stopsRest
      · intro other inside
        rcases List.mem_cons.mp inside with rfl | later
        · exact grows (List.mem_append_right _ (List.mem_singleton_self _))
        · exact restStopped other later

/-- After a stop none of all children that were made is started. -/
theorem stopAll
    {sifting : Sifting α}
    (custody :
      Custody sound started? sifting.discriminator sifting.tracker diary)
    (obedient : operations.Obedient factory sound started?) :
    ∃ after,
      sifting.stop operations.noted diary =
          (.ok (), { sifting with started := false }, after) ∧
        Custody sound started? sifting.discriminator sifting.tracker after ∧
        after.given = diary.given ∧
        ∀ item ∈ after.made, started? item.2 after.state = some false := by
  have ours :
      ∀ child ∈ sifting.tracker.components,
        ∃ value, (value, child) ∈ diary.made := by
    intro child inside
    rcases List.mem_map.mp inside with ⟨entry, tracked, rfl⟩
    exact ⟨entry.1, custody.ours (Tracker.mem_held tracked)⟩
  rcases custody.stopChildren obedient sifting.tracker.components ours with
    ⟨after, stops, inCustody, given, _, stopped⟩
  refine ⟨after, ?_, inCustody, given, ?_⟩
  · rw [Sifting.stop, stops]
  · intro item made
    apply inCustody.rests
    rcases inCustody.kept item made with tracked | wasStopped
    · rcases List.mem_map.mp tracked with ⟨entry, inside, rfl⟩
      exact stopped _ (List.mem_map_of_mem inside)
    · exact wasStopped

end Custody

namespace Sifting

/-! ## Courses of sifting appenders -/

/-- What an action may give to children: an event that is appended, to one of them. -/
def Action.GivesOnce
    (action : Action)
    (diary after : Diary σ α) : Prop :=
  match action with
  | .append event => diary.GivesOnce event after
  | .stop => after.given = diary.given
  | .start => after.given = diary.given

/-- What is true of a sifting appender that has custody of its children. -/
structure InCustody
    (sound : σ → Prop)
    (started? : α → σ → Option Bool)
    (discriminator : Discriminator)
    (situation : Sifting α × Diary σ α) : Prop where
  discriminator_eq : situation.1.discriminator = discriminator
  custody :
    Custody sound started? discriminator situation.1.tracker situation.2

variable {situation : Sifting α × Diary σ α}

theorem InCustody.act
    (inCustody : InCustody sound started? discriminator situation)
    (obedient : operations.Obedient factory sound started?)
    (action : Action) :
    InCustody sound started? discriminator
        (act operations.noted (factory.noted operations) situation action) ∧
      action.GivesOnce situation.2
        (act operations.noted (factory.noted operations) situation action).2 := by
  rcases situation with ⟨sifting, diary⟩
  rcases inCustody with ⟨rfl, custody⟩
  cases action with
  | append event =>
      rcases custody.append obedient event with
        ⟨outcome, tracker, after, appends, stillInCustody, once⟩
      have goes :
          Sifting.act operations.noted (factory.noted operations)
              (sifting, diary) (.append event) =
            ({ sifting with tracker }, after) :=
        congrArg Prod.snd appends
      rw [goes]
      exact ⟨⟨rfl, stillInCustody⟩, once⟩
  | stop =>
      rcases custody.stopAll obedient with
        ⟨after, stops, stillInCustody, given, _⟩
      have goes :
          Sifting.act operations.noted (factory.noted operations)
              (sifting, diary) .stop =
            ({ sifting with started := false }, after) :=
        congrArg Prod.snd stops
      rw [goes]
      exact ⟨⟨rfl, stillInCustody⟩, given⟩
  | start => exact ⟨⟨rfl, custody⟩, rfl⟩

theorem InCustody.play
    (inCustody : InCustody sound started? discriminator situation)
    (obedient : operations.Obedient factory sound started?)
    (actions : List Action) :
    InCustody sound started? discriminator
      (play operations.noted (factory.noted operations) situation actions) := by
  induction actions generalizing situation with
  | nil => exact inCustody
  | cons action rest ih => exact ih (inCustody.act obedient action).1

/-- None of all children that were made is started after a stop. -/
theorem InCustody.isStarted_stop
    (inCustody : InCustody sound started? discriminator situation)
    (obedient : operations.Obedient factory sound started?)
    {item : String × α}
    (made :
      item ∈
        (Sifting.act operations.noted (factory.noted operations) situation
            .stop).2.made) :
    operations.isStarted item.2
        (Sifting.act operations.noted (factory.noted operations) situation
            .stop).2.state =
      .ok false := by
  rcases situation with ⟨sifting, diary⟩
  rcases inCustody with ⟨rfl, custody⟩
  rcases custody.stopAll obedient with ⟨after, stops, _, _, stopped⟩
  have goes :
      Sifting.act operations.noted (factory.noted operations) (sifting, diary)
          .stop =
        ({ sifting with started := false }, after) :=
    congrArg Prod.snd stops
  rw [goes] at made ⊢
  exact obedient.isStarted (stopped item made)

/-- The events that are given to children are among those that are appended, in order. -/
theorem InCustody.sublist_appended
    (inCustody : InCustody sound started? discriminator situation)
    (obedient : operations.Obedient factory sound started?)
    (nothing : situation.2.given = [])
    (actions : List Action) :
    ((Sifting.play operations.noted (factory.noted operations) situation
            actions).2.given.map Prod.snd).Sublist
      (appended actions) := by
  -- From the end: each action gives no more than the event that it appends.
  induction actions using List.reverseRecOn with
  | nil =>
      show (situation.2.given.map Prod.snd).Sublist (appended [])
      rw [nothing]
      exact List.nil_sublist _
  | append_singleton actions action ih =>
      rw [play_concat, appended_concat]
      have there := inCustody.play obedient actions
      have once := (there.act obedient action).2
      generalize
        Sifting.act operations.noted (factory.noted operations)
          (Sifting.play operations.noted (factory.noted operations) situation
            actions) action = later at once ⊢
      have rest
          (given :
            later.2.given =
              (Sifting.play operations.noted (factory.noted operations)
                situation actions).2.given) :
          (later.2.given.map Prod.snd).Sublist
            (appended actions ++ appended [action]) := by
        rw [given]
        exact ih.trans (List.sublist_append_left _ _)
      cases action with
      | append event =>
          rcases once with given | ⟨child, given⟩
          · exact rest given
          · rw [given, List.map_append]
            exact ih.append (.refl _)
      | stop => exact rest once
      | start => exact rest once

theorem inCustody_create
    {state : σ}
    (isSound : sound state)
    (name : String)
    (discriminator : Discriminator)
    (timeout maxChildren : Option Nat) :
    InCustody sound started? discriminator
      (create name discriminator timeout maxChildren,
        (.begin state : Diary σ α)) where
  discriminator_eq := rfl
  custody :=
    { sound := isSound
      known := fun _ inside => nomatch inside
      single := List.nodup_nil
      distinct := List.nodup_nil
      ours := List.nil_subset _
      kept := fun _ inside => nomatch inside
      rests := fun _ inside => nomatch inside
      final := .nil
      routed := fun _ inside => nomatch inside }

/-- What is left after some actions, where all is written down from the beginning. -/
def chronicle
    (operations : Operations σ α)
    (factory : ChildFactory σ α)
    (sifting : Sifting α)
    (state : σ)
    (actions : List Action) : Sifting α × Diary σ α :=
  play operations.noted (factory.noted operations) (sifting, .begin state)
    actions

/-- What is true of the children of a sifting appender after some actions. -/
structure WellKept
    (operations : Operations σ α)
    (factory : ChildFactory σ α)
    (sifting : Sifting α)
    (state : σ)
    (actions : List Action) : Prop where
  /-- Nothing is done in another way because it is written down. -/
  same :
    play operations factory (sifting, state) actions =
      plain Diary.state (chronicle operations factory sifting state actions)
  /-- No child is made twice, for one value or for two. -/
  single :
    ((chronicle operations factory sifting state actions).2.made.map
      Prod.snd).Nodup
  /-- Each child that was made is tracked for its value, or it was stopped. -/
  kept :
    ∀ item ∈ (chronicle operations factory sifting state actions).2.made,
      item ∈
          Tracker.held
            (chronicle operations factory sifting state
              actions).1.tracker.entries ∨
        .stopped item.2 ∈
          (chronicle operations factory sifting state actions).2.deeds
  /-- Each event was given to a child that was made for its value. -/
  routed :
    ∀ call ∈ (chronicle operations factory sifting state actions).2.given,
      (sifting.discriminator.value call.2, call.1) ∈
        (chronicle operations factory sifting state actions).2.made
  /-- Nothing was given to a child after it was stopped. -/
  final :
    (chronicle operations factory sifting state actions).2.deeds.Pairwise
      Deed.MayFollow
  /-- Events were given in the order in which they were appended. -/
  ordered :
    ((chronicle operations factory sifting state actions).2.given.map
      Prod.snd).Sublist (appended actions)
  /-- The next action gives its event to one child at most. -/
  once :
    ∀ action : Action,
      action.GivesOnce (chronicle operations factory sifting state actions).2
        (chronicle operations factory sifting state (actions ++ [action])).2
  /-- After a stop none of all children that were made is started. -/
  stopped :
    ∀ item ∈
      (chronicle operations factory sifting state (actions ++ [.stop])).2.made,
      operations.isStarted item.2
          (chronicle operations factory sifting state
            (actions ++ [.stop])).2.state =
        .ok false

/--
A sifting appender with obedient children is appended to, stopped and started at
any times.  It gives each event to one child at most, in the order in which the
events are appended, and only to a child that was made for the value of the
event and that was not stopped before.  After a stop none of all the children
that were made is started.
-/
theorem kept_in_custody
    {state : σ}
    (obedient : operations.Obedient factory sound started?)
    (isSound : sound state)
    (name : String)
    (discriminator : Discriminator)
    (timeout maxChildren : Option Nat)
    (actions : List Action) :
    WellKept operations factory
      (create name discriminator timeout maxChildren) state actions := by
  have begun :
      InCustody sound started? discriminator
        (create name discriminator timeout maxChildren,
          (.begin state : Diary σ α)) :=
    inCustody_create isSound name discriminator timeout maxChildren
  have there := begun.play obedient actions
  constructor
  · exact (Mirror.noted operations factory).play (_, .begin state) actions
  · exact there.custody.single
  · exact there.custody.kept
  · exact there.custody.routed
  · exact there.custody.final
  · exact begun.sublist_appended obedient rfl actions
  · intro action
    rw [chronicle, chronicle, play_concat]
    exact (there.act obedient action).2
  · intro item made
    rw [chronicle, play_concat] at made ⊢
    exact there.isStarted_stop obedient made

section Memory

open Installation

/--
There is room for one child, and none can be made for `b`.  What stands for it
goes at once, or makes the child for `a` go, which is made again after that.
-/
theorem kept_in_custody_unavailable :
    let children := childFactory (scarceChildren ["b"])
    let sifting := create defaultName byUser none (some 1)
    let actions :=
      [.append (userEvent "a" 1000), .append (userEvent "b" 500),
        .append (userEvent "b" 2000), .append (userEvent "a" 3000), .stop,
        .start, .append (userEvent "a" 3500)]
    let seen :=
      chronicle Installation.operations.withIdle children sifting emptySite actions
    problem? (some byUser) true (some 1) = none ∧
      Nest.IsSound HasDepth emptySite ∧
      WellKept Installation.operations.withIdle children sifting emptySite actions ∧
      seen.2.made =
        [("a", .made 0), ("b", .idle 0), ("b", .idle 1), ("a", .made 1)] ∧
      seen.2.given =
        [(.made 0, userEvent "a" 1000), (.idle 1, userEvent "b" 2000),
          (.made 1, userEvent "a" 3000)] := by
  intro children sifting actions seen
  have hasDepth : Nest.IsSound HasDepth emptySite := Nat.zero_lt_one
  exact
    ⟨rfl, hasDepth,
      kept_in_custody (docile_scarce ["b"]).obedient hasDepth defaultName byUser
        none (some 1) actions,
      by decide +kernel, by decide +kernel⟩

end Memory

end Sifting

end LogPipeline
