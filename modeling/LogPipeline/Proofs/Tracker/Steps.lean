import LogPipeline.Proofs.Tracker.Entries
import LogPipeline.Tracker.Keeper

/-!
# Steps of trackers

Whatever a tracker does to make room, it lets components go one after the other:
each is disposed of while it is still tracked, and its entry is removed then.
So the entries that remain are some of those there were, and a sweep lets no
component go that is neither too old nor called stale, unless there are more
live components than there may be.

Obtaining the component of a key uses the one there is.  Only if there is none
is one built, and then the oldest live component may have to go for it, which
can be the one just built.
-/

namespace LogPipeline

variable {σ α : Type}

/--
Components that are safe can be let go, and that leaves the others safe.
-/
structure Keeper.Composed
    (keeper : Keeper σ α)
    (safe : α → σ → Prop) : Prop where
  letGo
    (key : String)
    {component : α}
    {state : σ}
    (isSafe : safe component state) :
    ∃ after,
      keeper.letGo key component state = (.ok (), after) ∧
        ∀ other, safe other state → safe other after

namespace Tracker

/-- Components are let go one after the other, under some keys only. -/
inductive LetsGo
    (keeper : Keeper σ α)
    (lets : String → Prop) :
    Tracker α → σ → Tracker α → σ → Prop where
  | rests (tracker : Tracker α) (state : σ) :
      LetsGo keeper lets tracker state tracker state
  | live
      {tracker later : Tracker α}
      {state next after : σ}
      {key : String}
      {entry : Entry α}
      (member : (key, entry) ∈ tracker.live)
      (allowed : lets key)
      (gone : keeper.letGo key entry.component state = (.ok (), next))
      (others : LetsGo keeper lets (tracker.removeLive key) next later after) :
      LetsGo keeper lets tracker state later after
  | lingering
      {tracker later : Tracker α}
      {state next after : σ}
      {key : String}
      {entry : Entry α}
      (member : (key, entry) ∈ tracker.lingering)
      (allowed : lets key)
      (gone : keeper.letGo key entry.component state = (.ok (), next))
      (others :
        LetsGo keeper lets (tracker.removeLingering key) next later after) :
      LetsGo keeper lets tracker state later after

variable {keeper : Keeper σ α} {safe : α → σ → Prop} {lets : String → Prop}
variable {tracker later last : Tracker α} {state after final : σ}
variable {now : Nat}

/-- All components that a tracker knows are safe. -/
def AllSafe
    (safe : α → σ → Prop)
    (tracker : Tracker α)
    (state : σ) : Prop :=
  ∀ entry ∈ tracker.entries, safe entry.2.component state

/-- Letting go of one component leaves what remains safe. -/
theorem AllSafe.letGo
    {key : String}
    {entry : Entry α}
    (allSafe : AllSafe safe tracker state)
    (composed : keeper.Composed safe)
    (member : (key, entry) ∈ tracker.entries)
    (fewer : later.entries ⊆ tracker.entries) :
    ∃ next,
      keeper.letGo key entry.component state = (.ok (), next) ∧
        AllSafe safe later next := by
  rcases composed.letGo key (allSafe _ member) with ⟨next, gone, keeps⟩
  refine ⟨next, gone, ?_⟩
  intro other inside
  exact keeps _ (allSafe other (fewer inside))

theorem entries_removeLive_subset (key : String) :
    (tracker.removeLive key).entries ⊆ tracker.entries :=
  (removeEntry_sublist.append_right _).subset

theorem entries_removeLingering_subset (key : String) :
    (tracker.removeLingering key).entries ⊆ tracker.entries :=
  (removeEntry_sublist.append_left _).subset

namespace LetsGo

theorem trans
    (front : LetsGo keeper lets tracker state later after)
    (back : LetsGo keeper lets later after last final) :
    LetsGo keeper lets tracker state last final := by
  induction front with
  | rests => exact back
  | live member allowed gone _ ih => exact .live member allowed gone (ih back)
  | lingering member allowed gone _ ih =>
      exact .lingering member allowed gone (ih back)

theorem sublist
    (letsGo : LetsGo keeper lets tracker state later after) :
    later.live.Sublist tracker.live ∧
      later.lingering.Sublist tracker.lingering := by
  induction letsGo with
  | rests => exact ⟨.refl _, .refl _⟩
  | live _ _ _ _ ih => exact ⟨ih.1.trans removeEntry_sublist, ih.2⟩
  | lingering _ _ _ _ ih => exact ⟨ih.1, ih.2.trans removeEntry_sublist⟩

theorem entries_sublist
    (letsGo : LetsGo keeper lets tracker state later after) :
    later.entries.Sublist tracker.entries :=
  letsGo.sublist.1.append letsGo.sublist.2

theorem settings
    (letsGo : LetsGo keeper lets tracker state later after) :
    later.settings = tracker.settings := by
  induction letsGo with
  | rests => rfl
  | live _ _ _ _ ih => exact ih
  | lingering _ _ _ _ ih => exact ih

theorem turn
    (letsGo : LetsGo keeper lets tracker state later after) :
    later.turn = tracker.turn := by
  induction letsGo with
  | rests => rfl
  | live _ _ _ _ ih => exact ih
  | lingering _ _ _ _ ih => exact ih

theorem distinct
    (letsGo : LetsGo keeper lets tracker state later after)
    (distinct : tracker.keys.Nodup) :
    later.keys.Nodup :=
  (letsGo.entries_sublist.map Prod.fst).nodup distinct

/-- What must not be let go stays as it is. -/
theorem mem_of_not_lets
    {entry : String × Entry α}
    (letsGo : LetsGo keeper lets tracker state later after)
    (member : entry ∈ tracker.entries)
    (kept : ¬ lets entry.1) :
    entry ∈ later.entries := by
  have others
      {key : String}
      {entries : List (String × Entry α)}
      (allowed : lets key)
      (inside : entry ∈ entries) :
      entry ∈ removeEntry key entries :=
    mem_removeEntry.mpr ⟨inside, fun same => kept (same ▸ allowed)⟩
  induction letsGo with
  | rests => exact member
  | live _ allowed _ _ ih =>
      apply ih
      rcases List.mem_append.mp member with isLive | lingers
      · exact List.mem_append_left _ (others allowed isLive)
      · exact List.mem_append_right _ lingers
  | lingering _ allowed _ _ ih =>
      apply ih
      rcases List.mem_append.mp member with isLive | lingers
      · exact List.mem_append_left _ isLive
      · exact List.mem_append_right _ (others allowed lingers)

theorem allSafe
    (letsGo : LetsGo keeper lets tracker state later after)
    (composed : keeper.Composed safe)
    (allSafe : AllSafe safe tracker state) :
    AllSafe safe later after := by
  induction letsGo with
  | rests => exact allSafe
  | live member _ gone _ ih =>
      rcases
          allSafe.letGo composed (List.mem_append_left _ member)
            (entries_removeLive_subset _) with
        ⟨next, goes, fewer⟩
      rw [gone] at goes
      cases goes
      exact ih fewer
  | lingering member _ gone _ ih =>
      rcases
          allSafe.letGo composed (List.mem_append_right _ member)
            (entries_removeLingering_subset _) with
        ⟨next, goes, fewer⟩
      rw [gone] at goes
      cases goes
      exact ih fewer

end LetsGo

/-! ## Letting go of a list of components -/

/-- What is apart from a component that is let go is held on. -/
theorem subset_held_removeEntry
    {entries : List (String × Entry α)}
    {item : String × α}
    {items : List (String × α)}
    (apart : item.1 ∉ items.map Prod.fst)
    (among : item :: items ⊆ held entries) :
    items ⊆ held (removeEntry item.1 entries) := by
  intro other inside
  rcases List.mem_map.mp (among (List.mem_cons_of_mem _ inside)) with
    ⟨entry, member, rfl⟩
  refine List.mem_map_of_mem (mem_removeEntry.mpr ⟨member, ?_⟩)
  intro same
  exact apart (same ▸ List.mem_map_of_mem inside)

theorem letsGo_letGoLive
    {items : List (String × α)}
    (composed : keeper.Composed safe)
    (allSafe : AllSafe safe tracker state)
    (apart : (items.map Prod.fst).Nodup)
    (among : items ⊆ held tracker.live)
    (allowed : ∀ item ∈ items, lets item.1) :
    ∃ later after,
      letGoLive keeper items tracker state = (.ok (), later, after) ∧
        LetsGo keeper lets tracker state later after := by
  induction items generalizing tracker state with
  | nil => exact ⟨tracker, state, rfl, .rests tracker state⟩
  | cons item rest ih =>
      rcases item with ⟨key, component⟩
      rw [List.map_cons, List.nodup_cons] at apart
      rcases exists_of_mem_held (among List.mem_cons_self) with
        ⟨entry, member, rfl⟩
      rcases
          allSafe.letGo composed (List.mem_append_left _ member)
            (entries_removeLive_subset key) with
        ⟨next, gone, fewer⟩
      rcases ih fewer apart.2 (subset_held_removeEntry apart.1 among)
          (fun item inside => allowed item (List.mem_cons_of_mem _ inside)) with
        ⟨later, after, goes, letsGo⟩
      refine ⟨later, after, ?_, ?_⟩
      · rw [letGoLive, gone]
        exact goes
      · exact .live member (allowed _ List.mem_cons_self) gone letsGo

theorem letsGo_letGoLingering
    {items : List (String × α)}
    (composed : keeper.Composed safe)
    (allSafe : AllSafe safe tracker state)
    (apart : (items.map Prod.fst).Nodup)
    (among : items ⊆ held tracker.lingering)
    (allowed : ∀ item ∈ items, lets item.1) :
    ∃ later after,
      letGoLingering keeper items tracker state = (.ok (), later, after) ∧
        LetsGo keeper lets tracker state later after := by
  induction items generalizing tracker state with
  | nil => exact ⟨tracker, state, rfl, .rests tracker state⟩
  | cons item rest ih =>
      rcases item with ⟨key, component⟩
      rw [List.map_cons, List.nodup_cons] at apart
      rcases exists_of_mem_held (among List.mem_cons_self) with
        ⟨entry, member, rfl⟩
      rcases
          allSafe.letGo composed (List.mem_append_right _ member)
            (entries_removeLingering_subset key) with
        ⟨next, gone, fewer⟩
      rcases ih fewer apart.2 (subset_held_removeEntry apart.1 among)
          (fun item inside => allowed item (List.mem_cons_of_mem _ inside)) with
        ⟨later, after, goes, letsGo⟩
      refine ⟨later, after, ?_, ?_⟩
      · rw [letGoLingering, gone]
        exact goes
      · exact .lingering member (allowed _ List.mem_cons_self) gone letsGo

/-! ## Making room -/

theorem evict_of_not_isOverfull
    (room : ¬ tracker.isOverfull = true) :
    evict keeper tracker state = (.ok (), tracker, state) := by
  rw [evict, if_neg room]

/-- How a tracker makes room for a component too many. -/
inductive EvictStep
    (keeper : Keeper σ α)
    (tracker : Tracker α)
    (state : σ) :
    Tracker α → σ → Prop where
  | roomy (room : ¬ tracker.isOverfull = true) :
      EvictStep keeper tracker state tracker state
  | evicted
      {oldest : String × Entry α}
      {after : σ}
      (crowded : tracker.isOverfull = true)
      (found : oldestOf tracker.live = some oldest)
      (gone :
        keeper.letGo oldest.1 oldest.2.component state = (.ok (), after)) :
      EvictStep keeper tracker state (tracker.removeLive oldest.1) after

theorem evictStep_evict
    (composed : keeper.Composed safe)
    (allSafe : AllSafe safe tracker state) :
    ∃ later after,
      evict keeper tracker state = (.ok (), later, after) ∧
        EvictStep keeper tracker state later after := by
  by_cases crowded : tracker.isOverfull = true
  · cases found : oldestOf tracker.live with
    | none =>
        rw [isOverfull, oldestOf_eq_none_iff.mp found] at crowded
        simp at crowded
    | some oldest =>
        have member := List.mem_append_left tracker.lingering (mem_of_oldestOf found)
        rcases composed.letGo oldest.1 (allSafe oldest member) with
          ⟨after, gone, _⟩
        refine ⟨_, after, ?_, .evicted crowded found gone⟩
        rw [evict, if_pos crowded, oldest?, found]
        simp only [Option.map_some, Option.toList_some, letGoLive, gone]
  · exact
      ⟨tracker, state, evict_of_not_isOverfull crowded, .roomy crowded⟩

theorem EvictStep.letsGo
    (step : EvictStep keeper tracker state later after)
    (allowed :
      tracker.isOverfull = true →
        ∀ oldest, oldestOf tracker.live = some oldest → lets oldest.1) :
    LetsGo keeper lets tracker state later after := by
  cases step with
  | roomy => exact .rests tracker state
  | evicted crowded found gone =>
      exact
        .live (mem_of_oldestOf found) (allowed crowded _ found) gone
          (.rests _ _)

/-- A component that was added to others is not one too many after that. -/
theorem EvictStep.not_isOverfull
    {key : String}
    {component : α}
    (step :
      EvictStep keeper (tracker.insert key component now) state later after)
    (distinct : (tracker.insert key component now).keys.Nodup)
    (fits : ¬ tracker.isOverfull = true) :
    ¬ later.isOverfull = true := by
  cases step with
  | roomy room => exact room
  | evicted crowded found gone =>
      have shorter := length_removeLive distinct (mem_of_oldestOf found)
      have length :
          (tracker.insert key component now).live.length =
            tracker.live.length + 1 :=
        List.length_append
      rw [isOverfull, decide_eq_true_iff] at fits ⊢
      rw [length] at shorter
      exact Nat.succ.inj shorter ▸ fits

theorem evictAll_of_not_isOverfull
    (bound : Nat)
    (room : ¬ tracker.isOverfull = true) :
    evictAll keeper bound tracker state = (.ok (), tracker, state) := by
  induction bound with
  | zero => rfl
  | succ bound ih =>
      rw [evictAll, evict_of_not_isOverfull room]
      exact ih

theorem letsGo_evictAll
    (composed : keeper.Composed safe)
    (allSafe : AllSafe safe tracker state)
    (bound : Nat)
    (allowed : tracker.isOverfull = true → ∀ key, lets key) :
    ∃ later after,
      evictAll keeper bound tracker state = (.ok (), later, after) ∧
        LetsGo keeper lets tracker state later after := by
  by_cases overfull : tracker.isOverfull = true
  · have any := allowed overfull
    clear overfull allowed
    induction bound generalizing tracker state with
    | zero => exact ⟨tracker, state, rfl, .rests tracker state⟩
    | succ bound ih =>
        rcases evictStep_evict composed allSafe with
          ⟨next, between, evicts, step⟩
        have front := step.letsGo fun _ oldest _ => any oldest.1
        rcases ih (front.allSafe composed allSafe) with
          ⟨later, after, goes, back⟩
        refine ⟨later, after, ?_, front.trans back⟩
        rw [evictAll, evicts]
        exact goes
  · exact
      ⟨tracker, state, evictAll_of_not_isOverfull bound overfull,
        .rests tracker state⟩

/-! ## Obtaining -/

/-- How the component of a key is obtained. -/
inductive ObtainStep
    (keeper : Keeper σ α)
    (tracker : Tracker α)
    (key : String)
    (now : Nat)
    (state : σ) :
    Guarded α → Tracker α → σ → Prop where
  | touched
      {component : α}
      {later : Tracker α}
      (found : tracker.find? key = some component)
      (step : TouchStep tracker.nextTurn key now component later) :
      ObtainStep keeper tracker key now state (.ok component) later state
  | refused
      {message : String}
      {after : σ}
      (missing : tracker.find? key = none)
      (refused : keeper.build key state = (.error message, after)) :
      ObtainStep keeper tracker key now state (.error message)
        tracker.nextTurn after
  | built
      {component : α}
      {later : Tracker α}
      {next after : σ}
      (missing : tracker.find? key = none)
      (built : keeper.build key state = (.ok component, next))
      (step :
        EvictStep keeper (tracker.nextTurn.insert key component now) next
          later after) :
      ObtainStep keeper tracker key now state (.ok component) later after

theorem obtainStep_obtain
    (key : String)
    (now : Nat)
    (composed : keeper.Composed safe)
    (builtSafe :
      tracker.find? key = none →
        ∀ component next,
          keeper.build key state = (.ok component, next) →
            AllSafe safe (tracker.nextTurn.insert key component now) next) :
    ObtainStep keeper tracker key now state
      (tracker.obtain keeper key now state).1
      (tracker.obtain keeper key now state).2.1
      (tracker.obtain keeper key now state).2.2 := by
  rw [obtain]
  cases touched : tracker.nextTurn.touch? key now with
  | some result =>
      rcases result with ⟨component, later⟩
      rcases touchStep_of_touch? touched with ⟨step, found⟩
      exact .touched found step
  | none =>
      have missing : tracker.nextTurn.find? key = none := find?_of_touch? touched
      dsimp only
      rw [create]
      cases built : keeper.build key state with
      | mk outcome next =>
          cases outcome with
          | error message => exact .refused missing built
          | ok component =>
              rcases
                  evictStep_evict composed
                    (builtSafe missing component next built) with
                ⟨later, after, evicts, step⟩
              dsimp only
              rw [evicts]
              exact .built missing built step

/-! ## Sweeping -/

/-- Whether a live component was not used for too long, or is called stale. -/
def isOutdated
    (keeper : Keeper σ α)
    (tracker : Tracker α)
    (now : Nat)
    (state : σ)
    (entry : String × Entry α) : Bool :=
  tracker.isTimedOut now entry.2 ||
    match keeper.isStale entry.2.component state with
    | .ok stale => stale
    | .error _ => false

theorem isOutdated_iff {entry : String × Entry α} :
    isOutdated keeper tracker now state entry = true ↔
      tracker.isTimedOut now entry.2 = true ∨
        keeper.isStale entry.2.component state = .ok true := by
  rw [isOutdated, Bool.or_eq_true]
  cases keeper.isStale entry.2.component state <;> simp

/-- Either it is known of all live components whether they are stale, or a question breaks off. -/
theorem staleAmong_outcome
    (keeper : Keeper σ α)
    (tracker : Tracker α)
    (now : Nat)
    (state : σ)
    (entries : List (String × Entry α)) :
    (∃ entry ∈ entries, ∃ message,
        ¬ tracker.isTimedOut now entry.2 = true ∧
          keeper.isStale entry.2.component state = .error message ∧
          staleAmong keeper tracker now state entries = .error message) ∨
      (∀ entry ∈ entries,
          ¬ tracker.isTimedOut now entry.2 = true →
            ∃ stale, keeper.isStale entry.2.component state = .ok stale) ∧
        staleAmong keeper tracker now state entries =
          .ok (held (entries.filter (isOutdated keeper tracker now state))) := by
  induction entries with
  | nil => exact Or.inr ⟨List.forall_mem_nil _, rfl⟩
  | cons first rest ih =>
      -- The answer that counts for the first entry, if there is one.
      have answer :
          (∃ message,
              ¬ tracker.isTimedOut now first.2 = true ∧
                keeper.isStale first.2.component state = .error message) ∨
            (¬ tracker.isTimedOut now first.2 = true →
                ∃ stale,
                  keeper.isStale first.2.component state = .ok stale) ∧
              (if tracker.isTimedOut now first.2 then .ok true
                else keeper.isStale first.2.component state) =
                .ok (isOutdated keeper tracker now state first) := by
        by_cases timedOut : tracker.isTimedOut now first.2 = true
        · exact Or.inr ⟨absurd timedOut, by simp [isOutdated, timedOut]⟩
        · cases asked : keeper.isStale first.2.component state with
          | error message => exact Or.inl ⟨message, timedOut, rfl⟩
          | ok stale =>
              exact Or.inr ⟨fun _ => ⟨stale, rfl⟩, by simp [isOutdated, timedOut, asked]⟩
      rw [staleAmong]
      rcases answer with ⟨message, timely, asked⟩ | ⟨answered, judged⟩
      · left
        refine ⟨first, List.mem_cons_self, message, timely, asked, ?_⟩
        simp [timely, asked]
      · rw [judged]
        dsimp only
        rcases ih with
          ⟨entry, member, message, timely, asked, found⟩ | ⟨others, found⟩
        · left
          refine
            ⟨entry, List.mem_cons_of_mem _ member, message, timely, asked, ?_⟩
          rw [found]
        · right
          refine ⟨List.forall_mem_cons.mpr ⟨answered, others⟩, ?_⟩
          rw [found]
          dsimp only
          rw [List.filter_cons]
          cases isOutdated keeper tracker now state first <;> rfl

theorem letsGo_letGoStale
    (composed : keeper.Composed safe)
    (distinct : tracker.keys.Nodup)
    (allSafe : AllSafe safe tracker state)
    (allowed :
      ∀ entry ∈ tracker.live,
        tracker.isTimedOut now entry.2 = true ∨
            keeper.isStale entry.2.component state = .ok true →
          lets entry.1) :
    ∃ outcome later after,
      letGoStale keeper tracker now state = (outcome, later, after) ∧
        LetsGo keeper lets tracker state later after ∧
        ((∀ entry ∈ tracker.live,
            ∃ stale, keeper.isStale entry.2.component state = .ok stale) →
          outcome = .ok ()) := by
  rw [letGoStale]
  rcases staleAmong_outcome keeper tracker now state tracker.live with
    ⟨entry, member, message, _, asked, found⟩ | ⟨_, found⟩
  · rw [found]
    refine ⟨_, tracker, state, rfl, .rests tracker state, ?_⟩
    intro answers
    rcases answers entry member with ⟨stale, known⟩
    rw [asked] at known
    cases known
  · rw [found]
    have sublist :
        (held (tracker.live.filter (isOutdated keeper tracker now state))).Sublist
          (held tracker.live) :=
      List.filter_sublist.map _
    have apart := distinct_held (distinct_live distinct)
    have reasons :
        ∀ item ∈ held (tracker.live.filter (isOutdated keeper tracker now state)),
          lets item.1 := by
      intro item member
      rcases List.mem_map.mp member with ⟨entry, inside, rfl⟩
      rcases List.mem_filter.mp inside with ⟨isLive, outdated⟩
      exact allowed entry isLive (isOutdated_iff.mp outdated)
    rcases
        letsGo_letGoLive composed allSafe ((sublist.map Prod.fst).nodup apart)
          sublist.subset reasons with
      ⟨later, after, goes, letsGo⟩
    exact ⟨.ok (), later, after, goes, letsGo, fun _ => rfl⟩

theorem letsGo_expired
    (composed : keeper.Composed safe)
    (distinct : tracker.keys.Nodup)
    (allSafe : AllSafe safe tracker state)
    (allowed :
      ∀ entry ∈ tracker.lingering,
        entry.2.unusedFor lingeringTime now = true → lets entry.1) :
    ∃ later after,
      letGoLingering keeper (tracker.expired now) tracker state =
          (.ok (), later, after) ∧
        LetsGo keeper lets tracker state later after := by
  have sublist : (tracker.expired now).Sublist (held tracker.lingering) :=
    List.filter_sublist.map _
  have apart := distinct_held (distinct_lingering distinct)
  apply letsGo_letGoLingering composed allSafe
    ((sublist.map Prod.fst).nodup apart) sublist.subset
  intro item member
  rcases List.mem_map.mp member with ⟨entry, inside, rfl⟩
  rcases List.mem_filter.mp inside with ⟨lingers, old⟩
  exact allowed entry lingers old

/-- What a sweep begins with. -/
def beforeSweep (tracker : Tracker α) (now : Nat) : Tracker α :=
  if tracker.maySweep now then tracker.noteSweep now else tracker

theorem entries_beforeSweep :
    (tracker.beforeSweep now).entries = tracker.entries := by
  rw [beforeSweep]
  split <;> rfl

theorem keys_beforeSweep :
    (tracker.beforeSweep now).keys = tracker.keys := by
  rw [beforeSweep]
  split <;> rfl

theorem live_beforeSweep :
    (tracker.beforeSweep now).live = tracker.live := by
  rw [beforeSweep]
  split <;> rfl

theorem settings_beforeSweep :
    (tracker.beforeSweep now).settings = tracker.settings := by
  rw [beforeSweep]
  split <;> rfl

theorem turn_beforeSweep :
    (tracker.beforeSweep now).turn = tracker.turn := by
  rw [beforeSweep]
  split <;> rfl

/--
A sweep lets components go that are too old or called stale, and others only if
there are too many.  If it is never unknown what is stale, it comes to its end.
-/
theorem letsGo_sweep
    (lets : String → Prop)
    (now : Nat)
    (composed : keeper.Composed safe)
    (distinct : tracker.keys.Nodup)
    (allSafe : AllSafe safe tracker state)
    (crowded : tracker.isOverfull = true → ∀ key, lets key)
    (outdated :
      ∀ entry ∈ tracker.live,
        tracker.isTimedOut now entry.2 = true ∨
            keeper.isStale entry.2.component state = .ok true →
          lets entry.1)
    (expired :
      ∀ entry ∈ tracker.lingering,
        entry.2.unusedFor lingeringTime now = true → lets entry.1) :
    ∃ outcome later after,
      sweep keeper tracker now state = (outcome, later, after) ∧
        LetsGo keeper lets (tracker.beforeSweep now) state later after ∧
        (¬ tracker.isOverfull = true →
          (∀ entry ∈ tracker.live,
              ∃ stale, keeper.isStale entry.2.component state = .ok stale) →
            outcome = .ok ()) := by
  rw [sweep, beforeSweep]
  by_cases may : tracker.maySweep now = true
  · have unhurried
        (room : ¬ tracker.isOverfull = true) :
        evictAll keeper tracker.live.length (tracker.noteSweep now) state =
          (.ok (), tracker.noteSweep now, state) :=
      evictAll_of_not_isOverfull _ room
    have noted : AllSafe safe (tracker.noteSweep now) state := allSafe
    rw [if_pos may, if_pos may]
    rcases letsGo_evictAll composed noted tracker.live.length crowded with
      ⟨roomy, between, evicts, front⟩
    -- What is too old or stale is judged after the oldest were let go.
    have judged :
        ∀ entry ∈ roomy.live,
          roomy.isTimedOut now entry.2 = true ∨
              keeper.isStale entry.2.component between = .ok true →
            lets entry.1 := by
      intro entry inside reason
      by_cases overfull : tracker.isOverfull = true
      · exact crowded overfull entry.1
      · rw [unhurried overfull] at evicts
        cases evicts
        exact outdated entry inside reason
    have roomyDistinct := front.distinct distinct
    have roomySafe := front.allSafe composed allSafe
    rcases letsGo_letGoStale composed roomyDistinct roomySafe judged with
      ⟨outcome, fresh, onward, stale, middle, complete⟩
    have answered :
        ¬ tracker.isOverfull = true →
          (∀ entry ∈ tracker.live,
              ∃ stale, keeper.isStale entry.2.component state = .ok stale) →
            outcome = .ok () := by
      intro room answers
      rw [unhurried room] at evicts
      cases evicts
      exact complete answers
    rw [evicts]
    dsimp only
    rw [stale]
    cases outcome with
    | error message =>
        exact ⟨_, fresh, onward, rfl, front.trans middle, answered⟩
    | ok =>
        have lingering : fresh.lingering ⊆ tracker.lingering :=
          (middle.sublist.2.trans front.sublist.2).subset
        rcases
            letsGo_expired composed
              (middle.distinct roomyDistinct)
              (middle.allSafe composed roomySafe)
              (fun entry inside => expired entry (lingering inside)) with
          ⟨later, after, goes, back⟩
        exact
          ⟨.ok (), later, after, goes, (front.trans middle).trans back,
            fun _ _ => rfl⟩
  · rw [if_neg may, if_neg may]
    exact ⟨.ok (), tracker, state, rfl, .rests tracker state, fun _ _ => rfl⟩

end Tracker

end LogPipeline
