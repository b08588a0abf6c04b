import LogPipeline.Tracker.Basic
import Mathlib.Data.List.Nodup

/-!
# Entries of trackers

How the operations on a tracker change its entries.  Using a component changes
when it was used and nothing else.  Putting it out of use only moves it from the
live entries to those that linger.  As long as no key has two entries, removing
the entry of a key removes one entry.

The oldest of some entries is one of them, and none of them is older.
-/

namespace LogPipeline

variable {α : Type}

theorem Entry.olderThan_iff {first second : Entry α} :
    first.olderThan second = true ↔
      first.used < second.used ∨
        first.used = second.used ∧ first.turn < second.turn := by
  simp [Entry.olderThan]

theorem Entry.unusedFor_iff
    {entry : Entry α}
    {time now : Nat}
    (word : now ≤ Text.maxWord) :
    entry.unusedFor time now = true ↔ entry.used + time < now := by
  rw [Entry.unusedFor, decide_eq_true_iff]
  omega

namespace Tracker

/-- The entries of a tracker, those of live components first. -/
def entries (tracker : Tracker α) : List (String × Entry α) :=
  tracker.live ++ tracker.lingering

/-- The components of some entries under their keys. -/
def held (entries : List (String × Entry α)) : List (String × α) :=
  entries.map fun entry => (entry.1, entry.2.component)

variable {tracker : Tracker α} {key : String} {entry : Entry α} {now : Nat}
variable {entries : List (String × Entry α)}

/-! ## Looking up -/

theorem mem_of_lookup
    (found : entries.lookup key = some entry) :
    (key, entry) ∈ entries := by
  rcases List.lookup_eq_some_iff.mp found with ⟨front, back, rfl, _⟩
  simp

theorem not_mem_of_lookup
    (missing : entries.lookup key = none) :
    key ∉ entries.map Prod.fst := by
  intro member
  rcases List.mem_map.mp member with ⟨entry, inside, rfl⟩
  have differs := List.lookup_eq_none_iff.mp missing entry inside
  simp at differs

theorem find?_eq_none_iff :
    tracker.find? key = none ↔ key ∉ tracker.keys := by
  constructor
  · intro missing member
    rw [find?] at missing
    cases live : tracker.live.lookup key with
    | some entry =>
        rw [live] at missing
        cases missing
    | none =>
        rw [live] at missing
        have lingering := Option.map_eq_none_iff.mp missing
        rw [keys, List.map_append] at member
        rcases List.mem_append.mp member with isLive | lingers
        · exact not_mem_of_lookup live isLive
        · exact not_mem_of_lookup lingering lingers
  · intro missing
    cases found : tracker.find? key with
    | none => rfl
    | some component =>
        rw [keys, List.map_append] at missing
        rw [find?] at found
        cases live : tracker.live.lookup key with
        | some entry =>
            have member : key ∈ tracker.live.map Prod.fst :=
              List.mem_map.mpr ⟨_, mem_of_lookup live, rfl⟩
            exact absurd (List.mem_append_left _ member) missing
        | none =>
            rw [live] at found
            rcases Option.map_eq_some_iff.mp found with ⟨entry, lingers, _⟩
            have member : key ∈ tracker.lingering.map Prod.fst :=
              List.mem_map.mpr ⟨_, mem_of_lookup lingers, rfl⟩
            exact absurd (List.mem_append_right _ member) missing

theorem ne_of_find?_eq_none
    {entry : String × Entry α}
    (missing : tracker.find? key = none)
    (member : entry ∈ tracker.entries) :
    entry.1 ≠ key := by
  rintro rfl
  exact find?_eq_none_iff.mp missing (List.mem_map_of_mem member)

theorem held_append (front back : List (String × Entry α)) :
    held (front ++ back) = held front ++ held back :=
  List.map_append

theorem held_subset
    {others : List (String × Entry α)}
    (subset : entries ⊆ others) :
    held entries ⊆ held others :=
  List.map_subset _ subset

theorem mem_held
    (member : (key, entry) ∈ entries) :
    (key, entry.component) ∈ held entries :=
  List.mem_map_of_mem (f := fun entry => (entry.1, entry.2.component)) member

theorem exists_of_mem_held
    {component : α}
    (member : (key, component) ∈ held entries) :
    ∃ entry, (key, entry) ∈ entries ∧ entry.component = component := by
  rcases List.mem_map.mp member with ⟨⟨_, entry⟩, inside, same⟩
  cases same
  exact ⟨entry, inside, rfl⟩

theorem mem_held_of_find?
    {component : α}
    (found : tracker.find? key = some component) :
    (key, component) ∈ held tracker.entries := by
  rw [find?] at found
  cases live : tracker.live.lookup key with
  | some entry =>
      simp only [live, Option.some.injEq] at found
      subst component
      exact mem_held (List.mem_append_left _ (mem_of_lookup live))
  | none =>
      rw [live] at found
      rcases Option.map_eq_some_iff.mp found with ⟨entry, lingers, rfl⟩
      exact mem_held (List.mem_append_right _ (mem_of_lookup lingers))

theorem distinct_held
    (distinct : (entries.map Prod.fst).Nodup) :
    ((held entries).map Prod.fst).Nodup := by
  rw [held, List.map_map]
  exact distinct

/-- A key is tracked for one component. -/
theorem eq_of_mem_held
    {component other : α}
    (distinct : (entries.map Prod.fst).Nodup)
    (member : (key, component) ∈ held entries)
    (another : (key, other) ∈ held entries) :
    component = other := by
  have same :=
    List.inj_on_of_nodup_map (distinct_held distinct) member another rfl
  exact (Prod.mk.inj same).2

/-! ## Changing and removing an entry -/

section Change

variable (change : Entry α → Entry α)

theorem map_fst_updateEntry :
    (updateEntry key change entries).map Prod.fst = entries.map Prod.fst := by
  rw [updateEntry, List.map_map]
  apply List.map_congr_left
  intro entry member
  by_cases same : entry.1 = key
  · simp [same]
  · simp [same]

theorem length_updateEntry :
    (updateEntry key change entries).length = entries.length :=
  List.length_map _

theorem held_updateEntry
    (keeps : ∀ entry, (change entry).component = entry.component) :
    held (updateEntry key change entries) = held entries := by
  rw [held, held, updateEntry, List.map_map]
  apply List.map_congr_left
  intro entry member
  by_cases same : entry.1 = key
  · simp [same, keeps]
  · simp [same]

theorem exists_of_mem_updateEntry
    {changed : String × Entry α}
    (member : changed ∈ updateEntry key change entries) :
    changed ∈ entries ∨
      ∃ entry, (key, entry) ∈ entries ∧ changed = (key, change entry) := by
  rcases List.mem_map.mp member with ⟨⟨other, entry⟩, inside, rfl⟩
  by_cases same : other = key
  · subst other
    exact Or.inr ⟨entry, inside, by simp⟩
  · left
    simpa [same] using inside

end Change

theorem mem_removeEntry {other : String × Entry α} :
    other ∈ removeEntry key entries ↔ other ∈ entries ∧ other.1 ≠ key := by
  simp [removeEntry]

theorem removeEntry_sublist : (removeEntry key entries).Sublist entries :=
  List.filter_sublist

theorem removeEntry_of_not_mem
    (missing : key ∉ entries.map Prod.fst) :
    removeEntry key entries = entries := by
  apply List.filter_eq_self.mpr
  intro entry member
  have differs : entry.1 ≠ key := by
    rintro rfl
    exact missing (List.mem_map_of_mem member)
  simpa using differs

theorem perm_removeEntry
    (distinct : (entries.map Prod.fst).Nodup)
    (member : (key, entry) ∈ entries) :
    entries.Perm ((key, entry) :: removeEntry key entries) := by
  induction entries with
  | nil => cases member
  | cons first rest ih =>
      rw [List.map_cons, List.nodup_cons] at distinct
      rcases List.mem_cons.mp member with rfl | inside
      · have removed : removeEntry key ((key, entry) :: rest) = rest := by
          rw [removeEntry, List.filter_cons_of_neg (by simp), ← removeEntry,
            removeEntry_of_not_mem distinct.1]
        rw [removed]
      · have differs : first.1 ≠ key := by
          rintro rfl
          exact distinct.1 (List.mem_map.mpr ⟨_, inside, rfl⟩)
        have removed :
            removeEntry key (first :: rest) = first :: removeEntry key rest := by
          rw [removeEntry, List.filter_cons_of_pos (by simpa using differs),
            ← removeEntry]
        rw [removed]
        exact ((ih distinct.2 inside).cons first).trans (.swap _ _ _)

/-! ## Keys without a second entry -/

theorem distinct_live
    (distinct : tracker.keys.Nodup) :
    (tracker.live.map Prod.fst).Nodup := by
  rw [keys, List.map_append] at distinct
  exact (List.nodup_append.mp distinct).1

theorem distinct_lingering
    (distinct : tracker.keys.Nodup) :
    (tracker.lingering.map Prod.fst).Nodup := by
  rw [keys, List.map_append] at distinct
  exact (List.nodup_append.mp distinct).2.1

theorem not_lingering_of_live
    (distinct : tracker.keys.Nodup)
    (isLive : key ∈ tracker.live.map Prod.fst) :
    key ∉ tracker.lingering.map Prod.fst := by
  rw [keys, List.map_append] at distinct
  intro lingers
  exact (List.nodup_append.mp distinct).2.2 key isLive key lingers rfl

/-! ## Using a component -/

/-- How using the component of a key changes a tracker that has one. -/
inductive TouchStep
    (tracker : Tracker α)
    (key : String)
    (now : Nat) :
    α → Tracker α → Prop where
  | live
      {entry : Entry α}
      (found : tracker.live.lookup key = some entry) :
      TouchStep tracker key now entry.component
        { tracker with
          live :=
            updateEntry key (·.refresh now tracker.turn) tracker.live }
  | lingering
      {entry : Entry α}
      (notLive : tracker.live.lookup key = none)
      (found : tracker.lingering.lookup key = some entry) :
      TouchStep tracker key now entry.component
        { tracker with
          lingering :=
            updateEntry key (·.refresh now tracker.turn) tracker.lingering }

theorem touchStep_of_touch?
    {component : α}
    {later : Tracker α}
    (touched : tracker.touch? key now = some (component, later)) :
    TouchStep tracker key now component later ∧
      tracker.find? key = some component := by
  rw [touch?] at touched
  rw [find?]
  cases live : tracker.live.lookup key with
  | some entry =>
      simp only [live, Option.some.injEq, Prod.mk.injEq] at touched
      rcases touched with ⟨rfl, rfl⟩
      exact ⟨.live live, rfl⟩
  | none =>
      cases lingering : tracker.lingering.lookup key with
      | none => simp [live, lingering] at touched
      | some entry =>
          simp only [live, lingering, Option.some.injEq, Prod.mk.injEq] at touched
          rcases touched with ⟨rfl, rfl⟩
          exact ⟨.lingering live lingering, rfl⟩

theorem find?_of_touch?
    (untouched : tracker.touch? key now = none) :
    tracker.find? key = none := by
  rw [touch?] at untouched
  rw [find?]
  cases live : tracker.live.lookup key with
  | some entry => simp [live] at untouched
  | none =>
      cases lingering : tracker.lingering.lookup key with
      | some entry => simp [live, lingering] at untouched
      | none => rfl

namespace TouchStep

variable {component : α} {later : Tracker α}

theorem settings
    (step : TouchStep tracker key now component later) :
    later.settings = tracker.settings := by
  cases step <;> rfl

theorem turn
    (step : TouchStep tracker key now component later) :
    later.turn = tracker.turn := by
  cases step <;> rfl

theorem keys
    (step : TouchStep tracker key now component later) :
    later.keys = tracker.keys := by
  cases step <;>
    simp only [Tracker.keys, List.map_append, map_fst_updateEntry]

theorem length_live
    (step : TouchStep tracker key now component later) :
    later.live.length = tracker.live.length := by
  cases step with
  | live => exact length_updateEntry fun entry => entry.refresh now tracker.turn
  | lingering => rfl

theorem held
    (step : TouchStep tracker key now component later) :
    Tracker.held later.live = Tracker.held tracker.live ∧
      Tracker.held later.lingering = Tracker.held tracker.lingering := by
  have refreshed (entries : List (String × Entry α)) :
      Tracker.held
          (updateEntry key (fun entry => entry.refresh now tracker.turn) entries) =
        Tracker.held entries :=
    held_updateEntry (fun entry => entry.refresh now tracker.turn) fun _ => rfl
  cases step with
  | live => exact ⟨refreshed _, rfl⟩
  | lingering => exact ⟨rfl, refreshed _⟩

theorem held_entries
    (step : TouchStep tracker key now component later) :
    Tracker.held later.entries = Tracker.held tracker.entries := by
  rw [Tracker.entries, Tracker.entries, held_append, held_append, step.held.1,
    step.held.2]

/-- An entry is as it was, or it is that of the key and was used just now. -/
theorem exists_of_mem
    {changed : String × Entry α}
    (step : TouchStep tracker key now component later)
    (member : changed ∈ later.entries) :
    changed ∈ tracker.entries ∨
      changed.1 = key ∧ changed.2.used = now ∧ changed.2.turn = tracker.turn := by
  have refreshed
      {entries : List (String × Entry α)}
      (among :
        changed ∈
          updateEntry key (fun entry => entry.refresh now tracker.turn) entries) :
      changed ∈ entries ∨
        changed.1 = key ∧ changed.2.used = now ∧
          changed.2.turn = tracker.turn := by
    rcases exists_of_mem_updateEntry _ among with same | ⟨entry, _, rfl⟩
    · exact Or.inl same
    · exact Or.inr ⟨rfl, rfl, rfl⟩
  cases step with
  | live =>
      rcases List.mem_append.mp member with isLive | lingers
      · exact (refreshed isLive).imp_left (List.mem_append_left _)
      · exact Or.inl (List.mem_append_right _ lingers)
  | lingering =>
      rcases List.mem_append.mp member with isLive | lingers
      · exact Or.inl (List.mem_append_left _ isLive)
      · exact (refreshed lingers).imp_left (List.mem_append_right _)

/-- As long as no key has two entries, that of the key was used just now. -/
theorem refreshed
    {changed : String × Entry α}
    (step : TouchStep tracker key now component later)
    (distinct : tracker.keys.Nodup)
    (member : changed ∈ later.entries)
    (own : changed.1 = key) :
    changed.2.used = now ∧ changed.2.turn = tracker.turn := by
  have among
      {entries : List (String × Entry α)}
      (inside :
        changed ∈
          updateEntry key (fun entry => entry.refresh now tracker.turn) entries) :
      changed.2.used = now ∧ changed.2.turn = tracker.turn := by
    rcases List.mem_map.mp inside with ⟨entry, _, rfl⟩
    by_cases same : entry.1 = key
    · simp [same, Entry.refresh]
    · simp [same] at own
  cases step with
  | live found =>
      rcases List.mem_append.mp member with isLive | lingers
      · exact among isLive
      · have apart :=
          not_lingering_of_live distinct
            (List.mem_map_of_mem (f := Prod.fst) (mem_of_lookup found))
        subst own
        exact absurd (List.mem_map_of_mem lingers) apart
  | lingering notLive =>
      rcases List.mem_append.mp member with isLive | lingers
      · subst own
        exact absurd (List.mem_map_of_mem isLive) (not_mem_of_lookup notLive)
      · exact among lingers

end TouchStep

/-! ## Adding, removing and putting out of use -/

theorem entries_insert_perm (component : α) :
    (tracker.insert key component now).entries.Perm
      ((key, ⟨component, now, tracker.turn⟩) :: tracker.entries) := by
  rw [entries, insert, entries, List.append_assoc]
  exact List.perm_middle

theorem mem_entries_insert
    {other : String × Entry α}
    {component : α}
    (missing : tracker.find? key = none)
    (member : other ∈ (tracker.nextTurn.insert key component now).entries) :
    other = (key, ⟨component, now, tracker.turn + 1⟩) ∨
      other ∈ tracker.entries ∧ other.1 ≠ key := by
  rcases List.mem_cons.mp ((entries_insert_perm component).subset member) with
    isNew | old
  · exact Or.inl isNew
  · exact Or.inr ⟨old, ne_of_find?_eq_none missing old⟩

theorem distinct_insert
    (component : α)
    (distinct : tracker.keys.Nodup)
    (missing : tracker.find? key = none) :
    (tracker.insert key component now).keys.Nodup := by
  apply ((entries_insert_perm component).map Prod.fst).nodup_iff.mpr
  exact List.nodup_cons.mpr ⟨find?_eq_none_iff.mp missing, distinct⟩

theorem entries_removeLive_perm
    (distinct : tracker.keys.Nodup)
    (member : (key, entry) ∈ tracker.live) :
    tracker.entries.Perm ((key, entry) :: (tracker.removeLive key).entries) :=
  (perm_removeEntry (distinct_live distinct) member).append_right _

theorem length_removeLive
    (distinct : tracker.keys.Nodup)
    (member : (key, entry) ∈ tracker.live) :
    tracker.live.length = (tracker.removeLive key).live.length + 1 :=
  (perm_removeEntry (distinct_live distinct) member).length_eq

theorem entries_removeLingering_perm
    (distinct : tracker.keys.Nodup)
    (member : (key, entry) ∈ tracker.lingering) :
    tracker.entries.Perm
      ((key, entry) :: (tracker.removeLingering key).entries) :=
  ((perm_removeEntry (distinct_lingering distinct) member).append_left _).trans
    List.perm_middle

/-- A component that is put out of use is still there. -/
theorem entries_endLife_perm
    (distinct : tracker.keys.Nodup) :
    (tracker.endLife key).entries.Perm tracker.entries := by
  rw [endLife]
  cases found : tracker.live.lookup key with
  | none => exact .refl _
  | some entry =>
      have member := mem_of_lookup found
      have apart : removeEntry key tracker.lingering = tracker.lingering :=
        removeEntry_of_not_mem
          (not_lingering_of_live distinct (List.mem_map_of_mem member))
      have moved :
          (removeEntry key tracker.live ++
              (tracker.lingering ++ [(key, entry)])).Perm
            ((key, entry) ::
              (removeEntry key tracker.live ++ tracker.lingering)) := by
        rw [← List.append_assoc]
        exact List.perm_append_singleton _ _
      dsimp only
      rw [apart]
      exact moved.trans (entries_removeLive_perm distinct member).symm

theorem live_endLife_sublist :
    (tracker.endLife key).live.Sublist tracker.live := by
  rw [endLife]
  split
  · exact .refl _
  · exact removeEntry_sublist

theorem settings_endLife :
    (tracker.endLife key).settings = tracker.settings := by
  rw [endLife]
  split <;> rfl

theorem turn_endLife :
    (tracker.endLife key).turn = tracker.turn := by
  rw [endLife]
  split <;> rfl

/-! ## The oldest entry -/

theorem mem_of_oldestOf
    {oldest : String × Entry α}
    (found : oldestOf entries = some oldest) :
    oldest ∈ entries := by
  induction entries generalizing oldest with
  | nil => cases found
  | cons first rest ih =>
      rw [oldestOf] at found
      cases others : oldestOf rest with
      | none =>
          simp only [others, Option.some.injEq] at found
          simp [found]
      | some other =>
          simp only [others, Option.some.injEq] at found
          split at found
          · subst oldest
            exact List.mem_cons_of_mem _ (ih others)
          · simp [found]

theorem oldestOf_eq_none_iff : oldestOf entries = none ↔ entries = [] := by
  cases entries with
  | nil => simp [oldestOf]
  | cons first rest =>
      rw [oldestOf]
      cases oldestOf rest <;> simp

theorem not_olderThan_oldestOf
    {oldest other : String × Entry α}
    (found : oldestOf entries = some oldest)
    (member : other ∈ entries) :
    ¬ other.2.olderThan oldest.2 = true := by
  induction entries generalizing oldest with
  | nil => cases member
  | cons first rest ih =>
      rw [oldestOf] at found
      cases others : oldestOf rest with
      | none =>
          have alone := oldestOf_eq_none_iff.mp others
          simp only [others, Option.some.injEq] at found
          simp only [alone, List.mem_singleton] at member
          subst oldest
          subst member
          simp [Entry.olderThan]
      | some youngest =>
          simp only [others, Option.some.injEq] at found
          have among := ih others
          rcases List.mem_cons.mp member with rfl | inside
          · by_cases older : youngest.2.olderThan other.2 = true
            · simp only [older, if_true] at found
              subst oldest
              rw [Entry.olderThan_iff] at older ⊢
              omega
            · simp only [older] at found
              subst oldest
              simp [Entry.olderThan]
          · have notOlder := among inside
            by_cases older : youngest.2.olderThan first.2 = true
            · simp only [older, if_true] at found
              subst oldest
              exact notOlder
            · simp only [older] at found
              subst oldest
              simp only [Bool.false_eq_true, if_false]
              rw [Entry.olderThan_iff] at older notOlder ⊢
              omega

/--
A component that is added when every other was used before is the oldest live
one exactly if all others were used at later times.
-/
theorem oldestOf_insert_iff
    {component : α}
    {oldest : String × Entry α}
    (turns : ∀ other ∈ tracker.live, other.2.turn < tracker.turn)
    (missing : key ∉ tracker.live.map Prod.fst)
    (found : oldestOf (tracker.insert key component now).live = some oldest) :
    oldest.1 = key ↔ ∀ other ∈ tracker.live, now < other.2.used := by
  have member := mem_of_oldestOf found
  rw [insert] at member found
  constructor
  · intro same other inside
    have isNew : oldest = (key, ⟨component, now, tracker.turn⟩) := by
      rcases List.mem_append.mp member with isLive | isNew
      · exact absurd (same ▸ List.mem_map_of_mem isLive) missing
      · exact List.mem_singleton.mp isNew
    have notOlder :=
      not_olderThan_oldestOf found (List.mem_append_left _ inside)
    have earlier := turns other inside
    rw [isNew, Entry.olderThan_iff] at notOlder
    dsimp only at notOlder
    omega
  · intro later
    rcases List.mem_append.mp member with isLive | isNew
    · have notOlder :=
        not_olderThan_oldestOf found
          (List.mem_append_right tracker.live (List.mem_singleton_self _))
      have after := later oldest isLive
      rw [Entry.olderThan_iff] at notOlder
      dsimp only at notOlder
      omega
    · rw [List.mem_singleton.mp isNew]

/--
There is no room for another component, and every live one was last used later
than at some time.
-/
def Outrun (tracker : Tracker α) (now : Nat) : Prop :=
  tracker.settings.maxComponents ≤ tracker.live.length ∧
    ∀ entry ∈ tracker.live, now < entry.2.used

theorem isOverfull_insert_iff {component : α} :
    (tracker.nextTurn.insert key component now).isOverfull = true ↔
      tracker.settings.maxComponents ≤ tracker.live.length := by
  have length :
      (tracker.nextTurn.insert key component now).live.length =
        tracker.live.length + 1 :=
    List.length_append
  rw [isOverfull, decide_eq_true_iff, length]
  exact Nat.lt_succ_iff

theorem oldestOf_insert_iff_outrun
    {component : α}
    {oldest : String × Entry α}
    (turns : ∀ other ∈ tracker.live, other.2.turn ≤ tracker.turn)
    (missing : tracker.find? key = none)
    (crowded : (tracker.nextTurn.insert key component now).isOverfull = true)
    (found :
      oldestOf (tracker.nextTurn.insert key component now).live =
        some oldest) :
    oldest.1 = key ↔ tracker.Outrun now := by
  have earlier :
      ∀ other ∈ tracker.nextTurn.live,
        other.2.turn < tracker.nextTurn.turn :=
    fun other isLive => Nat.lt_succ_of_le (turns other isLive)
  have full : tracker.settings.maxComponents ≤ tracker.live.length :=
    isOverfull_insert_iff.mp crowded
  have notLive : key ∉ tracker.live.map Prod.fst := by
    intro isLive
    rw [find?_eq_none_iff, keys, List.map_append] at missing
    exact missing (List.mem_append_left _ isLive)
  rw [oldestOf_insert_iff earlier notLive found, Outrun, and_iff_right full]
  rfl

end Tracker

end LogPipeline
