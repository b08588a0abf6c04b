import LogPipeline.Proofs.Tracker.Recency

/-!
# What a sweep lets go

A sweep that is due lets go of the live components that were not used for too
long or that the keeper calls stale, and of those that lingered long enough, and
of no others.  What it lets go of is disposed of by this sweep and was not before,
and what it leaves is as it was.  A sweep that is not due changes nothing.

Time ends with the last number there is for it, but up to there the sums of
times are as if they could grow without end.
-/

namespace LogPipeline

variable {σ α : Type}

namespace Tracker

/-! ## Letting go of a list of components -/

/-- The entries without those of some keys. -/
def withoutKeys
    (keys : List String)
    (entries : List (String × Entry α)) : List (String × Entry α) :=
  entries.filter fun entry => entry.1 ∉ keys

theorem withoutKeys_nil (entries : List (String × Entry α)) :
    withoutKeys [] entries = entries := by
  simp [withoutKeys]

theorem withoutKeys_cons
    (key : String)
    (keys : List String)
    (entries : List (String × Entry α)) :
    withoutKeys (key :: keys) entries =
      withoutKeys keys (removeEntry key entries) := by
  rw [withoutKeys, withoutKeys, removeEntry, List.filter_filter]
  apply List.filter_congr
  intro entry _
  rw [Bool.eq_iff_iff]
  simp [and_comm]

/-- As long as no key has two entries, those of some entries can be taken out by their keys. -/
theorem withoutKeys_held_filter
    {entries : List (String × Entry α)}
    (distinct : (entries.map Prod.fst).Nodup)
    (goes : String × Entry α → Bool) :
    withoutKeys ((held (entries.filter goes)).map Prod.fst) entries =
      entries.filter fun entry => !goes entry := by
  apply List.filter_congr
  intro entry member
  have isKey :
      entry.1 ∈ (held (entries.filter goes)).map Prod.fst ↔
        goes entry = true := by
    rw [held, List.map_map]
    constructor
    · intro isKey
      rcases List.mem_map.mp isKey with ⟨other, inside, same⟩
      rcases List.mem_filter.mp inside with ⟨among, gone⟩
      rw [List.inj_on_of_nodup_map distinct among member same] at gone
      exact gone
    · intro gone
      exact List.mem_map.mpr ⟨entry, List.mem_filter.mpr ⟨member, gone⟩, rfl⟩
  rw [Bool.eq_iff_iff, decide_eq_true_iff, isKey]
  simp

section LettingGo

variable (keeper : Keeper σ α)

/-- What is left of a state when some components were let go. -/
def afterAll (items : List (String × α)) (state : σ) : σ :=
  items.foldl (fun state item => (keeper.letGo item.1 item.2 state).2) state

variable {keeper}
variable (composed : keeper.Composed fun _ _ => True)

include composed

theorem letGo_eq (key : String) (component : α) (state : σ) :
    keeper.letGo key component state =
      (.ok (), (keeper.letGo key component state).2) := by
  have goes :
      ∃ after,
        keeper.letGo key component state = (.ok (), after) ∧
          ∀ _ : α, True → True :=
    composed.letGo key trivial
  rcases goes with ⟨after, gone, _⟩
  rw [gone]

theorem letGoLive_eq
    (items : List (String × α))
    (tracker : Tracker α)
    (state : σ) :
    letGoLive keeper items tracker state =
      (.ok (),
        { tracker with live := withoutKeys (items.map Prod.fst) tracker.live },
        afterAll keeper items state) := by
  induction items generalizing tracker state with
  | nil => simp [letGoLive, withoutKeys_nil, afterAll]
  | cons item rest ih =>
      rw [letGoLive, letGo_eq composed]
      dsimp only
      rw [ih, List.map_cons, withoutKeys_cons]
      rfl

theorem letGoLingering_eq
    (items : List (String × α))
    (tracker : Tracker α)
    (state : σ) :
    letGoLingering keeper items tracker state =
      (.ok (),
        { tracker with
          lingering := withoutKeys (items.map Prod.fst) tracker.lingering },
        afterAll keeper items state) := by
  induction items generalizing tracker state with
  | nil => simp [letGoLingering, withoutKeys_nil, afterAll]
  | cons item rest ih =>
      rw [letGoLingering, letGo_eq composed]
      dsimp only
      rw [ih, List.map_cons, withoutKeys_cons]
      rfl

end LettingGo

/-- Each component that is let go is disposed of once, in their order. -/
theorem disposals_afterAll
    {keeper : Keeper σ α}
    (settles : keeper.Settles)
    (entries : List (String × Entry (α × Nat)))
    (chronicle : Chronicle σ α) :
    (afterAll keeper.chronicled (held entries) chronicle).disposals.map
        Disposal.item =
      chronicle.disposals.map Disposal.item ++ numbered entries := by
  induction entries generalizing chronicle with
  | nil => simp [afterAll, held, numbered]
  | cons entry rest ih =>
      rcases
          Keeper.exists_letGo_chronicled settles entry.1 entry.2.component
            chronicle with
        ⟨disposal, next, gone, item, _, disposals, _⟩
      have first :
          afterAll keeper.chronicled (held (entry :: rest)) chronicle =
            afterAll keeper.chronicled (held rest) next := by
        rw [held, List.map_cons, afterAll, List.foldl_cons, gone]
        rfl
      rw [first, ih, disposals]
      simp [item, numbered, held]

/-! ## What is stale -/

section Stale

variable {keeper : Keeper σ α} {tracker : Tracker α} {now : Nat} {state : σ}

theorem isOutdated_eq_false_iff
    {entry : String × Entry α}
    (word : now ≤ Text.maxWord)
    (answered :
      ¬ tracker.isTimedOut now entry.2 = true →
        ∃ stale, keeper.isStale entry.2.component state = .ok stale) :
    isOutdated keeper tracker now state entry = false ↔
      now ≤ entry.2.used + tracker.settings.timeoutMillis ∧
        keeper.isStale entry.2.component state = .ok false := by
  have timely :
      ¬ tracker.isTimedOut now entry.2 = true ↔
        now ≤ entry.2.used + tracker.settings.timeoutMillis := by
    rw [isTimedOut, Entry.unusedFor_iff word, Nat.not_lt]
  rw [← timely, isOutdated]
  by_cases timedOut : tracker.isTimedOut now entry.2 = true
  · simp [timedOut]
  · rcases answered timedOut with ⟨stale, asked⟩
    simp [timedOut, asked]

end Stale

/-! ## Sweeps that are due -/

/-- What a sweep leaves of a tracker. -/
def swept
    (keeper : Keeper σ α)
    (tracker : Tracker α)
    (now : Nat)
    (state : σ) : Tracker α :=
  { tracker with
    live :=
      tracker.live.filter fun entry =>
        !isOutdated keeper tracker now state entry
    lingering :=
      tracker.lingering.filter fun entry =>
        !entry.2.unusedFor lingeringTime now
    lastSweep := some now }

/-- The entries that a sweep takes out of a tracker. -/
def outdated
    (keeper : Keeper σ α)
    (tracker : Tracker α)
    (now : Nat)
    (state : σ) : List (String × Entry α) :=
  tracker.live.filter (isOutdated keeper tracker now state) ++
    tracker.lingering.filter fun entry => entry.2.unusedFor lingeringTime now

theorem entries_perm_swept
    (keeper : Keeper σ α)
    (tracker : Tracker α)
    (now : Nat)
    (state : σ) :
    tracker.entries.Perm
      ((tracker.swept keeper now state).entries ++
        tracker.outdated keeper now state) := by
  have split
      (entries : List (String × Entry α))
      (goes : String × Entry α → Bool) :
      entries.Perm
        ((entries.filter fun entry => !goes entry) ++ entries.filter goes) :=
    ((List.perm_append_comm).trans (List.filter_append_perm goes entries)).symm
  have live := split tracker.live (isOutdated keeper tracker now state)
  have lingering :=
    split tracker.lingering fun entry => entry.2.unusedFor lingeringTime now
  refine (live.append lingering).trans ?_
  rw [entries, swept, outdated, List.append_assoc, List.append_assoc]
  exact (List.perm_append_comm_assoc _ _ _).append_left _

/-- A sweep that is due lets go of all that is outdated, or a question breaks it off. -/
theorem sweep_outcome
    {keeper : Keeper σ α}
    {settings : TrackerSettings}
    {calls : List (String × Nat)}
    {tracker : Tracker α}
    {now : Nat}
    (recent : Recent settings calls tracker)
    (composed : keeper.Composed fun _ _ => True)
    (due : tracker.maySweep now = true)
    (state : σ) :
    (∃ entry ∈ tracker.live, ∃ message,
        ¬ tracker.isTimedOut now entry.2 = true ∧
          keeper.isStale entry.2.component state = .error message ∧
          sweep keeper tracker now state =
            (.error message, tracker.noteSweep now, state)) ∨
      (∀ entry ∈ tracker.live,
          ¬ tracker.isTimedOut now entry.2 = true →
            ∃ stale, keeper.isStale entry.2.component state = .ok stale) ∧
        sweep keeper tracker now state =
          (.ok (), tracker.swept keeper now state,
            afterAll keeper (held (tracker.outdated keeper now state))
              state) := by
  rw [sweep, if_pos due, recent.evictAll_eq keeper now state]
  dsimp only
  rw [letGoStale]
  rcases
      staleAmong_outcome keeper (tracker.noteSweep now) now state tracker.live with
    ⟨entry, member, message, timely, asked, found⟩ | ⟨answered, found⟩
  · left
    refine ⟨entry, member, message, timely, asked, ?_⟩
    dsimp only [noteSweep] at found ⊢
    rw [found]
  · right
    refine ⟨answered, ?_⟩
    dsimp only [noteSweep] at found ⊢
    rw [found]
    dsimp only
    rw [letGoLive_eq composed,
      withoutKeys_held_filter (distinct_live recent.distinct)]
    dsimp only
    rw [letGoLingering_eq composed]
    dsimp only [expired]
    rw [← held, withoutKeys_held_filter (distinct_lingering recent.distinct)]
    rw [outdated, held_append, afterAll, afterAll, afterAll, List.foldl_append]
    rfl

/-! ## Disposed of once -/

namespace Balanced

variable {tracker : Tracker (α × Nat)} {chronicle : Chronicle σ α}
variable {item : (String × α) × Nat}

theorem mem_withNumber
    {items : List ((String × α) × Nat)}
    (member : item ∈ items) :
    item.1 ∈ withNumber item.2 items :=
  List.mem_map_of_mem (List.mem_filter.mpr ⟨member, by simp⟩)

/-- What is tracked was not disposed of. -/
theorem not_disposed_of_tracked
    (balanced : Balanced tracker chronicle)
    (tracked : item ∈ numbered tracker.entries) :
    withNumber item.2 (chronicle.disposals.map Disposal.item) = [] := by
  have built :=
    balanced.conserved.genuine item (List.mem_append_left _ tracked)
  have inside := mem_withNumber tracked
  rw [entries, numbered_append, withNumber_append] at inside
  cases balanced.fate built with
  | live _ _ notDisposed => exact notDisposed
  | lingering _ _ notDisposed => exact notDisposed
  | disposed notLive notLingering _ =>
      rw [notLive, notLingering] at inside
      cases inside

/-- What was disposed of was disposed of once. -/
theorem disposed_once
    (balanced : Balanced tracker chronicle)
    (disposed : item ∈ chronicle.disposals.map Disposal.item) :
    withNumber item.2 (chronicle.disposals.map Disposal.item) = [item.1] := by
  have built :=
    balanced.conserved.genuine item (List.mem_append_right _ disposed)
  have inside := mem_withNumber disposed
  cases balanced.fate built with
  | live _ _ notDisposed =>
      rw [notDisposed] at inside
      cases inside
  | lingering _ _ notDisposed =>
      rw [notDisposed] at inside
      cases inside
  | disposed _ _ disposedOf => exact disposedOf

end Balanced

/-! ## How a sweep ends -/

/--
A sweep has left what is neither too old nor stale, and has disposed of what it
took out.
-/
structure Swept
    (keeper : Keeper σ α)
    (now : Nat)
    (tracker : Tracker (α × Nat))
    (chronicle : Chronicle σ α)
    (later : Tracker (α × Nat))
    (after : Chronicle σ α) : Prop where
  live_iff :
    ∀ entry,
      entry ∈ later.live ↔
        entry ∈ tracker.live ∧
          now ≤ entry.2.used + tracker.settings.timeoutMillis ∧
            keeper.isStale entry.2.component.1 chronicle.state = .ok false
  lingering_iff :
    ∀ entry,
      entry ∈ later.lingering ↔
        entry ∈ tracker.lingering ∧ now ≤ entry.2.used + 10000
  sublists :
    later.live.Sublist tracker.live ∧
      later.lingering.Sublist tracker.lingering
  /-- The number of uses, the settings and the time of the sweep. -/
  rest :
    later =
      { tracker with
        live := later.live
        lingering := later.lingering
        lastSweep := some now }
  /-- What this sweep disposed of is what it took out. -/
  removed :
    ∃ gone,
      tracker.entries.Perm (later.entries ++ gone) ∧
        after.disposals.map Disposal.item =
          chronicle.disposals.map Disposal.item ++ numbered gone ∧
        ∀ item ∈ numbered gone,
          withNumber item.2 (chronicle.disposals.map Disposal.item) = [] ∧
            withNumber item.2 (after.disposals.map Disposal.item) = [item.1]

/-- How a sweep can end. -/
inductive SweepEnd
    (keeper : Keeper σ α)
    (now : Nat)
    (tracker : Tracker (α × Nat))
    (chronicle : Chronicle σ α) :
    Guarded Unit → Tracker (α × Nat) → Chronicle σ α → Prop where
  /-- It was not due, and nothing happened. -/
  | early
      (notDue : tracker.maySweep now = false) :
      SweepEnd keeper now tracker chronicle (.ok ()) tracker chronicle
  /-- The keeper broke off when it was asked about a component that was used lately. -/
  | unanswered
      {entry : String × Entry (α × Nat)}
      {message : String}
      (due : tracker.maySweep now = true)
      (member : entry ∈ tracker.live)
      (lately : now ≤ entry.2.used + tracker.settings.timeoutMillis)
      (asked :
        keeper.isStale entry.2.component.1 chronicle.state = .error message) :
      SweepEnd keeper now tracker chronicle (.error message)
        (tracker.noteSweep now) chronicle
  | swept
      {later : Tracker (α × Nat)}
      {after : Chronicle σ α}
      (due : tracker.maySweep now = true)
      (swept : Swept keeper now tracker chronicle later after) :
      SweepEnd keeper now tracker chronicle (.ok ()) later after

theorem swept_of_answered
    {keeper : Keeper σ α}
    {now : Nat}
    {tracker : Tracker (α × Nat)}
    {chronicle after : Chronicle σ α}
    (word : now ≤ Text.maxWord)
    (answered :
      ∀ entry ∈ tracker.live,
        ¬ tracker.isTimedOut now entry.2 = true →
          ∃ stale,
            keeper.chronicled.isStale entry.2.component chronicle = .ok stale)
    (disposals :
      after.disposals.map Disposal.item =
        chronicle.disposals.map Disposal.item ++
          numbered (tracker.outdated keeper.chronicled now chronicle))
    (before : Balanced tracker chronicle)
    (behind : Balanced (tracker.swept keeper.chronicled now chronicle) after) :
    Swept keeper now tracker chronicle
      (tracker.swept keeper.chronicled now chronicle) after := by
  have perm := tracker.entries_perm_swept keeper.chronicled now chronicle
  constructor
  · intro entry
    rw [swept, List.mem_filter, Bool.not_eq_true']
    apply and_congr_right
    intro isLive
    exact isOutdated_eq_false_iff word (answered entry isLive)
  · intro entry
    rw [swept, List.mem_filter, Bool.not_eq_true', ← Bool.not_eq_true,
      Entry.unusedFor_iff word, Nat.not_lt]
    rfl
  · exact ⟨List.filter_sublist, List.filter_sublist⟩
  · rfl
  · refine ⟨_, perm, disposals, ?_⟩
    intro item member
    constructor
    · apply before.not_disposed_of_tracked
      apply (numbered_perm perm).symm.subset
      rw [numbered_append]
      exact List.mem_append_right _ member
    · apply behind.disposed_once
      rw [disposals]
      exact List.mem_append_right _ member

theorem sweepEnd_sweep
    {keeper : Keeper σ α}
    {settings : TrackerSettings}
    {calls : List (String × Nat)}
    {now : Nat}
    {tracker : Tracker (α × Nat)}
    {chronicle : Chronicle σ α}
    (settles : keeper.Settles)
    (word : now ≤ Text.maxWord)
    (recent : Recent settings calls tracker)
    (before : Balanced tracker chronicle) :
    SweepEnd keeper now tracker chronicle
      (sweep keeper.chronicled tracker now chronicle).1
      (sweep keeper.chronicled tracker now chronicle).2.1
      (sweep keeper.chronicled tracker now chronicle).2.2 := by
  have behind := before.sweep settles now
  cases due : tracker.maySweep now with
  | false =>
      rw [sweep, if_neg (Bool.eq_false_iff.mp due)]
      exact .early due
  | true =>
      rcases
          sweep_outcome recent (Keeper.composed_chronicled settles) due
            chronicle with
        ⟨entry, member, message, timely, asked, ends⟩ | ⟨answered, ends⟩
      · rw [ends]
        rw [isTimedOut, Entry.unusedFor_iff word, Nat.not_lt] at timely
        exact .unanswered due member timely asked
      · rw [ends] at behind ⊢
        have disposals :=
          disposals_afterAll settles
            (tracker.outdated keeper.chronicled now chronicle) chronicle
        exact
          .swept due (swept_of_answered word answered disposals before behind)

/--
A sweep of a tracker that was used in any way lets go of exactly what is too old
or called stale, each disposed of once and by this sweep, and leaves the rest as
it was; when it is not due, it changes nothing.
-/
theorem run_sweepEnd
    {keeper : Keeper σ α}
    {now : Nat}
    (settles : keeper.Settles)
    (word : now ≤ Text.maxWord)
    (settings : TrackerSettings)
    (state : σ)
    (uses : List (Use σ)) :
    ∃ tracker chronicle,
      run keeper.chronicled settings (.begin state) (uses.map Use.chronicled) =
          (tracker, chronicle) ∧
        run keeper settings state uses =
          (tracker.map Prod.fst, chronicle.state) ∧
        sweep keeper (tracker.map Prod.fst) now chronicle.state =
          plainResult Prod.fst Chronicle.state
            (sweep keeper.chronicled tracker now chronicle) ∧
        SweepEnd keeper now tracker chronicle
          (sweep keeper.chronicled tracker now chronicle).1
          (sweep keeper.chronicled tracker now chronicle).2.1
          (sweep keeper.chronicled tracker now chronicle).2.2 := by
  have recent :=
    Recent.run (Keeper.composed_chronicled settles) settings (.begin state)
      (uses.map Use.chronicled)
  have balanced := Balanced.run settles settings state uses
  exact
    ⟨_, _, rfl, run_chronicled keeper settings state uses,
      sweep_map keeper.details_chronicled _ now _,
      sweepEnd_sweep settles word recent balanced⟩

/-- Labels of which two are too old, one is called stale and one is kept. -/
def agingUses : List (Use Labels) :=
  [.obtain "a" 7, .obtain "b" 100, .obtain "c" 20000, .endLife "a",
    .obtain "d" 20001, .stir fun labels => { labels with stale := ["c#3"] }]

theorem run_sweepEnd_labels :
    Labels.keeper.Settles ∧
      20100 ≤ Text.maxWord ∧
      (∃ tracker chronicle,
        run Labels.keeper.chronicled ⟨500, 9⟩ (.begin crowdedLabels)
              (agingUses.map Use.chronicled) =
            (tracker, chronicle) ∧
          run Labels.keeper ⟨500, 9⟩ crowdedLabels agingUses =
            (tracker.map Prod.fst, chronicle.state) ∧
          sweep Labels.keeper (tracker.map Prod.fst) 20100 chronicle.state =
            plainResult Prod.fst Chronicle.state
              (sweep Labels.keeper.chronicled tracker 20100 chronicle) ∧
          SweepEnd Labels.keeper 20100 tracker chronicle
            (sweep Labels.keeper.chronicled tracker 20100 chronicle).1
            (sweep Labels.keeper.chronicled tracker 20100 chronicle).2.1
            (sweep Labels.keeper.chronicled tracker 20100 chronicle).2.2) ∧
      (run Labels.keeper ⟨500, 9⟩ crowdedLabels
          (agingUses ++ [.sweep 20100])).1.keys =
        ["d"] := by
  have word : 20100 ≤ Text.maxWord := by
    decide
  exact
    ⟨settles_labels, word,
      run_sweepEnd settles_labels word ⟨500, 9⟩ crowdedLabels agingUses, rfl⟩

end Tracker

end LogPipeline
