import LogPipeline.Proofs.Tracker.Simulation
import LogPipeline.Proofs.Tracker.Steps
import LogPipeline.Tracker.Labels
import Mathlib.Data.List.Perm.Basic

/-!
# Conservation of components

Whatever is done with a tracker, none of its components gets lost and none is
disposed of twice.  To tell components apart that look alike, a keeper can number
those it builds and keep a chronicle of what it builds and disposes of.  Then
what is tracked together with what was disposed of is always what was built, in
some order.
-/

namespace LogPipeline

variable {σ α : Type}

/-! ## Chronicles -/

/-- A component that was disposed of under a key, and how that ended. -/
structure Disposal (α : Type) where
  key : String
  component : α
  number : Nat
  outcome : Attempt Unit

namespace Disposal

/-- What was disposed of. -/
def item (disposal : Disposal α) : (String × α) × Nat :=
  ((disposal.key, disposal.component), disposal.number)

/-- How it is reported that a disposal failed. -/
def report? (disposal : Disposal α) : Option Status :=
  match disposal.outcome with
  | .failed error =>
      some
        (.error Keeper.origin
          (LogError.disposal disposal.key error.message).message)
  | _ => none

end Disposal

/-- A state with a record of what a keeper did in it. -/
structure Chronicle (σ α : Type) where
  state : σ
  /-- The components that were built, under their keys, the first one first. -/
  built : List (String × α)
  disposals : List (Disposal α)
  /-- The statuses that were reported. -/
  reports : List Status

/-- The chronicle of a keeper that did nothing yet. -/
def Chronicle.begin (state : σ) : Chronicle σ α :=
  ⟨state, [], [], []⟩

namespace Keeper

/-- A keeper that numbers the components it builds and keeps a chronicle. -/
def chronicled (keeper : Keeper σ α) : Keeper (Chronicle σ α) (α × Nat) where
  build key chronicle :=
    match keeper.build key chronicle.state with
    | (.ok component, state) =>
        (.ok (component, chronicle.built.length),
          { chronicle with
            state
            built := chronicle.built ++ [(key, component)] })
    | (.error message, state) => (.error message, { chronicle with state })
  dispose key component chronicle :=
    let (outcome, state) :=
      keeper.dispose key component.1 chronicle.state
    (outcome,
      { chronicle with
        state
        disposals :=
          chronicle.disposals ++ [⟨key, component.1, component.2, outcome⟩] })
  isStale component chronicle := keeper.isStale component.1 chronicle.state
  report status chronicle :=
    { chronicle with
      state := keeper.report status chronicle.state
      reports := chronicle.reports ++ [status] }

/-- Whatever this keeper disposes of, it succeeds or fails, and never breaks off. -/
def Settles (keeper : Keeper σ α) : Prop :=
  ∀ key component state message,
    (keeper.dispose key component state).1 ≠ .panicked message

variable (keeper : Keeper σ α)

/-- A chronicle is only kept, and changes nothing. -/
theorem details_chronicled :
    keeper.chronicled.Details keeper Prod.fst Chronicle.state where
  build key chronicle := by
    unfold chronicled
    dsimp only
    rcases keeper.build key chronicle.state with ⟨outcome, state⟩
    cases outcome <;> rfl
  dispose key component chronicle := rfl
  isStale component chronicle := rfl
  report status chronicle := rfl

variable {keeper}

/-- Letting go of a component is one disposal, and one report if that fails. -/
theorem exists_letGo_chronicled
    (settles : keeper.Settles)
    (key : String)
    (component : α × Nat)
    (chronicle : Chronicle σ α) :
    ∃ disposal next,
      keeper.chronicled.letGo key component chronicle = (.ok (), next) ∧
        disposal.item = ((key, component.1), component.2) ∧
        next.built = chronicle.built ∧
        next.disposals = chronicle.disposals ++ [disposal] ∧
        next.reports = chronicle.reports ++ disposal.report?.toList := by
  have unbroken := settles key component.1 chronicle.state
  have disposes :
      keeper.chronicled.dispose key component chronicle =
        ((keeper.dispose key component.1 chronicle.state).1,
          { chronicle with
            state := (keeper.dispose key component.1 chronicle.state).2
            disposals :=
              chronicle.disposals ++
                [⟨key, component.1, component.2,
                  (keeper.dispose key component.1 chronicle.state).1⟩] }) :=
    rfl
  rw [letGo, disposes]
  generalize keeper.dispose key component.1 chronicle.state = result at unbroken
  rcases result with ⟨outcome, state⟩
  refine ⟨⟨key, component.1, component.2, outcome⟩, ?_⟩
  cases outcome with
  | done =>
      refine ⟨_, rfl, ?_⟩
      exact ⟨rfl, rfl, rfl, (List.append_nil _).symm⟩
  | failed error =>
      refine ⟨_, rfl, ?_⟩
      exact ⟨rfl, rfl, rfl, rfl⟩
  | panicked message => exact absurd rfl (unbroken message)

theorem composed_chronicled
    (settles : keeper.Settles) :
    keeper.chronicled.Composed fun _ _ => True where
  letGo key {component chronicle} _ := by
    rcases exists_letGo_chronicled settles key component chronicle with
      ⟨_, next, gone, _⟩
    exact ⟨next, gone, fun _ _ => trivial⟩

end Keeper

namespace Tracker

/-! ## Using trackers -/

/-- What can be done with a tracker, and what else can happen meanwhile. -/
inductive Use (σ : Type) where
  | obtain (key : String) (now : Nat)
  | find (key : String)
  | endLife (key : String)
  | sweep (now : Nat)
  /-- Something else changes the state in which the keeper works. -/
  | stir (change : σ → σ)

/-- A use where a chronicle is kept, which nothing else changes. -/
def Use.chronicled : Use σ → Use (Chronicle σ α)
  | .obtain key now => .obtain key now
  | .find key => .find key
  | .endLife key => .endLife key
  | .sweep now => .sweep now
  | .stir change =>
      .stir fun chronicle => { chronicle with state := change chronicle.state }

/-- What is left of a tracker and a state after a use. -/
def use (keeper : Keeper σ α) (situation : Tracker α × σ) : Use σ → Tracker α × σ
  | .obtain key now => (obtain keeper situation.1 key now situation.2).2
  | .find _ => situation
  | .endLife key => (situation.1.endLife key, situation.2)
  | .sweep now => (sweep keeper situation.1 now situation.2).2
  | .stir change => (situation.1, change situation.2)

/-- What is left of a new tracker and a state after some uses. -/
def run
    (keeper : Keeper σ α)
    (settings : TrackerSettings)
    (state : σ)
    (uses : List (Use σ)) : Tracker α × σ :=
  uses.foldl (use keeper) (.empty settings, state)

/-- What is left is the same where no chronicle is kept. -/
theorem run_chronicled
    (keeper : Keeper σ α)
    (settings : TrackerSettings)
    (state : σ)
    (uses : List (Use σ)) :
    run keeper settings state uses =
      Prod.map (map Prod.fst) Chronicle.state
        (run keeper.chronicled settings (.begin state)
          (uses.map Use.chronicled)) := by
  have details := keeper.details_chronicled
  have step
      (situation : Tracker (α × Nat) × Chronicle σ α)
      (oneUse : Use σ) :
      use keeper (Prod.map (map Prod.fst) Chronicle.state situation) oneUse =
        Prod.map (map Prod.fst) Chronicle.state
          (use keeper.chronicled situation oneUse.chronicled) := by
    rcases situation with ⟨tracker, chronicle⟩
    cases oneUse with
    | obtain key now =>
        exact congrArg Prod.snd (obtain_map details tracker key now chronicle)
    | find key => rfl
    | endLife key =>
        exact congrArg (Prod.mk · chronicle.state) (endLife_map Prod.fst tracker key)
    | sweep now => exact congrArg Prod.snd (sweep_map details tracker now chronicle)
    | stir change => rfl
  have begins :
      ((.empty settings, state) : Tracker α × σ) =
        Prod.map (map Prod.fst) Chronicle.state
          ((.empty settings, .begin state) :
            Tracker (α × Nat) × Chronicle σ α) :=
    rfl
  rw [run, run, List.foldl_map, begins]
  exact List.foldl_hom (Prod.map (map Prod.fst) Chronicle.state) step

/-! ## What became of components -/

/-- Entries of numbered components as a chronicle has them. -/
def numbered (entries : List (String × Entry (α × Nat))) : List ((String × α) × Nat) :=
  (held entries).map fun item => ((item.1, item.2.1), item.2.2)

/-- What has a number. -/
def withNumber (number : Nat) (items : List ((String × α) × Nat)) : List (String × α) :=
  (items.filter fun item => item.2 == number).map Prod.fst

variable {tracker later : Tracker (α × Nat)} {chronicle after : Chronicle σ α}

/--
A component that was built under a key is live or lingers or was disposed of
under this key.  It is so once, and nowhere else.
-/
inductive Fate
    (tracker : Tracker (α × Nat))
    (chronicle : Chronicle σ α)
    (number : Nat)
    (built : String × α) : Prop where
  | live
      (isLive : withNumber number (numbered tracker.live) = [built])
      (notLingering : withNumber number (numbered tracker.lingering) = [])
      (notDisposed :
        withNumber number (chronicle.disposals.map Disposal.item) = [])
  | lingering
      (notLive : withNumber number (numbered tracker.live) = [])
      (lingers : withNumber number (numbered tracker.lingering) = [built])
      (notDisposed :
        withNumber number (chronicle.disposals.map Disposal.item) = [])
  | disposed
      (notLive : withNumber number (numbered tracker.live) = [])
      (notLingering : withNumber number (numbered tracker.lingering) = [])
      (disposedOf :
        withNumber number (chronicle.disposals.map Disposal.item) = [built])

/-- No component got lost and none was disposed of twice. -/
structure Conserved
    (tracker : Tracker (α × Nat))
    (chronicle : Chronicle σ α) : Prop where
  apart :
    ∀ key ∈ tracker.live.map Prod.fst,
      key ∉ tracker.lingering.map Prod.fst
  distinct : tracker.keys.Nodup
  size_eq : tracker.size = tracker.keys.length
  /-- Each component that was built is in one place, under its own key. -/
  fate (number : Nat) (built : String × α) :
    chronicle.built[number]? = some built → Fate tracker chronicle number built
  /-- Only what was built is tracked or was disposed of. -/
  genuine :
    ∀ item ∈
        numbered tracker.entries ++ chronicle.disposals.map Disposal.item,
      chronicle.built[item.2]? = some item.1
  /-- Each disposal that failed was reported once, and nothing else was. -/
  reports_eq : chronicle.reports = chronicle.disposals.filterMap Disposal.report?

/-- What holds throughout: what is tracked and what was disposed of is what was built. -/
structure Balanced
    (tracker : Tracker (α × Nat))
    (chronicle : Chronicle σ α) : Prop where
  distinct : tracker.keys.Nodup
  items :
    (numbered tracker.entries ++ chronicle.disposals.map Disposal.item).Perm
      chronicle.built.zipIdx
  reports_eq : chronicle.reports = chronicle.disposals.filterMap Disposal.report?

theorem numbered_append (front back : List (String × Entry (α × Nat))) :
    numbered (front ++ back) = numbered front ++ numbered back := by
  rw [numbered, held_append, List.map_append]
  rfl

theorem numbered_perm
    {entries others : List (String × Entry (α × Nat))}
    (perm : entries.Perm others) :
    (numbered entries).Perm (numbered others) :=
  (perm.map _).map _

theorem withNumber_append (number : Nat) (front back : List ((String × α) × Nat)) :
    withNumber number (front ++ back) =
      withNumber number front ++ withNumber number back := by
  rw [withNumber, List.filter_append, List.map_append]
  rfl

theorem withNumber_zipIdx (number start : Nat) (built : List (String × α)) :
    withNumber (start + number) (built.zipIdx start) = built[number]?.toList := by
  induction built generalizing number start with
  | nil => rfl
  | cons first rest ih =>
      rw [List.zipIdx_cons]
      cases number with
      | zero =>
          have others : withNumber start (rest.zipIdx (start + 1)) = [] := by
            rw [withNumber, List.map_eq_nil_iff, List.filter_eq_nil_iff]
            rintro ⟨item, number⟩ member
            have least := List.le_snd_of_mem_zipIdx member
            simp only [beq_iff_eq]
            omega
          rw [withNumber] at others ⊢
          simpa using others
      | succ number =>
          have next := ih number (start + 1)
          rw [withNumber, Nat.add_right_comm] at next
          rw [withNumber, List.filter_cons_of_neg (by simp), ← Nat.add_assoc]
          simpa using next

namespace Balanced

/-- The three places together hold each component once. -/
theorem withNumber_eq
    (balanced : Balanced tracker chronicle)
    (number : Nat) :
    withNumber number (numbered tracker.live) ++
          (withNumber number (numbered tracker.lingering) ++
            withNumber number (chronicle.disposals.map Disposal.item)) =
      chronicle.built[number]?.toList := by
  -- A number was given once, and a permutation of at most one item is that item.
  have perm := (balanced.items.filter fun item => item.2 == number).map Prod.fst
  have built := withNumber_zipIdx number 0 chronicle.built
  rw [← withNumber, ← withNumber, entries, numbered_append, withNumber_append,
    withNumber_append, List.append_assoc] at perm
  rw [Nat.zero_add] at built
  rw [built] at perm
  cases isBuilt : chronicle.built[number]? with
  | none =>
      rw [isBuilt] at perm
      exact perm.eq_nil
  | some item =>
      rw [isBuilt] at perm
      exact perm.eq_singleton

theorem fate
    (balanced : Balanced tracker chronicle)
    {number : Nat}
    {built : String × α}
    (isBuilt : chronicle.built[number]? = some built) :
    Fate tracker chronicle number built := by
  have once := balanced.withNumber_eq number
  rw [isBuilt, Option.toList_some] at once
  rcases List.append_eq_singleton_iff.mp once with
    ⟨notLive, elsewhere⟩ | ⟨isLive, nowhere⟩
  · rcases List.append_eq_singleton_iff.mp elsewhere with
      ⟨notLingering, disposedOf⟩ | ⟨lingers, notDisposed⟩
    · exact .disposed notLive notLingering disposedOf
    · exact .lingering notLive lingers notDisposed
  · rcases List.append_eq_nil_iff.mp nowhere with ⟨notLingering, notDisposed⟩
    exact .live isLive notLingering notDisposed

theorem conserved
    (balanced : Balanced tracker chronicle) :
    Conserved tracker chronicle where
  apart _ := not_lingering_of_live balanced.distinct
  distinct := balanced.distinct
  size_eq := by
    rw [size, keys, List.length_map, List.length_append]
  fate _ _ := balanced.fate
  genuine item member := by
    have built := balanced.items.subset member
    exact List.mk_mem_zipIdx_iff_getElem?.mp built
  reports_eq := balanced.reports_eq

/-! ## Each use keeps the balance -/

theorem empty (settings : TrackerSettings) (state : σ) :
    Balanced (.empty settings : Tracker (α × Nat)) (.begin state) :=
  ⟨List.nodup_nil, .refl _, rfl⟩

/-- Only keys and components of a tracker matter. -/
theorem congr
    (balanced : Balanced tracker chronicle)
    (keys : later.keys = tracker.keys)
    (entries : numbered later.entries = numbered tracker.entries) :
    Balanced later chronicle :=
  ⟨keys ▸ balanced.distinct, entries ▸ balanced.items, balanced.reports_eq⟩

theorem letGo
    {keeper : Keeper σ α}
    {key : String}
    {entry : Entry (α × Nat)}
    (balanced : Balanced tracker chronicle)
    (settles : keeper.Settles)
    (removed : tracker.entries.Perm ((key, entry) :: later.entries))
    (gone :
      keeper.chronicled.letGo key entry.component chronicle =
        (.ok (), after)) :
    Balanced later after := by
  rcases Keeper.exists_letGo_chronicled settles key entry.component chronicle with
    ⟨disposal, next, goes, isItem, built, disposals, reports⟩
  rw [gone] at goes
  cases goes
  refine ⟨?_, ?_, ?_⟩
  · have fewer := (removed.map Prod.fst).nodup_iff.mp balanced.distinct
    exact (List.nodup_cons.mp fewer).2
  · rw [built, disposals, List.map_append, List.map_singleton, isItem,
      ← List.append_assoc]
    have back :=
      List.perm_append_singleton disposal.item
        (numbered later.entries ++ chronicle.disposals.map Disposal.item)
    have front := (numbered_perm removed).append_right
      (chronicle.disposals.map Disposal.item)
    rw [isItem] at back
    exact back.trans (front.symm.trans balanced.items)
  · rw [reports, disposals, balanced.reports_eq, List.filterMap_append]
    rfl

theorem letsGo
    {keeper : Keeper σ α}
    {lets : String → Prop}
    (balanced : Balanced tracker chronicle)
    (settles : keeper.Settles)
    (goes : LetsGo keeper.chronicled lets tracker chronicle later after) :
    Balanced later after := by
  induction goes with
  | rests => exact balanced
  | live member _ gone _ ih =>
      exact
        ih
          (balanced.letGo settles
            (entries_removeLive_perm balanced.distinct member) gone)
  | lingering member _ gone _ ih =>
      exact
        ih
          (balanced.letGo settles
            (entries_removeLingering_perm balanced.distinct member) gone)

theorem touch
    {component : α × Nat}
    {key : String}
    {now : Nat}
    (balanced : Balanced tracker chronicle)
    (step : TouchStep tracker.nextTurn key now component later) :
    Balanced later chronicle := by
  apply balanced.congr step.keys
  rw [entries, numbered_append, numbered, numbered, step.held.1, step.held.2,
    entries, numbered_append]
  rfl

/-- A component that was just built is added under its key. -/
theorem insert
    {component : α}
    {key : String}
    {now : Nat}
    (balanced : Balanced tracker chronicle)
    (missing : tracker.find? key = none)
    (state : σ) :
    Balanced (tracker.nextTurn.insert key (component, chronicle.built.length) now)
      { chronicle with
        state
        built := chronicle.built ++ [(key, component)] } where
  distinct := distinct_insert _ balanced.distinct missing
  items := by
    have added :
        (numbered
              (tracker.nextTurn.insert key (component, chronicle.built.length)
                now).entries ++
            chronicle.disposals.map Disposal.item).Perm
          (((key, component), chronicle.built.length) ::
            (numbered tracker.entries ++
              chronicle.disposals.map Disposal.item)) :=
      (numbered_perm (entries_insert_perm _)).append_right _
    have numberedAll :
        (chronicle.built ++ [(key, component)]).zipIdx =
          chronicle.built.zipIdx ++
            [((key, component), chronicle.built.length)] := by
      simp [List.zipIdx_append]
    dsimp only
    rw [numberedAll]
    exact
      added.trans
        ((balanced.items.cons _).trans (List.perm_append_singleton _ _).symm)
  reports_eq := balanced.reports_eq

theorem obtain
    {keeper : Keeper σ α}
    (balanced : Balanced tracker chronicle)
    (settles : keeper.Settles)
    (key : String)
    (now : Nat) :
    Balanced (tracker.obtain keeper.chronicled key now chronicle).2.1
      (tracker.obtain keeper.chronicled key now chronicle).2.2 := by
  have step :
      ObtainStep keeper.chronicled tracker key now chronicle _ _ _ :=
    obtainStep_obtain key now (Keeper.composed_chronicled settles)
      fun _ _ _ _ _ _ => trivial
  generalize tracker.obtain keeper.chronicled key now chronicle = result at step
  rcases result with ⟨outcome, later, after⟩
  cases step with
  | touched found step => exact balanced.touch step
  | refused missing refused =>
      rw [Keeper.chronicled] at refused
      dsimp only at refused
      split at refused
      · cases refused
      · cases refused
        exact ⟨balanced.distinct, balanced.items, balanced.reports_eq⟩
  | built missing built step =>
      rw [Keeper.chronicled] at built
      dsimp only at built
      split at built
      · cases built
        have goes :
            LetsGo keeper.chronicled (fun _ => True) _ _ later after :=
          step.letsGo fun _ _ _ => trivial
        exact (balanced.insert missing _).letsGo settles goes
      · cases built

theorem endLife
    (balanced : Balanced tracker chronicle)
    (key : String) :
    Balanced (tracker.endLife key) chronicle where
  distinct :=
    ((entries_endLife_perm balanced.distinct).map Prod.fst).nodup_iff.mpr
      balanced.distinct
  items :=
    ((numbered_perm (entries_endLife_perm balanced.distinct)).append_right _).trans
      balanced.items
  reports_eq := balanced.reports_eq

theorem sweep
    {keeper : Keeper σ α}
    (balanced : Balanced tracker chronicle)
    (settles : keeper.Settles)
    (now : Nat) :
    Balanced (tracker.sweep keeper.chronicled now chronicle).2.1
      (tracker.sweep keeper.chronicled now chronicle).2.2 := by
  have allSafe : AllSafe (fun _ _ => True) tracker chronicle :=
    fun _ _ => trivial
  rcases
      letsGo_sweep (fun _ => True) now
        (Keeper.composed_chronicled settles) balanced.distinct allSafe
        (fun _ _ => trivial) (fun _ _ _ => trivial)
        (fun _ _ _ => trivial) with
    ⟨outcome, later, after, swept, letsGo, _⟩
  rw [swept]
  have begun : Balanced (tracker.beforeSweep now) chronicle :=
    balanced.congr keys_beforeSweep (congrArg numbered entries_beforeSweep)
  exact begun.letsGo settles letsGo

theorem use
    {keeper : Keeper σ α}
    (balanced : Balanced tracker chronicle)
    (settles : keeper.Settles)
    (oneUse : Use σ) :
    Balanced
      (Tracker.use keeper.chronicled (tracker, chronicle) oneUse.chronicled).1
      (Tracker.use keeper.chronicled (tracker, chronicle) oneUse.chronicled).2 := by
  cases oneUse with
  | obtain key now => exact balanced.obtain settles key now
  | find key => exact balanced
  | endLife key => exact balanced.endLife key
  | sweep now => exact balanced.sweep settles now
  | stir change => exact ⟨balanced.distinct, balanced.items, balanced.reports_eq⟩

theorem run
    {keeper : Keeper σ α}
    (settles : keeper.Settles)
    (settings : TrackerSettings)
    (state : σ)
    (uses : List (Use σ)) :
    Balanced
      (Tracker.run keeper.chronicled settings (.begin state)
        (uses.map Use.chronicled)).1
      (Tracker.run keeper.chronicled settings (.begin state)
        (uses.map Use.chronicled)).2 := by
  rw [Tracker.run, List.foldl_map]
  refine
    List.foldlRecOn
      (motive := fun situation : Tracker (α × Nat) × Chronicle σ α =>
        Balanced situation.1 situation.2)
      uses _ (Balanced.empty settings state) ?_
  intro situation balanced oneUse _
  exact balanced.use settles oneUse

end Balanced

/--
A tracker neither loses a component nor disposes of one twice, whatever is done
with it at whatever times: a chronicle changes nothing, and it says so.
-/
theorem run_conserved
    {keeper : Keeper σ α}
    (settles : keeper.Settles)
    (settings : TrackerSettings)
    (state : σ)
    (uses : List (Use σ)) :
    ∃ tracker chronicle,
      run keeper.chronicled settings (.begin state) (uses.map Use.chronicled) =
          (tracker, chronicle) ∧
        run keeper settings state uses =
          (tracker.map Prod.fst, chronicle.state) ∧
        Conserved tracker chronicle :=
  ⟨_, _, rfl, run_chronicled keeper settings state uses,
    (Balanced.run settles settings state uses).conserved⟩

theorem settles_labels : Labels.keeper.Settles := by
  intro key component labels message
  unfold Labels.keeper
  dsimp only
  split <;> simp

/-- Labels for two keys where there is room for one, while time runs back and forth. -/
def crowdedUses : List (Use Labels) :=
  [.obtain "a" 7, .obtain "b" 3, .obtain "a" 2, .endLife "a", .find "a",
    .obtain "b" 9, .sweep 20000, .obtain "b" 4,
    .stir fun labels => { labels with stale := ["b#4"] }, .sweep 5]

/-- What the keeper of labels begins with here: those of one key are stubborn. -/
def crowdedLabels : Labels :=
  .create (.echoing Context.defaultName) ["a"]

theorem run_conserved_labels :
    Labels.keeper.Settles ∧
      (∃ tracker chronicle,
        run Labels.keeper.chronicled ⟨5, 1⟩ (.begin crowdedLabels)
              (crowdedUses.map Use.chronicled) =
            (tracker, chronicle) ∧
          run Labels.keeper ⟨5, 1⟩ crowdedLabels crowdedUses =
            (tracker.map Prod.fst, chronicle.state) ∧
          Conserved tracker chronicle) ∧
      (run Labels.keeper.chronicled ⟨5, 1⟩ (.begin crowdedLabels)
          (crowdedUses.map Use.chronicled)).2.disposals.map Disposal.number =
        [1, 2, 0] :=
  ⟨settles_labels, run_conserved settles_labels ⟨5, 1⟩ crowdedLabels crowdedUses,
    rfl⟩

end Tracker

end LogPipeline
