import LogPipeline.Installation.Operations
import LogPipeline.Proofs.Sifting.Conduct

/-!
# Memory appenders as children

The children that a sifting appender of an installation has can be memory
appenders.  These are reliable, and stopping them has its effect.  They are also
docile, whatever the values are for which none can be made.
-/

namespace LogPipeline.Installation

/-- Whether a memory appender is started; of other handles nothing is known. -/
def memoryStarted? (handle : Handle) (installation : Installation) : Option Bool :=
  match installation.component? handle with
  | some (.memory appender) => some appender.started
  | _ => none

/-- Appenders that do not nest others can be used. -/
def HasDepth (installation : Installation) : Prop :=
  0 < installation.depth

/-- Children that are memory appenders, for all values but some. -/
def scarceChildren (unavailable : List String) : ChildPlan :=
  ⟨.memory "LIST", unavailable⟩

/-- Children that are memory appenders. -/
def memoryChildren : ChildPlan :=
  scarceChildren []

variable {handle : Handle} {installation : Installation} {started : Bool}

/-! ## The appenders behind handles -/

theorem component?_put_self
    {old : Component}
    (found : installation.component? handle = some old)
    (component : Component) :
    (installation.put handle component).component? handle = some component :=
  List.getElem?_set_self (List.getElem?_eq_some_iff.mp found).1

theorem component?_put_of_ne
    {other : Handle}
    (differs : other ≠ handle)
    (component : Component) :
    (installation.put handle component).component? other =
      installation.component? other :=
  List.getElem?_set_ne (Ne.symm differs)

/-- An appender that is added has the next handle. -/
theorem component?_add_self (component : Component) :
    (installation.add component).2.component? (installation.add component).1 =
      some component :=
  List.getElem?_concat_length

theorem component?_add_of_ne
    {other : Handle}
    {component : Component}
    (differs : other ≠ (installation.add component).1) :
    (installation.add component).2.component? other =
      installation.component? other :=
  getElem?_concat_of_ne differs component

theorem component?_add_fst (component : Component) :
    installation.component? (installation.add component).1 = none :=
  List.getElem?_eq_none (Nat.le_refl _)

/-- The operations on an appender in an installation with some depth. -/
theorem operations_eq
    (hasDepth : installation.HasDepth) :
    ∃ inner,
      (∀ handle,
          operations.start handle installation =
            startWith inner handle installation) ∧
        (∀ handle,
          operations.stop handle installation =
            stopWith inner handle installation) ∧
        ∀ handle event,
          operations.append handle event installation =
            appendWith inner handle event installation := by
  rcases Nat.exists_eq_succ_of_ne_zero (Nat.ne_of_gt hasDepth) with
    ⟨depth, isDepth⟩
  refine ⟨operationsTo depth, ?_, ?_, ?_⟩
  · intro handle
    unfold operations
    dsimp only
    rw [isDepth]
    rfl
  · intro handle
    unfold operations
    dsimp only
    rw [isDepth]
    rfl
  · intro handle event
    unfold operations
    dsimp only
    rw [isDepth]
    rfl

/-! ## What is done with memory appenders -/

theorem component?_of_memoryStarted?
    (known : memoryStarted? handle installation = some started) :
    ∃ appender,
      installation.component? handle = some (.memory appender) ∧
        appender.started = started := by
  unfold memoryStarted? at known
  split at known
  · next appender found => exact ⟨appender, found, Option.some.inj known⟩
  · cases known

/-- A memory appender behind a handle that had one leaves the others as they are. -/
theorem memoryStarted?_put
    {old : Component}
    (found : installation.component? handle = some old)
    (appender : MemoryAppender) :
    memoryStarted? handle (installation.put handle (.memory appender)) =
        some appender.started ∧
      ∀ other,
        other ≠ handle →
          memoryStarted? other (installation.put handle (.memory appender)) =
            memoryStarted? other installation := by
  constructor
  · rw [memoryStarted?, component?_put_self found]
  · intro other differs
    rw [memoryStarted?, memoryStarted?, component?_put_of_ne differs]

/-- A memory appender comes into being when it is added. -/
theorem born_add
    (hasDepth : installation.HasDepth)
    (appender : MemoryAppender) :
    Born HasDepth memoryStarted? installation
      (installation.add (.memory appender)).1
      (installation.add (.memory appender)).2 where
  sound := hasDepth
  fresh := by
    rw [memoryStarted?, component?_add_fst]
  known := by
    rw [memoryStarted?, component?_add_self]
    rfl
  others other differs := by
    rw [memoryStarted?, memoryStarted?, component?_add_of_ne differs]

theorem exists_stop_memory
    (hasDepth : installation.HasDepth)
    (known : (memoryStarted? handle installation).isSome = true) :
    ∃ after,
      operations.stop handle installation = (.ok (), after) ∧
        after.HasDepth ∧
        memoryStarted? handle after = some false ∧
        ∀ other,
          other ≠ handle →
            memoryStarted? other after = memoryStarted? other installation := by
  rcases Option.isSome_iff_exists.mp known with ⟨started, isStarted⟩
  rcases component?_of_memoryStarted? isStarted with ⟨appender, found, _⟩
  rcases operations_eq hasDepth with ⟨inner, _, stops, _⟩
  rw [stops, stopWith, found]
  exact ⟨_, rfl, hasDepth, memoryStarted?_put found _⟩

/-- A memory appender that takes an event stays as started as it was. -/
theorem exists_append_memory
    (event : Event)
    (hasDepth : installation.HasDepth)
    (known : memoryStarted? handle installation = some started) :
    ∃ after,
      operations.append handle event installation = (.done (), after) ∧
        after.HasDepth ∧
        ∀ other,
          memoryStarted? other after = memoryStarted? other installation := by
  rcases component?_of_memoryStarted? known with ⟨appender, found, isStarted⟩
  rcases operations_eq hasDepth with ⟨inner, _, _, appends⟩
  rw [appends, appendWith, found]
  refine ⟨_, rfl, hasDepth, ?_⟩
  rcases memoryStarted?_put found (appender.append event) with ⟨itself, others⟩
  intro other
  by_cases same : other = handle
  · subst other
    rw [itself, known]
    exact congrArg some isStarted
  · exact others other same

/-! ## How memory appenders behave -/

theorem startable_memory : operations.Startable HasDepth memoryStarted? where
  isStarted {handle installation started} known := by
    rcases component?_of_memoryStarted? known with ⟨appender, found, rfl⟩
    have asks :
        operations.isStarted handle installation =
          Installation.isStarted handle installation :=
      rfl
    rw [asks, Installation.isStarted, found]
    rfl
  start {handle installation} hasDepth known := by
    rcases Option.isSome_iff_exists.mp known with ⟨started, isStarted⟩
    rcases component?_of_memoryStarted? isStarted with ⟨appender, found, _⟩
    rcases operations_eq hasDepth with ⟨inner, starts, _⟩
    rw [starts, startWith, found]
    exact ⟨_, rfl, hasDepth, memoryStarted?_put found _⟩

theorem makeChild_scarceChildren
    (unavailable : List String)
    (value : String) :
    makeChild (scarceChildren unavailable) value installation =
      if unavailable.contains value then
        (.error (.other "no such directory"), installation)
      else
        (.ok (installation.add (.memory (.create value))).1,
          (installation.add (.memory (.create value))).2) := by
  simp only [makeChild, scarceChildren, Plan.named, build]

/-- Memory appenders can always be made, start, and take every event. -/
theorem reliable_memory :
    operations.Reliable (makeChild memoryChildren) HasDepth memoryStarted? where
  toStartable := startable_memory
  make value {installation} hasDepth := by
    rw [memoryChildren, makeChild_scarceChildren]
    exact ⟨_, _, rfl, born_add hasDepth _⟩
  stop {handle installation} hasDepth known := by
    rcases exists_stop_memory hasDepth known with
      ⟨after, stops, stillDeep, stopped, others⟩
    exact ⟨after, stops, stillDeep, Or.inl stopped, others⟩
  append event hasDepth isStarted :=
    exists_append_memory event hasDepth isStarted

theorem stopsChildren_memory :
    operations.StopsChildren HasDepth memoryStarted? := by
  intro handle installation after hasDepth known stops
  rcases exists_stop_memory hasDepth known with ⟨_, goes, _, stopped, _⟩
  rw [stops] at goes
  cases goes
  exact stopped

/-- Memory appenders obey, whatever the values for which none can be made. -/
theorem docile_scarce (unavailable : List String) :
    operations.Docile (makeChild (scarceChildren unavailable)) HasDepth
      memoryStarted? where
  toStartable := startable_memory
  make {value installation after handle} hasDepth makes := by
    rw [makeChild_scarceChildren] at makes
    split at makes
    · cases makes
    · cases makes
      exact born_add hasDepth _
  refuse {value installation after error} hasDepth refuses := by
    rw [makeChild_scarceChildren] at refuses
    split at refuses
    · cases refuses
      exact ⟨hasDepth, fun _ => rfl⟩
    · cases refuses
  report _ _ hasDepth := ⟨hasDepth, fun _ => rfl⟩
  stop hasDepth known := exists_stop_memory hasDepth known
  append {handle installation} event hasDepth isStarted := by
    rcases exists_append_memory event hasDepth isStarted with
      ⟨after, appends, stillDeep, others⟩
    rw [appends]
    exact
      ⟨stillDeep, others handle ▸ isStarted ▸ rfl, fun other _ => others other⟩

end LogPipeline.Installation

namespace LogPipeline.Sifting

/-! ## Events of users -/

/-- An installation without appenders, and no idle ones. -/
def emptySite : Nest Installation where
  state :=
    (Installation.empty (.echoing Context.defaultName) []).deepen
      (.memory "LIST")
  idle := []

/-- An event of a user at some time in milliseconds. -/
def userEvent (user : String) (millis : Nat) : Event :=
  { Event.plain ⟨millis / 1000, millis % 1000 * 1000000⟩ .info "app" "hello" with
    properties := Fields.empty.insert "user" (.text user) }

/-- Tells events apart by their users. -/
def byUser : Discriminator :=
  .property "user" "anonymous"

end LogPipeline.Sifting
