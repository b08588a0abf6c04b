import LogPipeline.Proofs.Dispatcher.Steps

/-!
# The turns of a delivery

When an event goes through a roster, one appender after the other has its turn.
One that is started is given the event, and one that is not is passed over.  How
far a delivery came and whether it is clean can be told from the turns of the
members that it passed.
-/

namespace LogPipeline

variable {σ α : Type}

/-! ## Turns -/

/-- What became of an appender when it was its turn to take an event. -/
structure Turn (σ α : Type) where
  appender : α
  /-- The state in which the appender was asked whether it is started. -/
  before : σ
  /-- How its attempt to take the event ended, unless it was passed over. -/
  outcome? : Option (Attempt Unit)
  /-- What was reported about it. -/
  report? : Option Status

namespace Turn

/-- The appender was given the event. -/
def wasGiven (turn : Turn σ α) : Bool :=
  turn.outcome?.isSome

/-- The appender was given the event and did not take it. -/
def failed (turn : Turn σ α) : Bool :=
  match turn.outcome? with
  | some (.failed _) => true
  | some (.panicked _) => true
  | _ => false

/-- The level at which a turn calls for a report. -/
def trouble? (turn : Turn σ α) : Option StatusLevel :=
  if turn.wasGiven then
    if turn.failed then some .error else none
  else
    some .warn

variable (operations : Operations σ α) (origin : String) (event : Event)

/-- The state after the attempt. -/
def attempted (turn : Turn σ α) : σ :=
  if turn.wasGiven then
    (operations.append turn.appender event turn.before).2
  else
    turn.before

/-- The state when the turn is over. -/
def after (turn : Turn σ α) : σ :=
  match turn.report? with
  | none => turn.attempted operations event
  | some status => operations.report status (turn.attempted operations event)

/-- What there is to report about a turn. -/
def complaint? (turn : Turn σ α) : Option Status :=
  let name := operations.name turn.appender (turn.attempted operations event)
  let failure (trouble : String) : Status :=
    .error origin ("Appender [" ++ name ++ "] failed to append. " ++ trouble)
  match turn.outcome? with
  | none =>
      some (.warn origin ("Attempted to append to non started appender [" ++ name ++ "]."))
  | some (.done _) => none
  | some (.failed error) => some (failure error.message)
  | some (.panicked message) => some (failure ("panicked: " ++ message))

/-- A turn that can take place. -/
structure Genuine (turn : Turn σ α) : Prop where
  asked : operations.isStarted turn.appender turn.before = .ok turn.wasGiven
  given :
    ∀ outcome ∈ turn.outcome?,
      (operations.append turn.appender event turn.before).1 = outcome
  told :
    ∀ status ∈ turn.report?, turn.complaint? operations origin event = some status

/-- Each turn begins where the one before it ends. -/
inductive Line : List (Turn σ α) → σ → σ → Prop where
  | nil (state : σ) : Line [] state state
  | cons
      {turn : Turn σ α}
      {rest : List (Turn σ α)}
      {last : σ}
      (onward : Line rest (turn.after operations event) last) :
      Line (turn :: rest) turn.before last

section Given

variable {outcome : Attempt Unit} {turn : Turn σ α}

/-- An attempt fails if there is something to say about it. -/
theorem failed_of_given (given : turn.outcome? = some outcome) :
    turn.failed = outcome.trouble?.isSome := by
  rw [failed, given]
  cases outcome <;> rfl

theorem complaint?_of_given (given : turn.outcome? = some outcome) :
    turn.complaint? operations origin event =
      outcome.trouble?.map fun trouble =>
        .error origin
          (Member.failureMessage
            (operations.name turn.appender (turn.attempted operations event)) trouble) := by
  rw [complaint?, given]
  cases outcome <;> rfl

end Given

theorem level_complaint? (turn : Turn σ α) :
    (turn.complaint? operations origin event).map Status.level = turn.trouble? := by
  rcases turn with ⟨appender, before, outcome, report⟩
  cases outcome with
  | none => rfl
  | some outcome => cases outcome <;> rfl

/-- Nobody complains for information only. -/
theorem serious_of_complaint?
    {operations : Operations σ α}
    {origin : String}
    {event : Event}
    {turn : Turn σ α}
    {status : Status}
    (due : turn.complaint? operations origin event = some status) :
    status.level ≠ .info := by
  have level := turn.level_complaint? operations origin event
  rw [due, Option.map_some, trouble?] at level
  intro isInfo
  rw [isInfo] at level
  split at level
  · split at level <;> cases level
  · cases level

end Turn

variable (operations : Operations σ α) (origin : String) (event : Event)

/-! ## Members -/

namespace Member

variable (member : Member α) (started : Bool) (state : σ)

/-- How many reports there were about a member at a level. -/
def reports (member : Member α) : StatusLevel → Nat
  | .error => member.failureReports
  | _ => member.idleReports

/-- The next turn of a member. -/
def turn : Turn σ α :=
  let outcome? :=
    if started then
      some (operations.append member.appender event state).1
    else
      none
  let untold : Turn σ α := ⟨member.appender, state, outcome?, none⟩
  { untold with
    report? :=
      (untold.complaint? operations origin event).filter fun status =>
        member.reports status.level < greatestReports }

@[simp]
theorem wasGiven_turn :
    (member.turn operations origin event started state).wasGiven = started := by
  cases started <;> rfl

@[simp]
theorem failed_turn_false :
    (member.turn operations origin event false state).failed = false := by
  rfl

theorem report_turn :
    (member.turn operations origin event started state).report? =
      ((member.turn operations origin event started state).complaint? operations
          origin event).filter fun status =>
        member.reports status.level < greatestReports := by
  rfl

theorem genuine_turn
    (asked : operations.isStarted member.appender state = .ok started) :
    (member.turn operations origin event started state).Genuine operations origin
      event := by
  constructor
  · rw [wasGiven_turn]
    exact asked
  · intro outcome given
    cases started with
    | true => exact Option.some.inj given
    | false => cases given
  · intro status told
    rw [report_turn, Option.mem_def] at told
    exact (Option.filter_eq_some_iff.mp told).1

section

variable {operations origin event member started state}

theorem after_turn_of_calm
    (calm :
      (member.turn operations origin event started state).complaint? operations
        origin event = none) :
    (member.turn operations origin event started state).after operations event =
      (member.turn operations origin event started state).attempted operations
        event := by
  rw [Turn.after, report_turn, calm]
  rfl

theorem after_turn_of_due
    {status : Status}
    (due :
      (member.turn operations origin event started state).complaint? operations
        origin event = some status) :
    (member.turn operations origin event started state).after operations event =
      if member.reports status.level < greatestReports then
        operations.report status
          ((member.turn operations origin event started state).attempted operations
            event)
      else
        (member.turn operations origin event started state).attempted operations
          event := by
  rw [Turn.after, report_turn, due, Option.filter_some]
  by_cases few : member.reports status.level < greatestReports
  · rw [if_pos (decide_eq_true few), if_pos few]
  · rw [if_neg (by simpa using few), if_neg few]

end

/-- Passing over a member comes to the same as its turn. -/
theorem skip_snd :
    (member.skip operations origin state).2 =
      (member.turn operations origin event false state).after operations event := by
  have due :
      (member.turn operations origin event false state).complaint? operations
          origin event =
        some
          (.warn origin (idleMessage (operations.name member.appender state))) :=
    rfl
  rw [after_turn_of_due due, skip]
  exact apply_ite Prod.snd ..

theorem complaint_turn :
    (member.turn operations origin event true state).complaint? operations origin
        event =
      (operations.append member.appender event state).1.trouble?.map fun trouble =>
        .error origin
          (failureMessage
            (operations.name member.appender
              (operations.append member.appender event state).2)
            trouble) :=
  Turn.complaint?_of_given operations origin event rfl

/-- Giving an event to a member comes to the same as its turn. -/
theorem give_turn :
    (member.give operations origin event state).1 =
        !(member.turn operations origin event true state).failed ∧
      (member.give operations origin event state).2.2 =
        (member.turn operations origin event true state).after operations event := by
  have failed :
      (member.turn operations origin event true state).failed =
        (operations.append member.appender event state).1.trouble?.isSome :=
    Turn.failed_of_given rfl
  have complaint := member.complaint_turn operations origin event state
  rw [failed, give]
  dsimp only
  cases ended : (operations.append member.appender event state).1.trouble? with
  | none =>
      rw [ended] at complaint
      rw [after_turn_of_calm complaint]
      exact ⟨rfl, rfl⟩
  | some trouble =>
      rw [ended] at complaint
      rw [after_turn_of_due complaint]
      refine ⟨rfl, ?_⟩
      dsimp only
      rw [noteFailure]
      exact apply_ite Prod.snd ..

end Member

/-! ## Deliveries -/

/-- A delivery when members had some turns. -/
def Delivery.advance (turns : List (Turn σ α)) (delivery : Delivery) : Delivery where
  event := delivery.event
  reached := delivery.reached + turns.length
  clean := delivery.clean && !turns.any Turn.failed

@[simp]
theorem Delivery.advance_nil (delivery : Delivery) :
    delivery.advance ([] : List (Turn σ α)) = delivery := by
  simp [advance]

theorem Delivery.advance_cons
    (turn : Turn σ α)
    (turns : List (Turn σ α))
    (delivery : Delivery) :
    delivery.advance (turn :: turns) = (delivery.advance [turn]).advance turns := by
  simp [advance, Bool.and_assoc, Nat.add_left_comm, Nat.add_comm]

/--
How a delivery to some appenders stands that has come so far by some turns: not
all have had theirs, or the last one ends it.
-/
inductive Progress.After
    (delivery : Delivery)
    (appenders : List α)
    (turns : List (Turn σ α)) :
    Progress → Prop where
  | waiting
      {later : Delivery}
      (advanced : later = delivery.advance turns)
      (passed : turns.map Turn.appender <+: appenders) :
      After delivery appenders turns (.waiting later)
  | finished
      {clean : Bool}
      (advanced : clean = (delivery.advance turns).clean)
      (all : turns.map Turn.appender = appenders) :
      After delivery appenders turns (.finished clean)
  | crashed
      {later : Delivery}
      (message : String)
      (advanced : later = delivery.advance turns)
      (passed : turns.map Turn.appender <+: appenders) :
      After delivery appenders turns (.crashed later message)

theorem Progress.After.cons
    {delivery : Delivery}
    {turn : Turn σ α}
    {appenders : List α}
    {turns : List (Turn σ α)}
    {progress : Progress}
    (later : progress.After (delivery.advance [turn]) appenders turns) :
    progress.After delivery (turn.appender :: appenders) (turn :: turns) := by
  have further
      {appenders : List α}
      (passed : turns.map Turn.appender <+: appenders) :
      (turn :: turns).map Turn.appender <+: turn.appender :: appenders :=
    (List.prefix_cons_inj _).mpr passed
  cases later with
  | waiting advanced passed =>
      exact .waiting (advanced.trans (delivery.advance_cons turn turns).symm)
        (further passed)
  | finished advanced all =>
      rw [← delivery.advance_cons] at advanced
      exact .finished advanced (congrArg (List.cons _) all)
  | crashed message advanced passed =>
      exact .crashed message (advanced.trans (delivery.advance_cons turn turns).symm)
        (further passed)

namespace Roster

/--
The turns of members when an event goes from one to the next.  It goes no
further than a member that has to wait, or one that breaks off when it is asked
whether it is started.
-/
def turns : List (Member α) → σ → List (Turn σ α)
  | [], _ => []
  | member :: rest, state =>
      if operations.blocks member.appender state then
        []
      else
        match operations.isStarted member.appender state with
        | .error _ => []
        | .ok started =>
            let turn := member.turn operations origin event started state
            turn :: turns rest (turn.after operations event)

theorem genuine_turns (members : List (Member α)) (state : σ) :
    ∀ turn ∈ turns operations origin event members state,
      turn.Genuine operations origin event := by
  induction members generalizing state with
  | nil =>
      intro turn member
      cases member
  | cons member rest ih =>
      rw [turns]
      by_cases waits : operations.blocks member.appender state = true
      · rw [if_pos waits]
        intro turn member
        cases member
      · rw [if_neg waits]
        cases asked : operations.isStarted member.appender state with
        | error message =>
            intro turn member
            cases member
        | ok started =>
            rw [List.forall_mem_cons]
            exact ⟨member.genuine_turn operations origin event started state asked,
              ih _⟩

variable {operations}

/-- A member that is asked has its turn, and the delivery goes on from there. -/
theorem serve_cons
    {member : Member α}
    {started : Bool}
    {state : σ}
    (ready : ¬ operations.blocks member.appender state = true)
    (asked : operations.isStarted member.appender state = .ok started)
    (delivery : Delivery)
    (rest : List (Member α)) :
    let turn := member.turn operations origin delivery.event started state
    let onward :=
      serve operations origin (delivery.advance [turn]) rest
        (turn.after operations delivery.event)
    (serve operations origin delivery (member :: rest) state).1 = onward.1 ∧
      (serve operations origin delivery (member :: rest) state).2.2 = onward.2.2 := by
  rw [serve, if_neg ready, asked]
  cases started with
  | true =>
      rcases member.give_turn operations origin delivery.event state with
        ⟨clean, after⟩
      simp [Delivery.advance, clean, after]
  | false =>
      have after := member.skip_snd operations origin delivery.event state
      simp [Delivery.advance, after]

variable (operations)

/-- A delivery comes as far as the members have their turns. -/
theorem after_serve (delivery : Delivery) (members : List (Member α)) (state : σ) :
    (serve operations origin delivery members state).1.After delivery
      (members.map Member.appender)
      (turns operations origin delivery.event members state) := by
  induction members generalizing delivery state with
  | nil => exact .finished (Bool.and_true _).symm rfl
  | cons member rest ih =>
      by_cases waits : operations.blocks member.appender state = true
      · rw [serve, if_pos waits, turns, if_pos waits]
        exact .waiting delivery.advance_nil.symm List.nil_prefix
      · cases asked : operations.isStarted member.appender state with
        | error message =>
            rw [serve, turns, if_neg waits, if_neg waits, asked]
            exact .crashed message delivery.advance_nil.symm List.nil_prefix
        | ok started =>
            rw [(serve_cons origin waits asked delivery rest).1, turns, if_neg waits,
              asked]
            let turn := member.turn operations origin delivery.event started state
            have served :=
              ih (delivery.advance [turn]) (turn.after operations delivery.event)
            exact served.cons

/-- The turns lead to the state in which the delivery rests. -/
theorem line_serve (delivery : Delivery) (members : List (Member α)) (state : σ) :
    Turn.Line operations delivery.event
      (turns operations origin delivery.event members state) state
      (serve operations origin delivery members state).2.2 := by
  induction members generalizing delivery state with
  | nil => exact .nil state
  | cons member rest ih =>
      by_cases waits : operations.blocks member.appender state = true
      · rw [serve, if_pos waits, turns, if_pos waits]
        exact .nil state
      · cases asked : operations.isStarted member.appender state with
        | error message =>
            rw [serve, turns, if_neg waits, if_neg waits, asked]
            exact .nil state
        | ok started =>
            rw [(serve_cons origin waits asked delivery rest).2, turns, if_neg waits,
              asked]
            let turn := member.turn operations origin delivery.event started state
            have served :=
              ih (delivery.advance [turn]) (turn.after operations delivery.event)
            exact .cons served

/-- A delivery goes on to the appenders that it has not passed. -/
theorem after_deliver (delivery : Delivery) (roster : Roster α) (state : σ) :
    (roster.deliver operations origin delivery state).1.After delivery
      (roster.appenders.drop delivery.reached)
      (turns operations origin delivery.event
        (roster.members.drop delivery.reached) state) := by
  rw [appenders, ← List.map_drop]
  exact
    after_serve operations origin delivery (roster.members.drop delivery.reached) state

end Roster

end LogPipeline
