import LogPipeline.Proofs.Appender.Turns
import LogPipeline.Proofs.Dispatcher.Lifecycle

/-!
# Registers of deliveries

A register goes along with a dispatcher.  It notes the turns of the appenders in
every delivery, and which deliveries were counted as delivered.  What it tells
of a delivery under way is enough to know, when the delivery comes to its end,
that every attached appender had its turn and whether one of them failed.
-/

namespace LogPipeline

variable {σ α : Type}

/-! ## Deliveries under way -/

/-- The delivery that a worker goes on with. -/
def Worker.underWay (worker : Worker) : Option Delivery :=
  match worker.crash with
  | none => worker.hand
  | some _ => none

/-- Whether an event is on its way through the attached appenders. -/
def Worker.isDelivering (worker : Worker) : Bool :=
  worker.underWay.any fun delivery => 0 < delivery.reached

/--
Whether an event is on its way through the attached appenders.  Nobody can be
attached or detached then.
-/
def Dispatcher.isDelivering (dispatcher : Dispatcher α) : Bool :=
  dispatcher.worker.any Worker.isDelivering ||
    dispatcher.previous.any Worker.isDelivering

/-! ## Registers -/

/-- A delivery that came to its end. -/
structure Handover (σ α : Type) where
  event : Event
  /-- The appenders that were attached. -/
  attached : List α
  /-- What became of the appenders, one after the other. -/
  turns : List (Turn σ α)
  /-- Whether the event was counted as delivered. -/
  delivered : Bool

/-- What is noted of deliveries. -/
structure Register (σ α : Type) where
  /-- The turns in the delivery under way. -/
  begun : List (Turn σ α)
  /-- The deliveries that came to their end since the metrics were last reset. -/
  handovers : List (Handover σ α)

namespace Register

/-- Nothing was delivered. -/
def empty : Register σ α := ⟨[], []⟩

variable (operations : Operations σ α)

/-- Notes how a delivery goes on. -/
def deliver
    (dispatcher : Dispatcher α)
    (delivery : Delivery)
    (state : σ)
    (register : Register σ α) :
    Register σ α :=
  let turns :=
    register.begun ++
      Roster.turns operations dispatcher.name delivery.event
        (dispatcher.roster.members.drop delivery.reached) state
  match (dispatcher.roster.deliver operations dispatcher.name delivery state).1 with
  | .finished clean =>
      ⟨[],
        register.handovers ++
          [⟨delivery.event, dispatcher.roster.appenders, turns, clean⟩]⟩
  | _ => { register with begun := turns }

/-- Notes what a worker does by itself, if there is something it can do. -/
def work
    (leaving : Bool)
    (dispatcher : Dispatcher α)
    (worker : Worker)
    (state : σ)
    (register : Register σ α) :
    Register σ α :=
  match dispatcher.workStep operations leaving worker state, worker.hand with
  | none, _ => register
  | some _, some delivery => register.deliver operations dispatcher delivery state
  | some _, none => { register with begun := [] }

/-- Notes one step of a worker or of those who wait for it. -/
def step
    (leaving : Bool)
    (place : Nat)
    (dispatcher : Dispatcher α)
    (worker : Worker)
    (state : σ)
    (register : Register σ α) :
    Register σ α :=
  match dispatcher.admit? place worker with
  | some _ => register
  | none => register.work operations leaving dispatcher worker state

/-- Notes steps in the order of some turns. -/
def run
    (leaving : Bool)
    (turns : List Nat)
    (dispatcher : Dispatcher α)
    (worker : Worker)
    (state : σ)
    (register : Register σ α) :
    Register σ α :=
  match turns with
  | [] => register
  | place :: turns =>
      match dispatcher.step operations leaving place worker state with
      | none => register
      | some (_, none, _) =>
          register.step operations leaving place dispatcher worker state
      | some (later, some next, after) =>
          run leaving turns later next after
            (register.step operations leaving place dispatcher worker state)

end Register

/-! ## What a register tells -/

/-- Each attached appender had its turn, and the event is counted accordingly. -/
structure Handover.Whole
    (operations : Operations σ α)
    (origin : String)
    (handover : Handover σ α) : Prop where
  everyone : handover.turns.map Turn.appender = handover.attached
  genuine :
    ∀ turn ∈ handover.turns, turn.Genuine operations origin handover.event
  clean : handover.delivered = !handover.turns.any Turn.failed

/-- The turns that are noted are those of the appenders that a delivery has passed. -/
structure Register.Follows
    (operations : Operations σ α)
    (register : Register σ α)
    (dispatcher : Dispatcher α)
    (delivery : Delivery) : Prop where
  length : register.begun.length = delivery.reached
  passed : register.begun.map Turn.appender <+: dispatcher.roster.appenders
  genuine :
    ∀ turn ∈ register.begun,
      turn.Genuine operations dispatcher.name delivery.event
  clean : delivery.clean = !register.begun.any Turn.failed

/-- What a register tells of a dispatcher with some delivery under way. -/
structure Register.Tells
    (operations : Operations σ α)
    (register : Register σ α)
    (dispatcher : Dispatcher α)
    (underWay : Option Delivery) : Prop where
  delivered :
    dispatcher.metrics.delivered = register.handovers.countP Handover.delivered
  failed :
    dispatcher.metrics.failed =
      register.handovers.countP fun handover => !handover.delivered
  whole :
    ∀ handover ∈ register.handovers,
      handover.Whole operations dispatcher.name
  follows :
    ∀ delivery ∈ underWay, register.Follows operations dispatcher delivery

namespace Register

open Dispatcher

variable {operations : Operations σ α} {register : Register σ α}
variable {dispatcher later : Dispatcher α} {worker : Worker}
variable {left : Option Worker} {state after : σ}

/-- What a register tells does not depend on anything else about a dispatcher. -/
theorem Tells.congr
    {underWay : Option Delivery}
    (tells : register.Tells operations dispatcher underWay)
    (name : later.name = dispatcher.name)
    (appenders : later.roster.appenders = dispatcher.roster.appenders)
    (delivered : later.metrics.delivered = dispatcher.metrics.delivered)
    (failed : later.metrics.failed = dispatcher.metrics.failed) :
    register.Tells operations later underWay := by
  constructor
  · rw [delivered]
    exact tells.delivered
  · rw [failed]
    exact tells.failed
  · rw [name]
    exact tells.whole
  · intro delivery isUnderWay
    have follows := tells.follows delivery isUnderWay
    constructor
    · exact follows.length
    · rw [appenders]
      exact follows.passed
    · rw [name]
      exact follows.genuine
    · exact follows.clean

/-- What was begun does not matter if nothing is under way. -/
theorem Tells.rest
    {underWay : Option Delivery}
    (tells : register.Tells operations dispatcher underWay)
    (begun : List (Turn σ α)) :
    Tells operations ⟨begun, register.handovers⟩ dispatcher none := by
  refine ⟨tells.delivered, tells.failed, tells.whole, ?_⟩
  intro delivery isUnderWay
  cases isUnderWay

theorem Follows.map_begun
    {delivery : Delivery}
    (follows : register.Follows operations dispatcher delivery) :
    register.begun.map Turn.appender =
      dispatcher.roster.appenders.take delivery.reached := by
  have front := List.prefix_iff_eq_take.mp follows.passed
  rwa [List.length_map, follows.length] at front

/-- More turns are noted as the delivery goes on. -/
theorem Follows.advance
    {delivery : Delivery}
    {turns : List (Turn σ α)}
    (follows : register.Follows operations dispatcher delivery)
    (passed :
      turns.map Turn.appender <+: dispatcher.roster.appenders.drop delivery.reached)
    (genuine :
      ∀ turn ∈ turns, turn.Genuine operations dispatcher.name delivery.event) :
    Follows operations ⟨register.begun ++ turns, register.handovers⟩ dispatcher
      (delivery.advance turns) := by
  constructor
  · rw [List.length_append, follows.length]
    rfl
  · have further :=
      (List.prefix_append_right_inj
        (dispatcher.roster.appenders.take delivery.reached)).mpr passed
    rw [List.take_append_drop, ← follows.map_begun, ← List.map_append] at further
    exact further
  · intro turn member
    rcases List.mem_append.mp member with before | now
    · exact follows.genuine turn before
    · exact genuine turn now
  · rw [Delivery.advance, follows.clean, List.any_append, Bool.not_or]

/-- When the last appender had its turn the noted turns are those of all appenders. -/
theorem Follows.whole
    {delivery : Delivery}
    {turns : List (Turn σ α)}
    {clean : Bool}
    (follows : register.Follows operations dispatcher delivery)
    (all : turns.map Turn.appender = dispatcher.roster.appenders.drop delivery.reached)
    (genuine :
      ∀ turn ∈ turns, turn.Genuine operations dispatcher.name delivery.event)
    (isClean : clean = (delivery.advance turns).clean) :
    Handover.Whole operations dispatcher.name
      ⟨delivery.event, dispatcher.roster.appenders, register.begun ++ turns,
        clean⟩ := by
  have further := follows.advance (all ▸ List.prefix_rfl) genuine
  refine ⟨?_, further.genuine, isClean.trans further.clean⟩
  rw [List.map_append, follows.map_begun, all, List.take_append_drop]

/-- A delivery that has not come to its end goes on. -/
theorem Tells.advance
    {delivery further : Delivery}
    {turns : List (Turn σ α)}
    (tells : register.Tells operations dispatcher (some delivery))
    (isFurther : further = delivery.advance turns)
    (passed :
      turns.map Turn.appender <+: dispatcher.roster.appenders.drop delivery.reached)
    (genuine :
      ∀ turn ∈ turns, turn.Genuine operations dispatcher.name delivery.event) :
    Tells operations ⟨register.begun ++ turns, register.handovers⟩ dispatcher
      (some further) := by
  refine ⟨tells.delivered, tells.failed, tells.whole, ?_⟩
  rintro _ ⟨⟩
  rw [isFurther]
  exact (tells.follows delivery rfl).advance passed genuine

/-- A delivery that comes to its end is counted and noted. -/
theorem Tells.conclude
    {underWay : Option Delivery}
    {handover : Handover σ α}
    (tells : register.Tells operations dispatcher underWay)
    (whole : handover.Whole operations dispatcher.name) :
    Tells operations ⟨[], register.handovers ++ [handover]⟩
      (dispatcher.count (if handover.delivered then .delivered else .failed)) none := by
  constructor
  · dsimp only
    rw [List.countP_append, List.countP_singleton, ← tells.delivered]
    cases handover.delivered <;> rfl
  · dsimp only
    rw [List.countP_append, List.countP_singleton, ← tells.failed]
    cases handover.delivered <;> rfl
  · intro noted member
    rcases List.mem_append.mp member with before | now
    · exact tells.whole noted before
    · rw [List.mem_singleton.mp now]
      exact whole
  · intro delivery isUnderWay
    cases isUnderWay

/-- A register keeps up with a delivery. -/
theorem Tells.deliver
    {delivery : Delivery}
    (tells : register.Tells operations dispatcher (some delivery))
    (sound : worker.crash = none)
    (delivers :
      deliverStep operations dispatcher worker delivery state =
        some (later, left, after)) :
    (register.deliver operations dispatcher delivery state).Tells operations later
      (left.bind Worker.underWay) := by
  have genuine :=
    Roster.genuine_turns operations dispatcher.name delivery.event
      (dispatcher.roster.members.drop delivery.reached) state
  have reaches :=
    Roster.after_deliver operations dispatcher.name delivery dispatcher.roster state
  have kept :=
    dispatcher.roster.appenders_deliver operations dispatcher.name delivery state
  have follows := tells.follows delivery rfl
  rw [deliverStep] at delivers
  rw [Register.deliver]
  generalize
    Roster.turns operations dispatcher.name delivery.event
      (dispatcher.roster.members.drop delivery.reached) state = turns
    at genuine reaches ⊢
  generalize
    dispatcher.roster.deliver operations dispatcher.name delivery state = result
    at delivers reaches kept ⊢
  rcases result with ⟨progress, roster, reached⟩
  dsimp only at delivers reaches kept ⊢
  cases reaches with
  | waiting isFurther passed =>
      dsimp only at delivers ⊢
      -- There is no step if the delivery does not get any further.
      split at delivers
      · cases delivers
      · cases delivers
        have advanced := tells.advance isFurther passed genuine
        simp only [Option.bind_some, Worker.underWay, sound]
        exact advanced.congr rfl kept rfl rfl
  | finished isClean all =>
      dsimp only at delivers ⊢
      cases delivers
      have concluded := tells.conclude (follows.whole all genuine isClean)
      simp only [Option.bind_some, Worker.underWay, sound]
      exact concluded.congr rfl kept rfl rfl
  | crashed message isFurther passed =>
      dsimp only at delivers ⊢
      cases delivers
      -- The worker broke off, and nothing is under way any more.
      have advanced := tells.advance isFurther passed genuine
      exact (advanced.rest _).congr rfl kept rfl rfl

/-- Nothing was noted of a delivery that has not begun. -/
theorem Tells.take
    (tells : register.Tells operations dispatcher none)
    (event : Event) :
    Tells operations { register with begun := [] } dispatcher
      (some (.start event)) := by
  refine ⟨tells.delivered, tells.failed, tells.whole, ?_⟩
  rintro _ ⟨⟩
  refine ⟨rfl, List.nil_prefix, ?_, rfl⟩
  intro turn member
  cases member

/-- A register keeps up with what a worker does by itself. -/
theorem Tells.work
    {leaving : Bool}
    (tells : register.Tells operations dispatcher worker.underWay)
    (works :
      workStep operations leaving dispatcher worker state =
        some (later, left, after)) :
    (register.work operations leaving dispatcher worker state).Tells operations later
      (left.bind Worker.underWay) := by
  rw [Register.work, works]
  rw [workStep] at works
  cases crash : worker.crash with
  | some message =>
      rw [crash] at works
      cases works
  | none =>
      rw [Worker.underWay, crash] at tells
      rw [crash] at works
      cases hand : worker.hand with
      | some delivery =>
          rw [hand] at tells works
          exact tells.deliver crash works
      | none =>
          rw [hand] at tells works
          cases workerStep_of_takeStep 0 crash hand works with
          | took =>
              simp only [Option.bind_some, Worker.underWay, Worker.take, crash]
              exact tells.take _
          | left => exact tells.rest []
          | moved _ holds =>
              rw [hand] at holds
              cases holds
          | finished _ holds =>
              rw [hand] at holds
              cases holds
          | crashed _ holds =>
              rw [hand] at holds
              cases holds

theorem work_of_none
    {leaving : Bool}
    (rests : workStep operations leaving dispatcher worker state = none) :
    register.work operations leaving dispatcher worker state = register := by
  rw [Register.work, rests]

/-- Letting an event in changes neither what was delivered nor what is under way. -/
theorem Tells.letIn
    {place : Nat}
    {admitted : Worker}
    (tells : register.Tells operations dispatcher worker.underWay)
    (admits : dispatcher.admit? place worker = some (later, admitted)) :
    register.Tells operations later admitted.underWay := by
  rcases admit?_eq_some admits with ⟨_, rfl, event, _, rfl⟩
  exact tells.congr rfl rfl rfl rfl

/-- A register keeps up with a worker and those who wait for it. -/
theorem Tells.step
    {leaving : Bool}
    {place : Nat}
    (tells : register.Tells operations dispatcher worker.underWay)
    (steps :
      Dispatcher.step operations leaving place dispatcher worker state =
        some (later, left, after)) :
    (register.step operations leaving place dispatcher worker state).Tells operations
      later (left.bind Worker.underWay) := by
  rw [Dispatcher.step] at steps
  rw [Register.step]
  cases crash : worker.crash with
  | some message =>
      rw [crash] at steps
      cases steps
  | none =>
      rw [crash] at steps
      cases admits : dispatcher.admit? place worker with
      | some admitted =>
          rw [admits] at steps
          cases steps
          exact tells.letIn admits
      | none =>
          rw [admits] at steps
          exact tells.work steps

/-- A register keeps up with any number of steps. -/
theorem Tells.run
    (tells : register.Tells operations dispatcher worker.underWay)
    (leaving : Bool)
    (turns : List Nat)
    (state : σ) :
    (register.run operations leaving turns dispatcher worker state).Tells operations
      (dispatcher.run operations leaving turns worker state).1
      ((dispatcher.run operations leaving turns worker state).2.1.bind
        Worker.underWay) := by
  induction turns generalizing register dispatcher worker state with
  | nil => exact tells
  | cons place turns ih =>
      rw [Register.run, Dispatcher.run]
      cases steps : dispatcher.step operations leaving place worker state with
      | none => exact tells
      | some result =>
          rcases result with ⟨later, left, after⟩
          have kept := tells.step steps
          cases left with
          | none => exact kept
          | some next => exact ih kept after

end Register

/-! ## Registers that keep up -/

/--
A register tells of a dispatcher what there is to tell.  Of the two workers that
a dispatcher can have there is one at most.
-/
structure Register.KeepsUp
    (operations : Operations σ α)
    (name : String)
    (register : Register σ α)
    (dispatcher : Dispatcher α) : Prop where
  name : dispatcher.name = name
  single : dispatcher.isStarted = true → dispatcher.previous = none
  tells :
    register.Tells operations dispatcher
      ((dispatcher.worker.or dispatcher.previous).bind Worker.underWay)

namespace Register.KeepsUp

open Dispatcher

variable {operations : Operations σ α} {name : String} {register : Register σ α}
variable {dispatcher later : Dispatcher α} {worker : Worker} {left : Option Worker}

theorem previous_eq_none
    (keeps : register.KeepsUp operations name dispatcher)
    (isWorker : dispatcher.worker = some worker) :
    dispatcher.previous = none := by
  apply keeps.single
  rw [isStarted, isWorker]
  rfl

theorem worker_eq_none
    (keeps : register.KeepsUp operations name dispatcher)
    (isPrevious : dispatcher.previous = some worker) :
    dispatcher.worker = none := by
  rw [← Option.isNone_iff_eq_none, ← Option.isSome_eq_false_iff,
    Bool.eq_false_iff]
  intro started
  rw [keeps.single started] at isPrevious
  cases isPrevious

theorem tells_worker
    (keeps : register.KeepsUp operations name dispatcher)
    (isWorker : dispatcher.worker = some worker) :
    register.Tells operations dispatcher worker.underWay := by
  have tells := keeps.tells
  rwa [isWorker] at tells

theorem tells_previous
    (keeps : register.KeepsUp operations name dispatcher)
    (isPrevious : dispatcher.previous = some worker) :
    register.Tells operations dispatcher worker.underWay := by
  have tells := keeps.tells
  rwa [keeps.worker_eq_none isPrevious, isPrevious] at tells

/-- What is left of its only worker becomes the worker of a dispatcher. -/
theorem of_worker
    (isName : later.name = name)
    (alone : later.previous = none)
    (tells : register.Tells operations later (left.bind Worker.underWay)) :
    register.KeepsUp operations name { later with worker := left } := by
  refine ⟨isName, fun _ => alone, ?_⟩
  dsimp only
  rw [alone, Option.or_none]
  exact tells.congr rfl rfl rfl rfl

/-- What is left of its only worker is left to itself. -/
theorem of_previous
    (isName : later.name = name)
    (alone : later.worker = none)
    (tells : register.Tells operations later (left.bind Worker.underWay)) :
    register.KeepsUp operations name { later with previous := left } := by
  refine ⟨isName, ?_, ?_⟩
  · intro started
    rw [isStarted] at started
    dsimp only at started
    rw [alone] at started
    cases started
  · dsimp only
    rw [alone, Option.none_or]
    exact tells.congr rfl rfl rfl rfl

/-- A register does not have to note anything else about a dispatcher. -/
theorem congr
    (keeps : register.KeepsUp operations name dispatcher)
    (same : SameFrame dispatcher later)
    (delivered : later.metrics.delivered = dispatcher.metrics.delivered)
    (failed : later.metrics.failed = dispatcher.metrics.failed) :
    register.KeepsUp operations name later := by
  constructor
  · exact same.name.trans keeps.name
  · rw [isStarted, same.worker, same.previous]
    exact keeps.single
  · rw [same.worker, same.previous]
    exact keeps.tells.congr same.name same.appenders delivered failed

/-- The worker is busy with something else, but not with another delivery. -/
theorem replaceWorker
    {changed : Worker}
    (keeps : register.KeepsUp operations name dispatcher)
    (isWorker : dispatcher.worker = some worker)
    (same : changed.underWay = worker.underWay) :
    register.KeepsUp operations name { dispatcher with worker := some changed } := by
  apply of_worker keeps.name (keeps.previous_eq_none isWorker)
  rw [Option.bind_some, same]
  exact keeps.tells_worker isWorker

theorem offer
    (keeps : register.KeepsUp operations name dispatcher)
    (event : Event)
    (state : σ) :
    register.KeepsUp operations name (dispatcher.offer operations event state).2.1 := by
  have step := offerStep_offer operations dispatcher event state
  generalize dispatcher.offer operations event state = result at step ⊢
  rcases result with ⟨reception, later, after⟩
  dsimp only at step ⊢
  cases step with
  | refused _ same metrics => exact keeps.congr same (by rw [metrics]) (by rw [metrics])
  | discarded _ _ same metrics =>
      exact keeps.congr same (by rw [metrics]; rfl) (by rw [metrics]; rfl)
  | dropped _ _ same metrics =>
      exact keeps.congr same (by rw [metrics]; rfl) (by rw [metrics]; rfl)
  | enqueued isWorker =>
      have counted := keeps.congr (sameFrame_count dispatcher .enqueued) rfl rfl
      exact counted.replaceWorker isWorker rfl
  | waiting isWorker =>
      have counted := keeps.congr (sameFrame_count dispatcher .blocked) rfl rfl
      exact counted.replaceWorker isWorker rfl

theorem mapWorker
    {change : Worker → Worker}
    (keeps : register.KeepsUp operations name dispatcher)
    (same : ∀ worker, (change worker).underWay = worker.underWay) :
    register.KeepsUp operations name (dispatcher.mapWorker change) := by
  cases isWorker : dispatcher.worker with
  | none =>
      have stays : dispatcher.mapWorker change = dispatcher := by
        rw [Dispatcher.mapWorker, isWorker, Option.map_none, ← isWorker]
      rw [stays]
      exact keeps
  | some worker =>
      rw [Dispatcher.mapWorker, isWorker]
      exact keeps.replaceWorker isWorker (same worker)

theorem letIn
    {course : Course σ α}
    (keeps : register.KeepsUp operations name course.dispatcher)
    (place : Nat) :
    register.KeepsUp operations name (course.letIn place).dispatcher := by
  rw [Course.letIn]
  cases isWorker : course.dispatcher.worker with
  | none => exact keeps
  | some worker =>
      dsimp only
      cases admits : course.dispatcher.admit? place worker with
      | none => exact keeps
      | some admitted =>
          rcases admit?_eq_some admits with ⟨_, counted, _⟩
          have tells := (keeps.tells_worker isWorker).letIn admits
          have alone := keeps.previous_eq_none isWorker
          dsimp only
          rw [counted] at tells ⊢
          exact of_worker keeps.name alone tells

theorem letInPrevious
    {course : Course σ α}
    (keeps : register.KeepsUp operations name course.dispatcher)
    (place : Nat) :
    register.KeepsUp operations name (course.letInPrevious place).dispatcher := by
  rw [Course.letInPrevious]
  cases isPrevious : course.dispatcher.previous with
  | none => exact keeps
  | some worker =>
      dsimp only
      by_cases broken : worker.isBroken = true
      · rw [if_pos broken]
        exact keeps
      · rw [if_neg broken]
        cases admits : course.dispatcher.admit? place worker with
        | none => exact keeps
        | some admitted =>
            rcases admit?_eq_some admits with ⟨_, counted, _⟩
            have tells := (keeps.tells_previous isPrevious).letIn admits
            have rests := keeps.worker_eq_none isPrevious
            dsimp only
            rw [counted] at tells ⊢
            exact of_previous keeps.name rests tells

theorem work
    {leaving : Bool}
    {state after : σ}
    (keeps : register.KeepsUp operations name dispatcher)
    (isWorker : dispatcher.worker = some worker)
    (works :
      workStep operations leaving dispatcher worker state =
        some (later, left, after)) :
    (register.work operations leaving dispatcher worker state).KeepsUp operations name
      { later with worker := left } := by
  have same := (workerStep_of_workStep 0 works).sameFrame
  exact
    of_worker (same.name.trans keeps.name)
      (same.previous.trans (keeps.previous_eq_none isWorker))
      ((keeps.tells_worker isWorker).work works)

theorem workPrevious
    {leaving : Bool}
    {state after : σ}
    (keeps : register.KeepsUp operations name dispatcher)
    (isPrevious : dispatcher.previous = some worker)
    (works :
      workStep operations leaving dispatcher worker state =
        some (later, left, after)) :
    (register.work operations leaving dispatcher worker state).KeepsUp operations name
      { later with previous := left } := by
  have same := (workerStep_of_workStep 0 works).sameFrame
  exact
    of_previous (same.name.trans keeps.name)
      (same.worker.trans (keeps.worker_eq_none isPrevious))
      ((keeps.tells_previous isPrevious).work works)

/-- As long as no event is on its way the roster can change. -/
theorem replaceRoster
    (keeps : register.KeepsUp operations name dispatcher)
    (rests : ¬ dispatcher.isDelivering = true)
    (roster : Roster α) :
    register.KeepsUp operations name { dispatcher with roster } := by
  have notBegun :
      ∀ delivery ∈
          (dispatcher.worker.or dispatcher.previous).bind Worker.underWay,
        delivery.reached = 0 := by
    intro delivery isUnderWay
    rw [isDelivering, Bool.or_eq_true, not_or] at rests
    rcases Option.bind_eq_some_iff.mp isUnderWay with ⟨worker, isEither, underWay⟩
    have waits : ¬ worker.isDelivering = true := by
      rcases Option.or_eq_some_iff.mp isEither with isWorker | ⟨_, isPrevious⟩
      · rw [isWorker] at rests
        exact rests.1
      · rw [isPrevious] at rests
        exact rests.2
    rw [Worker.isDelivering, underWay, Option.any_some, decide_eq_true_eq] at waits
    omega
  refine ⟨keeps.name, keeps.single, keeps.tells.delivered, keeps.tells.failed,
    keeps.tells.whole, ?_⟩
  intro delivery isUnderWay
  have follows := keeps.tells.follows delivery isUnderWay
  have nothing : register.begun = [] := by
    rw [← List.length_eq_zero_iff, follows.length]
    exact notBegun delivery isUnderWay
  refine ⟨follows.length, ?_, follows.genuine, follows.clean⟩
  rw [nothing]
  exact List.nil_prefix

/-- When the metrics are reset only the delivery under way is left. -/
theorem resetMetrics (keeps : register.KeepsUp operations name dispatcher) :
    Register.KeepsUp operations name ⟨register.begun, []⟩ dispatcher.resetMetrics := by
  refine ⟨keeps.name, keeps.single, rfl, rfl, ?_, ?_⟩
  · intro handover member
    cases member
  · intro delivery isUnderWay
    have follows := keeps.tells.follows delivery isUnderWay
    exact ⟨follows.length, follows.passed, follows.genuine, follows.clean⟩

/-- Starting the appenders and then a worker delivers nothing. -/
theorem launch
    (keeps : register.KeepsUp operations name dispatcher)
    (alone : dispatcher.previous = none)
    (rests : dispatcher.worker = none)
    (state : σ) :
    register.KeepsUp operations name
      (Dispatcher.launch operations dispatcher state).2.1 := by
  rcases launch_spec operations dispatcher state with
    ⟨same, previous, metrics, launched⟩
  have underWay :
      ((Dispatcher.launch operations dispatcher state).2.1.worker.or
          (Dispatcher.launch operations dispatcher state).2.1.previous).bind
        Worker.underWay = none := by
    rw [previous, alone, Option.or_none]
    rcases launched with ⟨_, idle⟩ | ⟨_, none⟩
    · rw [idle]
      rfl
    · rw [none, rests]
      rfl
  refine ⟨same.name.trans keeps.name, fun _ => previous.trans alone, ?_⟩
  rw [underWay]
  exact
    (keeps.tells.rest register.begun).congr same.name same.appenders (by rw [metrics])
      (by rw [metrics])

/-- Nothing is under way where there is no worker. -/
theorem of_none
    {underWay : Option Delivery}
    (isName : later.name = name)
    (rests : later.worker = none)
    (alone : later.previous = none)
    (tells : register.Tells operations later underWay) :
    register.KeepsUp operations name later := by
  refine ⟨isName, fun _ => alone, ?_⟩
  rw [rests, alone]
  exact tells.rest register.begun

/-- A start notes what the worker left to itself does while it waits. -/
theorem reclaim
    (keeps : register.KeepsUp operations name dispatcher)
    (isPrevious : dispatcher.previous = some worker)
    (state : σ) :
    (register.run operations true worker.turns dispatcher worker
      (announceAwait operations dispatcher state)).KeepsUp operations name
      (Dispatcher.reclaim operations dispatcher state).1 := by
  have same :=
    run_sameFrame operations true worker.turns dispatcher worker
      (announceAwait operations dispatcher state)
  have tells :=
    (keeps.tells_previous isPrevious).run true worker.turns
      (announceAwait operations dispatcher state)
  rw [reclaim_fst, awaitPrevious_of_some isPrevious]
  exact
    of_none (same.name.trans keeps.name)
      (same.worker.trans (keeps.worker_eq_none isPrevious)) rfl
      (tells.congr rfl rfl rfl rfl)

/-- A start that waits for a worker left to itself. -/
theorem start
    (keeps : register.KeepsUp operations name dispatcher)
    (accepted :
      ¬ (dispatcher.isStarted || dispatcher.settings.queueSize < 1) = true)
    (isPrevious : dispatcher.previous = some worker)
    (state : σ) :
    (register.run operations true worker.turns dispatcher worker
      (announceAwait operations dispatcher state)).KeepsUp operations name
      (Dispatcher.start operations dispatcher state).2.1 := by
  rw [start_eq_launch accepted]
  have alone : (Dispatcher.reclaim operations dispatcher state).1.previous = none := by
    rw [reclaim_fst]
  have rests : (Dispatcher.reclaim operations dispatcher state).1.worker = none :=
    (reclaim_sameSetup operations dispatcher state).2.trans
      (keeps.worker_eq_none isPrevious)
  exact (keeps.reclaim isPrevious state).launch alone rests _

/-- A start that has nothing to wait for. -/
theorem start_of_none
    (keeps : register.KeepsUp operations name dispatcher)
    (accepted :
      ¬ (dispatcher.isStarted || dispatcher.settings.queueSize < 1) = true)
    (alone : dispatcher.previous = none)
    (state : σ) :
    register.KeepsUp operations name
      (Dispatcher.start operations dispatcher state).2.1 := by
  rw [start_eq_launch accepted, reclaim_of_none alone]
  rw [Bool.or_eq_true, not_or, isStarted, Bool.not_eq_true,
    Option.isSome_eq_false_iff, Option.isNone_iff_eq_none] at accepted
  exact keeps.launch alone accepted.1 state

/-- A stop notes what its worker does until it left or was left to itself. -/
theorem stop
    {course : Course σ α}
    (keeps : register.KeepsUp operations name course.dispatcher)
    (isWorker : course.dispatcher.worker = some worker)
    (turns : List Nat) :
    (register.run operations true turns course.dispatcher.release worker
      (course.dispatcher.announceStop operations course.state)).KeepsUp operations
      name (course.stop operations turns).dispatcher := by
  have same :=
    run_sameFrame operations true turns course.dispatcher.release worker
      (course.dispatcher.announceStop operations course.state)
  have released :
      register.Tells operations course.dispatcher.release worker.underWay :=
    (keeps.tells_worker isWorker).congr rfl rfl rfl rfl
  have tells :=
    released.run true turns (course.dispatcher.announceStop operations course.state)
  have alone := keeps.previous_eq_none isWorker
  have step := Course.stopStep_stop isWorker operations turns
  generalize
    (course.dispatcher.stopWithin operations turns course.state).1 = outcome at step
  generalize course.stop operations turns = final at step ⊢
  cases step with
  | left ran =>
      rw [ran] at same tells
      exact
        of_none (same.name.trans keeps.name) same.worker
          (same.previous.trans alone) tells
  | broke ran =>
      rw [ran] at same tells
      exact
        of_none (same.name.trans keeps.name) same.worker
          (same.previous.trans alone) tells
  | late ran =>
      rw [ran] at same tells
      exact of_previous (same.name.trans keeps.name) same.worker tells

end Register.KeepsUp

end LogPipeline
