import LogPipeline.Proofs.Dispatcher.Course
import Mathlib.Algebra.GroupWithZero.Nat
import Mathlib.Algebra.Order.BigOperators.Group.List
import Mathlib.Algebra.Order.Group.Nat

/-!
# Accounts of events

Every event that is offered to a started dispatcher is enqueued, discarded or
dropped, or whoever offers it still waits; and every event that is enqueued is
delivered or failed, or it is in a queue or in the hand of a worker.  The
counters of a dispatcher say so as long as no worker breaks off.  What a worker
holds when it breaks off is lost, and no counter tells.
-/

namespace LogPipeline

variable {σ α : Type}

/-! ## What workers hold -/

namespace Worker

/-- How many events are in the queue and in the hand of a worker. -/
def held (worker : Worker) : Nat :=
  worker.queue.length + worker.hand.toList.length

/-- How many events are held by what is left of a worker. -/
def stillHeld : Option Worker → Nat
  | none => 0
  | some worker => worker.held

/--
A queue that is not too long.  If the worker broke off, then because an
appender did, and with an event in its hand.
-/
structure Sound
    (operations : Operations σ α)
    (size : Nat)
    (worker : Worker) : Prop where
  fits : worker.queue.length ≤ size
  breaks :
    ∀ message ∈ worker.crash,
      worker.hand.isSome = true ∧ operations.BreaksOff message

/-- How many events a worker can still give account of. -/
def counted (worker : Worker) : Nat :=
  worker.queue.length + if worker.isBroken then 0 else worker.hand.toList.length

theorem sound_idle (operations : Operations σ α) (size : Nat) :
    Sound operations size .idle :=
  ⟨Nat.zero_le size, fun _ breaks => nomatch breaks⟩

/-- A worker that broke off lost the event in its hand. -/
theorem Sound.held_eq
    {operations : Operations σ α}
    {size : Nat}
    {worker : Worker}
    (sound : worker.Sound operations size) :
    worker.held = worker.counted + [worker].countP isBroken := by
  rcases sound with ⟨_, breaks⟩
  rw [held, counted]
  by_cases broken : worker.isBroken = true
  · rcases Option.isSome_iff_exists.mp broken with ⟨message, crash⟩
    rcases Option.isSome_iff_exists.mp (breaks message crash).1 with
      ⟨delivery, holds⟩
    simp [broken, holds]
  · simp [broken]

end Worker

namespace Dispatcher

/-! ## The counters of a dispatcher -/

/--
The counters of a dispatcher, compared with those that it had at some time
before: since then so many events were accepted and offered, and so many are
held and wait.
-/
structure Accounts
    (base : Metrics)
    (dispatcher : Dispatcher α)
    (accepted offers held waiting : Nat) : Prop where
  enqueued_eq : dispatcher.metrics.enqueued = base.enqueued + accepted
  delivered_eq :
    dispatcher.metrics.delivered + dispatcher.metrics.failed + held =
      base.delivered + base.failed + accepted
  offers_eq :
    dispatcher.metrics.enqueued + dispatcher.metrics.discarded +
        dispatcher.metrics.dropped + waiting =
      base.enqueued + base.discarded + base.dropped + offers
  dropped_eq :
    dispatcher.settings.neverBlock = false →
      dispatcher.metrics.dropped = base.dropped
  blocked_eq :
    dispatcher.settings.neverBlock = true →
      dispatcher.metrics.blocked = base.blocked
  discarded_eq :
    dispatcher.settings.threshold = 0 →
      dispatcher.metrics.discarded = base.discarded

variable {dispatcher later : Dispatcher α}
variable {base : Metrics} {accepted offers held waiting : Nat}

namespace Accounts

theorem refl (dispatcher : Dispatcher α) :
    Accounts dispatcher.metrics dispatcher 0 0 0 0 :=
  ⟨rfl, rfl, rfl, fun _ => rfl, fun _ => rfl, fun _ => rfl⟩

/-- The accounts speak of counters and settings only. -/
theorem congr
    (accounts : Accounts base dispatcher accepted offers held waiting)
    (metrics : later.metrics = dispatcher.metrics)
    (settings : later.settings = dispatcher.settings) :
    Accounts base later accepted offers held waiting := by
  rcases accounts with ⟨enqueued, delivered, offered, dropped, blocked, discarded⟩
  constructor <;> rw [metrics] <;> try rw [settings]
  all_goals assumption

/-- An event that is offered waits until it is known what becomes of it. -/
theorem offer
    (accounts : Accounts base dispatcher accepted offers held waiting) :
    Accounts base dispatcher accepted (offers + 1) held (waiting + 1) := by
  rcases accounts with ⟨enqueued, delivered, offered, dropped, blocked, discarded⟩
  exact ⟨enqueued, delivered, by omega, dropped, blocked, discarded⟩

theorem enqueue
    (accounts : Accounts base dispatcher accepted offers held (waiting + 1)) :
    Accounts base (dispatcher.count .enqueued)
      (accepted + 1) offers (held + 1) waiting := by
  rcases accounts with ⟨enqueued, delivered, offered, dropped, blocked, discarded⟩
  refine ⟨?_, ?_, ?_, dropped, blocked, discarded⟩
  · simp only [count, Metrics.count]
    omega
  · simp only [count, Metrics.count]
    omega
  · simp only [count, Metrics.count]
    omega

theorem drop
    (accounts : Accounts base dispatcher accepted offers held (waiting + 1))
    (neverBlock : dispatcher.settings.neverBlock = true) :
    Accounts base (dispatcher.count .dropped) accepted offers held waiting := by
  rcases accounts with ⟨enqueued, delivered, offered, dropped, blocked, discarded⟩
  refine ⟨enqueued, delivered, ?_, ?_, blocked, discarded⟩
  · simp only [count, Metrics.count]
    omega
  · intro blocks
    exact absurd (neverBlock.symm.trans blocks) Bool.noConfusion

theorem discard
    (accounts : Accounts base dispatcher accepted offers held (waiting + 1))
    (sheds : 0 < dispatcher.settings.threshold) :
    Accounts base (dispatcher.count .discarded) accepted offers held waiting := by
  rcases accounts with ⟨enqueued, delivered, offered, dropped, blocked, discarded⟩
  refine ⟨enqueued, delivered, ?_, dropped, blocked, ?_⟩
  · simp only [count, Metrics.count]
    omega
  · intro none
    exact absurd none (Nat.pos_iff_ne_zero.mp sheds)

theorem block
    (accounts : Accounts base dispatcher accepted offers held waiting)
    (blocks : dispatcher.settings.neverBlock = false) :
    Accounts base (dispatcher.count .blocked) accepted offers held waiting := by
  rcases accounts with ⟨enqueued, delivered, offered, dropped, blocked, discarded⟩
  refine ⟨enqueued, delivered, offered, dropped, ?_, discarded⟩
  intro neverBlock
  exact absurd (blocks.symm.trans neverBlock) Bool.noConfusion

/-- A delivery comes to its end, well or not. -/
theorem settle
    (accounts : Accounts base dispatcher accepted offers (held + 1) waiting)
    (clean : Bool) :
    Accounts base (dispatcher.count (if clean then .delivered else .failed))
      accepted offers held waiting := by
  rcases accounts with ⟨enqueued, delivered, offered, dropped, blocked, discarded⟩
  cases clean with
  | true =>
      refine ⟨enqueued, ?_, offered, dropped, blocked, discarded⟩
      simp only [count, Metrics.count, if_true]
      omega
  | false =>
      refine ⟨enqueued, ?_, offered, dropped, blocked, discarded⟩
      simp only [count, Metrics.count, Bool.false_eq_true, if_false]
      omega

end Accounts

variable {operations : Operations σ α} {leaving : Bool} {place : Nat}
variable {worker : Worker} {left : Option Worker} {state after : σ}
variable {entered : List Event}

/-- A step keeps the accounts, whatever others hold. -/
theorem WorkerStep.accounts
    (stepped :
      WorkerStep operations leaving place dispatcher worker state
        entered later left after)
    (accounts :
      Accounts base dispatcher accepted offers
        (worker.held + held) (worker.waiting.length + waiting)) :
    Accounts base later (accepted + entered.length) offers
      (Worker.stillHeld left + held)
      ((Worker.stillWaiting left).length + waiting) := by
  cases stepped with
  | admitted room waits =>
      rcases List.getElem?_eq_some_iff.mp waits with ⟨bound, _⟩
      have fewer :
          worker.waiting.length + waiting =
            (worker.waiting.eraseIdx place).length + waiting + 1 := by
        rw [List.length_eraseIdx, if_pos bound]
        omega
      rw [fewer] at accounts
      simpa [Worker.stillHeld, Worker.held, Worker.stillWaiting,
        Nat.add_right_comm] using accounts.enqueue
  | took sound free next =>
      simpa [Worker.stillHeld, Worker.held, Worker.stillWaiting, Worker.take,
        free, next] using accounts
  | @moved _ _ roster _ sound holds delivered =>
      have kept :
          Accounts base { dispatcher with roster } accepted offers
            (worker.held + held) (worker.waiting.length + waiting) :=
        accounts.congr rfl rfl
      simpa [Worker.stillHeld, Worker.held, Worker.stillWaiting, holds] using kept
  | @finished _ clean roster _ sound holds delivered =>
      have fewer : worker.held + held = worker.queue.length + held + 1 := by
        simp only [Worker.held, holds, Option.toList_some, List.length_singleton]
        omega
      rw [fewer] at accounts
      have settled :
          Accounts base
            { dispatcher.count (if clean then .delivered else .failed) with roster }
            accepted offers (worker.queue.length + held)
            (worker.waiting.length + waiting) :=
        (accounts.settle clean).congr rfl rfl
      simpa [Worker.stillHeld, Worker.held, Worker.stillWaiting] using settled
  | @crashed _ _ _ roster _ sound holds delivered =>
      have kept :
          Accounts base { dispatcher with roster } accepted offers
            (worker.held + held) (worker.waiting.length + waiting) :=
        accounts.congr rfl rfl
      simpa [Worker.stillHeld, Worker.held, Worker.stillWaiting, holds] using kept
  | left sound free isLeaving empty alone =>
      simpa [Worker.stillHeld, Worker.held, Worker.stillWaiting, free, empty,
        alone] using accounts

/-- A step keeps workers sound. -/
theorem WorkerStep.sound
    {next : Worker}
    (stepped :
      WorkerStep operations leaving place dispatcher worker state
        entered later (some next) after)
    (sound : worker.Sound operations dispatcher.settings.queueSize) :
    next.Sound operations later.settings.queueSize := by
  rw [stepped.sameFrame.settings]
  rcases sound with ⟨fits, breaks⟩
  cases stepped with
  | admitted room waits =>
      have grows : worker.queue.length + 1 ≤ dispatcher.settings.queueSize := by
        rw [Dispatcher.room] at room
        omega
      exact ⟨by simpa using grows, breaks⟩
  | took whole free next =>
      rw [next, List.length_cons] at fits
      refine ⟨by simpa [Worker.take] using Nat.le_of_succ_le fits, ?_⟩
      intro message crash
      have impossible : none = some message := whole.symm.trans crash
      cases impossible
  | moved whole =>
      refine ⟨fits, ?_⟩
      intro message crash
      have impossible : none = some message := whole.symm.trans crash
      cases impossible
  | finished whole =>
      refine ⟨fits, ?_⟩
      intro message crash
      have impossible : none = some message := whole.symm.trans crash
      cases impossible
  | crashed whole holds delivered =>
      refine ⟨fits, ?_⟩
      rintro message ⟨⟩
      exact ⟨rfl, Roster.breaksOff_of_deliver delivered⟩

/-! ## Ledgers -/

/-- How many events are held by some workers. -/
def heldBy (workers : List Worker) : Nat :=
  (workers.map Worker.held).sum

/-- How many events wait for some workers. -/
def waitingFor (workers : List Worker) : Nat :=
  (workers.map fun worker => worker.waiting.length).sum

@[simp]
theorem heldBy_cons (worker : Worker) (others : List Worker) :
    heldBy (worker :: others) = worker.held + heldBy others :=
  rfl

@[simp]
theorem waitingFor_cons (worker : Worker) (others : List Worker) :
    waitingFor (worker :: others) = worker.waiting.length + waitingFor others :=
  rfl

theorem held_le_heldBy
    {worker : Worker}
    {workers : List Worker}
    (member : worker ∈ workers) :
    worker.held ≤ heldBy workers :=
  List.le_sum_of_mem (List.mem_map_of_mem member)

theorem heldBy_toList_append (left : Option Worker) (others : List Worker) :
    heldBy (left.toList ++ others) = Worker.stillHeld left + heldBy others := by
  cases left with
  | none => exact (Nat.zero_add _).symm
  | some worker => rfl

theorem waitingFor_toList_append (left : Option Worker) (others : List Worker) :
    waitingFor (left.toList ++ others) =
      (Worker.stillWaiting left).length + waitingFor others := by
  cases left with
  | none => exact (Nat.zero_add _).symm
  | some worker => rfl

/-- The accounts of a dispatcher together with all workers it has or had. -/
structure Ledger
    (operations : Operations σ α)
    (base : Metrics)
    (dispatcher : Dispatcher α)
    (accepted offers : Nat)
    (workers : List Worker) : Prop where
  accounts :
    Accounts base dispatcher accepted offers (heldBy workers) (waitingFor workers)
  sound : ∀ worker ∈ workers, worker.Sound operations dispatcher.settings.queueSize

variable {others : List Worker}

theorem Ledger.congr
    {workers : List Worker}
    (ledger : Ledger operations base dispatcher accepted offers workers)
    (metrics : later.metrics = dispatcher.metrics)
    (settings : later.settings = dispatcher.settings) :
    Ledger operations base later accepted offers workers :=
  ⟨ledger.accounts.congr metrics settings, settings ▸ ledger.sound⟩

/-- A step of one worker keeps the ledger. -/
theorem WorkerStep.ledger
    (stepped :
      WorkerStep operations leaving place dispatcher worker state
        entered later left after)
    (ledger : Ledger operations base dispatcher accepted offers (worker :: others)) :
    Ledger operations base later (accepted + entered.length) offers
      (left.toList ++ others) := by
  constructor
  · rw [heldBy_toList_append, waitingFor_toList_append]
    exact stepped.accounts ledger.accounts
  · intro next member
    rcases List.mem_append.mp member with isLeft | isOther
    · rw [Option.mem_toList] at isLeft
      subst isLeft
      exact stepped.sound (ledger.sound worker List.mem_cons_self)
    · rw [stepped.sameFrame.settings]
      exact ledger.sound next (List.mem_cons_of_mem worker isOther)

/-- Any number of steps of one worker keep the ledger. -/
theorem run_ledger
    (leaving : Bool)
    (turns : List Nat)
    (state : σ)
    {accepted : List Event}
    (ledger :
      Ledger operations base dispatcher accepted.length offers
        (worker :: others)) :
    Ledger operations base (run operations leaving turns dispatcher worker state).1
      (accepted ++
        Dispatcher.entered operations leaving turns dispatcher worker state).length
      offers
      ((run operations leaving turns dispatcher worker state).2.1.toList ++
        others) := by
  refine
    run_induction
      (motive := fun accepted later left _ =>
        Ledger operations base later accepted.length offers (left.toList ++ others))
      ?_ turns accepted ledger
  intro accepted entered _ middle later worker left state after ledger stepped
  rw [List.length_append]
  exact stepped.ledger ledger

/-- The workers of a dispatcher, followed by others. -/
def workersWith (dispatcher : Dispatcher α) (others : List Worker) : List Worker :=
  dispatcher.worker.toList ++ (dispatcher.previous.toList ++ others)

theorem SameFrame.workersWith
    (same : SameFrame dispatcher later)
    (others : List Worker) :
    later.workersWith others = dispatcher.workersWith others := by
  rw [Dispatcher.workersWith, same.worker, same.previous]
  rfl

end Dispatcher

namespace Course

open Dispatcher

/-- All workers that there are or that were let go after they broke off. -/
def workers (course : Course σ α) : List Worker :=
  course.dispatcher.workersWith course.forsaken

/--
The accounts of a course are right: what its workers hold is what is missing
among the events delivered, those that were let go broke off, and no worker is
left to itself while there is another one.
-/
structure Sound
    (operations : Operations σ α)
    (base : Metrics)
    (course : Course σ α) : Prop where
  ledger :
    Ledger operations base course.dispatcher course.accepted.length
      course.offered.length course.workers
  broken : ∀ worker ∈ course.forsaken, worker.isBroken = true
  single :
    course.dispatcher.isStarted = true → course.dispatcher.previous = none

variable {operations : Operations σ α} {base : Metrics} {course : Course σ α}

/-- The workers of a course whose dispatcher is started. -/
theorem workers_of_worker
    {worker : Worker}
    (isWorker : course.dispatcher.worker = some worker) :
    course.workers =
      worker :: (course.dispatcher.previous.toList ++ course.forsaken) := by
  rw [workers, workersWith, isWorker]
  rfl

theorem isStarted_of_worker
    {worker : Worker}
    (isWorker : course.dispatcher.worker = some worker) :
    course.dispatcher.isStarted = true := by
  rw [isStarted, isWorker]
  rfl

variable {later : Dispatcher α} {after : σ} {offered accepted : List Event}

/-- Nothing but counters, reports and records has changed. -/
theorem Sound.recount
    (sound : Sound operations base course)
    (same : SameFrame course.dispatcher later)
    (accounts :
      Accounts base later accepted.length offered.length
        (heldBy course.workers) (waitingFor course.workers)) :
    Sound operations base ⟨later, after, offered, accepted, course.forsaken⟩ := by
  refine ⟨⟨?_, ?_⟩, sound.broken, ?_⟩
  · rw [workers, same.workersWith]
    exact accounts
  · rw [workers, same.workersWith, same.settings]
    exact sound.ledger.sound
  · rw [isStarted, same.worker, same.previous]
    exact sound.single

/-- The worker of the dispatcher has changed, besides what may have anyway. -/
theorem Sound.replaceWorker
    {worker : Worker}
    {left : Option Worker}
    (sound : Sound operations base course)
    (isWorker : course.dispatcher.worker = some worker)
    (same : SameFrame course.dispatcher later)
    (ledger :
      Ledger operations base later accepted.length offered.length
        (left.toList ++ (course.dispatcher.previous.toList ++ course.forsaken))) :
    Sound operations base
      ⟨{ later with worker := left }, after, offered, accepted,
        course.forsaken⟩ := by
  refine ⟨?_, sound.broken, ?_⟩
  · rw [workers, workersWith]
    rw [← same.previous] at ledger
    exact ledger.congr rfl rfl
  · intro _
    exact same.previous.trans (sound.single (isStarted_of_worker isWorker))

theorem Sound.offer
    (sound : Sound operations base course)
    (event : Event) :
    Sound operations base (course.offer operations event) := by
  have accounts := sound.ledger.accounts
  have step := offerStep_offer operations course.dispatcher event course.state
  rw [Course.offer]
  generalize course.dispatcher.offer operations event course.state = result
    at step ⊢
  rcases result with ⟨reception, later, after⟩
  dsimp only at step ⊢
  cases step with
  | refused idle same metrics reports =>
      have notStarted : course.dispatcher.isStarted = false := by
        rw [isStarted, idle]
        rfl
      rw [notStarted]
      exact sound.recount same (accounts.congr metrics same.settings)
  | discarded isWorker sheds same metrics reports =>
      rw [if_pos (isStarted_of_worker isWorker)]
      refine sound.recount same ?_
      rw [List.length_append]
      exact (accounts.offer.discard sheds).congr metrics same.settings
  | dropped isWorker neverBlock same metrics reports =>
      rw [if_pos (isStarted_of_worker isWorker)]
      refine sound.recount same ?_
      rw [List.length_append]
      exact (accounts.offer.drop neverBlock).congr metrics same.settings
  | @enqueued worker isWorker room =>
      have workersSound := sound.ledger.sound
      rw [workers_of_worker isWorker] at accounts workersSound
      rw [if_pos (isStarted_of_worker isWorker), if_pos rfl]
      refine sound.replaceWorker isWorker (sameFrame_count _ .enqueued) ⟨?_, ?_⟩
      · simpa [Worker.held, Nat.add_right_comm] using accounts.offer.enqueue
      · rcases List.forall_mem_cons.mp workersSound with
          ⟨⟨fits, breaks⟩, others⟩
        have grows :
            (worker.queue ++ [prepare course.dispatcher.settings event]).length ≤
              course.dispatcher.settings.queueSize := by
          rw [Dispatcher.room] at room
          rw [List.length_append, List.length_singleton]
          omega
        exact List.forall_mem_cons.mpr ⟨⟨grows, breaks⟩, others⟩
  | @waiting worker isWorker blocks =>
      have workersSound := sound.ledger.sound
      rw [workers_of_worker isWorker] at accounts workersSound
      rw [if_pos (isStarted_of_worker isWorker)]
      refine sound.replaceWorker isWorker (sameFrame_count _ .blocked) ⟨?_, ?_⟩
      · simpa [Worker.held, Nat.add_right_comm] using accounts.offer.block blocks
      · rcases List.forall_mem_cons.mp workersSound with
          ⟨⟨fits, breaks⟩, others⟩
        exact List.forall_mem_cons.mpr ⟨⟨fits, breaks⟩, others⟩

theorem WorkerMove.sound
    {moved : Course σ α}
    (move : course.WorkerMove operations moved)
    (sound : Sound operations base course) :
    Sound operations base moved := by
  cases move with
  | rests => exact sound
  | step isWorker stepped =>
      have ledger := sound.ledger
      rw [workers_of_worker isWorker] at ledger
      apply sound.replaceWorker isWorker stepped.sameFrame
      rw [List.length_append]
      exact stepped.ledger ledger

/-- Pausing and resuming change how the worker goes on, not what it holds. -/
theorem Sound.mapPaused
    (sound : Sound operations base course)
    (paused : Bool) :
    Sound operations base
      { course with
        dispatcher :=
          course.dispatcher.mapWorker fun worker => { worker with paused } } := by
  cases isWorker : course.dispatcher.worker with
  | none =>
      have same :
          course.dispatcher.mapWorker (fun worker => { worker with paused }) =
            course.dispatcher := by
        rw [mapWorker, isWorker, Option.map_none, ← isWorker]
      rw [same]
      exact sound
  | some worker =>
      have ledger := sound.ledger
      rw [workers_of_worker isWorker] at ledger
      rcases ledger with ⟨accounts, sounds⟩
      rcases List.forall_mem_cons.mp sounds with ⟨⟨fits, breaks⟩, others⟩
      rw [mapWorker, isWorker, Option.map_some]
      exact
        sound.replaceWorker isWorker (.refl _)
          ⟨accounts, List.forall_mem_cons.mpr ⟨⟨fits, breaks⟩, others⟩⟩

theorem Sound.move
    (sound : Sound operations base course)
    (move : Move σ) :
    Sound operations base (course.move operations move) := by
  cases move with
  | offer event => exact sound.offer event
  | pause => exact sound.mapPaused true
  | resume => exact sound.mapPaused false
  | letIn place => exact (course.workerMove_letIn operations place).sound sound
  | work => exact (course.workerMove_work operations).sound sound
  | stir change => exact ⟨sound.ledger, sound.broken, sound.single⟩

/-- A worker is left to itself only while the dispatcher is not started. -/
theorem Sound.worker_eq_none
    {worker : Worker}
    (sound : Sound operations base course)
    (isPrevious : course.dispatcher.previous = some worker) :
    course.dispatcher.worker = none := by
  cases isWorker : course.dispatcher.worker with
  | none => rfl
  | some other =>
      have noPrevious := sound.single (isStarted_of_worker isWorker)
      rw [isPrevious] at noPrevious
      cases noPrevious

/-- The workers of a course while one is left to itself. -/
theorem Sound.workers_of_previous
    {worker : Worker}
    (sound : Sound operations base course)
    (isPrevious : course.dispatcher.previous = some worker) :
    course.workers = worker :: course.forsaken := by
  rw [workers, workersWith, sound.worker_eq_none isPrevious, isPrevious]
  rfl

/-- A dispatcher that is not started, with accounts that are right. -/
theorem Sound.of_idle
    {forsaken : List Worker}
    (idle : later.worker = none)
    (ledger :
      Ledger operations base later accepted.length offered.length
        (later.previous.toList ++ forsaken))
    (broken : ∀ worker ∈ forsaken, worker.isBroken = true) :
    Sound operations base ⟨later, after, offered, accepted, forsaken⟩ := by
  refine ⟨?_, broken, ?_⟩
  · rw [workers, workersWith]
    dsimp only
    rw [idle]
    exact ledger
  · intro started
    rw [isStarted, idle] at started
    cases started

/-- The worker left to itself has changed, besides what may have anyway. -/
theorem Sound.replacePrevious
    {worker : Worker}
    {left : Option Worker}
    (sound : Sound operations base course)
    (isPrevious : course.dispatcher.previous = some worker)
    (same : SameFrame course.dispatcher later)
    (ledger :
      Ledger operations base later accepted.length offered.length
        (left.toList ++ course.forsaken)) :
    Sound operations base
      ⟨{ later with previous := left }, after, offered, accepted,
        course.forsaken⟩ := by
  have idle : later.worker = none :=
    same.worker.trans (sound.worker_eq_none isPrevious)
  exact .of_idle idle (ledger.congr rfl rfl) sound.broken

theorem PreviousMove.sound
    {moved : Course σ α}
    (move : course.PreviousMove operations moved)
    (sound : Sound operations base course) :
    Sound operations base moved := by
  cases move with
  | rests => exact sound
  | step isPrevious stepped =>
      have ledger := sound.ledger
      rw [sound.workers_of_previous isPrevious] at ledger
      apply sound.replacePrevious isPrevious stepped.sameFrame
      rw [List.length_append]
      exact stepped.ledger ledger

theorem Sound.stop
    (sound : Sound operations base course)
    (turns : List Nat) :
    Sound operations base (course.stop operations turns) := by
  cases isWorker : course.dispatcher.worker with
  | none =>
      rw [stop_of_none isWorker]
      exact sound
  | some worker =>
      have noPrevious := sound.single (isStarted_of_worker isWorker)
      have ledger := sound.ledger
      rw [workers_of_worker isWorker, noPrevious] at ledger
      have taken :
          Ledger operations base course.dispatcher.release
            course.accepted.length course.offered.length
            (worker :: course.forsaken) :=
        ledger.congr rfl rfl
      have kept :=
        run_ledger true turns
          (course.dispatcher.announceStop operations course.state) taken
      have same :=
        run_sameFrame operations true turns course.dispatcher.release worker
          (course.dispatcher.announceStop operations course.state)
      have stops := stopStep_stop isWorker operations turns
      generalize course.stop operations turns = final,
        (course.dispatcher.stopWithin operations turns course.state).1 = result
        at stops ⊢
      cases stops with
      | left ran =>
          rw [ran] at kept same
          refine .of_idle same.worker ?_ sound.broken
          rw [same.previous.trans noPrevious]
          exact kept
      | broke ran crash =>
          rw [ran] at kept same
          refine
            .of_idle same.worker ?_ (List.forall_mem_cons.mpr ⟨?_, sound.broken⟩)
          · rw [same.previous.trans noPrevious]
            exact kept
          · rw [Worker.isBroken, crash]
            rfl
      | late ran =>
          rw [ran] at kept same
          exact .of_idle same.worker (kept.congr rfl rfl) sound.broken

/-- A worker that is launched has nothing yet. -/
theorem Sound.of_launch
    {dispatcher : Dispatcher α}
    {state : σ}
    {forsaken : List Worker}
    (idle : dispatcher.worker = none)
    (alone : dispatcher.previous = none)
    (ledger :
      Ledger operations base dispatcher accepted.length offered.length forsaken)
    (broken : ∀ worker ∈ forsaken, worker.isBroken = true) :
    Sound operations base
      ⟨(launch operations dispatcher state).2.1, after, offered, accepted,
        forsaken⟩ := by
  rcases launch_spec operations dispatcher state with
    ⟨same, previous, metrics, launched⟩
  have noPrevious := previous.trans alone
  have kept := ledger.congr metrics same.settings
  rcases launched with ⟨_, started⟩ | ⟨_, stayed⟩
  · refine ⟨?_, broken, fun _ => noPrevious⟩
    rw [workers, workersWith]
    dsimp only
    rw [started, noPrevious]
    refine ⟨?_, List.forall_mem_cons.mpr ⟨Worker.sound_idle _ _, kept.sound⟩⟩
    simpa [Worker.held, Worker.idle] using kept.accounts
  · refine .of_idle (stayed.trans idle) ?_ broken
    rw [noPrevious]
    exact kept

theorem Sound.start
    (sound : Sound operations base course) :
    Sound operations base (course.start operations) := by
  rw [Course.start]
  dsimp only
  by_cases refused :
      (course.dispatcher.isStarted ||
        course.dispatcher.settings.queueSize < 1) = true
  · rw [if_pos refused, start_refused refused]
    exact ⟨sound.ledger, sound.broken, sound.single⟩
  · have idle : course.dispatcher.worker = none := by
      rw [Bool.or_eq_true, not_or, isStarted, Bool.not_eq_true,
        Option.isSome_eq_false_iff, Option.isNone_iff_eq_none] at refused
      exact refused.1
    rw [if_neg refused, start_eq_launch refused, reclaim_fst]
    cases isPrevious : course.dispatcher.previous with
    | none =>
        have ledger := sound.ledger
        rw [workers, workersWith, idle, isPrevious] at ledger
        rw [awaitPrevious_of_none isPrevious]
        exact .of_launch idle rfl (ledger.congr rfl rfl) sound.broken
    | some worker =>
        have ledger := sound.ledger
        rw [sound.workers_of_previous isPrevious] at ledger
        have kept :=
          run_ledger true worker.turns
            (course.dispatcher.announceAwait operations course.state) ledger
        have same :=
          run_sameFrame operations true worker.turns course.dispatcher worker
            (course.dispatcher.announceAwait operations course.state)
        rw [awaitPrevious_of_some isPrevious]
        generalize
          Dispatcher.run operations true worker.turns course.dispatcher worker
            (course.dispatcher.announceAwait operations course.state) = result
          at kept same ⊢
        rcases result with ⟨later, left, after⟩
        have rests := same.worker.trans idle
        dsimp only at rests kept ⊢
        cases left with
        | none => exact .of_launch rests rfl (kept.congr rfl rfl) sound.broken
        | some left =>
            dsimp only
            by_cases broke : left.isBroken = true
            · rw [if_pos broke]
              exact
                .of_launch rests rfl (kept.congr rfl rfl)
                  (List.forall_mem_cons.mpr ⟨broke, sound.broken⟩)
            · rw [if_neg broke]
              exact sound

theorem Sound.act
    (sound : Sound operations base course)
    (action : Action σ) :
    Sound operations base (course.act operations action) := by
  cases action with
  | move move => exact sound.move move
  | start => exact sound.start
  | stop turns => exact sound.stop turns
  | letInPrevious place =>
      exact (course.previousMove_letInPrevious operations place).sound sound
  | workPrevious => exact (course.previousMove_workPrevious operations).sound sound

/-- The accounts of a course stay right, whatever happens. -/
theorem Sound.run
    (sound : Sound operations base course)
    (actions : List (Action σ)) :
    Sound operations base (course.run operations actions) := by
  rw [Course.run]
  induction actions generalizing course with
  | nil => exact sound
  | cons action rest ih => exact ih (sound.act action)

/--
A worker that was let go broke off with an appender, and the event in its hand
was neither delivered nor has it failed.
-/
theorem Sound.fewer_of_crash
    {worker : Worker}
    {message : String}
    (sound : Sound operations base course)
    (member : worker ∈ course.forsaken)
    (crash : worker.crash = some message) :
    operations.BreaksOff message ∧
      course.dispatcher.metrics.delivered + course.dispatcher.metrics.failed <
        base.delivered + base.failed + course.accepted.length := by
  have isWorker : worker ∈ course.workers :=
    List.mem_append_right _ (List.mem_append_right _ member)
  rcases sound.ledger with ⟨⟨_, delivered, _⟩, sounds⟩
  rcases (sounds worker isWorker).breaks message crash with ⟨holds, breaks⟩
  rcases Option.isSome_iff_exists.mp holds with ⟨delivery, hand⟩
  have held : 0 < worker.held := by
    rw [Worker.held, hand]
    exact Nat.succ_pos _
  have among := held_le_heldBy isWorker
  exact ⟨breaks, by omega⟩

/-! ## What can be counted -/

/-- The workers that can still do something, or of which the queue is still there. -/
def presentWorkers (course : Course σ α) : List Worker :=
  course.dispatcher.worker.toList ++
    course.dispatcher.previous.toList.filter fun worker => !worker.isBroken

/-- The number of events in queues. -/
def queued (course : Course σ α) : Nat :=
  (course.presentWorkers.map fun worker => worker.queue.length).sum

/-- The number of events that a worker has in its hand; one that broke off has none. -/
def inHand (course : Course σ α) : Nat :=
  (course.presentWorkers.map fun worker =>
    if worker.isBroken then 0 else worker.hand.toList.length).sum

/-- The number of producers that wait for room in a queue. -/
def waiting (course : Course σ α) : Nat :=
  waitingFor course.presentWorkers

/-- The workers that broke off so far. -/
def brokenOff (course : Course σ α) : List Worker :=
  course.workers.filter Worker.isBroken

/-- Every event is accounted for by the counters and by what can be counted. -/
structure Accounted (course : Course σ α) : Prop where
  enqueued :
    course.dispatcher.metrics.enqueued =
      course.dispatcher.metrics.delivered + course.dispatcher.metrics.failed +
        course.queued + course.inHand
  offered :
    course.offered.length =
      course.dispatcher.metrics.enqueued + course.dispatcher.metrics.discarded +
        course.dispatcher.metrics.dropped + course.waiting

/-- What the settings of a dispatcher bound. -/
structure Bounded (settings : DispatcherSettings) (course : Course σ α) : Prop where
  queue :
    ∀ worker ∈ course.presentWorkers, worker.queue.length ≤ settings.queueSize
  started :
    course.dispatcher.isStarted = true →
      course.dispatcher.queued + course.dispatcher.free = settings.queueSize
  stopped :
    course.dispatcher.isStarted = false →
      course.dispatcher.queued = 0 ∧ course.dispatcher.free = 0
  dropped :
    settings.neverBlock = false → course.dispatcher.metrics.dropped = 0
  blocked :
    settings.neverBlock = true → course.dispatcher.metrics.blocked = 0
  discarded :
    settings.threshold = 0 → course.dispatcher.metrics.discarded = 0

/-- The workers that can still do something are among all workers. -/
theorem presentWorkers_sublist (course : Course σ α) :
    List.Sublist course.presentWorkers course.workers := by
  rw [presentWorkers, workers, workersWith]
  have kept :
      List.Sublist
        (course.dispatcher.previous.toList.filter fun worker => !worker.isBroken)
        (course.dispatcher.previous.toList ++ course.forsaken) :=
    List.filter_sublist.trans (List.sublist_append_left _ _)
  exact kept.append_left _

theorem Sound.bounded
    (sound : Sound operations .zero course) :
    Bounded course.dispatcher.settings course := by
  rcases sound with ⟨⟨accounts, sounds⟩, broken, single⟩
  refine
    ⟨fun worker present =>
        (sounds worker (course.presentWorkers_sublist.subset present)).fits,
      ?_, ?_, accounts.dropped_eq, accounts.blocked_eq, accounts.discarded_eq⟩
  · intro started
    rcases Option.isSome_iff_exists.mp started with ⟨worker, isWorker⟩
    have fits : worker.queue.length ≤ course.dispatcher.settings.queueSize := by
      refine (sounds worker ?_).fits
      rw [workers_of_worker isWorker]
      exact List.mem_cons_self
    rw [Dispatcher.queued, free, isWorker]
    exact Nat.add_sub_of_le fits
  · intro stopped
    rw [isStarted, Option.isSome_eq_false_iff, Option.isNone_iff_eq_none] at stopped
    rw [Dispatcher.queued, free, stopped]
    exact ⟨rfl, rfl⟩

/-- What workers hold is what can be counted and what was lost in their hands. -/
theorem heldBy_eq
    {size : Nat}
    {workers : List Worker}
    (sounds : ∀ worker ∈ workers, worker.Sound operations size) :
    heldBy workers =
      (workers.map Worker.counted).sum + workers.countP Worker.isBroken := by
  induction workers with
  | nil => rfl
  | cons worker rest ih =>
      rcases List.forall_mem_cons.mp sounds with ⟨sound, sounds⟩
      have split :
          (worker :: rest).countP Worker.isBroken =
            [worker].countP Worker.isBroken + rest.countP Worker.isBroken := by
        rw [← List.singleton_append, List.countP_append]
      rw [heldBy_cons, ih sounds, sound.held_eq, List.map_cons, List.sum_cons, split]
      omega

theorem queued_add_inHand (course : Course σ α) :
    course.queued + course.inHand =
      (course.presentWorkers.map Worker.counted).sum := by
  rw [queued, inHand]
  induction course.presentWorkers with
  | nil => rfl
  | cons worker rest ih =>
      simp only [List.map_cons, List.sum_cons, Worker.counted] at ih ⊢
      omega

/-- Without workers that broke off, all workers can still do something. -/
theorem Sound.presentWorkers_eq
    (sound : Sound operations base course)
    (whole : course.brokenOff = []) :
    course.presentWorkers = course.workers := by
  have whole := List.filter_eq_nil_iff.mp whole
  rw [workers, workersWith] at whole
  have noForsaken : course.forsaken = [] := by
    rw [List.eq_nil_iff_forall_not_mem]
    intro worker member
    refine whole worker ?_ (sound.broken worker member)
    exact List.mem_append_right _ (List.mem_append_right _ member)
  have keeps :
      course.dispatcher.previous.toList.filter (fun worker => !worker.isBroken) =
        course.dispatcher.previous.toList := by
    rw [List.filter_eq_self]
    intro worker member
    rw [Bool.not_eq_true', Bool.eq_false_iff]
    exact
      whole worker (List.mem_append_right _ (List.mem_append_left _ member))
  rw [presentWorkers, workers, workersWith, noForsaken, keeps, List.append_nil]

theorem Sound.accounted_iff (sound : Sound operations .zero course) :
    Accounted course ↔ course.brokenOff = [] := by
  rcases sound.ledger with ⟨accounts, sounds⟩
  have held := heldBy_eq sounds
  have counted := queued_add_inHand course
  have delivered := accounts.delivered_eq
  have enqueued := accounts.enqueued_eq
  simp only [Metrics.zero, Nat.zero_add] at delivered enqueued
  constructor
  · intro accounted
    have noBroken : course.workers.countP Worker.isBroken = 0 := by
      have taken := accounted.enqueued
      have present :
          (course.presentWorkers.map Worker.counted).sum ≤
            (course.workers.map Worker.counted).sum :=
        (course.presentWorkers_sublist.map _).sum_le_sum
          (fun _ _ => Nat.zero_le _)
      omega
    rw [brokenOff, List.filter_eq_nil_iff]
    exact List.countP_eq_zero.mp noBroken
  · intro whole
    have present := sound.presentWorkers_eq whole
    have noBroken : course.workers.countP Worker.isBroken = 0 :=
      List.countP_eq_zero.mpr (List.filter_eq_nil_iff.mp whole)
    have offered := accounts.offers_eq
    rw [present] at counted
    simp only [Metrics.zero, Nat.zero_add] at offered
    refine ⟨by omega, ?_⟩
    rw [waiting, present]
    omega

/-- The beginning of a course of a dispatcher that was just set up. -/
def create
    (name : String)
    (settings : DispatcherSettings)
    (discardable : Event → Bool)
    (appenders : List α)
    (state : σ) :
    Course σ α :=
  .of (.create name settings discardable appenders) state

theorem sound_create
    (operations : Operations σ α)
    (name : String)
    (settings : DispatcherSettings)
    (discardable : Event → Bool)
    (appenders : List α)
    (state : σ) :
    Sound operations .zero
      (create name settings discardable appenders state) :=
  .of_idle rfl
    ⟨Accounts.refl (Dispatcher.create name settings discardable appenders),
      fun _ member => nomatch member⟩
    (fun _ member => nomatch member)

/--
Whatever happens to a dispatcher and its appenders, everything is within the
bounds that its settings give.  Every event is accounted for exactly as long as
no worker breaks off, and a worker breaks off only with an appender that does
so when it is asked whether it is started.
-/
theorem accounted_iff_brokenOff_eq_nil
    (operations : Operations σ α)
    (name : String)
    (settings : DispatcherSettings)
    (discardable : Event → Bool)
    (appenders : List α)
    (state : σ)
    (actions : List (Action σ)) :
    let course :=
      (create name settings discardable appenders state).run operations actions
    Bounded settings course ∧
      (Accounted course ↔ course.brokenOff = []) ∧
      ∀ worker ∈ course.brokenOff,
        ∃ message, worker.crash = some message ∧ operations.BreaksOff message := by
  intro course
  have sound : Sound operations .zero course :=
    (sound_create operations name settings discardable appenders state).run actions
  have same : course.dispatcher.settings = settings :=
    (run_sameSetup operations _ actions).settings
  have bounded := sound.bounded
  rw [same] at bounded
  refine ⟨bounded, sound.accounted_iff, ?_⟩
  intro worker member
  rcases List.mem_filter.mp member with ⟨isWorker, broken⟩
  rcases Option.isSome_iff_exists.mp broken with ⟨message, crash⟩
  exact
    ⟨message, crash, ((sound.ledger.sound worker isWorker).breaks message crash).2⟩

/--
An appender that takes everything.  Its state says whether it breaks off when
it is asked whether it is started.
-/
def touchy : Operations Bool Unit where
  name _ _ := "touchy"
  isStarted _ breaks := if breaks then .error "broken" else .ok true
  append _ _ breaks := (.done (), breaks)
  flush _ breaks := (.done (), breaks)
  start _ breaks := (.ok (), breaks)
  stop _ breaks := (.ok (), breaks)
  blocks _ _ := false
  report _ breaks := breaks

/--
One event is delivered and two more come into the queue.  Then the appender
breaks off when it is asked about itself, and the dispatcher is stopped.  Two
of the three events that were enqueued are gone, and no counter tells.
-/
theorem not_accounted_touchy :
    let event := Event.plain ⟨0, 0⟩ .warn "app" "message"
    let course :=
      (create "ASYNC" .standard (fun _ => false) [()] false).run touchy
        [.start, .move (.offer event), .move .work, .move .work, .move .pause,
          .move (.offer event), .move (.offer event),
          .move (.stir fun _ => true), .stop (List.replicate 20 0)]
    course.dispatcher.metrics = ⟨3, 1, 0, 0, 0, 0⟩ ∧
      course.queued = 0 ∧ course.inHand = 0 ∧ ¬ Accounted course := by
  intro event course
  have metrics : course.dispatcher.metrics = ⟨3, 1, 0, 0, 0, 0⟩ := by
    decide +kernel
  have queued : course.queued = 0 := by decide +kernel
  have inHand : course.inHand = 0 := by decide +kernel
  refine ⟨metrics, queued, inHand, ?_⟩
  intro accounted
  have enqueued := accounted.enqueued
  rw [metrics, queued, inHand] at enqueued
  cases enqueued

end Course

end LogPipeline
