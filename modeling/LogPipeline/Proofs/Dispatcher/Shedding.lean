import LogPipeline.Proofs.Dispatcher.Delivery

/-!
# Shedding

An event that may be shed is shed exactly if fewer places are free than the
threshold says.  Any other event comes into the queue or waits for room, unless
the queue is full and nobody is to wait.  Hence the events that may be shed
never fill more than a part of the queue.

Whether an event may be shed is decided when it is offered, but the queue may
hold it without the place it was logged at.  Therefore a `Gate` goes along with
a course and keeps the events as they were offered.
-/

namespace LogPipeline

variable {σ α : Type}

/-- Whether an offered event is in the queue afterwards, or waits for it. -/
def Reception.keeps : Reception → Bool
  | .refused => false
  | .discarded => false
  | .dropped => false
  | .enqueued => true
  | .waiting => true

namespace Dispatcher

/-! ## What becomes of an event -/

/-- What becomes of an event that is offered while so many are in the queue. -/
def verdict (dispatcher : Dispatcher α) (event : Event) (queued : Nat) : Reception :=
  if dispatcher.discardable event = true ∧
      dispatcher.settings.queueSize - queued < dispatcher.settings.threshold then
    .discarded
  else if queued < dispatcher.settings.queueSize then
    .enqueued
  else if dispatcher.settings.neverBlock = true then
    .dropped
  else
    .waiting

section Verdict

variable (dispatcher : Dispatcher α) (event : Event) (queued : Nat)

theorem verdict_eq_discarded_iff :
    dispatcher.verdict event queued = .discarded ↔
      dispatcher.discardable event = true ∧
        dispatcher.settings.queueSize - queued < dispatcher.settings.threshold := by
  rw [verdict]
  split_ifs with sheds room neverBlock <;> simp [sheds]

theorem verdict_eq_dropped_iff :
    dispatcher.verdict event queued = .dropped ↔
      dispatcher.verdict event queued ≠ .discarded ∧
        dispatcher.settings.queueSize ≤ queued ∧
        dispatcher.settings.neverBlock = true := by
  rw [verdict]
  split_ifs with sheds room neverBlock <;> simp [*]
  omega

theorem verdict_eq_enqueued_iff :
    dispatcher.verdict event queued = .enqueued ↔
      dispatcher.verdict event queued ≠ .discarded ∧
        queued < dispatcher.settings.queueSize := by
  rw [verdict]
  split_ifs with sheds room neverBlock <;> simp [*]

theorem verdict_ne_refused : dispatcher.verdict event queued ≠ .refused := by
  rw [verdict]
  split_ifs <;> nofun

/-- The verdict depends on how a dispatcher was set up, and on nothing else. -/
theorem SameSetup.verdict_eq
    {before after : Dispatcher α}
    (same : SameSetup before after) :
    after.verdict = before.verdict := by
  funext event queued
  rw [verdict, verdict, same.settings, same.discardable]

end Verdict

/-- A started dispatcher receives an event as the verdict says. -/
theorem offer_fst
    {dispatcher : Dispatcher α}
    {worker : Worker}
    (isWorker : dispatcher.worker = some worker)
    (operations : Operations σ α)
    (event : Event)
    (state : σ) :
    (dispatcher.offer operations event state).1 =
      dispatcher.verdict event worker.queue.length := by
  have isRoom :
      0 < dispatcher.room worker ↔
        worker.queue.length < dispatcher.settings.queueSize :=
    Nat.sub_pos_iff_lt
  have isShed :
      dispatcher.sheds worker event = true ↔
        dispatcher.discardable event = true ∧
          dispatcher.settings.queueSize - worker.queue.length <
            dispatcher.settings.threshold := by
    rw [sheds, room, Bool.and_eq_true, decide_eq_true_eq, and_comm]
  simp only [offer, isWorker, verdict, ← isShed]
  by_cases shed : dispatcher.sheds worker event = true
  · rw [if_pos shed, if_pos shed]
  · simp only [if_neg shed, enqueue, isRoom]
    split_ifs <;> rfl

/-! ## What a worker leaves as it is -/

variable {operations : Operations σ α} {leaving : Bool} {place : Nat}
variable {dispatcher later : Dispatcher α} {worker : Worker}
variable {entered : List Event} {left : Option Worker} {state after : σ}

/-- No step of a worker loses an event of those that were offered. -/
theorem WorkerStep.losses
    (stepped :
      WorkerStep operations leaving place dispatcher worker state
        entered later left after) :
    later.metrics.discarded = dispatcher.metrics.discarded ∧
      later.metrics.dropped = dispatcher.metrics.dropped := by
  cases stepped with
  | admitted => exact ⟨rfl, rfl⟩
  | took => exact ⟨rfl, rfl⟩
  | moved => exact ⟨rfl, rfl⟩
  | @finished _ clean => cases clean <;> exact ⟨rfl, rfl⟩
  | crashed => exact ⟨rfl, rfl⟩
  | left => exact ⟨rfl, rfl⟩

/-- A worker that lets nobody in takes events from the front of the queue at most. -/
theorem WorkerStep.queue_eq_drop
    (stepped :
      WorkerStep operations false place dispatcher worker state
        [] later left after) :
    ∃ next,
      left = some next ∧
        next.waiting = worker.waiting ∧
        next.queue =
          worker.queue.drop (worker.queue.length - next.queue.length) := by
  have unchanged :
      worker.queue =
        worker.queue.drop (worker.queue.length - worker.queue.length) := by
    rw [Nat.sub_self, List.drop_zero]
  cases stepped with
  | @took event rest _ _ next =>
      refine ⟨_, rfl, rfl, ?_⟩
      simp [next, Worker.take]
  | moved => exact ⟨_, rfl, rfl, unchanged⟩
  | finished => exact ⟨_, rfl, rfl, unchanged⟩
  | crashed => exact ⟨_, rfl, rfl, unchanged⟩
  | left _ _ isLeaving => cases isLeaving

end Dispatcher

/-! ## Events as they were offered -/

/-- An event that was offered to a started dispatcher. -/
structure Offer where
  event : Event
  /-- How many events were in the queue at that moment. -/
  queued : Nat
  reception : Reception

namespace Offer

open Dispatcher

/--
What is recorded of some offers to a dispatcher that was set up like `idle`:
which events were kept, and what was counted since the counters were `base`.
-/
structure Record
    (idle : Dispatcher α)
    (base metrics : Metrics)
    (kept : List Event)
    (offers : List Offer) : Prop where
  kept :
    List.Perm kept
      ((offers.filter fun offer => offer.reception.keeps).map Offer.event)
  judged :
    ∀ offer ∈ offers,
      offer.queued ≤ idle.settings.queueSize ∧
        offer.reception = idle.verdict offer.event offer.queued
  discarded :
    metrics.discarded =
      base.discarded + offers.countP fun offer => offer.reception = .discarded
  dropped :
    metrics.dropped =
      base.dropped + offers.countP fun offer => offer.reception = .dropped

variable {idle : Dispatcher α} {base metrics after : Metrics}
variable {kept later : List Event} {offers : List Offer}

theorem Record.nil (idle : Dispatcher α) (base : Metrics) :
    Record idle base base [] [] := by
  refine ⟨.nil, ?_, ?_, ?_⟩
  · intro offer member
    cases member
  · rw [List.countP_nil, Nat.add_zero]
  · rw [List.countP_nil, Nat.add_zero]

theorem Record.congr
    (record : Record idle base metrics kept offers)
    (same : List.Perm later kept)
    (losses :
      after.discarded = metrics.discarded ∧ after.dropped = metrics.dropped) :
    Record idle base after later offers :=
  ⟨same.trans record.kept, record.judged, losses.1.trans record.discarded,
    losses.2.trans record.dropped⟩

/-- What becomes of an event decides whether it is kept and what is counted. -/
theorem Record.add
    {event : Event}
    {queued : Nat}
    {reception : Reception}
    (record : Record idle base metrics kept offers)
    (fits : queued ≤ idle.settings.queueSize)
    (judged : reception = idle.verdict event queued)
    (same : List.Perm later (kept ++ if reception.keeps then [event] else []))
    (discarded :
      after.discarded =
        metrics.discarded + if reception = .discarded then 1 else 0)
    (dropped :
      after.dropped = metrics.dropped + if reception = .dropped then 1 else 0) :
    Record idle base after later (offers ++ [⟨event, queued, reception⟩]) := by
  refine ⟨?_, ?_, ?_, ?_⟩
  · rw [List.filter_append, List.map_append]
    apply same.trans
    apply (record.kept.append_right _).trans
    cases reception <;> exact .refl _
  · intro offer member
    rcases List.mem_append.mp member with earlier | last
    · exact record.judged offer earlier
    · obtain rfl := List.mem_singleton.mp last
      exact ⟨fits, judged⟩
  · rw [discarded, record.discarded, List.countP_append, List.countP_singleton,
      Nat.add_assoc]
    simp only [decide_eq_true_eq]
  · rw [dropped, record.dropped, List.countP_append, List.countP_singleton,
      Nat.add_assoc]
    simp only [decide_eq_true_eq]

end Offer

/-- A course of a started dispatcher, with the events as they were offered. -/
structure Gate (σ α : Type) where
  course : Course σ α
  /-- The events that are in the queue. -/
  queued : List Event
  /-- The events that wait for room in the queue. -/
  parked : List Event
  /-- The events that the worker took from the queue. -/
  taken : List Event
  /-- All events that were offered. -/
  offers : List Offer

namespace Gate

open Dispatcher

/-- The beginning of a course, with nothing offered yet. -/
def of (dispatcher : Dispatcher α) (state : σ) : Gate σ α :=
  ⟨.of dispatcher state, [], [], [], []⟩

def offer
    (operations : Operations σ α)
    (event : Event)
    (gate : Gate σ α) :
    Gate σ α :=
  let dispatcher := gate.course.dispatcher
  let reception := (dispatcher.offer operations event gate.course.state).1
  { course := gate.course.offer operations event
    queued := if reception = .enqueued then gate.queued ++ [event] else gate.queued
    parked := if reception = .waiting then gate.parked ++ [event] else gate.parked
    taken := gate.taken
    offers := gate.offers ++ [⟨event, dispatcher.queued, reception⟩] }

def letIn (place : Nat) (gate : Gate σ α) : Gate σ α :=
  let course := gate.course.letIn place
  match gate.parked[place]? with
  | none => { gate with course }
  | some event =>
      if 0 < gate.course.dispatcher.free then
        { gate with
          course
          queued := gate.queued ++ [event]
          parked := gate.parked.eraseIdx place }
      else
        { gate with course }

/-- What the queue has lost at its front was taken by the worker. -/
def work (operations : Operations σ α) (gate : Gate σ α) : Gate σ α :=
  let later := gate.course.work operations
  let count := gate.queued.length - later.dispatcher.queued
  { gate with
    course := later
    queued := gate.queued.drop count
    taken := gate.taken ++ gate.queued.take count }

def move
    (operations : Operations σ α)
    (gate : Gate σ α)
    (move : Move σ) :
    Gate σ α :=
  match move with
  | .offer event => gate.offer operations event
  | .letIn place => gate.letIn place
  | .work => gate.work operations
  | .pause => { gate with course := gate.course.move operations .pause }
  | .resume => { gate with course := gate.course.move operations .resume }
  | .stir change => { gate with course := gate.course.move operations (.stir change) }

def moves
    (operations : Operations σ α)
    (gate : Gate σ α)
    (moves : List (Move σ)) :
    Gate σ α :=
  moves.foldl (Gate.move operations) gate

@[simp]
theorem course_letIn (place : Nat) (gate : Gate σ α) :
    (gate.letIn place).course = gate.course.letIn place := by
  rw [letIn]
  split
  · rfl
  · split <;> rfl

@[simp]
theorem offers_letIn (place : Nat) (gate : Gate σ α) :
    (gate.letIn place).offers = gate.offers := by
  rw [letIn]
  split
  · rfl
  · split <;> rfl

/-- A gate goes along with its course. -/
theorem course_moves
    (operations : Operations σ α)
    (gate : Gate σ α)
    (moves : List (Move σ)) :
    (gate.moves operations moves).course = gate.course.moves operations moves := by
  have moved (gate : Gate σ α) (move : Move σ) :
      (gate.move operations move).course = gate.course.move operations move := by
    cases move with
    | letIn place => exact course_letIn place gate
    | _ => rfl
  rw [Gate.moves, Course.moves, Course.run]
  induction moves generalizing gate with
  | nil => rfl
  | cons move rest ih =>
      rw [List.foldl_cons, ih, moved]
      rfl

/-- Every event that is offered is recorded. -/
theorem event_offers_moves
    (operations : Operations σ α)
    (gate : Gate σ α)
    (moves : List (Move σ)) :
    (gate.moves operations moves).offers.map Offer.event =
      gate.offers.map Offer.event ++ moves.flatMap Move.offers := by
  have recorded (gate : Gate σ α) (move : Move σ) :
      (gate.move operations move).offers.map Offer.event =
        gate.offers.map Offer.event ++ move.offers := by
    cases move <;> simp [Gate.move, offer, work, Move.offers]
  rw [Gate.moves]
  induction moves generalizing gate with
  | nil => simp
  | cons move rest ih =>
      rw [List.foldl_cons, ih, recorded, List.flatMap_cons, List.append_assoc]

/-! ## What the queue holds -/

/--
What is in the queue of a dispatcher that was set up like `idle`, and what waits
for it.  If anything is ever shed, then what waits could not be shed.
-/
structure Stock
    (idle : Dispatcher α)
    (queued parked : List Event) : Prop where
  fits : queued.length ≤ idle.settings.queueSize
  firm :
    0 < idle.settings.threshold →
      ∀ event ∈ parked, idle.discardable event = false
  bound :
    queued.countP idle.discardable ≤
      idle.settings.queueSize + 1 - idle.settings.threshold

section Stock

variable {idle : Dispatcher α} {queued parked : List Event} {event : Event}

theorem Stock.nil (idle : Dispatcher α) : Stock idle [] [] :=
  ⟨Nat.zero_le _, (fun _ _ member => nomatch member), Nat.zero_le _⟩

/-- An event that may be shed comes in only while there are places enough. -/
theorem Stock.enqueue
    (stock : Stock idle queued parked)
    (enqueues : idle.verdict event queued.length = .enqueued) :
    Stock idle (queued ++ [event]) parked := by
  have room := ((verdict_eq_enqueued_iff ..).mp enqueues).2
  refine ⟨?_, stock.firm, ?_⟩
  · rw [List.length_append, List.length_singleton]
    omega
  · rw [List.countP_append, List.countP_singleton]
    by_cases sheddable : idle.discardable event = true
    · have places :
          ¬ idle.settings.queueSize - queued.length < idle.settings.threshold := by
        intro few
        rw [(verdict_eq_discarded_iff ..).mpr ⟨sheddable, few⟩] at enqueues
        cases enqueues
      have most : queued.countP idle.discardable ≤ queued.length :=
        List.countP_le_length
      rw [if_pos sheddable]
      omega
    · rw [if_neg sheddable]
      exact stock.bound

/-- An event that waits found no place free. -/
theorem Stock.park
    (stock : Stock idle queued parked)
    (waits : idle.verdict event queued.length = .waiting) :
    Stock idle queued (parked ++ [event]) := by
  have full : ¬ queued.length < idle.settings.queueSize := by
    intro room
    rw [(verdict_eq_enqueued_iff ..).mpr ⟨by rw [waits]; nofun, room⟩] at waits
    cases waits
  refine ⟨stock.fits, ?_, stock.bound⟩
  intro sheds other member
  rcases List.mem_append.mp member with earlier | last
  · exact stock.firm sheds other earlier
  · obtain rfl := List.mem_singleton.mp last
    apply Bool.eq_false_iff.mpr
    intro sheddable
    rw [(verdict_eq_discarded_iff ..).mpr ⟨sheddable, by omega⟩] at waits
    cases waits

theorem Stock.letIn
    {place : Nat}
    (stock : Stock idle queued parked)
    (room : queued.length < idle.settings.queueSize)
    (waits : parked[place]? = some event) :
    Stock idle (queued ++ [event]) (parked.eraseIdx place) := by
  refine ⟨?_, ?_, ?_⟩
  · rw [List.length_append, List.length_singleton]
    exact room
  · intro sheds other member
    exact stock.firm sheds other (List.mem_of_mem_eraseIdx member)
  · have most : queued.countP idle.discardable ≤ queued.length :=
      List.countP_le_length
    rw [List.countP_append, List.countP_singleton]
    -- Without a threshold the bound is no less than the length of the queue.
    rcases Nat.eq_zero_or_pos idle.settings.threshold with never | sheds
    · split_ifs <;> omega
    · rw [stock.firm sheds event (List.mem_of_getElem? waits),
        if_neg Bool.false_ne_true]
      exact stock.bound

theorem Stock.drop
    (stock : Stock idle queued parked)
    (count : Nat) :
    Stock idle (queued.drop count) parked := by
  have shorter : List.Sublist (queued.drop count) queued := List.drop_sublist ..
  exact
    ⟨shorter.length_le.trans stock.fits, stock.firm,
      shorter.countP_le.trans stock.bound⟩

end Stock

/-! ## What a started dispatcher keeps to -/

/--
A dispatcher that was set up like `idle` runs with the given worker, and its
counters began with `base`.
-/
structure Keeps
    (idle : Dispatcher α)
    (base : Metrics)
    (worker : Worker)
    (gate : Gate σ α) : Prop where
  isWorker : gate.course.dispatcher.worker = some worker
  setup : SameSetup idle gate.course.dispatcher
  queue : gate.queued.map (prepare idle.settings) = worker.queue
  waiting : gate.parked.map (prepare idle.settings) = worker.waiting
  accepted :
    (gate.taken ++ gate.queued).map (prepare idle.settings) = gate.course.accepted
  record :
    Offer.Record idle base gate.course.dispatcher.metrics
      (gate.taken ++ gate.queued ++ gate.parked) gate.offers
  stock : Stock idle gate.queued gate.parked

section Keeps

variable {operations : Operations σ α}
variable {idle : Dispatcher α} {base : Metrics} {worker : Worker}
variable {gate : Gate σ α}

theorem Keeps.length_queue (keeps : Keeps idle base worker gate) :
    worker.queue.length = gate.queued.length := by
  rw [← keeps.queue, List.length_map]

theorem Keeps.queued_eq (keeps : Keeps idle base worker gate) :
    gate.course.dispatcher.queued = gate.queued.length := by
  rw [Dispatcher.queued, keeps.isWorker]
  exact keeps.length_queue

/-- An event that is lost leaves the queue as it is. -/
theorem Keeps.lose
    {event : Event}
    {reception : Reception}
    {later : Dispatcher α}
    {after : σ}
    {offered : List Event}
    (keeps : Keeps idle base worker gate)
    (judged : reception = idle.verdict event gate.queued.length)
    (lost : reception.keeps = false)
    (same : SameFrame gate.course.dispatcher later)
    (discarded :
      later.metrics.discarded =
        gate.course.dispatcher.metrics.discarded +
          if reception = .discarded then 1 else 0)
    (dropped :
      later.metrics.dropped =
        gate.course.dispatcher.metrics.dropped +
          if reception = .dropped then 1 else 0) :
    Keeps idle base worker
      ⟨⟨later, after, offered, gate.course.accepted, gate.course.forsaken⟩,
        gate.queued, gate.parked, gate.taken,
        gate.offers ++ [⟨event, gate.queued.length, reception⟩]⟩ := by
  rcases keeps with ⟨isWorker, setup, queue, waiting, accepted, record, stock⟩
  refine
    ⟨same.worker.trans isWorker, setup.trans same.toSameSetup, queue, waiting,
      accepted, record.add stock.fits judged ?_ discarded dropped, stock⟩
  rw [lost, if_neg Bool.false_ne_true, List.append_nil]

/-- An event for which there is room comes to the end of the queue. -/
theorem Keeps.enqueue
    {event : Event}
    {offered : List Event}
    (keeps : Keeps idle base worker gate)
    (judged : .enqueued = idle.verdict event gate.queued.length) :
    Keeps idle base
      { worker with queue := worker.queue ++ [prepare idle.settings event] }
      ⟨⟨{ gate.course.dispatcher.count .enqueued with
            worker :=
              some
                { worker with
                  queue := worker.queue ++ [prepare idle.settings event] } },
          gate.course.state, offered,
          gate.course.accepted ++ [prepare idle.settings event],
          gate.course.forsaken⟩,
        gate.queued ++ [event], gate.parked, gate.taken,
        gate.offers ++ [⟨event, gate.queued.length, .enqueued⟩]⟩ := by
  rcases keeps with ⟨_, setup, queue, waiting, accepted, record, stock⟩
  refine
    ⟨rfl, ⟨setup.name, setup.settings, setup.discardable, setup.appenders⟩,
      ?_, waiting, ?_, record.add stock.fits judged ?_ rfl rfl,
      stock.enqueue judged.symm⟩
  · rw [List.map_append, queue]
    rfl
  · rw [← accepted, ← List.append_assoc, List.map_append]
    rfl
  · rw [← List.append_assoc, List.append_assoc (gate.taken ++ gate.queued),
      List.append_assoc (gate.taken ++ gate.queued)]
    exact List.perm_append_comm.append_left _

theorem Keeps.park
    {event : Event}
    {offered : List Event}
    (keeps : Keeps idle base worker gate)
    (judged : .waiting = idle.verdict event gate.queued.length) :
    Keeps idle base
      { worker with waiting := worker.waiting ++ [prepare idle.settings event] }
      ⟨⟨{ gate.course.dispatcher.count .blocked with
            worker :=
              some
                { worker with
                  waiting := worker.waiting ++ [prepare idle.settings event] } },
          gate.course.state, offered, gate.course.accepted, gate.course.forsaken⟩,
        gate.queued, gate.parked ++ [event], gate.taken,
        gate.offers ++ [⟨event, gate.queued.length, .waiting⟩]⟩ := by
  rcases keeps with ⟨_, setup, queue, waiting, accepted, record, stock⟩
  refine
    ⟨rfl, ⟨setup.name, setup.settings, setup.discardable, setup.appenders⟩,
      queue, ?_, accepted, record.add stock.fits judged ?_ rfl rfl,
      stock.park judged.symm⟩
  · rw [List.map_append, waiting]
    rfl
  · rw [← List.append_assoc]
    exact .refl _

theorem Keeps.offer
    (keeps : Keeps idle base worker gate)
    (event : Event) :
    ∃ next, Keeps idle base next (gate.offer operations event) := by
  have isWorker := keeps.isWorker
  have judged := offer_fst isWorker operations event gate.course.state
  have step :=
    offerStep_offer operations gate.course.dispatcher event gate.course.state
  -- The setup stays, so the verdict is that of the dispatcher before its start.
  rw [keeps.setup.verdict_eq, keeps.length_queue] at judged
  rw [Gate.offer, Course.offer, keeps.queued_eq, keeps.setup.settings]
  generalize
    gate.course.dispatcher.offer operations event gate.course.state = result
    at judged step ⊢
  rcases result with ⟨reception, later, after⟩
  dsimp only at judged step ⊢
  cases step with
  | refused noWorker =>
      rw [isWorker] at noWorker
      cases noWorker
  | discarded _ _ same metrics =>
      refine ⟨worker, keeps.lose judged rfl same ?_ ?_⟩
      · rw [metrics]
        rfl
      · rw [metrics]
        rfl
  | dropped _ _ same metrics =>
      refine ⟨worker, keeps.lose judged rfl same ?_ ?_⟩
      · rw [metrics]
        rfl
      · rw [metrics]
        rfl
  | @enqueued other isOther room =>
      obtain rfl : worker = other := Option.some.inj (isWorker.symm.trans isOther)
      rw [keeps.setup.settings]
      exact ⟨_, keeps.enqueue judged⟩
  | @waiting other isOther blocks =>
      obtain rfl : worker = other := Option.some.inj (isWorker.symm.trans isOther)
      rw [keeps.setup.settings]
      exact ⟨_, keeps.park judged⟩

theorem Keeps.letIn
    (keeps : Keeps idle base worker gate)
    (place : Nat) :
    ∃ next, Keeps idle base next (gate.letIn place) := by
  have isWorker := keeps.isWorker
  have isQueued := keeps.length_queue
  have waits :
      worker.waiting[place]? = gate.parked[place]?.map (prepare idle.settings) := by
    rw [← keeps.waiting, List.getElem?_map]
  have isFree :
      gate.course.dispatcher.free = gate.course.dispatcher.room worker := by
    rw [Dispatcher.free, isWorker]
  simp only [Gate.letIn, Course.letIn, isWorker, isFree, Dispatcher.admit?,
    Worker.admit?, waits]
  cases isParked : gate.parked[place]? with
  | none =>
      simp only [Option.map_none, ite_self]
      exact ⟨worker, keeps⟩
  | some event =>
      by_cases room : 0 < gate.course.dispatcher.room worker
      · rcases keeps with ⟨_, setup, queue, waiting, accepted, record, stock⟩
        have places : gate.queued.length < idle.settings.queueSize := by
          rw [Dispatcher.room, setup.settings, isQueued] at room
          omega
        simp only [if_pos room, Option.map_some, Option.toList_some]
        refine
          ⟨_, rfl, ⟨setup.name, setup.settings, setup.discardable, setup.appenders⟩,
            ?_, ?_, ?_, record.congr ?_ ⟨rfl, rfl⟩, stock.letIn places isParked⟩
        · rw [List.map_append, queue]
          rfl
        · rw [← waiting, List.eraseIdx_map]
        · rw [← accepted, ← List.append_assoc, List.map_append]
          rfl
        · rcases List.getElem?_eq_some_iff.mp isParked with ⟨bound, rfl⟩
          rw [← List.append_assoc, List.append_assoc (gate.taken ++ gate.queued)]
          exact (List.getElem_cons_eraseIdx_perm bound).append_left _
      · simp only [if_neg room]
        exact ⟨worker, keeps⟩

/-- The worker takes events from the front of the queue, if any. -/
theorem Keeps.work
    (keeps : Keeps idle base worker gate) :
    ∃ next, Keeps idle base next (gate.work operations) := by
  have isWorker := keeps.isWorker
  have length := keeps.length_queue
  have isQueued := keeps.queued_eq
  cases works :
      gate.course.dispatcher.workStep operations false worker gate.course.state with
  | none =>
      have rests : gate.course.work operations = gate.course := by
        simp only [Course.work, isWorker, works]
      rw [Gate.work, rests, isQueued, Nat.sub_self]
      refine ⟨worker, ?_⟩
      simpa using keeps
  | some result =>
      rcases result with ⟨later, left, after⟩
      have stepped := workerStep_of_workStep 0 works
      rcases stepped.queue_eq_drop with ⟨next, rfl, stillWaits, shorter⟩
      rcases keeps with ⟨_, setup, queue, waiting, accepted, record, stock⟩
      -- The step may have taken the first event; the gate hands over as many.
      have works :
          gate.course.work operations =
            { gate.course with
              dispatcher := { later with worker := some next }
              state := after } := by
        simp only [Course.work, isWorker, works]
      have whole (count : Nat) :
          gate.taken ++ gate.queued.take count ++ gate.queued.drop count =
            gate.taken ++ gate.queued := by
        rw [List.append_assoc, List.take_append_drop]
      rw [Gate.work, works]
      refine
        ⟨next, rfl, (setup.trans stepped.sameFrame.toSameSetup).withWorkers _ _,
          ?_, waiting.trans stillWaits.symm, ?_, record.congr ?_ stepped.losses,
          stock.drop _⟩
      · rw [shorter, length, ← queue, List.map_drop]
        rfl
      · rw [whole]
        exact accepted
      · rw [whole]

/-- A step of a started dispatcher. -/
theorem Keeps.move
    (keeps : Keeps idle base worker gate)
    (move : Move σ) :
    ∃ next, Keeps idle base next (gate.move operations move) := by
  have mapped (change : Worker → Worker)
      (sameQueue : ∀ worker, (change worker).queue = worker.queue)
      (sameWaiting : ∀ worker, (change worker).waiting = worker.waiting) :
      Keeps idle base (change worker)
        { gate with
          course :=
            { gate.course with
              dispatcher := gate.course.dispatcher.mapWorker change } } := by
    rcases keeps with ⟨isWorker, setup, queue, waiting, accepted, record, stock⟩
    refine
      ⟨?_, ⟨setup.name, setup.settings, setup.discardable, setup.appenders⟩,
        queue.trans (sameQueue worker).symm, waiting.trans (sameWaiting worker).symm,
        accepted, record, stock⟩
    rw [mapWorker, isWorker]
    rfl
  cases move with
  | offer event => exact keeps.offer event
  | pause => exact ⟨_, mapped _ (fun _ => rfl) (fun _ => rfl)⟩
  | resume => exact ⟨_, mapped _ (fun _ => rfl) (fun _ => rfl)⟩
  | letIn place => exact keeps.letIn place
  | work => exact keeps.work
  | stir change =>
      rcases keeps with ⟨isWorker, setup, queue, waiting, accepted, record, stock⟩
      exact ⟨worker, isWorker, setup, queue, waiting, accepted, record, stock⟩

theorem Keeps.moves
    (keeps : Keeps idle base worker gate)
    (moves : List (Move σ)) :
    ∃ next, Keeps idle base next (gate.moves operations moves) := by
  rw [Gate.moves]
  induction moves generalizing worker gate with
  | nil => exact ⟨worker, keeps⟩
  | cons move rest ih =>
      rcases keeps.move move with ⟨next, moved⟩
      exact ih moved

/-- A dispatcher that was just started has nothing in its queue. -/
theorem keeps_of_start
    {before : σ}
    (rests : idle.isStarted = false)
    (started : (idle.start operations before).1 = .done ()) :
    Keeps idle (idle.start operations before).2.1.metrics .idle
      (.of (idle.start operations before).2.1
        (idle.start operations before).2.2) :=
  ⟨(start_done rests started).1, Dispatcher.start_sameSetup operations idle before,
    rfl, rfl, rfl, .nil idle _, .nil idle⟩

end Keeps

/-! ## What shedding spares -/

/--
What has become of the events that were offered to a dispatcher in the course
of some moves, after it was started from `idle` with the counters `base`.
-/
structure Spares
    (idle : Dispatcher α)
    (base : Metrics)
    (moves : List (Move σ))
    (gate : Gate σ α) : Prop where
  recorded : gate.offers.map Offer.event = moves.flatMap Move.offers
  discarded_iff :
    ∀ offer ∈ gate.offers,
      offer.reception = .discarded ↔
        idle.discardable offer.event = true ∧
          idle.settings.queueSize - offer.queued < idle.settings.threshold
  dropped_iff :
    ∀ offer ∈ gate.offers,
      offer.reception = .dropped ↔
        offer.reception ≠ .discarded ∧
          offer.queued = idle.settings.queueSize ∧
          idle.settings.neverBlock = true
  spared :
    ∀ offer ∈ gate.offers,
      idle.discardable offer.event = false →
        offer.reception ≠ .discarded ∧
          (offer.reception.keeps = false →
            idle.settings.neverBlock = true ∧
              offer.queued = idle.settings.queueSize)
  never :
    idle.settings.threshold = 0 →
      ∀ offer ∈ gate.offers, offer.reception ≠ .discarded
  /-- Whatever was kept was taken by the worker, or it is in the queue or waits. -/
  kept :
    List.Perm (gate.taken ++ gate.queued ++ gate.parked)
      ((gate.offers.filter fun offer => offer.reception.keeps).map Offer.event)
  accepted :
    (gate.taken ++ gate.queued).map (prepare idle.settings) = gate.course.accepted
  counted :
    gate.course.dispatcher.metrics.discarded =
        base.discarded +
          gate.offers.countP (fun offer => offer.reception = .discarded) ∧
      gate.course.dispatcher.metrics.dropped =
        base.dropped + gate.offers.countP fun offer => offer.reception = .dropped
  /-- The gate tells what is in the queue of the worker, and what waits for it. -/
  held :
    ∃ worker,
      gate.course.dispatcher.worker = some worker ∧
        gate.queued.map (prepare idle.settings) = worker.queue ∧
        gate.parked.map (prepare idle.settings) = worker.waiting ∧
        worker.queue.length ≤ idle.settings.queueSize
  bound :
    gate.queued.countP idle.discardable ≤
      idle.settings.queueSize + 1 - idle.settings.threshold
  /-- The same of the queue itself, if it does not matter where an event was logged. -/
  bound_queue :
    (∀ event,
        idle.discardable (prepare idle.settings event) = idle.discardable event) →
      ∀ worker ∈ gate.course.dispatcher.worker,
        worker.queue.countP idle.discardable ≤
          idle.settings.queueSize + 1 - idle.settings.threshold

/-- What is kept at every step is all that shedding is to spare. -/
theorem Keeps.spares
    {idle : Dispatcher α}
    {base : Metrics}
    {worker : Worker}
    {moves : List (Move σ)}
    {gate : Gate σ α}
    (keeps : Keeps idle base worker gate)
    (recorded : gate.offers.map Offer.event = moves.flatMap Move.offers) :
    Spares idle base moves gate := by
  have length := keeps.length_queue
  rcases keeps with ⟨isWorker, setup, queue, waiting, accepted, record, stock⟩
  have discarded_iff (offer : Offer) (member : offer ∈ gate.offers) :
      offer.reception = .discarded ↔
        idle.discardable offer.event = true ∧
          idle.settings.queueSize - offer.queued < idle.settings.threshold := by
    rw [(record.judged offer member).2]
    exact verdict_eq_discarded_iff ..
  have dropped_iff (offer : Offer) (member : offer ∈ gate.offers) :
      offer.reception = .dropped ↔
        offer.reception ≠ .discarded ∧
          offer.queued = idle.settings.queueSize ∧
          idle.settings.neverBlock = true := by
    rcases record.judged offer member with ⟨most, judged⟩
    rw [judged, verdict_eq_dropped_iff, most.ge_iff_eq]
  refine
    ⟨recorded, discarded_iff, dropped_iff, ?_, ?_, record.kept, accepted,
      ⟨record.discarded, record.dropped⟩, ?_, stock.bound, ?_⟩
  · intro offer member firm
    have stays : offer.reception ≠ .discarded := by
      intro discarded
      rw [((discarded_iff offer member).mp discarded).1] at firm
      cases firm
    refine ⟨stays, fun lost => ?_⟩
    -- Of the ends that keep nothing only this one is left.
    have isDropped : offer.reception = .dropped := by
      have judged := (record.judged offer member).2
      cases ends : offer.reception with
      | refused =>
          rw [ends] at judged
          exact (verdict_ne_refused _ _ _ judged.symm).elim
      | discarded => exact absurd ends stays
      | dropped => rfl
      | enqueued =>
          rw [ends] at lost
          cases lost
      | waiting =>
          rw [ends] at lost
          cases lost
    rcases (dropped_iff offer member).mp isDropped with ⟨_, full, neverBlock⟩
    exact ⟨neverBlock, full⟩
  · intro noThreshold offer member discarded
    have few := ((discarded_iff offer member).mp discarded).2
    omega
  · exact ⟨worker, isWorker, queue, waiting, length.trans_le stock.fits⟩
  · intro placeless other isOther
    obtain rfl := Option.some.inj (isWorker.symm.trans isOther)
    have same : idle.discardable ∘ prepare idle.settings = idle.discardable :=
      funext placeless
    rw [← queue, List.countP_map, same]
    exact stock.bound

/-- A dispatcher is started, and then things happen to it. -/
def watch
    (operations : Operations σ α)
    (idle : Dispatcher α)
    (before : σ)
    (moves : List (Move σ)) :
    Gate σ α :=
  (Gate.of (idle.start operations before).2.1
    (idle.start operations before).2.2).moves operations moves

/--
A started dispatcher sheds an event exactly if it may be shed and fewer places
are free than the threshold says.  So whatever happens after a start, an event
that may not be shed is lost only if nobody is to wait and the queue is full,
the events that may be shed fill no more than their part of the queue, and
without a threshold nothing is shed.
-/
theorem shedding_spares (operations : Operations σ α) :
    (∀ (dispatcher : Dispatcher α) (event : Event) (state : σ),
        dispatcher.isStarted = true →
          ((dispatcher.offer operations event state).1 = .discarded ↔
            dispatcher.discardable event = true ∧
              dispatcher.free < dispatcher.settings.threshold)) ∧
      ∀ (idle : Dispatcher α) (before : σ) (moves : List (Move σ)),
        idle.isStarted = false →
          (idle.start operations before).1 = .done () →
            (watch operations idle before moves).course =
                Course.service operations idle before moves ∧
              Spares idle (idle.start operations before).2.1.metrics moves
                (watch operations idle before moves) := by
  constructor
  · intro dispatcher event state isStarted
    rcases Option.isSome_iff_exists.mp isStarted with ⟨worker, isWorker⟩
    have isFree :
        dispatcher.free = dispatcher.settings.queueSize - worker.queue.length := by
      rw [Dispatcher.free, isWorker]
      rfl
    rw [offer_fst isWorker, isFree]
    exact verdict_eq_discarded_iff ..
  · intro idle before moves rests started
    obtain ⟨worker, keeps⟩ := (keeps_of_start rests started).moves moves
    refine ⟨course_moves .., keeps.spares ?_⟩
    rw [event_offers_moves]
    rfl

/--
A queue with four places and the threshold two, whose worker is paused.  Three
of four events that may be shed come in and fill their part of the queue.  Of
two events that may not be shed one takes the last place and one is dropped.
Then one more that may be shed would be shed again.
-/
theorem shedding_spares_warnings :
    let settings : DispatcherSettings := ⟨4, some 2, true, 0, false⟩
    let idle := Dispatcher.create "ASYNC" settings discardableByDefault [()]
    let event := fun level => Event.plain ⟨0, 0⟩ level "app" "text"
    let moves : List (Move Bool) :=
      [.pause, .offer (event .info), .offer (event .info), .offer (event .info),
        .offer (event .info), .offer (event .warn), .offer (event .warn)]
    let gate := watch Course.unreliable idle false moves
    Spares idle (idle.start Course.unreliable false).2.1.metrics moves gate ∧
      gate.offers.map Offer.reception =
        [.enqueued, .enqueued, .enqueued, .discarded, .enqueued, .dropped] ∧
      gate.queued.countP idle.discardable = 3 ∧
      (∀ worker ∈ gate.course.dispatcher.worker,
        worker.queue.countP idle.discardable ≤ 3) ∧
      (gate.course.dispatcher.offer Course.unreliable (event .info)
          gate.course.state).1 =
        .discarded := by
  intro settings idle event moves gate
  have rests : idle.isStarted = false := rfl
  have started : (idle.start Course.unreliable false).1 = .done () := by
    decide +kernel
  have spares :
      Spares idle (idle.start Course.unreliable false).2.1.metrics moves gate :=
    ((shedding_spares Course.unreliable).2 idle false moves rests started).2
  refine ⟨spares, ?_, ?_, ?_, ?_⟩
  · decide +kernel
  · decide +kernel
  · have bound :
        idle.settings.queueSize + 1 - idle.settings.threshold = 3 := by
      decide
    have few := spares.bound_queue fun event => rfl
    rw [bound] at few
    exact few
  · have runs : gate.course.dispatcher.isStarted = true := by
      decide +kernel
    have sheds :
        gate.course.dispatcher.discardable (event .info) = true ∧
          gate.course.dispatcher.free <
            gate.course.dispatcher.settings.threshold := by
      decide +kernel
    exact
      ((shedding_spares Course.unreliable).1 gate.course.dispatcher (event .info)
        gate.course.state runs).mpr sheds

end Gate

end LogPipeline
