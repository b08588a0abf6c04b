import LogPipeline.Proofs.Dispatcher.Register

/-!
# What it takes to be delivered

An event is counted as delivered if no appender failed when it had its turn.
That is not to say that all of them took it: those that are not started are
passed over, and an appender that is attached to a running dispatcher is not
started.
-/

namespace LogPipeline

variable {σ α : Type}

/-! ## Events that are taken -/

/-- Each attached appender was given the event, one after the other, and took it. -/
def Handover.TakenByAll (handover : Handover σ α) : Prop :=
  handover.turns.map (fun turn => (turn.appender, turn.outcome?)) =
    handover.attached.map fun appender => (appender, some (.done ()))

instance [DecidableEq α] (handover : Handover σ α) :
    Decidable handover.TakenByAll :=
  inferInstanceAs (Decidable (_ = _))

/-- Taking an event is to be given it and not to fail. -/
theorem Turn.outcome?_eq_done_iff
    {operations : Operations σ α}
    {origin : String}
    {event : Event}
    {turn : Turn σ α}
    (genuine : turn.Genuine operations origin event)
    (clean : turn.failed = false) :
    turn.outcome? = some (.done ()) ↔
      operations.isStarted turn.appender turn.before = .ok true := by
  rw [genuine.asked, wasGiven]
  rw [failed] at clean
  cases given : turn.outcome? with
  | none => simp
  | some outcome =>
      rw [given] at clean
      cases outcome with
      | done => simp
      | failed error => cases clean
      | panicked message => cases clean

theorem Handover.Whole.delivered_iff
    {operations : Operations σ α}
    {origin : String}
    {handover : Handover σ α}
    (whole : handover.Whole operations origin) :
    handover.delivered = true ↔ ∀ turn ∈ handover.turns, turn.failed = false := by
  rw [whole.clean, Bool.not_eq_true', List.any_eq_false]
  simp only [Bool.not_eq_true]

/-- An event that is counted as delivered was taken by those that were started. -/
theorem Handover.Whole.takenByAll_iff
    {operations : Operations σ α}
    {origin : String}
    {handover : Handover σ α}
    (whole : handover.Whole operations origin)
    (delivered : handover.delivered = true) :
    handover.TakenByAll ↔
      ∀ turn ∈ handover.turns,
        operations.isStarted turn.appender turn.before = .ok true := by
  have clean := whole.delivered_iff.mp delivered
  rw [TakenByAll, ← whole.everyone, List.map_map, List.map_inj_left]
  apply forall₂_congr
  intro turn member
  rw [← Turn.outcome?_eq_done_iff (whole.genuine turn member) (clean turn member)]
  simp

/-! ## Everything that can happen -/

/-- A course of a dispatcher with a register of its deliveries. -/
structure Watch (σ α : Type) where
  course : Course σ α
  register : Register σ α

namespace Watch

open Dispatcher

def create
    (name : String)
    (settings : DispatcherSettings)
    (discardable : Event → Bool)
    (appenders : List α)
    (state : σ) :
    Watch σ α :=
  ⟨.of (.create name settings discardable appenders) state, .empty⟩

variable (operations : Operations σ α)

/-- The register after an action. -/
def note (watch : Watch σ α) : Action σ → Register σ α
  | .move .work =>
      match watch.course.dispatcher.worker with
      | none => watch.register
      | some worker =>
          watch.register.work operations false watch.course.dispatcher worker
            watch.course.state
  | .workPrevious =>
      match watch.course.dispatcher.previous with
      | none => watch.register
      | some worker =>
          watch.register.work operations true watch.course.dispatcher worker
            watch.course.state
  | .stop turns =>
      match watch.course.dispatcher.worker with
      | none => watch.register
      | some worker =>
          watch.register.run operations true turns watch.course.dispatcher.release
            worker (watch.course.dispatcher.announceStop operations watch.course.state)
  | .start =>
      if watch.course.dispatcher.isStarted ||
          watch.course.dispatcher.settings.queueSize < 1 then
        watch.register
      else
        match watch.course.dispatcher.previous with
        | none => watch.register
        | some worker =>
            -- A start that waits in vain does not come to an end.
            if
              (watch.course.dispatcher.awaitPrevious operations
                watch.course.state).1.previous.all Worker.isBroken then
              watch.register.run operations true worker.turns watch.course.dispatcher
                worker
                (watch.course.dispatcher.announceAwait operations watch.course.state)
            else
              watch.register
  | _ => watch.register

/--
Something happens.  While an event is on its way nobody is attached or detached;
who wants to do that waits, and it happens later.
-/
def occur (watch : Watch σ α) : Occurrence σ α → Watch σ α
  | .action action => ⟨watch.course.act operations action, watch.note operations action⟩
  | .attach appender =>
      if watch.course.dispatcher.isDelivering then
        watch
      else
        { watch with
          course :=
            { watch.course with
              dispatcher := watch.course.dispatcher.attach appender } }
  | .detach name =>
      if watch.course.dispatcher.isDelivering then
        watch
      else
        match watch.course.dispatcher.detach? operations name watch.course.state with
        | none => watch
        | some (_, dispatcher) =>
            { watch with course := { watch.course with dispatcher } }
  | .resetMetrics =>
      { course :=
          { watch.course with dispatcher := watch.course.dispatcher.resetMetrics }
        register := { watch.register with handovers := [] } }

/-- Everything that happens, one thing after the other. -/
def live (watch : Watch σ α) (occurrences : List (Occurrence σ α)) : Watch σ α :=
  occurrences.foldl (occur operations) watch

variable {operations} {name : String} {watch : Watch σ α}

/-- The register keeps up with the dispatcher. -/
def Sound (operations : Operations σ α) (name : String) (watch : Watch σ α) : Prop :=
  watch.register.KeepsUp operations name watch.course.dispatcher

theorem Sound.start (sound : watch.Sound operations name) :
    (watch.occur operations (.action .start)).Sound operations name := by
  simp only [Sound, occur, note, Course.act, Course.start]
  by_cases refused :
      (watch.course.dispatcher.isStarted ||
        watch.course.dispatcher.settings.queueSize < 1) = true
  · rw [if_pos refused, if_pos refused, start_refused refused]
    exact sound
  · rw [if_neg refused, if_neg refused]
    cases isPrevious : watch.course.dispatcher.previous with
    | none =>
        exact
          Register.KeepsUp.start_of_none sound refused isPrevious watch.course.state
    | some worker =>
        have started :=
          Register.KeepsUp.start sound refused isPrevious watch.course.state
        dsimp only
        cases
            (watch.course.dispatcher.awaitPrevious operations
              watch.course.state).1.previous with
        | none => exact started
        | some left =>
            dsimp only
            rw [Option.all_some]
            by_cases broken : left.isBroken = true
            · rw [if_pos broken, if_pos broken]
              exact started
            · rw [if_neg broken, if_neg broken]
              exact sound

theorem Sound.work (sound : watch.Sound operations name) :
    (watch.occur operations (.action (.move .work))).Sound operations name := by
  simp only [Sound, occur, note, Course.act, Course.move, Course.work]
  cases isWorker : watch.course.dispatcher.worker with
  | none => exact sound
  | some worker =>
      dsimp only
      cases works :
          watch.course.dispatcher.workStep operations false worker
            watch.course.state with
      | none =>
          rw [Register.work_of_none works]
          exact sound
      | some result => exact Register.KeepsUp.work sound isWorker works

theorem Sound.workPrevious (sound : watch.Sound operations name) :
    (watch.occur operations (.action .workPrevious)).Sound operations name := by
  simp only [Sound, occur, note, Course.act, Course.workPrevious]
  cases isPrevious : watch.course.dispatcher.previous with
  | none => exact sound
  | some worker =>
      dsimp only
      cases works :
          watch.course.dispatcher.workStep operations true worker
            watch.course.state with
      | none =>
          rw [Register.work_of_none works]
          exact sound
      | some result => exact Register.KeepsUp.workPrevious sound isPrevious works

theorem Sound.stop
    (sound : watch.Sound operations name)
    (turns : List Nat) :
    (watch.occur operations (.action (.stop turns))).Sound operations name := by
  simp only [Sound, occur, note, Course.act]
  cases isWorker : watch.course.dispatcher.worker with
  | none =>
      rw [Course.stop_of_none isWorker]
      exact sound
  | some worker => exact Register.KeepsUp.stop sound isWorker turns

theorem Sound.act
    (sound : watch.Sound operations name)
    (action : Action σ) :
    (watch.occur operations (.action action)).Sound operations name := by
  cases action with
  | move move =>
      cases move with
      | offer event => exact Register.KeepsUp.offer sound event watch.course.state
      | pause => exact Register.KeepsUp.mapWorker sound fun _ => rfl
      | resume => exact Register.KeepsUp.mapWorker sound fun _ => rfl
      | letIn place => exact Register.KeepsUp.letIn sound place
      | work => exact sound.work
      | stir change => exact sound
  | start => exact sound.start
  | stop turns => exact sound.stop turns
  | letInPrevious place => exact Register.KeepsUp.letInPrevious sound place
  | workPrevious => exact sound.workPrevious

theorem Sound.occur
    (sound : watch.Sound operations name)
    (occurrence : Occurrence σ α) :
    (watch.occur operations occurrence).Sound operations name := by
  cases occurrence with
  | action action => exact sound.act action
  | attach appender =>
      rw [Watch.occur]
      by_cases waits : watch.course.dispatcher.isDelivering = true
      · rw [if_pos waits]
        exact sound
      · rw [if_neg waits]
        exact Register.KeepsUp.replaceRoster sound waits _
  | detach called =>
      rw [Watch.occur, detach?]
      by_cases waits : watch.course.dispatcher.isDelivering = true
      · rw [if_pos waits]
        exact sound
      · rw [if_neg waits]
        cases
            watch.course.dispatcher.roster.detach? operations called
              watch.course.state with
        | none => exact sound
        | some found => exact Register.KeepsUp.replaceRoster sound waits _
  | resetMetrics => exact Register.KeepsUp.resetMetrics sound

theorem Sound.live
    (sound : watch.Sound operations name)
    (occurrences : List (Occurrence σ α)) :
    (watch.live operations occurrences).Sound operations name := by
  rw [Watch.live]
  induction occurrences generalizing watch with
  | nil => exact sound
  | cons occurrence rest ih => exact ih (sound.occur occurrence)

theorem sound_create
    (operations : Operations σ α)
    (name : String)
    (settings : DispatcherSettings)
    (discardable : Event → Bool)
    (appenders : List α)
    (state : σ) :
    (create name settings discardable appenders state).Sound operations name := by
  refine ⟨rfl, fun _ => rfl, rfl, rfl, ?_, ?_⟩
  · intro handover member
    cases member
  · intro delivery isUnderWay
    cases isUnderWay

/-- What the counters say of the deliveries that came to their end. -/
structure Truthful (operations : Operations σ α) (name : String) (watch : Watch σ α) :
    Prop where
  delivered :
    watch.course.dispatcher.metrics.delivered =
      watch.register.handovers.countP Handover.delivered
  failed :
    watch.course.dispatcher.metrics.failed =
      watch.register.handovers.countP fun handover => !handover.delivered
  /-- What is noted next of a delivery is what it does to the appenders. -/
  onward :
    ∀ delivery : Delivery,
      Turn.Line operations delivery.event
        (Roster.turns operations name delivery.event
          (watch.course.dispatcher.roster.members.drop delivery.reached)
          watch.course.state)
        watch.course.state
        (watch.course.dispatcher.roster.deliver operations name delivery
          watch.course.state).2.2
  /-- Each attached appender had its turn once. -/
  everyone :
    ∀ handover ∈ watch.register.handovers,
      handover.turns.map Turn.appender = handover.attached
  genuine :
    ∀ handover ∈ watch.register.handovers, ∀ turn ∈ handover.turns,
      turn.Genuine operations name handover.event
  /-- An event is counted as delivered if no appender failed. -/
  delivered_iff :
    ∀ handover ∈ watch.register.handovers,
      handover.delivered = true ↔ ∀ turn ∈ handover.turns, turn.failed = false
  /-- All appenders took it if besides all were started when it was their turn. -/
  takenByAll_iff :
    ∀ handover ∈ watch.register.handovers,
      handover.delivered = true →
        (handover.TakenByAll ↔
          ∀ turn ∈ handover.turns,
            operations.isStarted turn.appender turn.before = .ok true)

/--
Whatever happens to a dispatcher: an event that is counted as delivered was
taken by each attached appender that was started when it was its turn, and by
all of them exactly if all were started.
-/
theorem truthful_live
    (operations : Operations σ α)
    (name : String)
    (settings : DispatcherSettings)
    (discardable : Event → Bool)
    (appenders : List α)
    (before : σ)
    (occurrences : List (Occurrence σ α)) :
    ((create name settings discardable appenders before).live operations
      occurrences).Truthful operations name := by
  have created := sound_create operations name settings discardable appenders before
  have keeps := created.live occurrences
  have whole :
      ∀ handover ∈
          ((create name settings discardable appenders before).live operations
            occurrences).register.handovers,
        handover.Whole operations name := by
    have told := keeps.tells.whole
    rwa [keeps.name] at told
  constructor
  · exact keeps.tells.delivered
  · exact keeps.tells.failed
  · intro delivery
    exact Roster.line_serve operations name delivery _ _
  · intro handover member
    exact (whole handover member).everyone
  · intro handover member
    exact (whole handover member).genuine
  · intro handover member
    exact (whole handover member).delivered_iff
  · intro handover member delivered
    exact (whole handover member).takenByAll_iff delivered

/-- Appenders that take everything; the state tells which of them are started. -/
def willing : Operations (List Nat) Nat where
  name appender _ := toString appender
  isStarted appender started := .ok (started.contains appender)
  append _ _ started := (.done (), started)
  flush _ started := (.done (), started)
  start appender started := (.ok (), appender :: started)
  stop appender started := (.ok (), started.erase appender)
  blocks _ _ := false
  report _ started := started

/-- An event is counted as delivered that an appender never got which came later. -/
theorem not_takenByAll_latecomer :
    let event := Event.plain ⟨0, 0⟩ .warn "app" "message"
    let occurrences : List (Occurrence (List Nat) Nat) :=
      [.action .start, .attach 2, .action (.move (.offer event)),
        .action (.move .work), .action (.move .work)]
    let watch :=
      (create "ASYNC" .standard (fun _ => false) [1] []).live willing occurrences
    watch.course.dispatcher.metrics.delivered = 1 ∧
      watch.course.dispatcher.roster.appenders = [1, 2] ∧
      ¬ ∀ handover ∈ watch.register.handovers,
        handover.delivered = true → handover.TakenByAll := by
  intro event occurrences watch
  refine ⟨by decide +kernel, by decide +kernel, by decide +kernel⟩

end Watch

end LogPipeline
