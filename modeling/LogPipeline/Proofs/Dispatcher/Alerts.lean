import LogPipeline.Proofs.Dispatcher.Lifecycle
import LogPipeline.Proofs.Dispatcher.Mirror
import LogPipeline.Proofs.Dispatcher.Shedding

/-!
# Alerts about lost events

An alert is given when the first event is lost and then at every thousandth one,
however the events were lost, and each alert comes with a warning among the
reports.  Nothing else that a dispatcher does gives an alert or reports such a
warning.  So after any course of events the alerts and the warnings are those
that the number of lost events calls for.
-/

namespace LogPipeline

variable {σ α : Type}

namespace Dispatcher

/-! ## The numbers at which an alert is due -/

/-- An alert is due when so many events are lost. -/
def IsDue (lost : Nat) : Prop :=
  lost = 1 ∨ lost % 1000 = 0

instance : DecidablePred IsDue :=
  fun lost => inferInstanceAs (Decidable (lost = 1 ∨ lost % 1000 = 0))

/-- The numbers at which an alert is due while the number of lost events grows. -/
def due (before after : Nat) : List Nat :=
  (List.range' (before + 1) (after - before)).filter IsDue

@[simp]
theorem due_self (lost : Nat) : due lost lost = [] := by
  simp [due]

theorem due_succ (lost : Nat) :
    due lost (lost + 1) = if IsDue (lost + 1) then [lost + 1] else [] := by
  by_cases isDue : IsDue (lost + 1) <;> simp [due, isDue]

theorem due_append_due
    {first second third : Nat}
    (front : first ≤ second)
    (back : second ≤ third) :
    due first second ++ due second third = due first third := by
  have split :
      List.range' (first + 1) (second - first) ++
          List.range' (second + 1) (third - second) =
        List.range' (first + 1) (third - first) := by
    have start : second + 1 = first + 1 + (second - first) := by
      omega
    have length : third - first = second - first + (third - second) := by
      omega
    rw [start, length, List.range'_append_1]
  simp only [due, ← List.filter_append, split]

/--
The first lost event and every thousandth one, as long as no more events than
that are lost.
-/
def milestones (lost : Nat) : List Nat :=
  if lost = 0 then
    []
  else
    1 :: (List.range (lost / 1000)).map fun past => 1000 * (past + 1)

theorem milestones_succ (lost : Nat) :
    milestones (lost + 1) =
      milestones lost ++ if IsDue (lost + 1) then [lost + 1] else [] := by
  cases lost with
  | zero => decide
  | succ before =>
      have quotient : (before + 1 + 1) / 1000 = _ := Nat.succ_div
      simp only [milestones, Nat.succ_ne_zero, if_false, quotient]
      by_cases round : 1000 ∣ before + 1 + 1
      · have isDue : IsDue (before + 1 + 1) :=
          Or.inr (Nat.mod_eq_zero_of_dvd round)
        have next : 1000 * ((before + 1) / 1000 + 1) = before + 1 + 1 := by
          rw [← Nat.mul_div_cancel' round, quotient, if_pos round]
        simp [round, isDue, List.range_succ, next]
      · have notDue : ¬ IsDue (before + 1 + 1) := by
          rintro (first | isRound)
          · omega
          · exact round (Nat.dvd_of_mod_eq_zero isRound)
        simp [round, notDue]

theorem due_zero (lost : Nat) : due 0 lost = milestones lost := by
  induction lost with
  | zero => rfl
  | succ lost ih =>
      rw [← due_append_due (Nat.zero_le lost) (Nat.le_succ lost), ih, due_succ,
        milestones_succ]

/-- An alert is never given twice for the same number. -/
theorem pairwise_milestones (lost : Nat) : (milestones lost).Pairwise (· < ·) := by
  rw [← due_zero]
  exact List.Pairwise.filter _ List.pairwise_lt_range'

end Dispatcher

/-! ## Reports -/

/-- The state of appenders with all that was reported while they were used. -/
structure Reported (σ : Type) where
  state : σ
  /-- The reports, the first one first. -/
  reports : List Status

namespace Reported

/-- Nothing was reported yet. -/
def begin (state : σ) : Reported σ :=
  ⟨state, []⟩

/-- The appenders come into another state. -/
def enter (heard : Reported σ) (state : σ) : Reported σ :=
  { heard with state }

end Reported

/-- The operations of appenders where it is kept what is reported. -/
def Operations.reported (operations : Operations σ α) : Operations (Reported σ) α where
  name appender heard := operations.name appender heard.state
  isStarted appender heard := operations.isStarted appender heard.state
  append appender event heard :=
    let (outcome, state) := operations.append appender event heard.state
    (outcome, heard.enter state)
  flush appender heard :=
    let (outcome, state) := operations.flush appender heard.state
    (outcome, heard.enter state)
  start appender heard :=
    let (outcome, state) := operations.start appender heard.state
    (outcome, heard.enter state)
  stop appender heard :=
    let (outcome, state) := operations.stop appender heard.state
    (outcome, heard.enter state)
  blocks appender heard := operations.blocks appender heard.state
  report status heard :=
    ⟨operations.report status heard.state, heard.reports ++ [status]⟩

theorem Operations.mirrors_reported (operations : Operations σ α) :
    operations.reported.Mirrors Reported.state operations where
  name _ _ := rfl
  isStarted _ _ := rfl
  append _ _ _ := rfl
  flush _ _ := rfl
  start _ _ := rfl
  stop _ _ := rfl
  blocks _ _ := rfl
  report _ _ := rfl

/-! ## Warnings about lost events -/

namespace Status

/-- How every warning about lost events begins. -/
def lossOpening : List Char := "Queue of [".toList

/-- Whether a status is a warning about lost events. -/
def tellsOfLoss (status : Status) : Bool :=
  status.level = .warn && lossOpening.isPrefixOf status.message.toList

/-- The warning that so many events are lost. -/
def ofLoss (name : String) (lost : Nat) : Status :=
  .warn name
    ("Queue of [" ++ name ++ "] is full, " ++ toString lost ++ " events lost so far.")

@[simp]
theorem tellsOfLoss_info (origin message : String) :
    (info origin message).tellsOfLoss = false :=
  rfl

@[simp]
theorem tellsOfLoss_error (origin message : String) :
    (error origin message).tellsOfLoss = false :=
  rfl

/-- How a message begins decides whether it is about lost events. -/
theorem tellsOfLoss_warn_append (origin opening rest : String) :
    (warn origin (opening ++ rest)).tellsOfLoss =
      lossOpening.isPrefixOf (opening.toList ++ rest.toList) := by
  rw [← String.toList_append]
  rfl

@[simp]
theorem tellsOfLoss_ofLoss (name : String) (lost : Nat) :
    (ofLoss name lost).tellsOfLoss = true := by
  unfold ofLoss
  simp only [String.append_assoc, tellsOfLoss_warn_append]
  exact List.isPrefixOf_iff_prefix.mpr (List.prefix_append _ _)

@[simp]
theorem tellsOfLoss_idle (origin name : String) :
    (warn origin (Member.idleMessage name)).tellsOfLoss = false := by
  unfold Member.idleMessage
  rw [String.append_assoc, tellsOfLoss_warn_append]
  rfl

@[simp]
theorem tellsOfLoss_timeout (origin : String) (settings : DispatcherSettings) (left : Nat) :
    (warn origin (Dispatcher.timeoutMessage settings left)).tellsOfLoss = false := by
  unfold Dispatcher.timeoutMessage
  simp only [String.append_assoc, tellsOfLoss_warn_append]
  rfl

@[simp]
theorem tellsOfLoss_running (origin name : String) :
    (warn origin (Dispatcher.runningMessage name)).tellsOfLoss = false := by
  unfold Dispatcher.runningMessage
  rw [String.append_assoc, tellsOfLoss_warn_append]
  rfl

end Status

/-- The warnings about lost events among what was reported. -/
def Reported.warnings (heard : Reported σ) : List Status :=
  heard.reports.filter Status.tellsOfLoss

/-! ## What appenders do is no warning about lost events -/

variable (operations : Operations σ α) (origin : String) (heard : Reported σ)

@[simp]
theorem Reported.warnings_report (status : Status) :
    (operations.reported.report status heard).warnings =
      heard.warnings ++ if status.tellsOfLoss then [status] else [] := by
  simp [Operations.reported, warnings, List.filter_cons]

theorem Member.warnings_skip (member : Member α) :
    (member.skip operations.reported origin heard).2.warnings = heard.warnings := by
  unfold Member.skip
  split <;> simp

theorem Member.warnings_give (event : Event) (member : Member α) :
    (member.give operations.reported origin event heard).2.2.warnings =
      heard.warnings := by
  have given :
      (operations.reported.append member.appender event heard).2.warnings =
        heard.warnings :=
    rfl
  unfold Member.give
  dsimp only
  split
  · exact given
  · unfold noteFailure
    split <;> simp [given]

namespace Roster

theorem warnings_serve (delivery : Delivery) (members : List (Member α)) :
    (serve operations.reported origin delivery members heard).2.2.warnings =
      heard.warnings := by
  induction members generalizing delivery heard with
  | nil => rfl
  | cons member rest ih =>
      rw [serve]
      split
      · rfl
      · split
        · rfl
        · simp [ih, Member.warnings_give]
        · simp [ih, Member.warnings_skip]

theorem warnings_flushMember (member : Member α) :
    (flushMember operations.reported origin heard member).warnings = heard.warnings := by
  have flushed :
      (operations.reported.flush member.appender heard).2.warnings = heard.warnings :=
    rfl
  unfold flushMember
  dsimp only
  split <;> simp [flushed]

theorem warnings_stopMember (member : Member α) :
    (stopMember operations.reported origin heard member).warnings = heard.warnings := by
  have stopped :
      (operations.reported.stop member.appender heard).2.warnings = heard.warnings :=
    rfl
  unfold stopMember
  generalize operations.reported.stop member.appender heard = result at stopped
  rcases result with ⟨outcome, after⟩
  cases outcome with
  | error message => simpa using stopped
  | ok => exact stopped

theorem warnings_stop (roster : Roster α) :
    (roster.stop operations.reported origin heard).warnings = heard.warnings := by
  have folded
      {close : Reported σ → Member α → Reported σ}
      (silent : ∀ heard member, (close heard member).warnings = heard.warnings)
      (heard : Reported σ) :
      (roster.members.foldl close heard).warnings = heard.warnings := by
    induction roster.members generalizing heard with
    | nil => rfl
    | cons member rest ih => rw [List.foldl_cons, ih, silent]
  rw [stop, folded (warnings_stopMember operations origin), flush,
    folded (warnings_flushMember operations origin)]

theorem warnings_start (roster : Roster α) :
    (roster.start operations.reported heard).2.2.warnings = heard.warnings := by
  have begun (appender : α) (heard : Reported σ) :
      (operations.reported.startIfNeeded appender heard).2.warnings =
        heard.warnings := by
    unfold Operations.startIfNeeded
    split <;> rfl
  have all (members : List (Member α)) :
      ∀ heard,
        (startMembers operations.reported members heard).2.2.warnings =
          heard.warnings := by
    induction members with
    | nil =>
        intro heard
        rfl
    | cons member rest ih =>
        intro heard
        have first := begun member.appender heard
        rw [startMembers]
        generalize operations.reported.startIfNeeded member.appender heard = result
          at first ⊢
        rcases result with ⟨outcome, after⟩
        cases outcome with
        | error message => exact first
        | ok => exact (ih after).trans first
  exact all roster.members heard

end Roster

namespace Dispatcher

/-! ## Alerts between two moments -/

/--
Between two moments the alerts were given that the lost events called for, and
as many warnings were reported.
-/
structure Alerted
    (before : Dispatcher α)
    (heard : Reported σ)
    (after : Dispatcher α)
    (later : Reported σ) : Prop where
  name : after.name = before.name
  lost : before.metrics.lost ≤ after.metrics.lost
  alerts :
    after.alerts = before.alerts ++ due before.metrics.lost after.metrics.lost
  warnings :
    later.warnings =
      heard.warnings ++
        (due before.metrics.lost after.metrics.lost).map (Status.ofLoss before.name)

variable {operations origin heard}
variable {before between after dispatcher later : Dispatcher α}
variable {known told : Reported σ}

/-- Nothing is due as long as nothing is lost. -/
theorem Alerted.of_lossless
    (name : after.name = before.name)
    (lost : after.metrics.lost = before.metrics.lost)
    (alerts : after.alerts = before.alerts)
    (warnings : told.warnings = heard.warnings) :
    Alerted before heard after told := by
  constructor <;> simp [name, lost, alerts, warnings]

theorem Alerted.refl (dispatcher : Dispatcher α) (heard : Reported σ) :
    Alerted dispatcher heard dispatcher heard :=
  .of_lossless rfl rfl rfl rfl

theorem Alerted.trans
    (front : Alerted before heard between known)
    (back : Alerted between known after told) :
    Alerted before heard after told := by
  have dues := due_append_due front.lost back.lost
  constructor
  · exact back.name.trans front.name
  · exact front.lost.trans back.lost
  · rw [back.alerts, front.alerts, List.append_assoc, dues]
  · rw [back.warnings, front.warnings, front.name, List.append_assoc, ← List.map_append,
      dues]

/-- Whatever the reason of a loss, an alert is given if it is due now. -/
theorem alerted_lose
    (counter : Counter)
    (counts :
      (dispatcher.metrics.count counter).lost = dispatcher.metrics.lost + 1) :
    Alerted dispatcher heard (lose operations.reported counter dispatcher heard).1
      (lose operations.reported counter dispatcher heard).2 := by
  have lost : (dispatcher.count counter).metrics.lost = dispatcher.metrics.lost + 1 :=
    counts
  have alerts : (dispatcher.count counter).alerts = dispatcher.alerts :=
    rfl
  have due := due_succ dispatcher.metrics.lost
  unfold lose alertLoss alertInterval
  rw [lost]
  dsimp only
  by_cases isDue : IsDue (dispatcher.metrics.lost + 1)
  · have warning :
        Status.warn (dispatcher.count counter).name
            (lossMessage (dispatcher.count counter).name
              (dispatcher.metrics.lost + 1)) =
          Status.ofLoss dispatcher.name (dispatcher.metrics.lost + 1) :=
      rfl
    rw [if_pos isDue] at due
    rw [if_pos (show _ ∨ _ from isDue), warning]
    constructor
    · rfl
    · simp [lost]
    · simp [lost, alerts, due]
    · simp [lost, due]
  · rw [if_neg isDue] at due
    rw [if_neg (show ¬ (_ ∨ _) from isDue)]
    constructor
    · rfl
    · simp [lost]
    · simp [lost, alerts, due]
    · simp [lost, due]

/-- Offers are where events are lost, and alerts are given for no other reason. -/
theorem alerted_offer (event : Event) :
    Alerted dispatcher heard (dispatcher.offer operations.reported event heard).2.1
      (dispatcher.offer operations.reported event heard).2.2 := by
  have discarded :
      (dispatcher.metrics.count .discarded).lost = dispatcher.metrics.lost + 1 :=
    Nat.add_right_comm ..
  have dropped :
      (dispatcher.metrics.count .dropped).lost = dispatcher.metrics.lost + 1 :=
    rfl
  cases isWorker : dispatcher.worker with
  | none =>
      simp only [offer, isWorker, refuse]
      refine .of_lossless rfl rfl rfl ?_
      split <;> simp
  | some worker =>
      simp only [offer, isWorker, enqueue]
      split_ifs
      · exact alerted_lose .discarded discarded
      · exact .of_lossless rfl rfl rfl rfl
      · exact alerted_lose .dropped dropped
      · exact .of_lossless rfl rfl rfl rfl

/-! ## Steps of a worker -/

variable {leaving : Bool} {place : Nat} {worker : Worker} {left : Option Worker}
variable {accepted : List Event}

theorem WorkerStep.alerts_eq
    {state after : σ}
    (stepped :
      WorkerStep operations leaving place dispatcher worker state
        accepted later left after) :
    later.alerts = dispatcher.alerts := by
  cases stepped <;> rfl

theorem WorkerStep.warnings_eq
    (stepped :
      WorkerStep operations.reported leaving place dispatcher worker heard
        accepted later left told) :
    told.warnings = heard.warnings := by
  have silent
      {delivery : Delivery}
      {progress : Progress}
      {roster : Roster α}
      (delivered :
        dispatcher.roster.deliver operations.reported dispatcher.name delivery heard =
          (progress, roster, told)) :
      told.warnings = heard.warnings := by
    injection delivered with _ equal
    injection equal with _ isTold
    rw [← isTold]
    exact Roster.warnings_serve operations dispatcher.name heard delivery _
  cases stepped with
  | admitted => rfl
  | took => rfl
  | moved _ _ delivered => exact silent delivered
  | finished _ _ delivered => exact silent delivered
  | crashed _ _ delivered => exact silent delivered
  | left => exact Roster.warnings_stop operations dispatcher.name heard dispatcher.roster

theorem WorkerStep.alerted
    (stepped :
      WorkerStep operations.reported leaving place dispatcher worker heard
        accepted later left told) :
    Alerted dispatcher heard later told := by
  rcases stepped.losses with ⟨discarded, dropped⟩
  apply Alerted.of_lossless stepped.sameFrame.name ?_ stepped.alerts_eq
    stepped.warnings_eq
  rw [Metrics.lost, Metrics.lost, discarded, dropped]

theorem alerted_run
    (operations : Operations σ α)
    (leaving : Bool)
    (turns : List Nat)
    (dispatcher : Dispatcher α)
    (worker : Worker)
    (heard : Reported σ) :
    Alerted dispatcher heard
      (run operations.reported leaving turns dispatcher worker heard).1
      (run operations.reported leaving turns dispatcher worker heard).2.2 := by
  refine
    run_induction
      (motive := fun _ later _ told => Alerted dispatcher heard later told)
      ?_ turns [] (.refl dispatcher heard)
  intro _ _ _ _ _ _ _ _ _ front stepped
  exact front.trans stepped.alerted

/-! ## Stops and starts -/

theorem alerted_stopWithin
    (operations : Operations σ α)
    (turns : List Nat)
    (dispatcher : Dispatcher α)
    (heard : Reported σ) :
    Alerted dispatcher heard
      (stopWithin operations.reported turns dispatcher heard).2.1
      (stopWithin operations.reported turns dispatcher heard).2.2 := by
  have concluded
      (later : Dispatcher α)
      (left : Option Worker)
      (told : Reported σ) :
      Alerted later told (conclude operations.reported later left told).2.1
        (conclude operations.reported later left told).2.2 := by
    cases left with
    | none => exact .refl later told
    | some worker =>
        rw [conclude]
        cases worker.crash with
        | some message => exact .of_lossless rfl rfl rfl (by simp)
        | none => exact .of_lossless rfl rfl rfl (by simp)
  rw [stopWithin]
  cases dispatcher.worker with
  | none => exact .refl dispatcher heard
  | some worker =>
      have announced :
          Alerted dispatcher heard dispatcher.release
            (announceStop operations.reported dispatcher heard) :=
        .of_lossless rfl rfl rfl (by simp [announceStop])
      exact
        (announced.trans
          (alerted_run operations true turns dispatcher.release worker _)).trans
          (concluded _ _ _)

theorem alerted_reclaim
    (operations : Operations σ α)
    (dispatcher : Dispatcher α)
    (heard : Reported σ) :
    Alerted dispatcher heard (reclaim operations.reported dispatcher heard).1
      (reclaim operations.reported dispatcher heard).2 := by
  have announced :
      (announceAwait operations.reported dispatcher heard).warnings =
        heard.warnings := by
    unfold announceAwait
    split <;> simp
  have awaited :
      Alerted dispatcher heard (awaitPrevious operations.reported dispatcher heard).1
        (awaitPrevious operations.reported dispatcher heard).2 := by
    rw [awaitPrevious, advancePrevious]
    cases dispatcher.previous with
    | none => exact .of_lossless rfl rfl rfl announced
    | some worker =>
        have ran :=
          alerted_run operations true worker.turns dispatcher worker
            (announceAwait operations.reported dispatcher heard)
        have begun :
            Alerted dispatcher heard dispatcher
              (announceAwait operations.reported dispatcher heard) :=
          .of_lossless rfl rfl rfl announced
        exact (begun.trans ran).trans (.of_lossless rfl rfl rfl rfl)
  rw [reclaim]
  dsimp only
  split
  · exact awaited.trans (.of_lossless rfl rfl rfl (by simp))
  · exact awaited.trans (.of_lossless rfl rfl rfl rfl)

theorem alerted_launch
    (operations : Operations σ α)
    (dispatcher : Dispatcher α)
    (heard : Reported σ) :
    Alerted dispatcher heard (launch operations.reported dispatcher heard).2.1
      (launch operations.reported dispatcher heard).2.2 := by
  have begun := Roster.warnings_start operations heard dispatcher.roster
  rw [launch]
  split
  · exact .of_lossless rfl rfl rfl (by simp)
  · generalize dispatcher.roster.start operations.reported heard = result at begun ⊢
    rcases result with ⟨outcome, roster, told⟩
    cases outcome with
    | error message => exact .of_lossless rfl rfl rfl begun
    | ok =>
        have said (status : Status) (silent : status.tellsOfLoss = false) :
            (operations.reported.report status told).warnings = heard.warnings := by
          simpa [silent] using begun
        dsimp only
        split <;> exact .of_lossless rfl rfl rfl (said _ rfl)

theorem alerted_start
    (operations : Operations σ α)
    (dispatcher : Dispatcher α)
    (heard : Reported σ) :
    Alerted dispatcher heard (start operations.reported dispatcher heard).2.1
      (start operations.reported dispatcher heard).2.2 := by
  rw [start]
  split
  · exact .of_lossless rfl rfl rfl (by simp)
  · split
    · exact .of_lossless rfl rfl rfl (by simp)
    · exact
        (alerted_reclaim operations dispatcher heard).trans
          (alerted_launch operations _ _)

end Dispatcher

/-! ## Everything that can happen -/

open Dispatcher

namespace Action

/-- What happens, where it is kept what is reported. -/
def reported : Action σ → Action (Reported σ) :=
  watched fun change heard => heard.enter (change heard.state)

end Action

namespace Course

variable {operations : Operations σ α} {course later : Course (Reported σ) α}

/-- Between two moments of a course the alerts were given that were due. -/
def Alerted (before after : Course (Reported σ) α) : Prop :=
  Dispatcher.Alerted before.dispatcher before.state after.dispatcher after.state

theorem WorkerMove.alerted (moved : course.WorkerMove operations.reported later) :
    course.Alerted later := by
  cases moved with
  | rests => exact .refl _ _
  | step _ stepped => exact stepped.alerted.trans (.of_lossless rfl rfl rfl rfl)

theorem PreviousMove.alerted (moved : course.PreviousMove operations.reported later) :
    course.Alerted later := by
  cases moved with
  | rests => exact .refl _ _
  | step _ stepped => exact stepped.alerted.trans (.of_lossless rfl rfl rfl rfl)

theorem alerted_start
    (operations : Operations σ α)
    (course : Course (Reported σ) α) :
    course.Alerted (course.start operations.reported) := by
  have started := Dispatcher.alerted_start operations course.dispatcher course.state
  unfold start
  dsimp only
  split
  · exact started
  · cases course.dispatcher.previous with
    | none => exact started
    | some worker =>
        dsimp only
        cases
            (course.dispatcher.awaitPrevious operations.reported course.state).1.previous
            with
        | none => exact started
        | some left =>
            dsimp only
            split
            · exact started
            · exact .refl _ _

theorem alerted_stop
    (operations : Operations σ α)
    (turns : List Nat)
    (course : Course (Reported σ) α) :
    course.Alerted (course.stop operations.reported turns) := by
  rw [stop]
  cases course.dispatcher.worker with
  | none => exact .refl _ _
  | some worker =>
      exact alerted_stopWithin operations turns course.dispatcher course.state

theorem alerted_act
    (operations : Operations σ α)
    (course : Course (Reported σ) α)
    (action : Action σ) :
    course.Alerted (course.act operations.reported action.reported) := by
  cases action with
  | move move =>
      cases move with
      | offer event => exact alerted_offer event
      | pause => exact .of_lossless rfl rfl rfl rfl
      | resume => exact .of_lossless rfl rfl rfl rfl
      | letIn place => exact (course.workerMove_letIn operations.reported place).alerted
      | work => exact (course.workerMove_work operations.reported).alerted
      | stir change => exact .of_lossless rfl rfl rfl rfl
  | start => exact course.alerted_start operations
  | stop turns => exact alerted_stop operations turns course
  | letInPrevious place =>
      exact (course.previousMove_letInPrevious operations.reported place).alerted
  | workPrevious =>
      exact (course.previousMove_workPrevious operations.reported).alerted

end Course

namespace Occurrence

/-- What happens, where it is kept what is reported. -/
def reported : Occurrence σ α → Occurrence (Reported σ) α
  | .action act => .action act.reported
  | .attach appender => .attach appender
  | .detach name => .detach name
  | .resetMetrics => .resetMetrics

end Occurrence

namespace Lifetime

/-- A life where it is not known what was reported. -/
def unheard (life : Lifetime (Reported σ) α) : Lifetime σ α :=
  ⟨life.course.forgetting Reported.state, life.refusals⟩

theorem unheard_occur
    (operations : Operations σ α)
    (life : Lifetime (Reported σ) α)
    (occurrence : Occurrence σ α) :
    (life.occur operations.reported occurrence.reported).unheard =
      life.unheard.occur operations occurrence := by
  have mirrors := operations.mirrors_reported
  cases occurrence with
  | action action =>
      have acted :
          (life.course.act operations.reported action.reported).forgetting
              Reported.state =
            (life.course.forgetting Reported.state).act operations action :=
        Course.forgetting_act mirrors (fun _ _ => rfl) life.course action
      have recounted :
          life.recount operations.reported action.reported =
            life.unheard.recount operations action := by
        cases action with
        | move move =>
            cases move with
            | offer event =>
                have offered :=
                  offer_forget mirrors life.course.dispatcher event life.course.state
                simp only [Action.reported, Action.watched, Move.watched, recount, unheard,
                  Course.forgetting, offered]
            | pause | resume | letIn | work | stir => rfl
        | start =>
            have started := start_forget mirrors life.course.dispatcher life.course.state
            simp only [Action.reported, Action.watched, recount, unheard,
              Course.forgetting, started]
        | stop | letInPrevious | workPrevious => rfl
      exact congrArg₂ Lifetime.mk acted recounted
  | attach appender => rfl
  | detach name =>
      have found :=
        Roster.detach?_forget mirrors life.course.dispatcher.roster name life.course.state
      simp only [Occurrence.reported, occur, unheard, Course.forgetting, detach?, found]
      cases life.course.dispatcher.roster.detach? operations.reported name
          life.course.state with
      | none => rfl
      | some rest => rfl
  | resetMetrics => rfl

/-- What happens is the same whether the reports are kept or not. -/
theorem unheard_live
    (operations : Operations σ α)
    (life : Lifetime (Reported σ) α)
    (occurrences : List (Occurrence σ α)) :
    (life.live operations.reported (occurrences.map Occurrence.reported)).unheard =
      life.unheard.live operations occurrences := by
  unfold live
  induction occurrences generalizing life with
  | nil => rfl
  | cons occurrence rest ih =>
      rw [List.map_cons, List.foldl_cons, ih, List.foldl_cons, unheard_occur]

/-- Whatever happens but a reset gives the alerts that are due. -/
theorem alerted_occur
    (operations : Operations σ α)
    (life : Lifetime (Reported σ) α)
    {occurrence : Occurrence σ α}
    (kept : occurrence ≠ .resetMetrics) :
    life.course.Alerted
      (life.occur operations.reported occurrence.reported).course := by
  cases occurrence with
  | action action => exact life.course.alerted_act operations action
  | attach appender => exact .of_lossless rfl rfl rfl rfl
  | detach name =>
      simp only [Occurrence.reported, occur, detach?]
      cases life.course.dispatcher.roster.detach? operations.reported name
          life.course.state with
      | none => exact .refl _ _
      | some rest => exact .of_lossless rfl rfl rfl rfl
  | resetMetrics => exact absurd rfl kept

theorem alerted_live
    (operations : Operations σ α)
    (life : Lifetime (Reported σ) α)
    {occurrences : List (Occurrence σ α)}
    (kept : .resetMetrics ∉ occurrences) :
    life.course.Alerted
      (life.live operations.reported (occurrences.map Occurrence.reported)).course := by
  unfold live
  induction occurrences generalizing life with
  | nil => exact .refl _ _
  | cons occurrence rest ih =>
      rw [List.mem_cons, not_or] at kept
      rw [List.map_cons, List.foldl_cons]
      exact (life.alerted_occur operations (Ne.symm kept.1)).trans (ih _ kept.2)

/--
The alerts of a life are those its lost events called for; `heard` is the same
life with all that was reported.
-/
structure Alarmed
    (name : String)
    (life : Lifetime σ α)
    (heard : Lifetime (Reported σ) α) : Prop where
  same : heard.unheard = life
  /-- The first lost event and every thousandth one, whatever the reason of the losses. -/
  alerts :
    life.course.dispatcher.alerts = milestones life.course.dispatcher.metrics.lost
  once : life.course.dispatcher.alerts.Pairwise (· < ·)
  /-- For each alert there is one warning, and it says the same number. -/
  warnings :
    heard.course.state.warnings =
      life.course.dispatcher.alerts.map (Status.ofLoss name)

/--
Whatever happens to a dispatcher, as long as its counters are not reset: alerts
were given for the first lost event and for every thousandth one, and no others.
-/
theorem alarmed_live
    (operations : Operations σ α)
    (name : String)
    (settings : DispatcherSettings)
    (discardable : Event → Bool)
    (appenders : List α)
    (before : σ)
    (occurrences : List (Occurrence σ α))
    (kept : .resetMetrics ∉ occurrences) :
    Alarmed name
      ((create name settings discardable appenders before).live operations occurrences)
      ((create name settings discardable appenders (.begin before)).live
        operations.reported (occurrences.map Occurrence.reported)) := by
  have same :
      ((create name settings discardable appenders (.begin before)).live
          operations.reported (occurrences.map Occurrence.reported)).unheard =
        (create name settings discardable appenders before).live operations
          occurrences :=
    unheard_live operations _ occurrences
  have alerted :=
    (create name settings discardable appenders (.begin before)).alerted_live
      operations kept
  rw [← same]
  generalize
    (create name settings discardable appenders (.begin before)).live
      operations.reported (occurrences.map Occurrence.reported) = heard at alerted ⊢
  have dues :
      due 0 heard.course.dispatcher.metrics.lost =
        milestones heard.course.dispatcher.metrics.lost :=
    due_zero _
  have alerts :
      heard.course.dispatcher.alerts =
        milestones heard.course.dispatcher.metrics.lost :=
    alerted.alerts.trans dues
  constructor
  · rfl
  · exact alerts
  · exact alerts ▸ pairwise_milestones _
  · exact
      alerted.warnings.trans
        (congrArg (List.map (Status.ofLoss name)) (dues.trans alerts.symm))

/--
While the worker rests, events find the queue full.  Those that may be shed are
shed and the others are dropped, and alerts are given for the first and for the
thousandth event that is lost.
-/
theorem alarmed_live_outspoken :
    let offer (level : Level) : Occurrence (Bool × List Status) Unit :=
      .action (.move (.offer (.plain ⟨0, 0⟩ level "app" "message")))
    let occurrences :=
      .action .start :: .action (.move .pause) ::
        (List.replicate 501 [offer .info, offer .error]).flatten
    let settings : DispatcherSettings := ⟨2, some 1, true, 1000, false⟩
    let life :=
      (create "ASYNC" settings discardableByDefault [()] (false, [])).live outspoken
        occurrences
    let heard :=
      (create "ASYNC" settings discardableByDefault [()] (.begin (false, []))).live
        outspoken.reported (occurrences.map Occurrence.reported)
    Alarmed "ASYNC" life heard ∧
      life.course.dispatcher.metrics = ⟨2, 0, 500, 500, 0, 0⟩ ∧
      life.course.dispatcher.alerts = [1, 1000] := by
  intro offer occurrences settings life heard
  refine
    ⟨alarmed_live outspoken "ASYNC" settings discardableByDefault [()] (false, [])
      occurrences ?_, ?_, ?_⟩
  · simp only [occurrences, offer, List.mem_cons, List.mem_flatten, List.mem_replicate]
    rintro (start | pause | ⟨_, ⟨_, rfl⟩, member⟩)
    · cases start
    · cases pause
    · simp at member
  · decide +kernel
  · decide +kernel

end Lifetime

end LogPipeline
