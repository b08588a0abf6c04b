import LogPipeline.Proofs.Appender.Mirror
import LogPipeline.Proofs.Dispatcher.Course

/-!
# Dispatchers that are watched

A dispatcher does with operations on appenders that keep more in their state what
it does without.  This is shown for each operation in turn, and then for whole
courses of a dispatcher.
-/

namespace LogPipeline

variable {σ τ α : Type}
variable {detailed : Operations τ α} {operations : Operations σ α} {forget : τ → σ}

namespace Dispatcher

/-! ## Offers -/

theorem lose_forget
    (mirrors : detailed.Mirrors forget operations)
    (counter : Counter)
    (dispatcher : Dispatcher α)
    (state : τ) :
    lose operations counter dispatcher (forget state) =
      ((lose detailed counter dispatcher state).1,
        forget (lose detailed counter dispatcher state).2) := by
  unfold lose alertLoss
  dsimp only
  split
  · rw [mirrors.report]
  · rfl

theorem offer_forget
    (mirrors : detailed.Mirrors forget operations)
    (dispatcher : Dispatcher α)
    (event : Event)
    (state : τ) :
    dispatcher.offer operations event (forget state) =
      ((dispatcher.offer detailed event state).1,
        (dispatcher.offer detailed event state).2.1,
        forget (dispatcher.offer detailed event state).2.2) := by
  unfold offer
  cases dispatcher.worker with
  | none =>
      dsimp only [refuse]
      split
      · rw [mirrors.report]
      · rfl
  | some worker =>
      dsimp only
      by_cases sheds : dispatcher.sheds worker event = true
      · rw [if_pos sheds, if_pos sheds, lose_forget mirrors]
      · rw [if_neg sheds, if_neg sheds, enqueue, enqueue, lose_forget mirrors]
        split
        · rfl
        · split <;> rfl

/-! ## Steps -/

/-- Where a step leads, with what is forgotten about the state. -/
def forgetStep (forget : τ → σ) (result : AfterStep τ α) : AfterStep σ α :=
  result.map fun (later, left, after) => (later, left, forget after)

theorem deliverStep_forget
    (mirrors : detailed.Mirrors forget operations)
    (dispatcher : Dispatcher α)
    (worker : Worker)
    (delivery : Delivery)
    (state : τ) :
    deliverStep operations dispatcher worker delivery (forget state) =
      forgetStep forget (deliverStep detailed dispatcher worker delivery state) := by
  rw [deliverStep, deliverStep, Roster.deliver_forget mirrors]
  generalize
    dispatcher.roster.deliver detailed dispatcher.name delivery state = result
  rcases result with ⟨progress, roster, after⟩
  cases progress with
  | waiting later =>
      dsimp only
      split <;> rfl
  | finished clean => rfl
  | crashed later message => rfl

theorem takeStep_forget
    (mirrors : detailed.Mirrors forget operations)
    (leaving : Bool)
    (dispatcher : Dispatcher α)
    (worker : Worker)
    (state : τ) :
    takeStep operations leaving dispatcher worker (forget state) =
      forgetStep forget (takeStep detailed leaving dispatcher worker state) := by
  rw [takeStep, takeStep]
  split
  · rfl
  · cases worker.queue with
    | cons event rest => rfl
    | nil =>
        dsimp only
        split
        · rw [Roster.stop_forget mirrors]
          rfl
        · rfl

theorem workStep_forget
    (mirrors : detailed.Mirrors forget operations)
    (leaving : Bool)
    (dispatcher : Dispatcher α)
    (worker : Worker)
    (state : τ) :
    workStep operations leaving dispatcher worker (forget state) =
      forgetStep forget (workStep detailed leaving dispatcher worker state) := by
  rw [workStep, workStep]
  cases worker.crash with
  | some message => rfl
  | none =>
      cases worker.hand with
      | some delivery => exact deliverStep_forget mirrors ..
      | none => exact takeStep_forget mirrors ..

theorem step_forget
    (mirrors : detailed.Mirrors forget operations)
    (leaving : Bool)
    (place : Nat)
    (dispatcher : Dispatcher α)
    (worker : Worker)
    (state : τ) :
    step operations leaving place dispatcher worker (forget state) =
      forgetStep forget (step detailed leaving place dispatcher worker state) := by
  rw [step, step]
  cases worker.crash with
  | some message => rfl
  | none =>
      cases dispatcher.admit? place worker with
      | some admitted => rfl
      | none => exact workStep_forget mirrors ..

theorem run_forget
    (mirrors : detailed.Mirrors forget operations)
    (leaving : Bool)
    (turns : List Nat)
    (dispatcher : Dispatcher α)
    (worker : Worker)
    (state : τ) :
    run operations leaving turns dispatcher worker (forget state) =
      ((run detailed leaving turns dispatcher worker state).1,
        (run detailed leaving turns dispatcher worker state).2.1,
        forget (run detailed leaving turns dispatcher worker state).2.2) := by
  induction turns generalizing dispatcher worker state with
  | nil => rfl
  | cons place turns ih =>
      rw [run, run, step_forget mirrors]
      cases step detailed leaving place dispatcher worker state with
      | none => rfl
      | some result =>
          rcases result with ⟨later, left, after⟩
          cases left with
          | none => rfl
          | some next => exact ih later next after

/-- The same events come into the queue. -/
theorem entered_forget
    (mirrors : detailed.Mirrors forget operations)
    (leaving : Bool)
    (turns : List Nat)
    (dispatcher : Dispatcher α)
    (worker : Worker)
    (state : τ) :
    entered operations leaving turns dispatcher worker (forget state) =
      entered detailed leaving turns dispatcher worker state := by
  induction turns generalizing dispatcher worker state with
  | nil => rfl
  | cons place turns ih =>
      rw [entered, entered, step_forget mirrors]
      cases step detailed leaving place dispatcher worker state with
      | none => rfl
      | some result =>
          rcases result with ⟨later, left, after⟩
          cases left with
          | none => rfl
          | some next =>
              exact
                congrArg (dispatcher.entering place worker ++ ·)
                  (ih later next after)

/-! ## Stops -/

theorem announceStop_forget
    (mirrors : detailed.Mirrors forget operations)
    (dispatcher : Dispatcher α)
    (state : τ) :
    announceStop operations dispatcher (forget state) =
      forget (announceStop detailed dispatcher state) :=
  mirrors.report _ state

theorem conclude_forget
    (mirrors : detailed.Mirrors forget operations)
    (dispatcher : Dispatcher α)
    (left : Option Worker)
    (state : τ) :
    conclude operations dispatcher left (forget state) =
      ((conclude detailed dispatcher left state).1,
        (conclude detailed dispatcher left state).2.1,
        forget (conclude detailed dispatcher left state).2.2) := by
  cases left with
  | none => rfl
  | some worker =>
      rw [conclude, conclude]
      cases worker.crash with
      | none =>
          dsimp only
          rw [mirrors.report]
      | some message =>
          dsimp only
          rw [mirrors.report]

theorem stopWithin_forget
    (mirrors : detailed.Mirrors forget operations)
    (turns : List Nat)
    (dispatcher : Dispatcher α)
    (state : τ) :
    stopWithin operations turns dispatcher (forget state) =
      ((stopWithin detailed turns dispatcher state).1,
        (stopWithin detailed turns dispatcher state).2.1,
        forget (stopWithin detailed turns dispatcher state).2.2) := by
  rw [stopWithin, stopWithin]
  cases dispatcher.worker with
  | none => rfl
  | some worker =>
      dsimp only
      rw [announceStop_forget mirrors, run_forget mirrors, conclude_forget mirrors]

/-! ## Starts -/

theorem announceAwait_forget
    (mirrors : detailed.Mirrors forget operations)
    (dispatcher : Dispatcher α)
    (state : τ) :
    announceAwait operations dispatcher (forget state) =
      forget (announceAwait detailed dispatcher state) := by
  rw [announceAwait, announceAwait]
  split
  · exact mirrors.report _ state
  · rfl

theorem awaitPrevious_forget
    (mirrors : detailed.Mirrors forget operations)
    (dispatcher : Dispatcher α)
    (state : τ) :
    awaitPrevious operations dispatcher (forget state) =
      ((awaitPrevious detailed dispatcher state).1,
        forget (awaitPrevious detailed dispatcher state).2) := by
  rw [awaitPrevious, awaitPrevious, announceAwait_forget mirrors, advancePrevious,
    advancePrevious]
  cases dispatcher.previous with
  | none => rfl
  | some worker =>
      dsimp only
      rw [run_forget mirrors]

theorem reclaim_forget
    (mirrors : detailed.Mirrors forget operations)
    (dispatcher : Dispatcher α)
    (state : τ) :
    reclaim operations dispatcher (forget state) =
      ((reclaim detailed dispatcher state).1,
        forget (reclaim detailed dispatcher state).2) := by
  rw [reclaim, reclaim, awaitPrevious_forget mirrors]
  dsimp only
  cases (awaitPrevious detailed dispatcher state).1.previous.bind Worker.crash with
  | none => rfl
  | some message =>
      dsimp only
      rw [mirrors.report]

theorem launch_forget
    (mirrors : detailed.Mirrors forget operations)
    (dispatcher : Dispatcher α)
    (state : τ) :
    launch operations dispatcher (forget state) =
      ((launch detailed dispatcher state).1, (launch detailed dispatcher state).2.1,
        forget (launch detailed dispatcher state).2.2) := by
  rw [launch, launch]
  split
  · rw [mirrors.report]
  · rw [Roster.start_forget mirrors]
    generalize dispatcher.roster.start detailed state = result
    rcases result with ⟨outcome, roster, after⟩
    cases outcome with
    | error message => rfl
    | ok =>
        dsimp only
        rw [mirrors.report]
        split <;> rfl

theorem start_forget
    (mirrors : detailed.Mirrors forget operations)
    (dispatcher : Dispatcher α)
    (state : τ) :
    start operations dispatcher (forget state) =
      ((start detailed dispatcher state).1, (start detailed dispatcher state).2.1,
        forget (start detailed dispatcher state).2.2) := by
  rw [start, start]
  split
  · rw [mirrors.report]
  · split
    · dsimp only
      rw [mirrors.report]
    · rw [reclaim_forget mirrors]
      dsimp only
      rw [launch_forget mirrors]

end Dispatcher

/-! ## Courses -/

namespace Move

/-- What happens, where `carry` tells how appenders that change by themselves are watched. -/
def watched (carry : (σ → σ) → τ → τ) : Move σ → Move τ
  | .offer event => .offer event
  | .pause => .pause
  | .resume => .resume
  | .letIn place => .letIn place
  | .work => .work
  | .stir change => .stir (carry change)

end Move

namespace Action

/-- What happens, where the appenders are watched. -/
def watched (carry : (σ → σ) → τ → τ) : Action σ → Action τ
  | .move made => .move (made.watched carry)
  | .start => .start
  | .stop turns => .stop turns
  | .letInPrevious place => .letInPrevious place
  | .workPrevious => .workPrevious

end Action

namespace Course

/-- A course with what is forgotten about the state of its appenders. -/
def forgetting (forget : τ → σ) (course : Course τ α) : Course σ α :=
  { course with state := forget course.state }

theorem forgetting_offer
    (mirrors : detailed.Mirrors forget operations)
    (event : Event)
    (course : Course τ α) :
    (course.offer detailed event).forgetting forget =
      (course.forgetting forget).offer operations event := by
  unfold offer forgetting
  dsimp only
  rw [Dispatcher.offer_forget mirrors]

theorem forgetting_letIn
    (forget : τ → σ)
    (place : Nat)
    (course : Course τ α) :
    (course.letIn place).forgetting forget =
      (course.forgetting forget).letIn place := by
  unfold letIn forgetting
  dsimp only
  cases course.dispatcher.worker with
  | none => rfl
  | some worker =>
      dsimp only
      cases course.dispatcher.admit? place worker with
      | none => rfl
      | some admitted => rfl

theorem forgetting_work
    (mirrors : detailed.Mirrors forget operations)
    (course : Course τ α) :
    (course.work detailed).forgetting forget =
      (course.forgetting forget).work operations := by
  unfold work forgetting
  dsimp only
  cases course.dispatcher.worker with
  | none => rfl
  | some worker =>
      dsimp only
      rw [Dispatcher.workStep_forget mirrors]
      cases course.dispatcher.workStep detailed false worker course.state with
      | none => rfl
      | some result => rfl

theorem forgetting_letInPrevious
    (forget : τ → σ)
    (place : Nat)
    (course : Course τ α) :
    (course.letInPrevious place).forgetting forget =
      (course.forgetting forget).letInPrevious place := by
  unfold letInPrevious forgetting
  dsimp only
  cases course.dispatcher.previous with
  | none => rfl
  | some worker =>
      dsimp only
      cases worker.isBroken with
      | true => rfl
      | false =>
          cases course.dispatcher.admit? place worker with
          | none => rfl
          | some admitted => rfl

theorem forgetting_workPrevious
    (mirrors : detailed.Mirrors forget operations)
    (course : Course τ α) :
    (course.workPrevious detailed).forgetting forget =
      (course.forgetting forget).workPrevious operations := by
  unfold workPrevious forgetting
  dsimp only
  cases course.dispatcher.previous with
  | none => rfl
  | some worker =>
      dsimp only
      rw [Dispatcher.workStep_forget mirrors]
      cases course.dispatcher.workStep detailed true worker course.state with
      | none => rfl
      | some result => rfl

theorem forgetting_start
    (mirrors : detailed.Mirrors forget operations)
    (course : Course τ α) :
    (course.start detailed).forgetting forget =
      (course.forgetting forget).start operations := by
  unfold start forgetting
  dsimp only
  rw [Dispatcher.start_forget mirrors, Dispatcher.awaitPrevious_forget mirrors,
    Dispatcher.announceAwait_forget mirrors]
  split
  · rfl
  · cases course.dispatcher.previous with
    | none => rfl
    | some worker =>
        dsimp only
        rw [Dispatcher.entered_forget mirrors]
        cases (course.dispatcher.awaitPrevious detailed course.state).1.previous with
        | none => rfl
        | some left =>
            dsimp only
            split <;> rfl

theorem forgetting_stop
    (mirrors : detailed.Mirrors forget operations)
    (turns : List Nat)
    (course : Course τ α) :
    (course.stop detailed turns).forgetting forget =
      (course.forgetting forget).stop operations turns := by
  unfold stop forgetting
  dsimp only
  cases course.dispatcher.worker with
  | none => rfl
  | some worker =>
      dsimp only
      rw [Dispatcher.stopWithin_forget mirrors, Dispatcher.announceStop_forget mirrors,
        Dispatcher.run_forget mirrors, Dispatcher.entered_forget mirrors]

variable {carry : (σ → σ) → τ → τ}

theorem forgetting_act
    (mirrors : detailed.Mirrors forget operations)
    (carries : ∀ change state, forget (carry change state) = change (forget state))
    (course : Course τ α)
    (action : Action σ) :
    (course.act detailed (action.watched carry)).forgetting forget =
      (course.forgetting forget).act operations action := by
  cases action with
  | move move =>
      cases move with
      | offer event => exact forgetting_offer mirrors event course
      | pause => rfl
      | resume => rfl
      | letIn place => exact forgetting_letIn forget place course
      | work => exact forgetting_work mirrors course
      | stir change =>
          exact
            congrArg (fun state => { course.forgetting forget with state })
              (carries change course.state)
  | start => exact forgetting_start mirrors course
  | stop turns => exact forgetting_stop mirrors turns course
  | letInPrevious place => exact forgetting_letInPrevious forget place course
  | workPrevious => exact forgetting_workPrevious mirrors course

/-- What happens is the same whether more is kept or not. -/
theorem forgetting_run
    (mirrors : detailed.Mirrors forget operations)
    (carries : ∀ change state, forget (carry change state) = change (forget state))
    (course : Course τ α)
    (actions : List (Action σ)) :
    (course.run detailed (actions.map (Action.watched carry))).forgetting forget =
      (course.forgetting forget).run operations actions := by
  unfold run
  induction actions generalizing course with
  | nil => rfl
  | cons action rest ih =>
      rw [List.map_cons, List.foldl_cons, ih, List.foldl_cons,
        forgetting_act mirrors carries]

end Course

end LogPipeline
