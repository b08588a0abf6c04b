import LogPipeline.Proofs.Appender.Accounts
import LogPipeline.Proofs.Dispatcher.Erasure

/-!
# Appenders that do not get in each other's way

An event goes through a roster in turns of its appenders, and each turn begins in
the state in which the one before it ends.  So an appender that is started is
given the event whatever became of those before it.  Only one that breaks off when
it is asked whether it is started keeps the event from those behind it.

A tale keeps the accounts of the appenders while all kinds of things are done with
a roster.
-/

namespace LogPipeline

variable {σ α : Type}

/-! ## Passages -/

namespace Turn

variable
  {operations : Operations σ α} {origin : String} {event : Event}
  {turns more : List (Turn σ α)} {appenders others : List α}

theorem Line.append
    {first middle last : σ}
    (line : Line operations event turns first middle)
    (onward : Line operations event more middle last) :
    Line operations event (turns ++ more) first last := by
  induction line with
  | nil => exact onward
  | cons _ ih => exact .cons (ih onward)

theorem Line.eq_after
    {turn : Turn σ α}
    {first last : σ}
    (line : Line operations event [turn] first last) :
    last = turn.after operations event := by
  cases line with
  | cons onward =>
      cases onward
      rfl

/--
How it ends that appenders have their turns one after the other: either all had
theirs, and then it is said whether none failed, or the next one breaks off when
it is asked whether it is started.
-/
inductive Ends (operations : Operations σ α) (turns : List (Turn σ α)) (last : σ) :
    List α → Guarded Bool → Prop where
  | complete :
      Ends operations turns last (turns.map Turn.appender)
        (.ok (!turns.any Turn.failed))
  | broken
      {appender : α}
      {rest : List α}
      {message : String}
      (asked : operations.isStarted appender last = .error message) :
      Ends operations turns last (turns.map Turn.appender ++ appender :: rest)
        (.error message)

/-- If no appender breaks off when it is asked about itself, all have their turns. -/
theorem Ends.all
    {result : Guarded Bool}
    {last : σ}
    (ends : Ends operations turns last appenders result)
    (answers : ∀ message, ¬ operations.BreaksOff message) :
    turns.map Turn.appender = appenders ∧ result = .ok (!turns.any Turn.failed) := by
  cases ends with
  | complete => exact ⟨rfl, rfl⟩
  | broken asked => exact absurd ⟨_, _, asked⟩ (answers _)

theorem Ends.append
    {clean : Bool}
    {result : Guarded Bool}
    {middle last : σ}
    (ends : Ends operations turns middle appenders (.ok clean))
    (onward : Ends operations more last others result) :
    Ends operations (turns ++ more) last (appenders ++ others)
      (result.map (clean && ·)) := by
  cases ends
  cases onward with
  | complete =>
      have all :
          (!turns.any failed && !more.any failed) = !(turns ++ more).any failed := by
        rw [List.any_append, Bool.not_or]
      rw [← List.map_append, Except.map, all]
      exact .complete
  | broken asked =>
      rw [← List.append_assoc, ← List.map_append]
      exact .broken asked

/-- What is seen of the turns in which an event goes through appenders. -/
structure Passage
    (operations : Operations σ α)
    (origin : String)
    (event : Event)
    (appenders : List α)
    (turns : List (Turn σ α))
    (first : Traced σ α)
    (result : Guarded Bool)
    (last : Traced σ α) : Prop where
  genuine : ∀ turn ∈ turns, turn.Genuine operations origin event
  line : Line operations event turns first.state last.state
  ends : Ends operations turns last.state appenders result
  calls :
    last.calls =
      first.calls ++
        (turns.filter Turn.wasGiven).map fun turn => (turn.appender, event)

theorem passage_nil
    {trace : Traced σ α}
    {result : Guarded Bool}
    (ends : Ends operations [] trace.state appenders result) :
    Passage operations origin event appenders [] trace result trace := by
  refine ⟨?_, .nil _, ends, (List.append_nil _).symm⟩
  intro turn member
  cases member

theorem Passage.append
    {clean : Bool}
    {result : Guarded Bool}
    {first middle last : Traced σ α}
    (passage :
      Passage operations origin event appenders turns first (.ok clean) middle)
    (onward : Passage operations origin event others more middle result last) :
    Passage operations origin event (appenders ++ others) (turns ++ more) first
      (result.map (clean && ·)) last := by
  constructor
  · intro turn member
    rcases List.mem_append.mp member with member | member
    · exact passage.genuine turn member
    · exact onward.genuine turn member
  · exact passage.line.append onward.line
  · exact passage.ends.append onward.ends
  · rw [onward.calls, passage.calls, List.append_assoc, List.filter_append,
      List.map_append]

end Turn

open Account Traced

section Serving

variable
  {operations : Operations σ α} {origin : String} {event : Event}
  {account : Account σ α} {trace last : Traced σ α}

theorem Account.passage_turn
    {started : Bool}
    (asked : operations.isStarted account.appender trace.state = .ok started)
    (state :
      last.state =
        (account.turn operations origin event started trace.state).after operations
          event)
    (calls :
      last.calls =
        trace.calls ++ if started then [(account.appender, event)] else []) :
    Turn.Passage operations origin event [account.appender]
      [account.turn operations origin event started trace.state] trace
      (.ok !(account.turn operations origin event started trace.state).failed)
      last := by
  constructor
  · intro turn member
    rw [List.mem_singleton.mp member]
    exact account.genuine_turn operations origin event started trace.state asked
  · rw [state]
    exact .cons (.nil _)
  · have alone :
        [account.turn operations origin event started trace.state].any Turn.failed =
          (account.turn operations origin event started trace.state).failed := by
      simp
    rw [← alone]
    exact .complete
  · rw [calls]
    cases started <;> rfl

theorem Member.calls_skip (member : Member α) :
    (member.skip operations.traced origin trace).2.calls = trace.calls := by
  rw [Member.skip]
  split <;> rfl

theorem Member.calls_give (member : Member α) :
    (member.give operations.traced origin event trace).2.2.calls =
      trace.calls ++ [(member.appender, event)] := by
  rw [Member.give]
  dsimp only
  split
  · rfl
  · rw [Member.noteFailure]
    split <;> rfl

/-- What a progress means for those who wait for it. -/
def Progress.result : Progress → Guarded Bool
  | .waiting delivery => .ok delivery.clean
  | .finished clean => .ok clean
  | .crashed _ message => .error message

namespace Roster

/-- Serving a member is a turn of its account. -/
theorem serve_of_ok
    {started : Bool}
    (origin : String)
    (delivery : Delivery)
    (rest : List (Member α))
    (asked : operations.isStarted account.appender trace.state = .ok started) :
    ∃ later : Traced σ α,
      Turn.Passage operations origin delivery.event [account.appender]
          [account.turn operations origin delivery.event started trace.state] trace
          (.ok
            !(account.turn operations origin delivery.event started
              trace.state).failed)
          later ∧
        serve operations.traced.withoutWaiting origin delivery
            (account.member :: rest) trace =
          let turn :=
            account.turn operations origin delivery.event started trace.state
          let onward :=
            serve operations.traced.withoutWaiting origin
              ⟨delivery.event, delivery.reached + 1, delivery.clean && !turn.failed⟩
              rest later
          (onward.1, (account.note turn).member :: onward.2.1, onward.2.2) := by
  have free :
      operations.traced.withoutWaiting.blocks account.member.appender trace =
        false :=
    rfl
  have answered :
      operations.traced.withoutWaiting.isStarted account.member.appender trace =
        .ok started :=
    asked
  rw [serve, free, if_neg Bool.false_ne_true, answered]
  cases started with
  | true =>
      have given :=
        account.member.bareBoth_give operations origin delivery.event trace
      rw [give_member] at given
      injection given with clean both
      injection both with member state
      refine ⟨_, account.passage_turn asked state (Member.calls_give _), ?_⟩
      dsimp only
      rw [← clean, ← member]
      rfl
  | false =>
      have skipped := account.member.bare_skip operations origin trace
      rw [account.skip_member operations origin delivery.event] at skipped
      injection skipped with member state
      have calls :
          (account.member.skip operations.traced origin trace).2.calls =
            trace.calls ++ [] := by
        rw [Member.calls_skip, List.append_nil]
      refine ⟨_, account.passage_turn asked state calls, ?_⟩
      have calm :
          (account.turn operations origin delivery.event false trace.state).failed =
            false :=
        rfl
      dsimp only
      rw [calm, Bool.not_false, Bool.and_true, ← member]
      rfl

theorem serve_of_error
    {delivery : Delivery}
    {message : String}
    (rest : List (Member α))
    (asked : operations.isStarted account.appender trace.state = .error message) :
    serve operations.traced.withoutWaiting origin delivery (account.member :: rest)
        trace =
      (.crashed delivery message, account.member :: rest, trace) := by
  have free :
      operations.traced.withoutWaiting.blocks account.member.appender trace =
        false :=
    rfl
  have broken :
      operations.traced.withoutWaiting.isStarted account.member.appender trace =
        .error message :=
    asked
  rw [serve, free, if_neg Bool.false_ne_true, broken]

variable
  (operations : Operations σ α) (origin : String) (event : Event)
  (accounts : List (Account σ α)) (trace : Traced σ α)

/-- Serving members is the turns of their accounts. -/
theorem serve_members (delivery : Delivery) :
    ∃ result,
      Turn.Passage operations origin delivery.event
          (accounts.map Account.appender)
          (attend operations origin delivery.event accounts trace.state) trace
          result
          (serve operations.traced.withoutWaiting origin delivery
            (accounts.map Account.member) trace).2.2 ∧
        (serve operations.traced.withoutWaiting origin delivery
            (accounts.map Account.member) trace).1.result =
          result.map (delivery.clean && ·) ∧
        (serve operations.traced.withoutWaiting origin delivery
            (accounts.map Account.member) trace).2.1 =
          (noteAll accounts
            (attend operations origin delivery.event accounts trace.state)).map
            Account.member := by
  induction accounts generalizing delivery trace with
  | nil =>
      refine ⟨.ok true, Turn.passage_nil .complete, ?_, rfl⟩
      exact congrArg Except.ok (Bool.and_true _).symm
  | cons account rest ih =>
      rw [List.map_cons, List.map_cons, attend]
      cases asked : operations.isStarted account.appender trace.state with
      | error message =>
          rw [serve_of_error _ asked]
          exact ⟨.error message, Turn.passage_nil (.broken asked), rfl, rfl⟩
      | ok started =>
          rcases serve_of_ok origin delivery (rest.map Account.member) asked with
            ⟨later, passage, served⟩
          rcases
              ih later ⟨delivery.event, delivery.reached + 1,
                delivery.clean &&
                  !(account.turn operations origin delivery.event started
                    trace.state).failed⟩ with
            ⟨result, onward, ended, others⟩
          have state := passage.line.eq_after
          rw [state] at onward others
          rw [served]
          refine ⟨_, passage.append onward, ?_, congrArg (List.cons _) others⟩
          rw [ended]
          cases result <;> simp [Except.map, Bool.and_assoc]

/-- A roster knows of accounts what it has to know. -/
def Knows (roster : Roster α) (accounts : List (Account σ α)) : Prop :=
  roster.members = accounts.map Account.member

variable {roster : Roster α} {accounts}

theorem Knows.appenders
    (knows : roster.Knows accounts) :
    roster.appenders = accounts.map Account.appender := by
  rw [Roster.appenders, knows, List.map_map]
  rfl

theorem append_eq (operations : Operations σ α) (roster : Roster α) (state : σ) :
    roster.append operations origin event state =
      let served :=
        serve operations.withoutWaiting origin (.start event) roster.members state
      (served.1.result, ⟨served.2.1⟩, served.2.2) := by
  rw [append, deliver]
  have whole : roster.members.drop (Delivery.start event).reached = roster.members :=
    rfl
  rw [whole]
  generalize
    serve operations.withoutWaiting origin (.start event) roster.members state = served
  rcases served with ⟨progress, members, state⟩
  cases progress <;> rfl

theorem Knows.append
    (knows : roster.Knows accounts)
    (origin : String)
    (event : Event)
    (trace : Traced σ α) :
    Turn.Passage operations origin event roster.appenders
        (attend operations origin event accounts trace.state) trace
        (roster.append operations.traced origin event trace).1
        (roster.append operations.traced origin event trace).2.2 ∧
      (roster.append operations.traced origin event trace).2.1.Knows
        (noteAll accounts (attend operations origin event accounts trace.state)) := by
  rcases serve_members operations origin accounts trace (.start event) with
    ⟨result, passage, ended, members⟩
  rw [← knows] at passage ended members
  rw [append_eq, knows.appenders]
  have same : result.map ((Delivery.start event).clean && ·) = result := by
    cases result <;> rfl
  rw [same] at ended
  subst ended
  exact ⟨passage, members⟩

end Roster

end Serving

/-! ## Stories -/

/-- What can be done with a roster, or happen meanwhile. -/
inductive Roster.Action (σ α : Type) where
  | add (appender : α)
  | detach (name : String)
  | start
  | append (origin : String) (event : Event)
  /-- Something else changes the state of the appenders. -/
  | stir (change : σ → σ)

namespace Roster.Action

variable (operations : Operations σ α)

/-- What an action makes of a roster and the state of its appenders. -/
def act (action : Action σ α) (scene : Roster α × σ) : Roster α × σ :=
  match action with
  | .add appender => (scene.1.add appender, scene.2)
  | .detach name =>
      (((scene.1.detach? operations name scene.2).map Prod.snd).getD scene.1, scene.2)
  | .start => (scene.1.start operations scene.2).2
  | .append origin event => (scene.1.append operations origin event scene.2).2
  | .stir change => (scene.1, change scene.2)

/-- What an action that comes in a state makes of the accounts. -/
def annotate (action : Action σ α) (state : σ) (accounts : List (Account σ α)) :
    List (Account σ α) :=
  match action with
  | .add appender => accounts ++ [.opened appender]
  | .detach name =>
      accounts.eraseP fun account => operations.name account.appender state = name
  | .start => renew operations accounts state
  | .append origin event =>
      noteAll accounts (attend operations origin event accounts state)
  | .stir _ => accounts

theorem getD_detachFrom (name : String) (state : σ) (members : List (Member α)) :
    ((detachFrom operations name state members).map Prod.snd).getD members =
      members.eraseP fun member => operations.name member.appender state = name := by
  induction members with
  | nil => rfl
  | cons member rest ih =>
      rw [detachFrom]
      by_cases named : operations.name member.appender state = name
      · simp [named]
      · rw [if_neg named, List.eraseP_cons_of_neg (by simpa using named), ← ih]
        cases detachFrom operations name state rest <;> rfl

theorem knows_act
    {scene : Roster α × σ}
    {accounts : List (Account σ α)}
    (knows : scene.1.Knows accounts)
    (action : Action σ α) :
    (action.act operations scene).1.Knows
      (action.annotate operations scene.2 accounts) := by
  rcases scene with ⟨roster, state⟩
  cases action with
  | add appender =>
      rw [act, annotate, Knows, Roster.add, knows, List.map_append]
      rfl
  | detach name =>
      have remain := getD_detachFrom operations name state roster.members
      have others :
          (roster.members.eraseP fun member =>
              operations.name member.appender state = name) =
            (accounts.eraseP fun account =>
              operations.name account.appender state = name).map Account.member := by
        rw [knows, List.eraseP_map]
        rfl
      rw [others] at remain
      rw [act, annotate, Knows, ← remain]
      dsimp only
      rw [detach?]
      cases detachFrom operations name state roster.members <;> rfl
  | start =>
      rw [act, annotate, Knows, Roster.start, knows]
      exact startMembers_members operations state accounts
  | append origin event =>
      have erased := roster.bareBoth_append operations origin event (.begin state)
      have same :
          (roster.append operations origin event state).2.1 =
            (roster.append operations.traced origin event (.begin state)).2.1 :=
        congrArg (fun result => result.2.1) erased.symm
      have appended := (knows.append operations origin event (.begin state)).2
      rw [act]
      dsimp only
      rw [same]
      exact appended
  | stir change => exact knows

end Roster.Action

/-- A roster and the state of its appenders, with an account of each appender. -/
structure Tale (σ α : Type) where
  scene : Roster α × σ
  accounts : List (Account σ α)

namespace Tale

variable (operations : Operations σ α)

/-- The roster as it is now. -/
abbrev roster (tale : Tale σ α) : Roster α := tale.scene.1

/-- The state as it is now. -/
abbrev state (tale : Tale σ α) : σ := tale.scene.2

/-- Nothing is attached. -/
def begin (state : σ) : Tale σ α :=
  ⟨(.empty, state), []⟩

/-- Something is done with the roster, or happens meanwhile. -/
def occur (tale : Tale σ α) (action : Roster.Action σ α) : Tale σ α :=
  ⟨action.act operations tale.scene,
    action.annotate operations tale.state tale.accounts⟩

/-- One thing after the other is done or happens. -/
def live (actions : List (Roster.Action σ α)) (tale : Tale σ α) : Tale σ α :=
  actions.foldl (occur operations) tale

/-- The roster goes its way without regard to the accounts. -/
theorem scene_live (actions : List (Roster.Action σ α)) (tale : Tale σ α) :
    (tale.live operations actions).scene =
      actions.foldl (fun scene action => action.act operations scene) tale.scene := by
  induction actions generalizing tale with
  | nil => rfl
  | cons action rest ih => exact ih (tale.occur operations action)

/-- The roster knows of the accounts what it has to, and what they tell is fair. -/
structure Sound (tale : Tale σ α) : Prop where
  knows : tale.roster.Knows tale.accounts
  fair : ∀ account ∈ tale.accounts, account.Fair

theorem sound_begin (state : σ) : (begin state : Tale σ α).Sound := by
  constructor
  · rfl
  · intro account member
    cases member

theorem Sound.occur
    {tale : Tale σ α}
    (sound : tale.Sound)
    (action : Roster.Action σ α) :
    (tale.occur operations action).Sound := by
  constructor
  · exact action.knows_act operations sound.knows
  · cases action with
    | add appender =>
        intro account member
        rcases List.mem_append.mp member with member | member
        · exact sound.fair account member
        · rw [List.mem_singleton.mp member]
          exact fair_opened appender
    | detach name =>
        intro account member
        exact sound.fair account (List.mem_of_mem_eraseP member)
    | start => exact fair_renew operations tale.state sound.fair
    | append origin event =>
        exact fair_noteAll_attend operations origin event tale.state sound.fair
    | stir change => exact sound.fair

theorem Sound.live
    {tale : Tale σ α}
    (sound : tale.Sound)
    (actions : List (Roster.Action σ α)) :
    (tale.live operations actions).Sound := by
  induction actions generalizing tale with
  | nil => exact sound
  | cons action rest ih => exact ih (sound.occur operations action)

/-- The turns that the appenders have when an event goes through the roster. -/
def turns (tale : Tale σ α) (origin : String) (event : Event) : List (Turn σ α) :=
  attend operations origin event tale.accounts tale.state

/-- What holds of a roster whatever was done with it. -/
structure Isolated (tale : Tale σ α) : Prop where
  /-- There is an account of each attached appender. -/
  attached : tale.accounts.map Account.appender = tale.roster.appenders
  /-- Of the troubles of each kind the first three are reported and no others. -/
  reported :
    ∀ account ∈ tale.accounts, ∀ level,
      account.reports level = min 3 (account.troubles level)
  /-- All accounts begin anew when all appenders are started. -/
  renewed :
    (tale.roster.start operations tale.state).1 = .ok () →
      (tale.occur operations .start).accounts =
        tale.roster.appenders.map .opened
  /-- An event goes once to each appender that is started when it has its turn. -/
  delivered :
    ∀ origin event (trace : Traced σ α),
      trace.state = tale.state →
        Turn.Passage operations origin event tale.roster.appenders
            (tale.turns operations origin event) trace
            (tale.roster.append operations.traced origin event trace).1
            (tale.roster.append operations.traced origin event trace).2.2 ∧
          bareBoth (tale.roster.append operations.traced origin event trace) =
            tale.roster.append operations origin event tale.state
  /-- All have their turns unless one breaks off when it is asked about itself. -/
  finished :
    (∀ message, ¬ operations.BreaksOff message) →
      ∀ origin event,
        (tale.turns operations origin event).map Turn.appender =
            tale.roster.appenders ∧
          (tale.roster.append operations origin event tale.state).1 =
            .ok (!(tale.turns operations origin event).any Turn.failed)

theorem Sound.delivered
    {tale : Tale σ α}
    (sound : tale.Sound)
    (origin : String)
    (event : Event)
    {trace : Traced σ α}
    (same : trace.state = tale.state) :
    Turn.Passage operations origin event tale.roster.appenders
        (tale.turns operations origin event) trace
        (tale.roster.append operations.traced origin event trace).1
        (tale.roster.append operations.traced origin event trace).2.2 ∧
      bareBoth (tale.roster.append operations.traced origin event trace) =
        tale.roster.append operations origin event tale.state := by
  rw [turns, ← same]
  constructor
  · exact (sound.knows.append operations origin event trace).1
  · exact tale.roster.bareBoth_append operations origin event trace

theorem Sound.isolated
    {tale : Tale σ α}
    (sound : tale.Sound) :
    tale.Isolated operations := by
  constructor
  · exact sound.knows.appenders.symm
  · exact sound.fair
  · intro finished
    rw [Roster.start, sound.knows] at finished
    have renewed := renew_eq_of_ok operations tale.state tale.accounts finished
    rw [sound.knows.appenders, List.map_map]
    exact renewed
  · intro origin event trace same
    exact sound.delivered operations origin event same
  · intro answers origin event
    have begun : (Traced.begin tale.state : Traced σ α).state = tale.state := rfl
    rcases sound.delivered operations origin event begun with ⟨passage, erased⟩
    rw [← erased]
    exact passage.ends.all answers

/--
Whatever was done with a roster before, the appenders do not get in each other's
way, and of the troubles of each only the first few are reported.
-/
theorem isolated_live (state : σ) (actions : List (Roster.Action σ α)) :
    ((begin state).live operations actions).Isolated operations ∧
      ((begin state).live operations actions).scene =
        actions.foldl (fun scene action => action.act operations scene)
          (.empty, state) := by
  constructor
  · have sound := (sound_begin state).live operations actions
    exact sound.isolated operations
  · exact scene_live operations actions (begin state)

/--
Appenders that count in a state of reports and of events that were taken: one of
them panics when it is given an event, and the other takes it.
-/
def panicky : Operations (Nat × Nat) Bool where
  name panics _ := if panics then "panicky" else "calm"
  isStarted _ _ := .ok true
  append panics _ counts :=
    if panics then (.panicked "no", counts) else (.done (), (counts.1, counts.2 + 1))
  flush _ counts := (.done (), counts)
  start _ counts := (.ok (), counts)
  stop _ counts := (.ok (), counts)
  blocks _ _ := false
  report _ counts := (counts.1 + 1, counts.2)

/-- Five panics of an appender lead to three reports, and the one behind it takes all events. -/
theorem isolated_live_panicky :
    let event := Event.plain ⟨0, 0⟩ .info "app" "message"
    let actions : List (Roster.Action (Nat × Nat) Bool) :=
      .add true :: .add false :: List.replicate 5 (.append "test" event)
    let tale := (begin (0, 0)).live panicky actions
    (∀ message, ¬ panicky.BreaksOff message) ∧
      tale.Isolated panicky ∧
      (tale.turns panicky "test" event).map Turn.appender = [true, false] ∧
      (tale.roster.append panicky "test" event tale.state).1 = .ok false ∧
      tale.state = (3, 5) := by
  intro event actions tale
  have answers : ∀ message, ¬ panicky.BreaksOff message := by
    rintro message ⟨_, _, broken⟩
    cases broken
  have isolated : tale.Isolated panicky := (isolated_live panicky (0, 0) actions).1
  obtain ⟨everyone, result⟩ := isolated.finished answers "test" event
  refine ⟨answers, isolated, ?_, ?_, ?_⟩
  · rw [everyone]
    rfl
  · rw [result]
    rfl
  · rfl

end Tale

end LogPipeline
