import LogPipeline.Proofs.Appender.Turns

/-!
# Accounts of appenders

An account of an appender keeps its turns since it was attached, or since all
appenders were last started.  The first few troubles of each kind in an account
are reported and no others.  The two counts in a roster are all that it has to
know of an account for that.
-/

namespace LogPipeline

variable {σ α : Type}

/-! ## Accounts -/

/-- The turns of an appender since it was attached or last started with all others. -/
structure Account (σ α : Type) where
  appender : α
  turns : List (Turn σ α)

namespace Account

/-- The account of an appender that has had no turn. -/
def opened (appender : α) : Account σ α :=
  ⟨appender, []⟩

/-- How many turns called for a report at a level. -/
def troubles (level : StatusLevel) (account : Account σ α) : Nat :=
  account.turns.countP fun turn => turn.trouble? = some level

/-- How many reports there were at a level. -/
def reports (level : StatusLevel) (account : Account σ α) : Nat :=
  account.turns.countP fun turn => turn.report?.map Status.level = some level

/-- The first few troubles of each kind were reported. -/
def Fair (account : Account σ α) : Prop :=
  ∀ level,
    account.reports level = min Member.greatestReports (account.troubles level)

/-- The account with another turn. -/
def note (account : Account σ α) (turn : Turn σ α) : Account σ α :=
  { account with turns := account.turns ++ [turn] }

@[simp]
theorem appender_note (account : Account σ α) (turn : Turn σ α) :
    (account.note turn).appender = account.appender := by
  rfl

/-- What a roster knows of an account. -/
def member (account : Account σ α) : Member α where
  appender := account.appender
  failureReports := min Member.greatestReports (account.troubles .error)
  idleReports := min Member.greatestReports (account.troubles .warn)

@[simp]
theorem appender_member (account : Account σ α) :
    account.member.appender = account.appender := by
  rfl

theorem fair_opened (appender : α) : (opened appender : Account σ α).Fair := by
  intro level
  exact (Nat.min_zero _).symm

@[simp]
theorem member_opened (appender : α) :
    (opened appender : Account σ α).member = Member.of appender := by
  rfl

theorem troubles_note
    (level : StatusLevel)
    (account : Account σ α)
    (turn : Turn σ α) :
    (account.note turn).troubles level =
      account.troubles level + if turn.trouble? = some level then 1 else 0 := by
  simp [troubles, note, List.countP_singleton]

theorem reports_note
    (level : StatusLevel)
    (account : Account σ α)
    (turn : Turn σ α) :
    (account.note turn).reports level =
      account.reports level +
        if turn.report?.map Status.level = some level then 1 else 0 := by
  simp [reports, note, List.countP_singleton]

variable
  (operations : Operations σ α) (origin : String) (event : Event)
  (account : Account σ α) (started : Bool) (state : σ)

/--
The next turn of an appender: it is given the event if it is started, and what
there is to report is reported unless there were enough such reports.
-/
def turn : Turn σ α :=
  let outcome? :=
    if started then
      some (operations.append account.appender event state).1
    else
      none
  let untold : Turn σ α := ⟨account.appender, state, outcome?, none⟩
  { untold with
    report? :=
      (untold.complaint? operations origin event).filter fun status =>
        account.troubles status.level < Member.greatestReports }

theorem report_turn :
    (account.turn operations origin event started state).report? =
      ((account.turn operations origin event started state).complaint?
          operations origin event).filter fun status =>
        account.troubles status.level < Member.greatestReports := by
  rfl

theorem trouble_turn :
    (account.turn operations origin event true state).trouble? =
      if (operations.append account.appender event state).1.trouble?.isSome then
        some .error
      else
        none := by
  have given :
      (account.turn operations origin event true state).outcome? =
        some (operations.append account.appender event state).1 :=
    rfl
  rw [← Turn.failed_of_given given]
  rfl

/-- The counts tell whether there were enough reports. -/
theorem reports_member_lt
    (level : StatusLevel)
    (serious : level ≠ .info) :
    account.member.reports level < Member.greatestReports ↔
      account.troubles level < Member.greatestReports := by
  cases level with
  | info => exact absurd rfl serious
  | warn =>
      dsimp only [Member.reports, member]
      omega
  | error =>
      dsimp only [Member.reports, member]
      omega

/-- What a roster knows of an account is enough to tell its next turn. -/
theorem turn_member :
    account.member.turn operations origin event started state =
      account.turn operations origin event started state := by
  have sameReport :
      (account.member.turn operations origin event started state).report? =
        (account.turn operations origin event started state).report? := by
    have sameComplaint :
        (account.member.turn operations origin event started state).complaint?
            operations origin event =
          (account.turn operations origin event started state).complaint? operations
            origin event :=
      rfl
    rw [report_turn, Member.report_turn, sameComplaint]
    cases due :
        (account.turn operations origin event started state).complaint? operations
          origin event with
    | none => rfl
    | some status =>
        have counted := account.reports_member_lt _ (Turn.serious_of_complaint? due)
        rw [Option.filter_some, Option.filter_some, decide_eq_decide.mpr counted]
  rw [Member.turn, turn]
  exact congrArg _ sameReport

theorem genuine_turn
    (asked : operations.isStarted account.appender state = .ok started) :
    (account.turn operations origin event started state).Genuine operations origin
      event := by
  rw [← turn_member]
  exact account.member.genuine_turn operations origin event started state asked

/-- A trouble is reported if there were not enough of its kind. -/
theorem level_report_turn (level : StatusLevel) :
    (account.turn operations origin event started state).report?.map Status.level =
        some level ↔
      (account.turn operations origin event started state).trouble? = some level ∧
        account.troubles level < Member.greatestReports := by
  rw [report_turn, ← Turn.level_complaint? operations origin event]
  simp only [Option.map_eq_some_iff, Option.filter_eq_some_iff, decide_eq_true_eq]
  constructor
  · rintro ⟨status, ⟨due, few⟩, rfl⟩
    exact ⟨⟨status, due, rfl⟩, few⟩
  · rintro ⟨⟨status, due, rfl⟩, few⟩
    exact ⟨status, ⟨due, few⟩, rfl⟩

theorem Fair.note_turn
    {account : Account σ α}
    (fair : account.Fair) :
    (account.note (account.turn operations origin event started state)).Fair := by
  intro level
  rw [reports_note, troubles_note, fair level]
  simp only [level_report_turn]
  generalize (account.turn operations origin event started state).trouble? = trouble
  by_cases due : trouble = some level
  · by_cases few : account.troubles level < Member.greatestReports
    · rw [if_pos ⟨due, few⟩, if_pos due]
      omega
    · rw [if_neg fun both => few both.2, if_pos due]
      omega
  · rw [if_neg fun both => due both.1, if_neg due]
    rfl

theorem member_note_of_none
    {turn : Turn σ α}
    (calm : turn.trouble? = none) :
    (account.note turn).member = account.member := by
  simp [member, troubles_note, calm]

/-- Another trouble counts unless there were enough of its kind. -/
theorem min_troubles_succ (level : StatusLevel) :
    min Member.greatestReports (account.troubles level + 1) =
      if account.troubles level < Member.greatestReports then
        min Member.greatestReports (account.troubles level) + 1
      else
        min Member.greatestReports (account.troubles level) := by
  split <;> omega

theorem member_note_of_error
    {turn : Turn σ α}
    (trouble : turn.trouble? = some .error) :
    (account.note turn).member =
      if account.troubles .error < Member.greatestReports then
        { account.member with
          failureReports := account.member.failureReports + 1 }
      else
        account.member := by
  have counted := account.min_troubles_succ .error
  by_cases few : account.troubles .error < Member.greatestReports
  · rw [if_pos few] at counted ⊢
    simp [member, troubles_note, trouble, counted]
  · rw [if_neg few] at counted ⊢
    simp [member, troubles_note, trouble, counted]

theorem member_note_of_warn
    {turn : Turn σ α}
    (trouble : turn.trouble? = some .warn) :
    (account.note turn).member =
      if account.troubles .warn < Member.greatestReports then
        { account.member with idleReports := account.member.idleReports + 1 }
      else
        account.member := by
  have counted := account.min_troubles_succ .warn
  by_cases few : account.troubles .warn < Member.greatestReports
  · rw [if_pos few] at counted ⊢
    simp [member, troubles_note, trouble, counted]
  · rw [if_neg few] at counted ⊢
    simp [member, troubles_note, trouble, counted]

/-- Passing over a member is a turn of its account. -/
theorem skip_member :
    account.member.skip operations origin state =
      ((account.note (account.turn operations origin event false state)).member,
        (account.turn operations origin event false state).after operations event) := by
  have after := account.member.skip_snd operations origin event state
  rw [turn_member] at after
  refine Prod.ext ?_ after
  rw [member_note_of_warn account rfl, Member.skip]
  have counted :
      account.member.idleReports < Member.greatestReports ↔
        account.troubles .warn < Member.greatestReports :=
    account.reports_member_lt .warn (by decide)
  simp only [counted]
  exact apply_ite Prod.fst ..

/-- A member that does not take an event has a turn of its account. -/
theorem noteFailure_member
    {trouble : String}
    (after : σ)
    (ended :
      (operations.append account.appender event state).1.trouble? = some trouble) :
    (account.member.noteFailure operations origin trouble after).1 =
      (account.note (account.turn operations origin event true state)).member := by
  have isError :
      (account.turn operations origin event true state).trouble? = some .error := by
    rw [trouble_turn, ended]
    rfl
  have counted :
      account.member.failureReports < Member.greatestReports ↔
        account.troubles .error < Member.greatestReports :=
    account.reports_member_lt .error (by decide)
  rw [member_note_of_error account isError, Member.noteFailure]
  simp only [counted]
  exact apply_ite Prod.fst ..

/-- Giving an event to a member is a turn of its account. -/
theorem give_member :
    account.member.give operations origin event state =
      (!(account.turn operations origin event true state).failed,
        (account.note (account.turn operations origin event true state)).member,
        (account.turn operations origin event true state).after operations event) := by
  rcases account.member.give_turn operations origin event state with ⟨clean, after⟩
  rw [turn_member] at clean after
  refine Prod.ext clean (Prod.ext ?_ after)
  rw [Member.give, appender_member]
  dsimp only
  cases ended :
      (operations.append account.appender event state).1.trouble? with
  | none =>
      have calm :
          (account.turn operations origin event true state).trouble? = none := by
        rw [trouble_turn, ended]
        rfl
      rw [member_note_of_none account calm]
  | some trouble =>
      exact account.noteFailure_member operations origin event state _ ended

/-! ## Deliveries -/

/--
The turns of appenders when an event goes from one to the next.  It goes no
further than an appender that breaks off when it is asked whether it is started.
-/
def attend : List (Account σ α) → σ → List (Turn σ α)
  | [], _ => []
  | account :: rest, state =>
      match operations.isStarted account.appender state with
      | .error _ => []
      | .ok started =>
          let turn := account.turn operations origin event started state
          turn :: attend rest (turn.after operations event)

/-- Each account with the turn that its appender had, as far as there were turns. -/
def noteAll : List (Account σ α) → List (Turn σ α) → List (Account σ α)
  | account :: rest, turn :: turns => account.note turn :: noteAll rest turns
  | accounts, _ => accounts

theorem fair_noteAll_attend
    {accounts : List (Account σ α)}
    (fair : ∀ account ∈ accounts, account.Fair) :
    ∀ account ∈ noteAll accounts (attend operations origin event accounts state),
      account.Fair := by
  induction accounts generalizing state with
  | nil =>
      intro account member
      cases member
  | cons account rest ih =>
      rw [attend]
      cases operations.isStarted account.appender state with
      | error message => exact fair
      | ok started =>
          rw [List.forall_mem_cons] at fair
          dsimp only
          rw [noteAll, List.forall_mem_cons]
          have noted := fair.1.note_turn operations origin event started state
          exact ⟨noted, ih _ fair.2⟩

/-! ## Starts -/

/--
The accounts when all appenders are started: those of appenders that were come
past begin anew.  An appender that breaks off keeps its account, and so do those
behind it.
-/
def renew : List (Account σ α) → σ → List (Account σ α)
  | [], _ => []
  | account :: rest, state =>
      match operations.startIfNeeded account.appender state with
      | (.ok (), state) => opened account.appender :: renew rest state
      | (.error _, _) => account :: rest

theorem fair_renew
    {accounts : List (Account σ α)}
    (fair : ∀ account ∈ accounts, account.Fair) :
    ∀ account ∈ renew operations accounts state, account.Fair := by
  induction accounts generalizing state with
  | nil =>
      intro account member
      cases member
  | cons account rest ih =>
      rw [renew]
      split
      · rw [List.forall_mem_cons] at fair ⊢
        exact ⟨fair_opened _, ih _ fair.2⟩
      · exact fair

theorem startMembers_members (accounts : List (Account σ α)) :
    (Roster.startMembers operations (accounts.map member) state).2.1 =
      (renew operations accounts state).map member := by
  induction accounts generalizing state with
  | nil => rfl
  | cons account rest ih =>
      rw [List.map_cons, Roster.startMembers, renew, appender_member]
      rcases operations.startIfNeeded account.appender state with ⟨outcome, after⟩
      cases outcome with
      | error message => rfl
      | ok => exact congrArg (List.cons _) (ih after)

/-- If no appender breaks off, all accounts begin anew. -/
theorem renew_eq_of_ok
    (accounts : List (Account σ α))
    (finished :
      (Roster.startMembers operations (accounts.map member) state).1 = .ok ()) :
    renew operations accounts state =
      accounts.map fun account => opened account.appender := by
  induction accounts generalizing state with
  | nil => rfl
  | cons account rest ih =>
      rw [List.map_cons, Roster.startMembers, appender_member] at finished
      rw [List.map_cons, renew]
      rcases started : operations.startIfNeeded account.appender state with
        ⟨outcome, after⟩
      rw [started] at finished
      cases outcome with
      | error message => cases finished
      | ok => exact congrArg (List.cons _) (ih after finished)

end Account

end LogPipeline
