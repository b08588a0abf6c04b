import LogPipeline.Appender.Roster

/-!
# Appenders that are watched

The operations on appenders can keep more in their state than is needed: what the
appenders were given, say, or all that was reported.  A roster does with them what
it does without.
-/

namespace LogPipeline

variable {σ τ α : Type}

/-! ## Operations that keep more -/

/-- Operations that keep more in their state do what others do. -/
structure Operations.Mirrors
    (detailed : Operations τ α)
    (forget : τ → σ)
    (operations : Operations σ α) : Prop where
  name (appender : α) (state : τ) :
    operations.name appender (forget state) = detailed.name appender state
  isStarted (appender : α) (state : τ) :
    operations.isStarted appender (forget state) = detailed.isStarted appender state
  append (appender : α) (event : Event) (state : τ) :
    operations.append appender event (forget state) =
      ((detailed.append appender event state).1,
        forget (detailed.append appender event state).2)
  flush (appender : α) (state : τ) :
    operations.flush appender (forget state) =
      ((detailed.flush appender state).1, forget (detailed.flush appender state).2)
  start (appender : α) (state : τ) :
    operations.start appender (forget state) =
      ((detailed.start appender state).1, forget (detailed.start appender state).2)
  stop (appender : α) (state : τ) :
    operations.stop appender (forget state) =
      ((detailed.stop appender state).1, forget (detailed.stop appender state).2)
  blocks (appender : α) (state : τ) :
    operations.blocks appender (forget state) = detailed.blocks appender state
  report (status : Status) (state : τ) :
    operations.report status (forget state) = forget (detailed.report status state)

variable {detailed : Operations τ α} {operations : Operations σ α} {forget : τ → σ}

namespace Operations.Mirrors

theorem withoutWaiting (mirrors : detailed.Mirrors forget operations) :
    detailed.withoutWaiting.Mirrors forget operations.withoutWaiting :=
  { mirrors with blocks := fun _ _ => rfl }

theorem startIfNeeded
    (mirrors : detailed.Mirrors forget operations)
    (appender : α)
    (state : τ) :
    operations.startIfNeeded appender (forget state) =
      ((detailed.startIfNeeded appender state).1,
        forget (detailed.startIfNeeded appender state).2) := by
  rw [Operations.startIfNeeded, Operations.startIfNeeded, mirrors.isStarted]
  cases detailed.isStarted appender state with
  | error message => rfl
  | ok started =>
      cases started with
      | true => rfl
      | false => exact mirrors.start appender state

end Operations.Mirrors

/-! ## Rosters -/

theorem Member.skip_forget
    (mirrors : detailed.Mirrors forget operations)
    (origin : String)
    (member : Member α)
    (state : τ) :
    member.skip operations origin (forget state) =
      ((member.skip detailed origin state).1,
        forget (member.skip detailed origin state).2) := by
  unfold Member.skip
  split
  · rw [mirrors.name, mirrors.report]
  · rfl

theorem Member.noteFailure_forget
    (mirrors : detailed.Mirrors forget operations)
    (origin trouble : String)
    (member : Member α)
    (state : τ) :
    member.noteFailure operations origin trouble (forget state) =
      ((member.noteFailure detailed origin trouble state).1,
        forget (member.noteFailure detailed origin trouble state).2) := by
  unfold Member.noteFailure
  split
  · rw [mirrors.name, mirrors.report]
  · rfl

theorem Member.give_forget
    (mirrors : detailed.Mirrors forget operations)
    (origin : String)
    (event : Event)
    (member : Member α)
    (state : τ) :
    member.give operations origin event (forget state) =
      ((member.give detailed origin event state).1,
        (member.give detailed origin event state).2.1,
        forget (member.give detailed origin event state).2.2) := by
  unfold Member.give
  rw [mirrors.append]
  dsimp only
  cases (detailed.append member.appender event state).1.trouble? with
  | none => rfl
  | some trouble =>
      dsimp only
      rw [member.noteFailure_forget mirrors]

namespace Roster

theorem detach?_forget
    (mirrors : detailed.Mirrors forget operations)
    (roster : Roster α)
    (name : String)
    (state : τ) :
    roster.detach? operations name (forget state) =
      roster.detach? detailed name state := by
  have found (members : List (Member α)) :
      detachFrom operations name (forget state) members =
        detachFrom detailed name state members := by
    induction members with
    | nil => rfl
    | cons member rest ih => rw [detachFrom, detachFrom, mirrors.name, ih]
  rw [detach?, detach?, found]

theorem start_forget
    (mirrors : detailed.Mirrors forget operations)
    (roster : Roster α)
    (state : τ) :
    roster.start operations (forget state) =
      ((roster.start detailed state).1, (roster.start detailed state).2.1,
        forget (roster.start detailed state).2.2) := by
  have begun (members : List (Member α)) :
      ∀ state,
        startMembers operations members (forget state) =
          ((startMembers detailed members state).1,
            (startMembers detailed members state).2.1,
            forget (startMembers detailed members state).2.2) := by
    induction members with
    | nil =>
        intro state
        rfl
    | cons member rest ih =>
        intro state
        rw [startMembers, startMembers, mirrors.startIfNeeded]
        generalize detailed.startIfNeeded member.appender state = result
        rcases result with ⟨outcome, after⟩
        cases outcome with
        | error message => rfl
        | ok =>
            dsimp only
            rw [ih]
  rw [start, start, begun]

theorem serve_forget
    (mirrors : detailed.Mirrors forget operations)
    (origin : String)
    (delivery : Delivery)
    (members : List (Member α))
    (state : τ) :
    serve operations origin delivery members (forget state) =
      ((serve detailed origin delivery members state).1,
        (serve detailed origin delivery members state).2.1,
        forget (serve detailed origin delivery members state).2.2) := by
  induction members generalizing delivery state with
  | nil => rfl
  | cons member rest ih =>
      rw [serve, serve, mirrors.blocks, mirrors.isStarted]
      by_cases waits : detailed.blocks member.appender state = true
      · rw [if_pos waits, if_pos waits]
      · rw [if_neg waits, if_neg waits]
        cases detailed.isStarted member.appender state with
        | error message => rfl
        | ok started =>
            cases started with
            | true =>
                dsimp only
                rw [member.give_forget mirrors, ih]
            | false =>
                dsimp only
                rw [member.skip_forget mirrors, ih]

theorem deliver_forget
    (mirrors : detailed.Mirrors forget operations)
    (origin : String)
    (delivery : Delivery)
    (roster : Roster α)
    (state : τ) :
    roster.deliver operations origin delivery (forget state) =
      ((roster.deliver detailed origin delivery state).1,
        (roster.deliver detailed origin delivery state).2.1,
        forget (roster.deliver detailed origin delivery state).2.2) := by
  rw [deliver, deliver, serve_forget mirrors]

theorem append_forget
    (mirrors : detailed.Mirrors forget operations)
    (origin : String)
    (event : Event)
    (roster : Roster α)
    (state : τ) :
    roster.append operations origin event (forget state) =
      ((roster.append detailed origin event state).1,
        (roster.append detailed origin event state).2.1,
        forget (roster.append detailed origin event state).2.2) := by
  rw [append, append, deliver_forget mirrors.withoutWaiting]
  generalize roster.deliver detailed.withoutWaiting origin (.start event) state = result
  rcases result with ⟨progress, later, after⟩
  cases progress <;> rfl

theorem flushMember_forget
    (mirrors : detailed.Mirrors forget operations)
    (origin : String)
    (state : τ)
    (member : Member α) :
    flushMember operations origin (forget state) member =
      forget (flushMember detailed origin state member) := by
  rw [flushMember, flushMember, mirrors.flush]
  generalize detailed.flush member.appender state = result
  rcases result with ⟨outcome, after⟩
  dsimp only
  cases outcome.trouble? with
  | none => rfl
  | some trouble =>
      dsimp only
      rw [mirrors.name, mirrors.report]

theorem stopMember_forget
    (mirrors : detailed.Mirrors forget operations)
    (origin : String)
    (state : τ)
    (member : Member α) :
    stopMember operations origin (forget state) member =
      forget (stopMember detailed origin state member) := by
  rw [stopMember, stopMember, mirrors.stop]
  generalize detailed.stop member.appender state = result
  rcases result with ⟨outcome, after⟩
  cases outcome with
  | error message =>
      dsimp only
      rw [mirrors.name, mirrors.report]
  | ok => rfl

theorem stop_forget
    (mirrors : detailed.Mirrors forget operations)
    (origin : String)
    (roster : Roster α)
    (state : τ) :
    roster.stop operations origin (forget state) =
      forget (roster.stop detailed origin state) := by
  have folded
      {plain : σ → Member α → σ}
      {watched : τ → Member α → τ}
      (same :
        ∀ (state : τ) (member : Member α),
          plain (forget state) member = forget (watched state member))
      (state : τ) :
      roster.members.foldl plain (forget state) =
        forget (roster.members.foldl watched state) := by
    induction roster.members generalizing state with
    | nil => rfl
    | cons member rest ih => rw [List.foldl_cons, List.foldl_cons, same, ih]
  rw [stop, stop, flush, flush, folded (flushMember_forget mirrors origin),
    folded (stopMember_forget mirrors origin)]

end Roster

end LogPipeline
