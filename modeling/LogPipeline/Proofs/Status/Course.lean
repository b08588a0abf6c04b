import LogPipeline.Proofs.Status.Retention

/-!
# Courses of a channel of statuses

Statuses are added to a channel, listeners are registered, and the channel is cleared.
If a listener breaks off, the status is not stored, and whoever added it has to live
with that; what is done next is done as if nothing had happened.  So the store has the
statuses whose adding did not break off.
-/

namespace LogPipeline

variable {σ α : Type}

namespace Listeners

section Tell

variable {listeners : Listeners σ α} {listener : α} {status : Status}
variable {state after : σ} {message : String}

theorem tell_cons_of_ok
    (hears : listeners.hear listener status state = (.ok (), after))
    (rest : List α) :
    listeners.tell status (listener :: rest) state =
      listeners.tell status rest after := by
  rw [tell, hears]

theorem tell_cons_of_error
    (hears : listeners.hear listener status state = (.error message, after))
    (rest : List α) :
    listeners.tell status (listener :: rest) state = (.error message, after) := by
  rw [tell, hears]

end Tell

theorem tell_of_calm
    (listeners : Listeners σ α)
    (calm :
      ∀ listener status state,
        (listeners.hear listener status state).1 = .ok ())
    (status : Status)
    (audience : List α)
    (state : σ) :
    (listeners.tell status audience state).1 = .ok () := by
  induction audience generalizing state with
  | nil => rfl
  | cons listener rest ih =>
      rw [tell_cons_of_ok (Prod.ext (calm listener status state) rfl)]
      exact ih _

end Listeners

namespace StatusChannel

/-! ## What is done with a channel -/

/-- What can be done with a channel. -/
inductive Deed (α : Type) where
  | add (status : Status)
  | listen (listener : α)
  | clear
deriving DecidableEq

namespace Deed

/-- The status that is added. -/
def status? : Deed α → Option Status
  | .add status => some status
  | _ => none

/-- The listener that is registered. -/
def listener? : Deed α → Option α
  | .listen listener => some listener
  | _ => none

/-- Whether the channel is cleared. -/
def isClear : Deed α → Bool
  | .clear => true
  | _ => false

end Deed

/-- The statuses that are added. -/
def added (deeds : List (Deed α)) : List Status :=
  deeds.filterMap Deed.status?

/-- The listeners that are registered. -/
def registered (deeds : List (Deed α)) : List α :=
  deeds.filterMap Deed.listener?

theorem added_append (front back : List (Deed α)) :
    added (front ++ back) = added front ++ added back :=
  List.filterMap_append

theorem registered_append (front back : List (Deed α)) :
    registered (front ++ back) = registered front ++ registered back :=
  List.filterMap_append

/-- The statuses that are added after the channel was last cleared, if it was. -/
def addedSinceClear (deeds : List (Deed α)) : List Status :=
  added (deeds.rtakeWhile fun deed => !deed.isClear)

theorem addedSinceClear_add (deeds : List (Deed α)) (status : Status) :
    addedSinceClear (deeds ++ [.add status]) =
      addedSinceClear deeds ++ [status] := by
  rw [addedSinceClear, List.rtakeWhile_concat_pos _ _ _ rfl, added,
    List.filterMap_append]
  rfl

theorem addedSinceClear_listen (deeds : List (Deed α)) (listener : α) :
    addedSinceClear (deeds ++ [.listen listener]) = addedSinceClear deeds := by
  rw [addedSinceClear, List.rtakeWhile_concat_pos _ _ _ rfl, added,
    List.filterMap_append]
  exact List.append_nil _

theorem addedSinceClear_clear (deeds : List (Deed α)) :
    addedSinceClear (deeds ++ [.clear]) = [] := by
  rw [addedSinceClear, List.rtakeWhile_concat_neg _ _ _ Bool.false_ne_true]
  rfl

/-- How something ends that is done with a channel, and what is left then. -/
def act
    (listeners : Listeners σ α)
    (situation : StatusChannel α × σ) :
    Deed α → Guarded Unit × StatusChannel α × σ
  | .add status => situation.1.add listeners status situation.2
  | .listen listener => (.ok (), situation.1.listen listener, situation.2)
  | .clear => (.ok (), situation.1.clear, situation.2)

/-- What is left after one thing after the other, whether or not it broke off. -/
def play
    (listeners : Listeners σ α)
    (situation : StatusChannel α × σ)
    (deeds : List (Deed α)) : StatusChannel α × σ :=
  deeds.foldl (fun between deed => (act listeners between deed).2) situation

/-- The deeds that do not break off. -/
def finished
    (listeners : Listeners σ α)
    (situation : StatusChannel α × σ) :
    List (Deed α) → List (Deed α)
  | [] => []
  | deed :: rest =>
      match act listeners situation deed with
      | (.ok (), after) => deed :: finished listeners after rest
      | (.error _, after) => finished listeners after rest

variable {listeners : Listeners σ α} {channel : StatusChannel α}
variable {status : Status} {state after : σ} {message : String}

theorem add_of_ok
    (tells : listeners.tell status channel.audience state = (.ok (), after)) :
    channel.add listeners status state =
      (.ok (), { channel with store := channel.store.add status }, after) := by
  rw [add, tells]

theorem add_of_error
    (tells :
      listeners.tell status channel.audience state = (.error message, after)) :
    channel.add listeners status state = (.error message, channel, after) := by
  rw [add, tells]

variable (listeners) (situation : StatusChannel α × σ)

theorem act_add_fst (status : Status) :
    (act listeners situation (.add status)).1 =
      (listeners.tell status situation.1.audience situation.2).1 := by
  rw [act, add]
  rcases listeners.tell status situation.1.audience situation.2 with
    ⟨outcome, after⟩
  cases outcome <;> rfl

theorem act_add_state (status : Status) :
    (act listeners situation (.add status)).2.2 =
      (listeners.tell status situation.1.audience situation.2).2 := by
  rw [act, add]
  rcases listeners.tell status situation.1.audience situation.2 with
    ⟨outcome, after⟩
  cases outcome <;> rfl

theorem play_append (front back : List (Deed α)) :
    play listeners situation (front ++ back) =
      play listeners (play listeners situation front) back :=
  List.foldl_append

theorem play_concat (deeds : List (Deed α)) (deed : Deed α) :
    play listeners situation (deeds ++ [deed]) =
      (act listeners (play listeners situation deeds) deed).2 :=
  play_append listeners situation deeds [deed]

theorem finished_append (front back : List (Deed α)) :
    finished listeners situation (front ++ back) =
      finished listeners situation front ++
        finished listeners (play listeners situation front) back := by
  induction front generalizing situation with
  | nil => rfl
  | cons deed rest ih =>
      rw [List.cons_append, finished, finished]
      cases done : act listeners situation deed with
      | mk outcome after =>
          have goesOn :
              play listeners situation (deed :: rest) =
                play listeners after rest := by
            rw [play, List.foldl_cons, done]
            rfl
          rw [goesOn]
          cases outcome with
          | ok => exact congrArg (deed :: ·) (ih after)
          | error => exact ih after

theorem finished_sublist (deeds : List (Deed α)) :
    (finished listeners situation deeds).Sublist deeds := by
  induction deeds generalizing situation with
  | nil => exact .slnil
  | cons deed rest ih =>
      rw [finished]
      split
      · exact (ih _).cons_cons deed
      · exact (ih _).cons deed

/-- If no deed of a course breaks off, then none of its end does. -/
theorem finished_of_finished_append
    {front back : List (Deed α)}
    (whole :
      finished listeners situation (front ++ back) = front ++ back) :
    finished listeners (play listeners situation front) back = back := by
  rw [finished_append] at whole
  have short := (finished_sublist listeners situation front).length_le
  have shortToo :=
    (finished_sublist listeners (play listeners situation front) back).length_le
  have length := congrArg List.length whole
  rw [List.length_append, List.length_append] at length
  exact (List.append_inj whole (by omega)).2

/-- Nothing breaks off where no listener does. -/
theorem finished_of_calm
    (calm :
      ∀ listener status state,
        (listeners.hear listener status state).1 = .ok ())
    (deeds : List (Deed α)) :
    finished listeners situation deeds = deeds := by
  induction deeds generalizing situation with
  | nil => rfl
  | cons deed rest ih =>
      have isDone : (act listeners situation deed).1 = .ok () := by
        cases deed with
        | add status => rw [act_add_fst, listeners.tell_of_calm calm]
        | listen => rfl
        | clear => rfl
      rcases done : act listeners situation deed with ⟨outcome, after⟩
      rw [done] at isDone
      cases isDone
      rw [finished, done]
      exact congrArg (deed :: ·) (ih after)

/-! ## What is stored -/

/-- The store has what was added since it was cleared and did not break off. -/
theorem store_play (state : σ) (deeds : List (Deed α)) :
    (play listeners (.empty, state) deeds).1.store =
      (addedSinceClear (finished listeners (.empty, state) deeds)).foldl
        StatusStore.add .empty := by
  induction deeds using List.reverseRecOn with
  | nil => rfl
  | append_singleton deeds deed ih =>
      rw [play_concat, finished_append]
      generalize play listeners (.empty, state) deeds = situation at ih ⊢
      generalize finished listeners (.empty, state) deeds = earlier at ih ⊢
      cases deed with
      | add status =>
          rcases tells :
              listeners.tell status situation.1.audience situation.2 with
            ⟨outcome, after⟩
          cases outcome with
          | ok =>
              have stored :
                  finished listeners situation [.add status] = [.add status] := by
                rw [finished, act, add_of_ok tells]
                rfl
              rw [act, add_of_ok tells, stored, addedSinceClear_add,
                List.foldl_concat, ← ih]
          | error message =>
              have lost : finished listeners situation [.add status] = [] := by
                rw [finished, act, add_of_error tells]
                rfl
              rw [act, add_of_error tells, lost, List.append_nil]
              exact ih
      | listen listener =>
          have joins :
              finished listeners situation [.listen listener] =
                [.listen listener] :=
            rfl
          rw [joins, addedSinceClear_listen]
          exact ih
      | clear =>
          have clears : finished listeners situation [.clear] = [.clear] := rfl
          rw [clears, addedSinceClear_clear]
          rfl

theorem audience_act (deed : Deed α) :
    (act listeners situation deed).2.1.audience =
      situation.1.audience ++ registered [deed] := by
  cases deed with
  | add status =>
      have unchanged : registered [(.add status : Deed α)] = [] := rfl
      rw [unchanged, List.append_nil]
      rcases tells :
          listeners.tell status situation.1.audience situation.2 with
        ⟨outcome, after⟩
      cases outcome with
      | ok => rw [act, add_of_ok tells]
      | error => rw [act, add_of_error tells]
  | listen => rfl
  | clear => exact (List.append_nil _).symm

theorem audience_play (deeds : List (Deed α)) :
    (play listeners situation deeds).1.audience =
      situation.1.audience ++ registered deeds := by
  induction deeds generalizing situation with
  | nil => exact (List.append_nil _).symm
  | cons deed rest ih =>
      have goesOn :
          play listeners situation (deed :: rest) =
            play listeners (act listeners situation deed).2 rest :=
        rfl
      have registers :
          registered (deed :: rest) = registered [deed] ++ registered rest :=
        registered_append [deed] rest
      rw [goesOn, ih, audience_act, registers, List.append_assoc]

end StatusChannel

end LogPipeline
