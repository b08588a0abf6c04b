import LogPipeline.Proofs.Status.Course

/-!
# What a channel of statuses tells

A status that is added is told to the listeners in the order in which they were
registered.  If one of them breaks off, those behind it are not told.

Listeners are numbered in the order in which they are registered, so it can be seen
what each of them is told from then on: all statuses that are added, as long as no
listener breaks off; and in any case none that was not added, each at most once and
in order, and not less than what is stored.
-/

namespace LogPipeline

variable {σ α : Type}

/-! ## Listeners with numbers -/

/-- A state in which it is known what listeners were told. -/
structure Hall (σ : Type) where
  state : σ
  /-- The numbers of the listeners, and what they were told, in this order. -/
  told : List (Nat × Status)

namespace Hall

/-- A hall where nothing was told yet. -/
def begin (state : σ) : Hall σ :=
  ⟨state, []⟩

/-- What the listener with a number was told, if it was that one. -/
def heardBy? (number : Nat) (call : Nat × Status) : Option Status :=
  if call.1 = number then some call.2 else none

/-- What the listener with a number was told. -/
def toldTo (hall : Hall σ) (number : Nat) : List Status :=
  hall.told.filterMap (heardBy? number)

end Hall

open Hall

/-- Listeners with numbers, where it is seen what they are told. -/
def Listeners.seen (listeners : Listeners σ α) : Listeners (Hall σ) (Nat × α) where
  hear listener status hall :=
    let (outcome, state) := listeners.hear listener.2 status hall.state
    (outcome, ⟨state, hall.told ++ [(listener.1, status)]⟩)

namespace Listeners

section Seen

variable {listeners : Listeners σ α} {listener : Nat × α} {status : Status}
variable {hall : Hall σ} {outcome : Guarded Unit} {after : σ}

theorem hear_seen
    (hears :
      listeners.hear listener.2 status hall.state = (outcome, after)) :
    listeners.seen.hear listener status hall =
      (outcome, ⟨after, hall.told ++ [(listener.1, status)]⟩) := by
  have asks :
      listeners.seen.hear listener status hall =
        ((listeners.hear listener.2 status hall.state).1,
          ⟨(listeners.hear listener.2 status hall.state).2,
            hall.told ++ [(listener.1, status)]⟩) :=
    rfl
  rw [asks, hears]

variable (listeners status hall)

/-- Nothing is told in another way because it is seen. -/
theorem tell_seen (audience : List (Nat × α)) :
    listeners.tell status (audience.map Prod.snd) hall.state =
      ((listeners.seen.tell status audience hall).1,
        (listeners.seen.tell status audience hall).2.state) := by
  induction audience generalizing hall with
  | nil => rfl
  | cons listener rest ih =>
      rw [List.map_cons]
      rcases hears : listeners.hear listener.2 status hall.state with
        ⟨outcome, after⟩
      cases outcome with
      | ok =>
          rw [tell_cons_of_ok hears, tell_cons_of_ok (hear_seen hears)]
          exact ih ⟨after, _⟩
      | error message =>
          rw [tell_cons_of_error hears, tell_cons_of_error (hear_seen hears)]

/-- The first listeners are told a status, and all of them if none breaks off. -/
theorem exists_reached (audience : List (Nat × α)) :
    ∃ reached,
      reached <+: audience ∧
        (listeners.seen.tell status audience hall).2.told =
          hall.told ++ reached.map (fun listener => (listener.1, status)) ∧
        ((listeners.seen.tell status audience hall).1 = .ok () →
          reached = audience) := by
  induction audience generalizing hall with
  | nil =>
      exact ⟨[], List.prefix_refl _, (List.append_nil _).symm, fun _ => rfl⟩
  | cons listener rest ih =>
      rcases hears : listeners.hear listener.2 status hall.state with
        ⟨outcome, after⟩
      cases outcome with
      | ok =>
          rw [tell_cons_of_ok (hear_seen hears)]
          rcases ih ⟨after, hall.told ++ [(listener.1, status)]⟩ with
            ⟨reached, isPrefix, told, all⟩
          refine ⟨listener :: reached, ?_, ?_, ?_⟩
          · exact List.cons_prefix_cons.mpr ⟨rfl, isPrefix⟩
          · rw [told, List.append_assoc]
            rfl
          · intro isDone
            rw [all isDone]
      | error message =>
          rw [tell_cons_of_error (hear_seen hears)]
          refine ⟨[listener], ?_, rfl, ?_⟩
          · exact List.cons_prefix_cons.mpr ⟨rfl, List.nil_prefix⟩
          · intro isDone
            cases isDone

variable {listeners status hall}

/-- Among different listeners a number is told a status once, if it is among theirs. -/
theorem filterMap_heardBy?
    {number : Nat}
    {reached : List (Nat × α)}
    (distinct : (reached.map Prod.fst).Nodup)
    (status : Status) :
    (reached.map fun listener => (listener.1, status)).filterMap
        (heardBy? number) =
      if number ∈ reached.map Prod.fst then [status] else [] := by
  induction reached with
  | nil => rfl
  | cons listener rest ih =>
      rw [List.map_cons, List.nodup_cons] at distinct
      have later := ih distinct.2
      by_cases isThis : listener.1 = number
      · have notLater : number ∉ rest.map Prod.fst := isThis ▸ distinct.1
        have hears : heardBy? number (listener.1, status) = some status :=
          if_pos isThis
        rw [if_neg notLater] at later
        rw [List.map_cons, List.filterMap_cons_some hears, later, List.map_cons,
          if_pos (isThis ▸ List.mem_cons_self)]
      · have silent : heardBy? number (listener.1, status) = none :=
          if_neg isThis
        rw [List.map_cons, List.filterMap_cons_none silent, later, List.map_cons]
        simp only [List.mem_cons, Ne.symm isThis, false_or]

/-- A listener is told a status once at most, and once if none breaks off. -/
theorem exists_heard
    {audience : List (Nat × α)}
    {number : Nat}
    (distinct : (audience.map Prod.fst).Nodup)
    (isRegistered : number ∈ audience.map Prod.fst) :
    ∃ heard,
      (listeners.seen.tell status audience hall).2.toldTo number =
          hall.toldTo number ++ heard ∧
        heard.Sublist [status] ∧
        ((listeners.seen.tell status audience hall).1 = .ok () →
          heard = [status]) := by
  rcases exists_reached listeners status hall audience with
    ⟨reached, isPrefix, told, all⟩
  have distinctReached : (reached.map Prod.fst).Nodup :=
    distinct.sublist (isPrefix.map Prod.fst).sublist
  refine ⟨if number ∈ reached.map Prod.fst then [status] else [], ?_, ?_, ?_⟩
  · rw [toldTo, told, List.filterMap_append, filterMap_heardBy? distinctReached]
    rfl
  · split
    · exact .refl _
    · exact List.nil_sublist _
  · intro isDone
    rw [all isDone, if_pos isRegistered]

end Seen

end Listeners

namespace StatusChannel

/-! ## Courses that are seen -/

/-- A deed where a listener that is registered has a number. -/
def Deed.number (number : Nat) : Deed α → Deed (Nat × α)
  | .add status => .add status
  | .listen listener => .listen (number, listener)
  | .clear => .clear

/-- What can be told of a channel whose listeners have numbers. -/
def plain (situation : StatusChannel (Nat × α) × Hall σ) : StatusChannel α × σ :=
  (⟨situation.1.store, situation.1.audience.map Prod.snd⟩, situation.2.state)

/--
How something ends, and what is left then, where it is seen what listeners are told.
A listener that is registered gets the next number.
-/
def watchAct
    (listeners : Listeners σ α)
    (situation : StatusChannel (Nat × α) × Hall σ)
    (deed : Deed α) : Guarded Unit × StatusChannel (Nat × α) × Hall σ :=
  act listeners.seen situation (deed.number situation.1.audience.length)

/-- What is left after one thing after the other, where that is seen. -/
def watch
    (listeners : Listeners σ α)
    (situation : StatusChannel (Nat × α) × Hall σ)
    (deeds : List (Deed α)) : StatusChannel (Nat × α) × Hall σ :=
  deeds.foldl (fun between deed => (watchAct listeners between deed).2) situation

variable (listeners : Listeners σ α)
variable (situation : StatusChannel (Nat × α) × Hall σ)

/-- Nothing is done in another way because it is seen. -/
theorem act_plain (deed : Deed α) :
    act listeners (plain situation) deed =
      ((watchAct listeners situation deed).1,
        plain (watchAct listeners situation deed).2) := by
  cases deed with
  | add status =>
      have tells :=
        listeners.tell_seen status situation.2 situation.1.audience
      rcases seen :
          listeners.seen.tell status situation.1.audience situation.2 with
        ⟨outcome, after⟩
      rw [seen] at tells
      have isAdd :
          watchAct listeners situation (.add status) =
            situation.1.add listeners.seen status situation.2 :=
        rfl
      rw [act, isAdd]
      cases outcome with
      | ok =>
          rw [add_of_ok seen]
          exact add_of_ok tells
      | error message =>
          rw [add_of_error seen]
          exact add_of_error tells
  | listen listener =>
      have joins :
          plain (watchAct listeners situation (.listen listener)).2 =
            ((plain situation).1.listen listener, (plain situation).2) := by
        rw [watchAct, Deed.number, act, plain, listen, List.map_append]
        rfl
      rw [joins]
      rfl
  | clear => rfl

theorem play_plain (deeds : List (Deed α)) :
    play listeners (plain situation) deeds =
      plain (watch listeners situation deeds) := by
  induction deeds generalizing situation with
  | nil => rfl
  | cons deed rest ih =>
      have goesOn :
          play listeners (plain situation) (deed :: rest) =
            play listeners (act listeners (plain situation) deed).2 rest :=
        rfl
      rw [goesOn, act_plain]
      exact ih _

theorem watch_append (front back : List (Deed α)) :
    watch listeners situation (front ++ back) =
      watch listeners (watch listeners situation front) back :=
  List.foldl_append

/-- Listeners have their places as numbers, and nobody else was told anything. -/
structure Numbered (situation : StatusChannel (Nat × α) × Hall σ) : Prop where
  numbers :
    situation.1.audience.map Prod.fst = .range situation.1.audience.length
  told : ∀ call ∈ situation.2.told, call.1 < situation.1.audience.length

variable {listeners} {situation}

theorem Numbered.nodup (isNumbered : Numbered situation) :
    (situation.1.audience.map Prod.fst).Nodup :=
  isNumbered.numbers ▸ List.nodup_range

theorem Numbered.mem
    {number : Nat}
    (isNumbered : Numbered situation)
    (inRange : number < situation.1.audience.length) :
    number ∈ situation.1.audience.map Prod.fst :=
  isNumbered.numbers ▸ List.mem_range.mpr inRange

/-- Who is not registered was not told anything. -/
theorem Numbered.toldTo_length (isNumbered : Numbered situation) :
    situation.2.toldTo situation.1.audience.length = [] := by
  rw [toldTo, List.filterMap_eq_nil_iff]
  intro call inside
  exact if_neg (Nat.ne_of_lt (isNumbered.told call inside))

theorem Numbered.act
    (isNumbered : Numbered situation)
    (deed : Deed α) :
    Numbered (watchAct listeners situation deed).2 := by
  have audience :=
    audience_act listeners.seen situation
      (deed.number situation.1.audience.length)
  rw [watchAct]
  cases deed with
  | add status =>
      have unchanged :
          (StatusChannel.act listeners.seen situation
              (.add status)).2.1.audience =
            situation.1.audience :=
        audience.trans (List.append_nil _)
      rw [Deed.number]
      constructor
      · rw [unchanged]
        exact isNumbered.numbers
      · rw [unchanged, act_add_state]
        rcases
            listeners.exists_reached status situation.2 situation.1.audience with
          ⟨reached, isPrefix, told, _⟩
        rw [told]
        intro call inside
        rcases List.mem_append.mp inside with before | last
        · exact isNumbered.told call before
        · rcases List.mem_map.mp last with ⟨listener, isReached, rfl⟩
          have isRegistered :
              listener.1 ∈ situation.1.audience.map Prod.fst :=
            List.mem_map_of_mem (isPrefix.subset isReached)
          rw [isNumbered.numbers] at isRegistered
          exact List.mem_range.mp isRegistered
  | listen listener =>
      constructor
      · rw [audience, List.map_append, isNumbered.numbers, List.length_append]
        exact List.range_succ.symm
      · rw [audience, List.length_append]
        intro call inside
        exact Nat.lt_add_right _ (isNumbered.told call inside)
  | clear => exact ⟨isNumbered.numbers, isNumbered.told⟩

theorem Numbered.watch
    (isNumbered : Numbered situation)
    (deeds : List (Deed α)) :
    Numbered (watch listeners situation deeds) := by
  induction deeds generalizing situation with
  | nil => exact isNumbered
  | cons deed rest ih => exact ih (isNumbered.act deed)

/-! ## What a listener is told in a course -/

variable (listeners) in
/-- A listener is told what is added by a deed, if that does not break off. -/
theorem Numbered.exists_heard
    {number : Nat}
    (isNumbered : Numbered situation)
    (inRange : number < situation.1.audience.length)
    (deed : Deed α) :
    ∃ heard,
      (watchAct listeners situation deed).2.2.toldTo number =
          situation.2.toldTo number ++ heard ∧
        heard.Sublist (added [deed]) ∧
        ((watchAct listeners situation deed).1 = .ok () →
          heard = added [deed]) := by
  cases deed with
  | add status =>
      rw [watchAct, Deed.number, act_add_state, act_add_fst]
      exact Listeners.exists_heard isNumbered.nodup (isNumbered.mem inRange)
  | listen listener =>
      exact ⟨[], (List.append_nil _).symm, .slnil, fun _ => rfl⟩
  | clear => exact ⟨[], (List.append_nil _).symm, .slnil, fun _ => rfl⟩

/-- What a listener is told lies between what is stored and what is added. -/
theorem Numbered.told_between
    {number : Nat}
    (isNumbered : Numbered situation)
    (inRange : number < situation.1.audience.length)
    (deeds : List (Deed α)) :
    ∃ heard,
      (StatusChannel.watch listeners situation deeds).2.toldTo number =
          situation.2.toldTo number ++ heard ∧
        (added (finished listeners (plain situation) deeds)).Sublist heard ∧
        heard.Sublist (added deeds) := by
  induction deeds generalizing situation with
  | nil => exact ⟨[], (List.append_nil _).symm, .slnil, .slnil⟩
  | cons deed rest ih =>
      have stays :
          number < (watchAct listeners situation deed).2.1.audience.length := by
        rw [watchAct, audience_act, List.length_append]
        exact Nat.lt_add_right _ inRange
      rcases isNumbered.exists_heard listeners inRange deed with
        ⟨heard, tells, atMost, exactly⟩
      rcases ih (isNumbered.act deed) stays with
        ⟨later, tellsLater, stored, offered⟩
      have all : added (deed :: rest) = added [deed] ++ added rest :=
        added_append [deed] rest
      refine ⟨heard ++ later, ?_, ?_, ?_⟩
      · rw [← List.append_assoc, ← tells, ← tellsLater]
        rfl
      · rw [finished, act_plain]
        rcases watched : watchAct listeners situation deed with ⟨outcome, after⟩
        rw [watched] at exactly stored
        cases outcome with
        | ok =>
            have whole := added_append [deed] (finished listeners (plain after) rest)
            rw [exactly rfl]
            dsimp only
            rw [← List.singleton_append, whole]
            exact (List.Sublist.refl _).append stored
        | error message =>
            exact stored.trans (List.sublist_append_right _ _)
      · rw [all]
        exact atMost.append offered

/-- It is the same with a listener that joins in, who was told nothing before. -/
theorem Numbered.told_since
    (isNumbered : Numbered situation)
    (listener : α)
    (after : List (Deed α)) :
    let heard :=
      (StatusChannel.watch listeners situation
        (.listen listener :: after)).2.toldTo situation.1.audience.length
    let joined :=
      (StatusChannel.act listeners (plain situation) (.listen listener)).2
    (added (finished listeners joined after)).Sublist heard ∧
      heard.Sublist (added after) := by
  intro heard joined
  have joins :
      situation.1.audience.length <
        (watchAct listeners situation
          (.listen listener)).2.1.audience.length := by
    rw [watchAct, audience_act, List.length_append]
    exact Nat.lt_succ_self _
  rcases (isNumbered.act (.listen listener)).told_between joins after with
    ⟨later, tells, stored, offered⟩
  have fresh :
      (watchAct listeners situation (.listen listener)).2.2.toldTo
          situation.1.audience.length =
        [] :=
    isNumbered.toldTo_length
  have isHeard : heard = later := by
    rw [fresh] at tells
    exact tells
  have isJoined :
      joined = plain (watchAct listeners situation (.listen listener)).2 :=
    congrArg Prod.snd (act_plain listeners situation _)
  rw [isHeard, isJoined]
  exact ⟨stored, offered⟩

variable (listeners) (state : σ)

theorem numbered_begin :
    Numbered ((.empty, .begin state) : StatusChannel (Nat × α) × Hall σ) where
  numbers := rfl
  told call inside := by cases inside

theorem length_audience_watch (deeds : List (Deed α)) :
    (watch listeners (.empty, .begin state) deeds).1.audience.length =
      (registered deeds).length := by
  have same := play_plain listeners (.empty, .begin state) deeds
  have audience :=
    audience_play listeners (plain (.empty, .begin state)) deeds
  rw [same] at audience
  have length := congrArg List.length audience
  rw [plain, List.length_map] at length
  exact length

theorem told_after
    (before after : List (Deed α))
    (listener : α) :
    let heard :=
      (watch listeners (.empty, .begin state)
        (before ++ .listen listener :: after)).2.toldTo (registered before).length
    let joined := play listeners (.empty, state) (before ++ [.listen listener])
    (added (finished listeners joined after)).Sublist heard ∧
      heard.Sublist (added after) := by
  have same :
      play listeners (.empty, state) before =
        plain (watch listeners (.empty, .begin state) before) :=
    play_plain listeners (.empty, .begin state) before
  rw [watch_append, play_concat, same, ← length_audience_watch listeners state]
  exact ((numbered_begin state).watch before).told_since listener after

/-! ## Everything a channel tells -/

/-- What is true of a channel after everything that was done with it. -/
structure Faithful
    (listeners : Listeners σ α)
    (state : σ)
    (deeds : List (Deed α)) : Prop where
  /-- Nothing is done in another way because it is seen. -/
  same :
    play listeners (.empty, state) deeds =
      plain (watch listeners (.empty, .begin state) deeds)
  /-- The store retains what was added by deeds that did not break off. -/
  retains :
    (play listeners (.empty, state) deeds).1.store.Retains
      (addedSinceClear (finished listeners (.empty, state) deeds))
  audience :
    (play listeners (.empty, state) deeds).1.audience = registered deeds
  /--
  What a listener was told is part of what was added after it was registered, and
  all of that whose adding did not break off is part of it.
  -/
  told :
    ∀ before listener after,
      deeds = before ++ .listen listener :: after →
        let heard :=
          (watch listeners (.empty, .begin state) deeds).2.toldTo
            (registered before).length
        let joined :=
          play listeners (.empty, state) (before ++ [.listen listener])
        (added (finished listeners joined after)).Sublist heard ∧
          heard.Sublist (added after)
  /-- If nothing broke off, that is exactly what was added. -/
  toldAll :
    finished listeners (.empty, state) deeds = deeds →
      ∀ before listener after,
        deeds = before ++ .listen listener :: after →
          (watch listeners (.empty, .begin state) deeds).2.toldTo
              (registered before).length =
            added after
  /-- Nothing breaks off where no listener does. -/
  undisturbed :
    (∀ listener status state,
        (listeners.hear listener status state).1 = .ok ()) →
      finished listeners (.empty, state) deeds = deeds

/-- A channel is faithful to its listeners, whatever is done with it. -/
theorem faithful_play (deeds : List (Deed α)) :
    Faithful listeners state deeds where
  same := play_plain listeners (.empty, .begin state) deeds
  retains := by
    rw [store_play]
    exact StatusStore.retains_foldl _
  audience := audience_play listeners (.empty, state) deeds
  told before listener after split := by
    subst split
    exact told_after listeners state before after listener
  toldAll whole before listener after split := by
    subst split
    rcases told_after listeners state before after listener with
      ⟨stored, offered⟩
    rw [List.append_cons] at whole
    rw [finished_of_finished_append listeners (.empty, state) whole] at stored
    exact offered.antisymm stored
  undisturbed calm := finished_of_calm listeners (.empty, state) calm deeds

/-- The second of three listeners breaks off, so the third is told nothing. -/
example :
    let listeners : Listeners Unit Bool :=
      ⟨fun isCalm _ state => (if isCalm then .ok () else .error "no", state)⟩
    let status := Status.error "test" "trouble"
    let deeds := [.listen true, .listen false, .listen true, .add status]
    let seen := watch listeners (.empty, .begin ()) deeds
    seen.1.store = .empty ∧ seen.2.told = [(0, status), (1, status)] := by
  decide +kernel

end StatusChannel

end LogPipeline
