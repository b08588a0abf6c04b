import LogPipeline.Proofs.Status.Course
import LogPipeline.Status.Journal

/-!
# What a journal retains

A journal retains the first statuses since it was last cleared and, of the
others, the last ones.  Its listeners never break off: they hear of all statuses
from the time they are registered, also of those that are not retained and across
times when the journal is cleared.
-/

namespace LogPipeline

open StatusChannel

/-! ## Listeners -/

namespace StatusListener

/-- A listener that heard more statuses. -/
def hearAll (listener : StatusListener) (statuses : List Status) : StatusListener :=
  statuses.foldl hear listener

/-- A recorder remembers what it heard behind what it remembered before. -/
theorem hearAll_recorder (heard : Trail Status) (statuses : List Status) :
    ∃ later : Trail Status,
      (recorder heard).hearAll statuses = recorder later ∧
        later.toList = heard.toList ++ statuses := by
  induction statuses generalizing heard with
  | nil => exact ⟨heard, rfl, (List.append_nil _).symm⟩
  | cons status rest ih =>
      rcases ih (heard.push status) with ⟨later, isLater, remembers⟩
      refine ⟨later, isLater, ?_⟩
      rw [remembers, Trail.toList_push, List.append_assoc, List.singleton_append]

@[simp]
theorem echo?_hear (listener : StatusListener) (heard status : Status) :
    (listener.hear heard).echo? status = listener.echo? status := by
  cases listener <;> rfl

end StatusListener

/-! ## Listeners at their places -/

namespace Hearing

variable {done rest : List StatusListener} {listener : StatusListener}
variable {echoed : Trail String}

theorem modify_length
    (done rest : List StatusListener)
    (listener : StatusListener)
    (change : StatusListener → StatusListener) :
    (done ++ listener :: rest).modify done.length change =
      done ++ change listener :: rest := by
  induction done with
  | nil => rfl
  | cons first others ih => exact congrArg (first :: ·) ih

/-- The listener behind those that heard a status hears of it. -/
theorem hear_length (status : Status) :
    hear done.length status ⟨done ++ listener :: rest, echoed⟩ =
      ⟨done ++ listener.hear status :: rest,
        echoed.pushAll (listener.echo? status).toList⟩ := by
  have found : (done ++ listener :: rest)[done.length]? = some listener := by
    rw [List.getElem?_append_right (Nat.le_refl _), Nat.sub_self]
    rfl
  rw [hear, modify_length, found, Option.bind_some]
  cases listener.echo? status <;> rfl

/-- All listeners behind those that heard a status hear of it. -/
theorem tell_range'
    (done rest : List StatusListener)
    (echoed : Trail String)
    (status : Status) :
    operations.tell status (.range' done.length rest.length)
        ⟨done ++ rest, echoed⟩ =
      (.ok (),
        ⟨done ++ rest.map fun listener => listener.hear status,
          echoed.pushAll
            (rest.filterMap fun listener => listener.echo? status)⟩) := by
  induction rest generalizing done echoed with
  | nil => rfl
  | cons listener rest ih =>
      have hears :
          operations.hear done.length status ⟨done ++ listener :: rest, echoed⟩ =
            (.ok (),
              ⟨(done ++ [listener.hear status]) ++ rest,
                echoed.pushAll (listener.echo? status).toList⟩) := by
        rw [List.append_assoc]
        exact Prod.ext rfl (hear_length status)
      have next : done.length + 1 = (done ++ [listener.hear status]).length := by
        rw [List.length_append]
        rfl
      rw [List.length_cons, List.range'_succ, Listeners.tell_cons_of_ok hears, next,
        ih, List.append_assoc, List.filterMap_cons]
      cases listener.echo? status <;> rfl

theorem tell_range (hearing : Hearing) (status : Status) :
    operations.tell status (.range hearing.listeners.length) hearing =
      (.ok (),
        ⟨hearing.listeners.map fun listener => listener.hear status,
          hearing.echoed.pushAll
            (hearing.listeners.filterMap fun listener =>
              listener.echo? status)⟩) := by
  rw [List.range_eq_range']
  exact tell_range' [] hearing.listeners hearing.echoed status

end Hearing

namespace Journal

/-! ## What is done with a journal -/

theorem add_eq (journal : Journal) (status : Status) :
    journal.add status =
      ⟨journal.toStatusStore.add status,
        ⟨journal.listeners.map fun listener => listener.hear status,
          journal.echoed.pushAll
            (journal.listeners.filterMap fun listener =>
              listener.echo? status)⟩⟩ := by
  have tells :
      Hearing.operations.tell status journal.channel.audience journal.toHearing =
        _ :=
    Hearing.tell_range journal.toHearing status
  rw [add, add_of_ok tells]
  rfl

/-- A listener that is registered gets the next place. -/
theorem channel_listen (journal : Journal) (listener : StatusListener) :
    (journal.listen listener).channel =
      journal.channel.listen journal.listeners.length := by
  rw [channel, listen, List.length_append, List.length_singleton,
    List.range_succ]
  rfl

/-- What can be done with a journal. -/
abbrev Deed := StatusChannel.Deed StatusListener

/-- The journal after something was done with it. -/
def act (journal : Journal) : Deed → Journal
  | .add status => journal.add status
  | .listen listener => journal.listen listener
  | .clear => journal.clear

/-- The journal after one thing after the other was done with it. -/
def run (journal : Journal) (deeds : List Deed) : Journal :=
  deeds.foldl act journal

@[simp]
theorem run_cons (journal : Journal) (deed : Deed) (rest : List Deed) :
    journal.run (deed :: rest) = (journal.act deed).run rest :=
  rfl

theorem run_concat (journal : Journal) (deeds : List Deed) (deed : Deed) :
    journal.run (deeds ++ [deed]) = (journal.run deeds).act deed := by
  rw [run, List.foldl_concat]
  rfl

theorem store_run (deeds : List Deed) :
    (empty.run deeds).toStatusStore =
      (addedSinceClear deeds).foldl StatusStore.add .empty := by
  induction deeds using List.reverseRecOn with
  | nil => rfl
  | append_singleton deeds deed ih =>
      rw [run_concat]
      cases deed with
      | add status =>
          rw [addedSinceClear_add, List.foldl_concat, ← ih, act, add_eq]
      | listen listener =>
          rw [addedSinceClear_listen]
          exact ih
      | clear =>
          rw [addedSinceClear_clear]
          rfl

/-! ## What is heard -/

/-- The listeners that are registered, each with what was added after it was. -/
def attending : List Deed → List StatusListener
  | [] => []
  | .listen listener :: rest => listener.hearAll (added rest) :: attending rest
  | _ :: rest => attending rest

/-- The lines by which some listeners and those who join them repeat what is added. -/
def echoes : List StatusListener → List Deed → List String
  | _, [] => []
  | listeners, .add status :: rest =>
      (listeners.filterMap fun listener => listener.echo? status) ++
        echoes listeners rest
  | listeners, .listen listener :: rest => echoes (listeners ++ [listener]) rest
  | listeners, .clear :: rest => echoes listeners rest

/-- What listeners heard before makes no difference to what they repeat. -/
theorem echoes_hear
    (listeners : List StatusListener)
    (status : Status)
    (deeds : List Deed) :
    echoes (listeners.map fun listener => listener.hear status) deeds =
      echoes listeners deeds := by
  -- Those who join in have not heard the status, so they stand apart.
  have apart (joined : List StatusListener) :
      echoes ((listeners.map fun listener => listener.hear status) ++ joined) deeds =
        echoes (listeners ++ joined) deeds := by
    induction deeds generalizing joined with
    | nil => rfl
    | cons deed rest ih =>
        cases deed with
        | add other =>
            rw [echoes, echoes, ih, List.filterMap_append, List.filterMap_append,
              List.filterMap_map]
            simp only [Function.comp_def, StatusListener.echo?_hear]
        | listen listener =>
            rw [echoes, echoes, List.append_assoc, List.append_assoc]
            exact ih _
        | clear => exact ih joined
  have alone := apart []
  rwa [List.append_nil, List.append_nil] at alone

theorem listeners_run (journal : Journal) (deeds : List Deed) :
    (journal.run deeds).listeners =
      (journal.listeners.map fun listener => listener.hearAll (added deeds)) ++
        attending deeds := by
  induction deeds generalizing journal with
  | nil =>
      rw [attending, List.append_nil]
      exact (List.map_id _).symm
  | cons deed rest ih =>
      rw [run_cons, ih]
      cases deed with
      | add status =>
          rw [act, add_eq, List.map_map]
          rfl
      | listen listener =>
          have joined :
              (journal.act (.listen listener)).listeners =
                journal.listeners ++ [listener] :=
            rfl
          rw [joined, List.map_append, List.append_assoc]
          rfl
      | clear => rfl

theorem echoed_run (journal : Journal) (deeds : List Deed) :
    (journal.run deeds).echoed.toList =
      journal.echoed.toList ++ echoes journal.listeners deeds := by
  induction deeds generalizing journal with
  | nil => exact (List.append_nil _).symm
  | cons deed rest ih =>
      rw [run_cons, ih]
      cases deed with
      | add status =>
          rw [act, add_eq, Trail.toList_pushAll, echoes_hear, List.append_assoc]
          rfl
      | listen listener => rfl
      | clear => rfl

theorem length_attending (deeds : List Deed) :
    (attending deeds).length = (registered deeds).length := by
  induction deeds with
  | nil => rfl
  | cons deed rest ih =>
      cases deed with
      | add => exact ih
      | listen => exact congrArg (· + 1) ih
      | clear => exact ih

theorem attending_append_listen
    (before after : List Deed)
    (listener : StatusListener) :
    (attending (before ++ .listen listener :: after))[(registered before).length]? =
      some (listener.hearAll (added after)) := by
  induction before with
  | nil => rfl
  | cons deed rest ih =>
      cases deed with
      | add => exact ih
      | listen => exact ih
      | clear => exact ih

/-! ## Everything a journal tells -/

/-- What a journal tells after everything that was done with it. -/
structure Retained (deeds : List Deed) (journal : Journal) : Prop
    extends StatusStore.Retains journal.toStatusStore (addedSinceClear deeds) where
  listeners : journal.listeners.length = (registered deeds).length
  /-- A recorder remembers all that was added after it was registered. -/
  recorded :
    ∀ before heard after,
      deeds = before ++ .listen (.recorder heard) :: after →
        ∃ later : Trail Status,
          journal.listeners[(registered before).length]? =
              some (.recorder later) ∧
            later.toList = heard.toList ++ added after
  /-- Whatever is added, those who repeat it do so once and in their order. -/
  repeated : journal.echoed.toList = echoes [] deeds

/-- The first and the last statuses are retained whatever is done with a journal. -/
theorem retained_run (deeds : List Deed) :
    Retained deeds (empty.run deeds) where
  toRetains := by
    rw [store_run]
    exact StatusStore.retains_foldl _
  listeners := by
    rw [listeners_run]
    exact length_attending deeds
  recorded before remembered after split := by
    subst split
    rcases StatusListener.hearAll_recorder remembered (added after) with
      ⟨later, isLater, remembers⟩
    refine ⟨later, ?_, remembers⟩
    have heard :
        (empty.run (before ++ .listen (.recorder remembered) :: after)).listeners =
          attending (before ++ .listen (.recorder remembered) :: after) :=
      listeners_run empty _
    rw [heard, attending_append_listen, isLater]
  repeated := echoed_run empty deeds

end Journal

end LogPipeline
