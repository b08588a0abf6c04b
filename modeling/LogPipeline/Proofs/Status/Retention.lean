import LogPipeline.Proofs.RingBuffer.History
import LogPipeline.Status.Channel

/-!
# What a store of statuses retains

A store retains the first statuses it is given and, of the others, the last ones.
What it does not retain still counts, and its level is not forgotten.
-/

namespace LogPipeline

/-! ## The end of a growing list -/

/-- A buffer that holds the end of a list holds the end of the longer list. -/
theorem RingBuffer.items_add_of_rtake
    {α : Type}
    {buffer : RingBuffer α}
    {items : List α}
    (holds : buffer.items = items.rtake buffer.capacity)
    (item : α) :
    (buffer.add item).items = (items ++ [item]).rtake buffer.capacity := by
  rw [items_add, holds, newest_rtake_concat, Nat.min_eq_right (Nat.le_succ _)]

/-! ## Levels -/

namespace StatusLevel

@[simp]
theorem atLeast_iff {level minimum : StatusLevel} :
    level.atLeast minimum = true ↔ minimum.rank ≤ level.rank := by
  rw [atLeast, decide_eq_true_eq]

theorem worse_eq_or (first second : StatusLevel) :
    first.worse second = first ∨ first.worse second = second := by
  rw [worse]
  split
  · exact Or.inr rfl
  · exact Or.inl rfl

theorem rank_worse (first second : StatusLevel) :
    (first.worse second).rank = max first.rank second.rank := by
  rw [worse]
  split <;> omega

/-- The highest level of some statuses; it is the lowest of all if there are none. -/
structure IsHighest (level : StatusLevel) (statuses : List Status) : Prop where
  lowest : statuses = [] → level = .info
  reached : statuses ≠ [] → ∃ status ∈ statuses, status.level = level
  bounds : ∀ status ∈ statuses, level.atLeast status.level = true

theorem isHighest_nil : IsHighest .info [] := by
  refine ⟨fun _ => rfl, fun some => absurd rfl some, ?_⟩
  intro status member
  cases member

theorem IsHighest.concat
    {level : StatusLevel}
    {statuses : List Status}
    (highest : level.IsHighest statuses)
    (status : Status) :
    (level.worse status.level).IsHighest (statuses ++ [status]) := by
  have rank := rank_worse level status.level
  constructor
  · intro empty
    cases List.append_ne_nil_of_right_ne_nil _ (List.cons_ne_nil _ _) empty
  · intro _
    rcases worse_eq_or level status.level with same | same
    · by_cases some : statuses = []
      · -- A lone status is at least at the lowest level.
        have equal : status.level = level := by
          rw [highest.lowest some] at same ⊢
          revert same
          cases status.level <;> decide
        exact ⟨status, List.mem_concat_self, equal.trans same.symm⟩
      · rcases highest.reached some with ⟨other, member, equal⟩
        exact ⟨other, List.mem_append_left _ member, equal.trans same.symm⟩
    · exact ⟨status, List.mem_concat_self, same.symm⟩
  · intro other member
    rw [atLeast_iff, rank]
    rcases List.mem_append.mp member with before | last
    · have bound := atLeast_iff.mp (highest.bounds other before)
      omega
    · rw [List.mem_singleton.mp last]
      exact Nat.le_max_right ..

end StatusLevel

namespace StatusStore

/-! ## What is retained -/

/-- A store to which some statuses were added since it was empty. -/
structure Keeps (store : StatusStore) (statuses : List Status) : Prop where
  header : store.header = statuses.take headerSize
  capacity : store.tail.capacity = tailSize
  tail : store.tail.items = (statuses.drop headerSize).rtake tailSize
  count : store.count = statuses.length
  worst : store.worst.IsHighest statuses

theorem keeps_empty : empty.Keeps [] :=
  ⟨rfl, rfl, rfl, rfl, StatusLevel.isHighest_nil⟩

variable {store : StatusStore} {statuses : List Status}

theorem Keeps.add (keeps : store.Keeps statuses) (status : Status) :
    (store.add status).Keeps (statuses ++ [status]) := by
  have count : store.count + 1 = (statuses ++ [status]).length := by
    rw [keeps.count, List.length_append]
    rfl
  have worst := keeps.worst.concat status
  rw [StatusStore.add]
  by_cases room : store.header.length < headerSize
  · have short : statuses.length < headerSize := by
      rw [keeps.header, List.length_take] at room
      omega
    rw [if_pos room]
    refine ⟨?_, keeps.capacity, ?_, count, worst⟩
    · have before : statuses.take headerSize = statuses :=
        List.take_of_length_le (Nat.le_of_lt short)
      have after : (statuses ++ [status]).take headerSize = statuses ++ [status] := by
        apply List.take_of_length_le
        rw [List.length_append]
        exact short
      rw [after, keeps.header, before]
    · have before : statuses.drop headerSize = [] :=
        List.drop_eq_nil_of_le (Nat.le_of_lt short)
      have after : (statuses ++ [status]).drop headerSize = [] := by
        apply List.drop_eq_nil_of_le
        rw [List.length_append]
        exact short
      rw [after, ← before]
      exact keeps.tail
  · have long : headerSize ≤ statuses.length := by
      rw [keeps.header, List.length_take] at room
      omega
    rw [if_neg room]
    refine ⟨?_, keeps.capacity, ?_, count, worst⟩
    · rw [List.take_append_of_le_length long]
      exact keeps.header
    · have holds := keeps.tail
      rw [← keeps.capacity] at holds ⊢
      rw [List.drop_append_of_le_length long]
      exact RingBuffer.items_add_of_rtake holds status

/-- A store to which statuses are added one after the other. -/
theorem keeps_foldl (statuses : List Status) :
    (statuses.foldl StatusStore.add empty).Keeps statuses := by
  induction statuses using List.reverseRecOn with
  | nil => exact keeps_empty
  | append_singleton statuses status ih =>
      rw [List.foldl_concat]
      exact ih.add status

theorem Keeps.statuses_eq (keeps : store.Keeps statuses) :
    store.statuses =
      statuses.take headerSize ++ (statuses.drop headerSize).rtake tailSize := by
  rw [StatusStore.statuses, keeps.header, keeps.tail]

/-- The order of the statuses is kept, and none comes twice. -/
theorem Keeps.statuses_sublist (keeps : store.Keeps statuses) :
    store.statuses.Sublist statuses := by
  have whole := List.take_append_drop headerSize statuses
  have part :
      (statuses.take headerSize ++
          (statuses.drop headerSize).rtake tailSize).Sublist
        (statuses.take headerSize ++ statuses.drop headerSize) :=
    (List.Sublist.refl _).append (List.drop_sublist _ _)
  rw [keeps.statuses_eq]
  rwa [whole] at part

theorem Keeps.length_statuses (keeps : store.Keeps statuses) :
    store.statuses.length =
      min statuses.length headerSize +
        min (statuses.length - headerSize) tailSize := by
  rw [keeps.statuses_eq, List.rtake, List.length_append, List.length_take,
    List.length_drop, List.length_drop]
  omega

/-- What a store tells after some statuses were added since it was empty. -/
structure Retains (store : StatusStore) (added : List Status) : Prop where
  count : store.count = added.length
  level : store.worst.IsHighest added
  /-- The first 150 statuses and the last 150 of the others. -/
  statuses : store.statuses = added.take 150 ++ (added.drop 150).rtake 150
  order : store.statuses.Sublist added
  size :
    store.statuses.length =
      min added.length 150 + min (added.length - 150) 150

/-- The first and the last statuses are retained. -/
theorem retains_foldl (statuses : List Status) :
    (statuses.foldl StatusStore.add empty).Retains statuses := by
  have keeps := keeps_foldl statuses
  exact
    ⟨keeps.count, keeps.worst, keeps.statuses_eq, keeps.statuses_sublist,
      keeps.length_statuses⟩

/-- A status that is no longer retained still tells how serious things were. -/
example :
    let trouble := Status.error "test" "trouble"
    let talk := List.replicate 300 (Status.info "test" "talk")
    let store := (talk ++ trouble :: talk).foldl StatusStore.add .empty
    trouble ∉ store.statuses ∧ store.worst = .error := by
  decide +kernel

end StatusStore

end LogPipeline
