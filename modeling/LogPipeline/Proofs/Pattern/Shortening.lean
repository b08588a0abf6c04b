import Mathlib.Data.List.Infix
import LogPipeline.Proofs.Pattern.Segments

/-!
# Names of a target length

A name is brought to a target length by reducing leading segments to their
first character, from the left, and no more of them than are needed.  The last
segment and the separators stay.  Where the separators of the result are those
that were left, a second time makes no difference.
-/

namespace LogPipeline.Pattern

/-- Segments of which some at the beginning are reduced to their first character. -/
def initials (count : Nat) (segments : List (List Char)) : List (List Char) :=
  (segments.take count).map (List.take 1) ++ segments.drop count

@[simp]
theorem initials_nil (count : Nat) : initials count [] = [] := by
  simp [initials]

@[simp]
theorem initials_succ
    (count : Nat)
    (first : List Char)
    (others : List (List Char)) :
    initials (count + 1) (first :: others) = first.take 1 :: initials count others :=
  rfl

@[simp]
theorem length_initials (count : Nat) (segments : List (List Char)) :
    (initials count segments).length = segments.length := by
  rw [initials, List.length_append, List.length_map, List.length_take, List.length_drop]
  omega

/-- What is left of a segment is a beginning of it. -/
theorem exists_prefix_of_mem_initials
    {count : Nat}
    {segments : List (List Char)}
    {segment : List Char}
    (member : segment ∈ initials count segments) :
    ∃ whole ∈ segments, segment <+: whole := by
  rcases List.mem_append.mp member with reduced | kept
  · obtain ⟨whole, taken, rfl⟩ := List.mem_map.mp reduced
    exact ⟨whole, List.mem_of_mem_take taken, List.take_prefix 1 whole⟩
  · exact ⟨segment, List.mem_of_mem_drop kept, List.prefix_rfl⟩

/-- Where all segments are reduced, none has more than one character. -/
theorem length_le_one_of_mem_initials
    {segments : List (List Char)}
    {segment : List Char}
    (member : segment ∈ initials segments.length segments) :
    segment.length ≤ 1 := by
  rw [initials, List.take_length, List.drop_length, List.append_nil] at member
  obtain ⟨whole, -, rfl⟩ := List.mem_map.mp member
  exact List.length_take_le 1 whole

namespace Abbreviation

/-! ## What is saved -/

/-- How many characters fewer there are when some segments are reduced. -/
def saved : Nat → List (List Char) → Nat
  | 0, _ => 0
  | _ + 1, [] => 0
  | count + 1, first :: others => (first.length - 1) + saved count others

theorem length_join_initials
    (separator : Separator)
    (count : Nat)
    (leading : List (List Char))
    (last : List Char) :
    (separator.join (initials count leading ++ [last])).length + saved count leading =
      (separator.join (leading ++ [last])).length := by
  induction leading generalizing count with
  | nil => cases count <;> simp [saved]
  | cons first others ih =>
      cases count with
      | zero => rfl
      | succ count =>
          have rest := ih count
          have more (segments : List (List Char)) : segments ++ [last] ≠ [] := by simp
          rw [initials_succ, saved, List.cons_append, List.cons_append,
            separator.join_cons _ (more _), separator.join_cons _ (more _)]
          simp only [List.length_append, List.length_take]
          omega

/-! ## How many segments are reduced -/

theorem reduce_cons
    (excess : Nat)
    (first : List Char)
    {others : List (List Char)}
    (more : others ≠ []) :
    reduce excess (first :: others) =
      if 0 < excess ∧ 1 < first.length then
        first.take 1 :: reduce (excess - (first.length - 1)) others
      else
        first :: reduce excess others := by
  cases others with
  | nil => exact absurd rfl more
  | cons => rfl

/-- Where there is something to be saved, the first segment is reduced. -/
theorem reduce_cons_of_pos
    {excess : Nat}
    (due : 0 < excess)
    (first : List Char)
    {others : List (List Char)}
    (more : others ≠ []) :
    reduce excess (first :: others) =
      first.take 1 :: reduce (excess - (first.length - 1)) others := by
  rw [reduce_cons _ _ more]
  by_cases long : 1 < first.length
  · rw [if_pos ⟨due, long⟩]
  · -- Reducing a segment of one character or none changes nothing.
    have nothing : first.length - 1 = 0 := by omega
    rw [if_neg fun both => long both.2, nothing, Nat.sub_zero,
      List.take_of_length_le (Nat.not_lt.mp long)]

theorem reduce_zero (segments : List (List Char)) : reduce 0 segments = segments := by
  induction segments with
  | nil => rfl
  | cons first others ih =>
      cases others with
      | nil => rfl
      | cons second rest =>
          rw [reduce_cons 0 first (List.cons_ne_nil _ _), if_neg (by omega), ih]

/-- Where nothing can be saved, nothing is reduced. -/
theorem reduce_of_short
    {leading : List (List Char)}
    (short : ∀ segment ∈ leading, segment.length ≤ 1)
    (excess : Nat)
    (last : List Char) :
    reduce excess (leading ++ [last]) = leading ++ [last] := by
  induction leading with
  | nil => rfl
  | cons first others ih =>
      rw [List.forall_mem_cons] at short
      rw [List.cons_append, reduce_cons _ _ (by simp), if_neg (by omega), ih short.2]

/-- Segments are reduced one after the other until enough is saved. -/
theorem exists_reduce_eq (excess : Nat) (leading : List (List Char)) (last : List Char) :
    ∃ count ≤ leading.length,
      reduce excess (leading ++ [last]) = initials count leading ++ [last] ∧
        (∀ fewer < count, saved fewer leading < excess) ∧
        (count = leading.length ∨ excess ≤ saved count leading) := by
  induction leading generalizing excess with
  | nil => exact ⟨0, Nat.le_refl 0, rfl, fun _ below => absurd below (by omega), Or.inl rfl⟩
  | cons first others ih =>
      by_cases due : 0 < excess
      · obtain ⟨count, within, reduced, needed, enough⟩ := ih (excess - (first.length - 1))
        refine ⟨count + 1, Nat.succ_le_succ within, ?_, ?_, ?_⟩
        · rw [List.cons_append, reduce_cons_of_pos due _ (by simp), reduced,
            initials_succ, List.cons_append]
        · intro fewer below
          cases fewer with
          | zero => exact due
          | succ fewer =>
              have before := needed fewer (Nat.lt_of_succ_lt_succ below)
              rw [saved]
              omega
        · rw [saved, List.length_cons]
          omega
      · have none : excess = 0 := Nat.eq_zero_of_not_pos due
        rw [none, reduce_zero]
        exact
          ⟨0, Nat.zero_le _, rfl, fun _ below => absurd below (by omega),
            Or.inr (Nat.zero_le _)⟩

/-! ## The whole name -/

open Separator

/-- A name that is brought to a target length by reducing so many leading segments. -/
structure Shortens
    (target : Nat)
    (name short : List Char)
    (count : Nat)
    (leading : List (List Char))
    (last : List Char) : Prop where
  split : IsSplit (ofName name) name (leading ++ [last])
  within : count ≤ leading.length
  /-- The separators and the last segment stay. -/
  joined : short = (ofName name).join (initials count leading ++ [last])
  separators : (initials count leading).length = leading.length
  /-- With fewer segments reduced the name is too long. -/
  needed :
    ∀ fewer < count,
      target < ((ofName name).join (initials fewer leading ++ [last])).length
  enough : count = leading.length ∨ short.length ≤ target

theorem exists_shortens (target : Nat) (name : List Char) :
    ∃ count leading last,
      Shortens target name ((targetLength target).shorten name) count leading last := by
  have split := isSplit_segments (ofName name) name
  obtain ⟨leading, last, cut⟩ : ∃ leading last, (ofName name).segments name = leading ++ [last] :=
    ⟨_, _, (List.dropLast_concat_getLast split.ne_nil).symm⟩
  rw [cut] at split
  have whole := split.join_eq
  by_cases fits : name.length ≤ target
  · have same : (targetLength target).shorten name = name := if_pos fits
    rw [same]
    exact
      ⟨0, leading, last, split, Nat.zero_le _, whole.symm, rfl,
        fun _ below => absurd below (by omega), Or.inr fits⟩
  · obtain ⟨count, within, reduced, needed, enough⟩ :=
      exists_reduce_eq (name.length - target) leading last
    have short :
        (targetLength target).shorten name =
          (ofName name).join (initials count leading ++ [last]) := by
      rw [← reduced, ← cut]
      exact if_neg fits
    have length (count : Nat) :
        ((ofName name).join (initials count leading ++ [last])).length +
            saved count leading = name.length := by
      rw [length_join_initials, whole]
    refine
      ⟨count, leading, last, split, within, short, length_initials count leading, ?_, ?_⟩
    · intro fewer below
      have missing := needed fewer below
      have total := length fewer
      omega
    · rw [short]
      have total := length count
      omega

/-- The separators and segments of a name in which none was lost are those of the result. -/
theorem Shortens.isSplit
    {target count : Nat}
    {name short last : List Char}
    {leading : List (List Char)}
    (shortens : Shortens target name short count leading last)
    (colonless :
      ofName name = .doubleColon → ∀ segment ∈ leading ++ [last], ':' ∉ segment) :
    ofName short = ofName name ∧
      IsSplit (ofName name) short (initials count leading ++ [last]) := by
  have split := shortens.split
  have some : initials count leading ++ [last] ≠ [] := by simp
  have beginnings :
      ∀ segment ∈ initials count leading ++ [last],
        ∃ whole ∈ leading ++ [last], segment <+: whole := by
    intro segment member
    rcases List.mem_append.mp member with reduced | isLast
    · obtain ⟨whole, inside, begins⟩ := exists_prefix_of_mem_initials reduced
      exact ⟨whole, List.mem_append_left _ inside, begins⟩
    · exact ⟨segment, List.mem_append_right _ isLast, List.prefix_rfl⟩
  rw [shortens.joined]
  cases kind : ofName name with
  | dot =>
      rw [kind] at split
      have colons := ofName_eq_dot_iff.mp kind
      refine ⟨ofName_join_dot fun segment member => ?_, isSplit_join some ?_⟩
      · obtain ⟨whole, inside, begins⟩ := beginnings segment member
        exact fun twice =>
          colons ((twice.trans begins.isInfix).trans (split.isInfix whole inside))
      · intro segment member char isDot inSegment
        obtain ⟨whole, inside, begins⟩ := beginnings segment member
        rw [List.mem_singleton.mp isDot] at inSegment
        exact split.not_isInfix whole inside
          ((List.singleton_infix_iff _ _).mpr (begins.subset inSegment))
  | doubleColon =>
      rw [kind] at split
      have apart := colonless kind
      refine ⟨?_, isSplit_join some ?_⟩
      · cases leading with
        | nil =>
            exact absurd (ofName_eq_doubleColon_iff.mp kind) split.not_infix_of_singleton
        | cons first others =>
            cases count with
            | zero => exact ofName_join_doubleColon _ (by simp)
            | succ count => exact ofName_join_doubleColon _ (by simp)
      · intro segment member char isColon inSegment
        obtain ⟨whole, inside, begins⟩ := beginnings segment member
        have equal : char = ':' := by simpa [Separator.chars] using isColon
        rw [equal] at inSegment
        exact apart whole inside (begins.subset inSegment)

/-- A second time makes no difference to a name whose segments can be told apart. -/
theorem Shortens.shorten_eq
    {target count : Nat}
    {name short last : List Char}
    {leading : List (List Char)}
    (shortens : Shortens target name short count leading last)
    (colonless :
      ofName name = .doubleColon → ∀ segment ∈ leading ++ [last], ':' ∉ segment) :
    (targetLength target).shorten short = short := by
  obtain ⟨same, split⟩ := shortens.isSplit colonless
  rcases shortens.enough with all | fits
  · have leftover :
        reduce (short.length - target) (initials count leading ++ [last]) =
          initials count leading ++ [last] := by
      rw [all]
      exact reduce_of_short (fun _ member => length_le_one_of_mem_initials member) _ _
    rw [shorten, same, split.segments_eq, leftover, split.join_eq, ite_self]
  · exact if_pos fits

/--
A name that is too long loses as few leading segments as are needed, each up to
its first character.  If the segments between double colons have no colons of
their own, the result is cut into what was left of them, and a second time makes
no difference.
-/
theorem apply_targetLength_shortens (target : Nat) (name : String) :
    let short := (targetLength target).apply name
    (ofName name.toList = .doubleColon ↔ [':', ':'] <:+: name.toList) ∧
      ∃ count leading last,
        Shortens target name.toList short.toList count leading last ∧
          ((ofName name.toList = .doubleColon →
              ∀ segment ∈ leading ++ [last], ':' ∉ segment) →
            ofName short.toList = ofName name.toList ∧
              IsSplit (ofName name.toList) short.toList
                (initials count leading ++ [last]) ∧
              (targetLength target).apply short = short) := by
  intro short
  obtain ⟨count, leading, last, shortens⟩ := exists_shortens target name.toList
  have text : short.toList = (targetLength target).shorten name.toList :=
    String.toList_ofList
  rw [← text] at shortens
  refine ⟨ofName_eq_doubleColon_iff, count, leading, last, shortens, ?_⟩
  intro colonless
  obtain ⟨same, split⟩ := shortens.isSplit colonless
  refine ⟨same, split, ?_⟩
  rw [apply, shortens.shorten_eq colonless, String.ofList_toList]

/-- One segment is enough for a path that is a little too long. -/
theorem apply_targetLength_shortens_path :
    let name := "my_crate::network::client::Connection"
    (∀ segment ∈ (ofName name.toList).segments name.toList, ':' ∉ segment) ∧
      (targetLength 30).apply name = "m::network::client::Connection" ∧
      (targetLength 30).apply "m::network::client::Connection" =
        "m::network::client::Connection" := by
  intro name
  obtain ⟨-, count, leading, last, shortens, again⟩ := apply_targetLength_shortens 30 name
  have colonless : ∀ segment ∈ (ofName name.toList).segments name.toList, ':' ∉ segment := by
    decide +kernel
  have short : (targetLength 30).apply name = "m::network::client::Connection" := by
    decide +kernel
  have twice : (targetLength 30).apply ((targetLength 30).apply name) =
      (targetLength 30).apply name :=
    (again fun _ => shortens.split.segments_eq ▸ colonless).2.2
  rw [short] at twice
  exact ⟨colonless, short, twice⟩

/-- A colon that is left of a segment runs into the separator behind it. -/
example :
    (targetLength 1).apply ":x::yy::z" = ":::y::z" ∧
      (targetLength 1).apply ":::y::z" = ":::::z" := by
  decide +kernel

end Abbreviation

end LogPipeline.Pattern
