import LogPipeline.Proofs.Pattern.Shortening
import LogPipeline.Proofs.Text.Runs

/-!
# The last segment of a name

A name is cut into segments from the left, but the last one alone is looked for
from the right.  Both ways agree about dots.  They agree about double colons as
well unless the last run of colons has an odd length: then one colon is left
over, which belongs to the last segment only where the name is cut from the left.
-/

namespace LogPipeline.Pattern

open Text

namespace Separator

/-! ## Behind the last separator -/

theorem afterLast?_eq_none
    {separator : Separator}
    {name : List Char}
    (absent : ¬ separator.chars <:+: name) :
    separator.afterLast? name = none := by
  induction name with
  | nil => rfl
  | cons char rest ih =>
      rw [List.infix_cons_iff, not_or] at absent
      rw [afterLast?, ih absent.2]
      dsimp only
      cases strips : separator.strip? (char :: rest) with
      | none => rfl
      | some behind => exact absurd ⟨behind, (eq_append_of_strip? strips).symm⟩ absent.1

/-- A separator is the last one if none begins within it or behind it. -/
theorem afterLast?_append
    {separator : Separator}
    {rest : List Char}
    (isLast : ¬ separator.chars <:+: separator.chars.tail ++ rest)
    (before : List Char) :
    separator.afterLast? (before ++ (separator.chars ++ rest)) = some rest := by
  induction before with
  | nil =>
      have noLater := afterLast?_eq_none isLast
      have strips := separator.strip?_append rest
      cases chars : separator.chars with
      | nil => exact absurd chars separator.chars_ne_nil
      | cons char more =>
          rw [chars] at noLater strips
          rw [List.nil_append, List.cons_append, afterLast?]
          rw [List.tail_cons] at noLater
          rw [noLater]
          exact strips
  | cons char before ih => rw [List.cons_append, afterLast?, ih]

/-- Two colons in a row are the last ones if there is no other colon right behind them. -/
theorem not_infix_colon_cons
    {after : List Char}
    (apart : after.head? ≠ some ':')
    (absent : ¬ [':', ':'] <:+: after) :
    ¬ [':', ':'] <:+: ':' :: after := by
  rw [List.infix_cons_iff, not_or]
  refine ⟨?_, absent⟩
  rintro ⟨rest, equal⟩
  cases equal
  exact apart rfl

/-! ## Cutting from the left -/

/-- A segment that ends before a double colon does not end in a colon. -/
theorem endRun_eq_zero
    {segment : List Char}
    (leftmost : ¬ [':', ':'] <:+: segment ++ [':']) :
    endRun ':' segment = 0 := by
  by_contra some
  obtain ⟨before, rfl⟩ : [':'] <:+ segment := replicate_suffix (Nat.pos_of_ne_zero some)
  refine leftmost ⟨before, [], ?_⟩
  rw [List.append_nil, List.append_assoc]
  rfl

/--
In front of the last segment there is a separator, if it is not the only segment.
Where that is a double colon, an even number of colons stands before it, since
the colons of a run are used up in pairs.
-/
theorem IsSplit.exists_before
    {separator : Separator}
    {name last : List Char}
    {segments : List (List Char)}
    (split : IsSplit separator name segments)
    (isLast : segments.getLast? = some last) :
    segments = [name] ∨
      ∃ before,
        name = before ++ (separator.chars ++ last) ∧
          (separator = .doubleColon → endRun ':' before % 2 = 0) := by
  induction split with
  | last => exact Or.inl rfl
  | @cut first rest segments leftmost more ih =>
      right
      have apart (isColon : separator = .doubleColon) : endRun ':' first = 0 := by
        subst isColon
        exact endRun_eq_zero leftmost
      rw [List.getLast?_cons_of_ne_nil more.ne_nil] at isLast
      rcases ih isLast with rfl | ⟨before, rfl, even⟩
      · cases isLast
        exact ⟨first, rfl, fun isColon => by rw [apart isColon]⟩
      · refine ⟨first ++ (separator.chars ++ before), by simp, fun isColon => ?_⟩
        have pair : endRun ':' (first ++ separator.chars) = 2 := by
          rw [isColon]
          exact (endRun_append_replicate ':' first 2).trans (congrArg (· + 2) (apart isColon))
        have rest := even isColon
        rw [← List.append_assoc, endRun_append, pair]
        split
        next all => omega
        next => exact rest

/-- The last run of two colons or more has an odd length. -/
def LastRunIsOdd (name : List Char) : Prop :=
  ∃ before after,
    name = before ++ after ∧
      2 ≤ endRun ':' before ∧
      endRun ':' before % 2 = 1 ∧
      after.head? ≠ some ':' ∧
      ¬ [':', ':'] <:+: after

/-- What is found from the right is what stands behind the last run. -/
theorem afterLast?_run
    {before after : List Char}
    (long : 2 ≤ endRun ':' before)
    (apart : after.head? ≠ some ':')
    (absent : ¬ [':', ':'] <:+: after) :
    Separator.doubleColon.afterLast? (before ++ after) = some after := by
  obtain ⟨front, rfl⟩ := replicate_suffix long
  have isLast :
      ¬ Separator.doubleColon.chars <:+: Separator.doubleColon.chars.tail ++ after :=
    not_infix_colon_cons apart absent
  rw [List.append_assoc]
  exact afterLast?_append isLast front

theorem LastRunIsOdd.ofName_eq
    {name : List Char}
    (odd : LastRunIsOdd name) :
    ofName name = .doubleColon := by
  obtain ⟨before, after, rfl, long, -, -, -⟩ := odd
  exact ofName_eq_doubleColon_iff.mpr
    ((replicate_suffix long).isInfix.trans (List.prefix_append before after).isInfix)

/-- A colon at the beginning of the last segment belongs to the last run. -/
theorem lastRunIsOdd_colon
    {before after : List Char}
    (even : endRun ':' before % 2 = 0)
    (absent : ¬ [':', ':'] <:+: ':' :: after) :
    LastRunIsOdd (before ++ (Separator.doubleColon.chars ++ ':' :: after)) ∧
      Separator.doubleColon.afterLast?
          (before ++ (Separator.doubleColon.chars ++ ':' :: after)) =
        some after := by
  rw [List.infix_cons_iff, not_or] at absent
  have apart : after.head? ≠ some ':' := by
    intro second
    obtain ⟨rest, rfl⟩ := List.head?_eq_some_iff.mp second
    exact absent.1 (List.prefix_append [':', ':'] rest)
  have run := endRun_append_replicate ':' before 3
  have long : 2 ≤ endRun ':' (before ++ List.replicate 3 ':') := by
    omega
  have odd : endRun ':' (before ++ List.replicate 3 ':') % 2 = 1 := by
    omega
  have whole :
      before ++ (Separator.doubleColon.chars ++ ':' :: after) =
        (before ++ List.replicate 3 ':') ++ after := by
    rw [List.append_assoc]
    rfl
  rw [whole]
  exact ⟨⟨_, after, rfl, long, odd, apart, absent.2⟩, afterLast?_run long apart absent.2⟩

/-- If the last segment begins with something else, the last run is made of pairs only. -/
theorem not_lastRunIsOdd_of_apart
    {before last : List Char}
    (even : endRun ':' before % 2 = 0)
    (apart : last.head? ≠ some ':')
    (absent : ¬ [':', ':'] <:+: last) :
    ¬ LastRunIsOdd (before ++ (Separator.doubleColon.chars ++ last)) ∧
      Separator.doubleColon.afterLast? (before ++ (Separator.doubleColon.chars ++ last)) =
        some last := by
  have run := endRun_append_replicate ':' before 2
  have long : 2 ≤ endRun ':' (before ++ List.replicate 2 ':') := by
    omega
  have whole :
      before ++ (Separator.doubleColon.chars ++ last) =
        (before ++ List.replicate 2 ':') ++ last := by
    rw [List.append_assoc]
    rfl
  have found := afterLast?_run long apart absent
  rw [whole]
  refine ⟨?_, found⟩
  rintro ⟨front, after, split, longFront, odd, apartAfter, absentAfter⟩
  -- There is one last run only, so the two ways to cut in front of it are the same.
  have other := afterLast?_run longFront apartAfter absentAfter
  rw [← split, found] at other
  cases other
  rw [← List.append_cancel_right split] at odd
  omega

end Separator

namespace Abbreviation

open Separator

/-- The last segment, and what is found from the right, for the two ways the last run can end. -/
theorem shorten_lastSegment_cases
    {name last : List Char}
    {segments : List (List Char)}
    (split : IsSplit (ofName name) name segments)
    (isLast : segments.getLast? = some last) :
    (¬ LastRunIsOdd name ∧ lastSegment.shorten name = last) ∨
      (LastRunIsOdd name ∧ last = ':' :: lastSegment.shorten name) := by
  have member : last ∈ segments := List.mem_of_getLast? isLast
  rcases split.exists_before isLast with rfl | ⟨before, cut, even⟩
  · cases isLast
    have absent := split.not_infix_of_singleton
    refine Or.inl ⟨fun odd => ?_, ?_⟩
    · rw [odd.ofName_eq] at absent
      exact absent (ofName_eq_doubleColon_iff.mp odd.ofName_eq)
    · rw [shorten, afterLast?_eq_none absent]
      rfl
  · have absent := split.not_isInfix last member
    cases kind : ofName name with
    | dot =>
        rw [kind] at absent cut
        refine Or.inl ⟨fun odd => ?_, ?_⟩
        · rw [odd.ofName_eq] at kind
          cases kind
        · rw [shorten, kind, cut, afterLast?_append absent before]
          rfl
    | doubleColon =>
        rw [kind] at absent cut
        by_cases colon : last.head? = some ':'
        · obtain ⟨after, rfl⟩ := List.head?_eq_some_iff.mp colon
          obtain ⟨odd, found⟩ := lastRunIsOdd_colon (even kind) absent
          rw [← cut] at odd found
          refine Or.inr ⟨odd, ?_⟩
          rw [shorten, kind, found]
          rfl
        · obtain ⟨pairs, found⟩ := not_lastRunIsOdd_of_apart (even kind) colon absent
          rw [← cut] at pairs found
          refine Or.inl ⟨pairs, ?_⟩
          rw [shorten, kind, found]
          rfl

/-- However a name is abbreviated, the last of its segments is kept whole. -/
structure KeepsLast
    (name : String)
    (leading : List (List Char))
    (last : List Char) : Prop where
  split : IsSplit (ofName name.toList) name.toList (leading ++ [last])
  alone : (lastSegment.apply name).toList = last
  behind :
    ∀ target, ∃ count,
      Shortens target name.toList ((targetLength target).apply name).toList count leading
        last

/--
The last segment is kept whole however a name is abbreviated, unless the last run
of colons in it has an odd length; then the last segment begins with a colon that
it loses where it is kept alone.
-/
theorem exists_keepsLast_iff (name : String) :
    (ofName name.toList = .doubleColon ↔ [':', ':'] <:+: name.toList) ∧
      ((∃ leading last, KeepsLast name leading last) ↔ ¬ LastRunIsOdd name.toList) ∧
      (LastRunIsOdd name.toList →
        ∃ leading,
          IsSplit (ofName name.toList) name.toList
            (leading ++ [':' :: (lastSegment.apply name).toList])) := by
  have text : (lastSegment.apply name).toList = lastSegment.shorten name.toList :=
    String.toList_ofList
  obtain ⟨_, leading, last, whole⟩ := exists_shortens 0 name.toList
  have split := whole.split
  refine ⟨ofName_eq_doubleColon_iff, ⟨?_, fun even => ?_⟩, fun odd => ?_⟩
  · rintro ⟨_, other, keeps⟩ odd
    rcases shorten_lastSegment_cases keeps.split List.getLast?_concat with
      ⟨even, -⟩ | ⟨-, longer⟩
    · exact even odd
    · rw [← text, keeps.alone] at longer
      exact List.cons_ne_self ':' other longer.symm
  · rcases shorten_lastSegment_cases split List.getLast?_concat with
      ⟨-, alone⟩ | ⟨odd, -⟩
    · refine ⟨leading, last, split, text.trans alone, fun target => ?_⟩
      obtain ⟨count, others, other, shortens⟩ := exists_shortens target name.toList
      have same : others ++ [other] = leading ++ [last] :=
        shortens.split.segments_eq.symm.trans split.segments_eq
      obtain ⟨rfl, equal⟩ := List.append_inj' same rfl
      cases equal
      refine ⟨count, ?_⟩
      rw [apply, String.toList_ofList]
      exact shortens
    · exact absurd odd even
  · rcases shorten_lastSegment_cases split List.getLast?_concat with
      ⟨even, -⟩ | ⟨-, longer⟩
    · exact absurd odd even
    · rw [text]
      exact ⟨leading, longer ▸ split⟩

/-- One of three colons is in the last segment, but not in what is kept alone. -/
theorem not_exists_keepsLast_colons :
    (¬ ∃ leading last, KeepsLast "a:::b" leading last) ∧
      lastSegment.apply "a:::b" = "b" ∧
      (ofName "a:::b".toList).segments "a:::b".toList = ["a".toList, ":b".toList] := by
  have alone : lastSegment.apply "a:::b" = "b" := by
    decide +kernel
  have cut : (ofName "a:::b".toList).segments "a:::b".toList = ["a".toList, ":b".toList] := by
    decide +kernel
  refine ⟨?_, alone, cut⟩
  rintro ⟨leading, last, keeps⟩
  have isLast := congrArg List.getLast? keeps.split.segments_eq
  rw [cut, List.getLast?_concat, ← keeps.alone, alone] at isLast
  exact absurd isLast (by decide +kernel)

end Abbreviation

end LogPipeline.Pattern
