import LogPipeline.Pattern.Abbreviation

/-!
# The segments of names

A name is cut at the separators in it, from the left and without overlaps.
Joining the segments gives the name back.  Segments that share no character
with the separator are also got back when they were joined.
-/

namespace LogPipeline.Pattern.Separator

/-! ## Separators in front -/

@[simp]
theorem chars_ne_nil (separator : Separator) : separator.chars ≠ [] := by
  cases separator <;> exact List.cons_ne_nil _ _

theorem strip?_append (separator : Separator) (rest : List Char) :
    separator.strip? (separator.chars ++ rest) = some rest := by
  cases separator <;> rfl

theorem eq_append_of_strip?
    {separator : Separator}
    {chars rest : List Char}
    (strips : separator.strip? chars = some rest) :
    chars = separator.chars ++ rest := by
  unfold strip? at strips
  split at strips
  · cases strips
    rfl
  · cases strips
    rfl
  · cases strips

/-- Nothing can be stripped where no separator is in front. -/
theorem not_prefix_of_strip?
    {separator : Separator}
    {chars : List Char}
    (keeps : separator.strip? chars = none) :
    ¬ separator.chars <+: chars := by
  rintro ⟨rest, rfl⟩
  cases keeps.symm.trans (separator.strip?_append rest)

/-- The separator of a name tells whether there is a double colon in it. -/
theorem ofName_eq_doubleColon_iff {name : List Char} :
    ofName name = .doubleColon ↔ [':', ':'] <:+: name := by
  induction name with
  | nil => simp [ofName]
  | cons char rest ih =>
      rw [ofName, List.infix_cons_iff, ← ih]
      cases strips : strip? .doubleColon (char :: rest) with
      | some behind =>
          have front := eq_append_of_strip? strips
          exact iff_of_true rfl (Or.inl ⟨behind, front.symm⟩)
      | none =>
          have absent := not_prefix_of_strip? strips
          exact (or_iff_right absent).symm

theorem ofName_eq_dot_iff {name : List Char} :
    ofName name = .dot ↔ ¬ [':', ':'] <:+: name := by
  rw [← ofName_eq_doubleColon_iff]
  cases ofName name <;> decide

/-! ## Cutting -/

theorem segments_append (separator : Separator) (rest : List Char) :
    separator.segments (separator.chars ++ rest) = [] :: separator.segments rest := by
  cases separator <;> rfl

theorem segments_ne_nil (separator : Separator) (name : List Char) :
    separator.segments name ≠ [] := by
  fun_cases segments separator name <;> simp_all

theorem segments_cons
    {separator : Separator}
    {char : Char}
    {rest first : List Char}
    {others : List (List Char)}
    (absent : ¬ separator.chars <+: char :: rest)
    (cut : separator.segments rest = first :: others) :
    separator.segments (char :: rest) = (char :: first) :: others := by
  rw [segments, cut]
  · rintro behind rfl rfl rfl
    exact absent ⟨behind, rfl⟩
  · rintro rfl rfl
    exact absent ⟨rest, rfl⟩

/--
A name cut into segments: each one but the last ends where the first separator
in the rest of the name begins, and there is no separator in the last one.
-/
inductive IsSplit (separator : Separator) : List Char → List (List Char) → Prop where
  | last
      {name : List Char}
      (absent : ¬ separator.chars <:+: name) :
      IsSplit separator name [name]
  | cut
      {first rest : List Char}
      {segments : List (List Char)}
      (leftmost : ¬ separator.chars <:+: first ++ separator.chars.dropLast)
      (more : IsSplit separator rest segments) :
      IsSplit separator (first ++ (separator.chars ++ rest)) (first :: segments)

/-- A separator does not begin among characters that are none of its own. -/
theorem not_infix_append_dropLast
    {separator : Separator}
    {segment : List Char}
    (apart : ∀ char ∈ separator.chars, char ∉ segment) :
    ¬ separator.chars <:+: segment ++ separator.chars.dropLast := by
  intro inside
  have fewer (char : Char) (member : char ∈ separator.chars) :
      separator.chars.count char ≤ separator.chars.dropLast.count char := by
    have counts := inside.sublist.count_le char
    rwa [List.count_append, List.count_eq_zero.mpr (apart char member), Nat.zero_add]
      at counts
  cases separator with
  | dot => exact absurd (fewer '.' (by decide)) (by decide)
  | doubleColon => exact absurd (fewer ':' (by decide)) (by decide)

/-- All of a separator but its last character, behind what stands before it. -/
theorem append_dropLast_prefix
    (separator : Separator)
    (first rest : List Char) :
    first ++ separator.chars.dropLast <+: first ++ (separator.chars ++ rest) :=
  (List.prefix_append_right_inj first).mpr
    ((List.dropLast_prefix _).trans (List.prefix_append _ _))

theorem IsSplit.cons
    {separator : Separator}
    {char : Char}
    {rest first : List Char}
    {others : List (List Char)}
    (absent : ¬ separator.chars <+: char :: rest)
    (split : IsSplit separator rest (first :: others)) :
    IsSplit separator (char :: rest) ((char :: first) :: others) := by
  cases split with
  | last inRest =>
      refine .last fun inside => ?_
      exact (List.infix_cons_iff.mp inside).elim absent inRest
  | @cut _ behind _ leftmost more =>
      have leftmostCons :
          ¬ separator.chars <:+: char :: first ++ separator.chars.dropLast := by
        intro inside
        rcases List.infix_cons_iff.mp inside with front | inFirst
        · exact absent
            (front.trans (separator.append_dropLast_prefix (char :: first) behind))
        · exact leftmost inFirst
      exact .cut leftmostCons more

/-- The segments are those into which the separators cut the name. -/
theorem isSplit_segments (separator : Separator) (name : List Char) :
    IsSplit separator name (separator.segments name) := by
  induction size : name.length using Nat.strongRecOn generalizing name with
  | _ size ih =>
  subst size
  cases name with
  | nil =>
      have alone : separator.segments [] = [[]] := by
        cases separator <;> rfl
      rw [alone]
      refine .last fun inside => ?_
      exact separator.chars_ne_nil (List.eq_nil_of_infix_nil inside)
  | cons char rest =>
      by_cases front : separator.chars <+: char :: rest
      · obtain ⟨behind, split⟩ := front
        have shorter : behind.length < (char :: rest).length := by
          rw [← split, List.length_append]
          have := List.length_pos_iff.mpr separator.chars_ne_nil
          omega
        have leftmost : ¬ separator.chars <:+: [] ++ separator.chars.dropLast :=
          not_infix_append_dropLast fun _ _ => List.not_mem_nil
        rw [← split, segments_append]
        exact .cut leftmost (ih _ shorter behind rfl)
      · obtain ⟨first, others, cut⟩ :=
          List.exists_cons_of_ne_nil (separator.segments_ne_nil rest)
        have split := ih rest.length (Nat.lt_succ_self _) rest rfl
        rw [cut] at split
        rw [segments_cons front cut]
        exact split.cons front

/-- A name can be cut in one way only. -/
theorem IsSplit.segments_eq
    {separator : Separator}
    {name : List Char}
    {segments : List (List Char)}
    (split : IsSplit separator name segments) :
    separator.segments name = segments := by
  induction split with
  | @last name absent =>
      induction name with
      | nil => cases separator <;> rfl
      | cons char rest ih =>
          have notInFront : ¬ separator.chars <+: char :: rest :=
            fun front => absent front.isInfix
          have notBehind : ¬ separator.chars <:+: rest :=
            fun inside => absent (inside.trans (List.suffix_cons char rest).isInfix)
          exact segments_cons notInFront (ih notBehind)
  | @cut first rest segments leftmost more ih =>
      induction first with
      | nil => rw [List.nil_append, segments_append, ih]
      | cons char first ihFirst =>
          have notBehind :
              ¬ separator.chars <:+: first ++ separator.chars.dropLast :=
            fun inside => leftmost (inside.trans (List.suffix_cons char _).isInfix)
          have notInFront :
              ¬ separator.chars <+: char :: first ++ (separator.chars ++ rest) := by
            intro front
            -- There is no room for the separator before the end of the one behind.
            have room :
                separator.chars.length ≤
                  (char :: first ++ separator.chars.dropLast).length := by
              rw [List.length_append, List.length_cons, List.length_dropLast]
              omega
            exact leftmost
              (List.prefix_of_prefix_length_le front
                (separator.append_dropLast_prefix _ rest) room).isInfix
          exact segments_cons notInFront (ihFirst notBehind)

/-! ## Joining -/

theorem join_singleton (separator : Separator) (segment : List Char) :
    separator.join [segment] = segment := by
  rw [join, List.intercalate_singleton]

theorem join_cons
    (separator : Separator)
    (first : List Char)
    {others : List (List Char)}
    (more : others ≠ []) :
    separator.join (first :: others) =
      first ++ (separator.chars ++ separator.join others) := by
  rw [join, List.intercalate_cons_of_ne_nil more, List.append_assoc]
  rfl

theorem IsSplit.ne_nil
    {separator : Separator}
    {name : List Char}
    {segments : List (List Char)}
    (split : IsSplit separator name segments) :
    segments ≠ [] := by
  cases split <;> exact List.cons_ne_nil _ _

/-- A name with one segment has no separator in it. -/
theorem IsSplit.not_infix_of_singleton
    {separator : Separator}
    {name segment : List Char}
    (split : IsSplit separator name [segment]) :
    ¬ separator.chars <:+: name := by
  cases split with
  | last absent => exact absent
  | cut _ more => exact absurd rfl more.ne_nil

/-- There is no separator in a segment. -/
theorem IsSplit.not_isInfix
    {separator : Separator}
    {name : List Char}
    {segments : List (List Char)}
    (split : IsSplit separator name segments) :
    ∀ segment ∈ segments, ¬ separator.chars <:+: segment := by
  induction split with
  | last absent => exact List.forall_mem_singleton.mpr absent
  | cut leftmost _ ih =>
      exact List.forall_mem_cons.mpr
        ⟨fun inside => leftmost (inside.trans (List.prefix_append _ _).isInfix), ih⟩

/-- The segments are parts of the name. -/
theorem IsSplit.isInfix
    {separator : Separator}
    {name : List Char}
    {segments : List (List Char)}
    (split : IsSplit separator name segments) :
    ∀ segment ∈ segments, segment <:+: name := by
  induction split with
  | last => exact List.forall_mem_singleton.mpr List.infix_rfl
  | @cut first rest segments _ _ ih =>
      have front : first <:+: first ++ (separator.chars ++ rest) :=
        (List.prefix_append _ _).isInfix
      have behind : rest <:+: first ++ (separator.chars ++ rest) :=
        ((List.suffix_append _ _).trans (List.suffix_append _ _)).isInfix
      exact List.forall_mem_cons.mpr
        ⟨front, fun segment member => (ih segment member).trans behind⟩

/-- The segments with the separator between them make up the name. -/
theorem IsSplit.join_eq
    {separator : Separator}
    {name : List Char}
    {segments : List (List Char)}
    (split : IsSplit separator name segments) :
    separator.join segments = name := by
  induction split with
  | last => exact separator.join_singleton _
  | cut leftmost more ih => rw [separator.join_cons _ more.ne_nil, ih]

/-- Segments without the characters of the separator are got back from the joined name. -/
theorem isSplit_join
    {separator : Separator}
    {segments : List (List Char)}
    (some : segments ≠ [])
    (apart : ∀ segment ∈ segments, ∀ char ∈ separator.chars, char ∉ segment) :
    IsSplit separator (separator.join segments) segments := by
  induction segments with
  | nil => exact absurd rfl some
  | cons first others ih =>
      have apartFirst := apart first List.mem_cons_self
      cases others with
      | nil =>
          rw [join_singleton]
          exact .last fun inside =>
            not_infix_append_dropLast apartFirst
              (inside.trans (List.prefix_append _ _).isInfix)
      | cons second rest =>
          have more : second :: rest ≠ [] := List.cons_ne_nil _ _
          rw [separator.join_cons _ more]
          have apartRest :=
            fun segment member => apart segment (List.mem_cons_of_mem first member)
          exact .cut (not_infix_append_dropLast apartFirst) (ih more apartRest)

/-! ## The separator of a joined name -/

/-- Two colons in a row are on one side of a dot. -/
theorem not_infix_append_dot
    {before after : List Char}
    (notBefore : ¬ [':', ':'] <:+: before)
    (notAfter : ¬ [':', ':'] <:+: after) :
    ¬ [':', ':'] <:+: before ++ '.' :: after := by
  induction before with
  | nil => simp [List.infix_cons_iff, notAfter]
  | cons char rest ih =>
      rw [List.infix_cons_iff, not_or] at notBefore
      rw [List.cons_append, List.infix_cons_iff, not_or]
      refine ⟨fun front => notBefore.1 ?_, ih notBefore.2⟩
      cases rest with
      | nil => simp at front
      | cons second others => simpa using front

/-- A name that was joined with dots is separated by dots. -/
theorem ofName_join_dot
    {segments : List (List Char)}
    (apart : ∀ segment ∈ segments, ¬ [':', ':'] <:+: segment) :
    ofName (Separator.dot.join segments) = .dot := by
  rw [ofName_eq_dot_iff]
  induction segments with
  | nil => simp [join, List.intercalate]
  | cons first others ih =>
      rw [List.forall_mem_cons] at apart
      cases others with
      | nil =>
          rw [join_singleton]
          exact apart.1
      | cons second rest =>
          rw [join_cons _ _ (List.cons_ne_nil _ _)]
          exact not_infix_append_dot apart.1 (ih apart.2)

/-- A name that was joined with double colons is separated by them. -/
theorem ofName_join_doubleColon
    (first : List Char)
    {others : List (List Char)}
    (more : others ≠ []) :
    ofName (Separator.doubleColon.join (first :: others)) = .doubleColon := by
  rw [ofName_eq_doubleColon_iff, join_cons _ _ more]
  exact List.infix_append' first [':', ':'] _

end LogPipeline.Pattern.Separator
