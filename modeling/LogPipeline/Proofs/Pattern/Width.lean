import LogPipeline.Pattern.Chain
import LogPipeline.Pattern.Words.Wrappers

/-!
# Widths of texts

A text is brought to the widths of a format by cutting it or by padding it, and
never by both.  How many characters that gives depends on the number of its own
characters alone.  If the least width does not exceed the greatest one, such a
text has the widths it is to have, and nothing is done to it a second time.
-/

namespace LogPipeline.Pattern

namespace FieldFormat

variable (format : FieldFormat) {text : List Char}

/-! ## Cutting and padding -/

theorem fit_of_long (long : format.max < text.length) :
    format.fit text =
      match format.cutSide with
      | .left => text.drop (text.length - format.max)
      | .right => text.take format.max := by
  rw [fit]
  exact if_pos long

/-- No character is lost from a text that is not too long. -/
theorem fit_of_not_long (short : ¬ format.max < text.length) :
    format.fit text =
      match format.padSide with
      | .left => List.replicate (format.min - text.length) ' ' ++ text
      | .right => text ++ List.replicate (format.min - text.length) ' ' := by
  rw [fit, if_neg short]
  by_cases narrow : text.length < format.min
  · exact if_pos narrow
  · have none : format.min - text.length = 0 := by
      omega
    rw [if_neg narrow, none]
    cases format.padSide with
    | left => rfl
    | right => exact (List.append_nil text).symm

/-- How many characters a text has when it was brought to the widths of a format. -/
def fittedLength (format : FieldFormat) (length : Nat) : Nat :=
  if format.max < length then format.max else Max.max length format.min

theorem length_fit (text : List Char) :
    (format.fit text).length = format.fittedLength text.length := by
  rw [fittedLength]
  by_cases long : format.max < text.length
  · rw [if_pos long, format.fit_of_long long]
    cases format.cutSide with
    | left =>
        rw [List.length_drop]
        omega
    | right =>
        rw [List.length_take]
        omega
  · rw [if_neg long, format.fit_of_not_long long]
    cases format.padSide with
    | left =>
        rw [List.length_append, List.length_replicate]
        omega
    | right =>
        rw [List.length_append, List.length_replicate]
        omega

/-! ## A second time -/

theorem fit_eq_self
    (wide : format.min ≤ text.length)
    (narrow : text.length ≤ format.max) :
    format.fit text = text := by
  rw [format.fit_of_not_long (Nat.not_lt.mpr narrow), Nat.sub_eq_zero_of_le wide]
  cases format.padSide with
  | left => rfl
  | right => exact List.append_nil text

variable {format}

/-- The widths of a format that can be met at once are met. -/
theorem fittedLength_bounds
    (consistent : format.min ≤ format.max)
    (length : Nat) :
    format.min ≤ format.fittedLength length ∧
      format.fittedLength length ≤ format.max := by
  rw [fittedLength]
  split <;> omega

theorem fit_fit (consistent : format.min ≤ format.max) (text : List Char) :
    format.fit (format.fit text) = format.fit text := by
  have bounds := fittedLength_bounds consistent text.length
  rw [← length_fit] at bounds
  exact format.fit_eq_self bounds.1 bounds.2

theorem apply_apply (consistent : format.min ≤ format.max) (text : String) :
    format.apply (format.apply text) = format.apply text := by
  rw [apply, apply, String.toList_ofList, fit_fit consistent]

variable (format)

theorem length_apply (text : String) :
    (format.apply text).length = format.fittedLength text.length := by
  rw [apply, String.length_ofList, length_fit, String.length_toList]

/-- What there is room for once is not too much the second time. -/
theorem overflows_apply
    (consistent : format.min ≤ format.max)
    (text : String) :
    format.overflows (format.apply text) = false := by
  have bounds := fittedLength_bounds consistent text.length
  have wide : ¬ (format.apply text).length < format.min := by
    rw [length_apply]
    omega
  rw [overflows, decide_eq_false wide, Bool.and_false]

end FieldFormat

/-! ## Formats inside formats -/

/-- A text that was formatted, if that succeeded, is formatted again in the same way. -/
theorem formatted_of_formatted
    {format : FieldFormat}
    {text fitted : String}
    (consistent : format.min ≤ format.max)
    (succeeds : formatted (some format) text = .ok fitted) :
    formatted (some format) fitted = .ok fitted := by
  rw [formatted] at succeeds ⊢
  by_cases overflows : format.overflows text = true
  · rw [if_pos overflows] at succeeds
    cases succeeds
  · rw [if_neg overflows] at succeeds
    cases succeeds
    rw [format.overflows_apply consistent, if_neg Bool.false_ne_true,
      FieldFormat.apply_apply consistent]

/-- A piece with a format makes a text of that format, or none. -/
theorem Piece.formatted_of_render
    {scene : Scene}
    {event : Event}
    {piece : Piece}
    {format : FieldFormat}
    {text : String}
    (consistent : format.min ≤ format.max)
    (hasFormat : piece.format? = some format)
    (renders : piece.render scene event = .ok text) :
    formatted (some format) text = .ok text := by
  cases piece with
  | literal => cases hasFormat
  | simple converter own =>
      rw [Piece.format?] at hasFormat
      rw [Piece.render, hasFormat] at renders
      cases made : converter.render scene event with
      | error failure =>
          rw [made] at renders
          cases renders
      | ok inner =>
          rw [made] at renders
          exact formatted_of_formatted consistent renders
  | composite transformation own inner =>
      rw [Piece.format?] at hasFormat
      rw [Piece.render, hasFormat] at renders
      cases made : Chain.render scene event inner with
      | error failure =>
          rw [made] at renders
          cases renders
      | ok inside =>
          rw [made] at renders
          exact formatted_of_formatted consistent renders

/-- Parentheses with the same format around a piece make no difference. -/
theorem Piece.render_nested
    {piece : Piece}
    {format : FieldFormat}
    (consistent : format.min ≤ format.max)
    (hasFormat : piece.format? = some format)
    (scene : Scene)
    (event : Event) :
    (Piece.composite identity (some format) [piece]).render scene event =
      piece.render scene event := by
  rw [Piece.render, Chain.render, Chain.render]
  cases renders : piece.render scene event with
  | error failure => rfl
  | ok text =>
      have same : text ++ "" = text := String.append_empty
      dsimp only
      rw [same]
      exact piece.formatted_of_render consistent hasFormat renders

/-! ## Exact widths -/

/-- What a text is to become in a format. -/
structure Fitted (format : FieldFormat) (text fitted : String) : Prop where
  length :
    fitted.length =
      if format.max < text.length then format.max
      else max text.length format.min
  /-- A text that is too long loses its beginning. -/
  cut_left :
    format.max < text.length →
      format.cutSide = .left → ∃ front, text = front ++ fitted
  /-- A text that is too long loses its end. -/
  cut_right :
    format.max < text.length →
      format.cutSide = .right → ∃ rest, text = fitted ++ rest
  padded_left :
    ¬ format.max < text.length →
      format.padSide = .left →
        ∃ spaces : String,
          fitted = spaces ++ text ∧ ∀ char ∈ spaces.toList, char = ' '
  padded_right :
    ¬ format.max < text.length →
      format.padSide = .right →
        ∃ spaces : String,
          fitted = text ++ spaces ∧ ∀ char ∈ spaces.toList, char = ' '

theorem fitted_apply (format : FieldFormat) (text : String) :
    Fitted format text (format.apply text) := by
  have count : text.toList.length = text.length := String.length_toList
  have asList {fitted : List Char} (isFit : format.fit text.toList = fitted) :
      format.apply text = String.ofList fitted := by
    rw [FieldFormat.apply, isFit]
  have spaces (count : Nat) :
      ∀ char ∈ (String.ofList (List.replicate count ' ')).toList, char = ' ' := by
    intro char member
    rw [String.toList_ofList] at member
    exact List.eq_of_mem_replicate member
  constructor
  · exact format.length_apply text
  · intro long side
    rw [← count] at long
    have isFit := format.fit_of_long long
    rw [side] at isFit
    refine
      ⟨String.ofList (text.toList.take (text.toList.length - format.max)), ?_⟩
    rw [asList isFit, ← String.ofList_append, List.take_append_drop,
      String.ofList_toList]
  · intro long side
    rw [← count] at long
    have isFit := format.fit_of_long long
    rw [side] at isFit
    refine ⟨String.ofList (text.toList.drop format.max), ?_⟩
    rw [asList isFit, ← String.ofList_append, List.take_append_drop,
      String.ofList_toList]
  · intro short side
    rw [← count] at short
    have isFit := format.fit_of_not_long short
    rw [side] at isFit
    refine ⟨_, ?_, spaces (format.min - text.toList.length)⟩
    rw [asList isFit, String.ofList_append, String.ofList_toList]
  · intro short side
    rw [← count] at short
    have isFit := format.fit_of_not_long short
    rw [side] at isFit
    refine ⟨_, ?_, spaces (format.min - text.toList.length)⟩
    rw [asList isFit, String.ofList_append, String.ofList_toList]

/--
A text is appended to a buffer with exactly the characters that its format asks
for.  If the widths can be met at once, formatting the result again appends the
same, and parentheses with the same format around a piece change nothing.
-/
theorem appendTo_fitted (format : FieldFormat) :
    (∀ buffer text : String,
      ∃ fitted,
        format.appendTo buffer text = buffer ++ fitted ∧
          Fitted format text fitted ∧
          formatted (some format) text =
            (if format.overflows text then .error .overflow else .ok fitted) ∧
          (format.min ≤ format.max →
            ∀ other : String, format.appendTo other fitted = other ++ fitted)) ∧
      (format.min ≤ format.max →
        ∀ piece : Piece,
          piece.format? = some format →
            ∀ scene event,
              (Piece.composite identity (some format) [piece]).render scene event =
                piece.render scene event) := by
  constructor
  · intro buffer text
    refine ⟨format.apply text, rfl, fitted_apply format text, rfl, ?_⟩
    intro consistent other
    have again := FieldFormat.apply_apply consistent text
    exact congrArg (other ++ ·) again
  · intro consistent piece hasFormat scene event
    exact piece.render_nested consistent hasFormat scene event

/-- Characters are counted, not the bytes that they take. -/
theorem appendTo_fitted_accents :
    let format := FieldFormat.ofWidths 4 5
    format.min ≤ format.max ∧
      format.appendTo "<" "été" = "< été" ∧
      format.appendTo "" " été" = " été" := by
  intro format
  have consistent : format.min ≤ format.max := by
    decide
  have appended : format.appendTo "<" "été" = "<" ++ " été" := by
    decide +kernel
  obtain ⟨fitted, isFitted, _, _, again⟩ :=
    (appendTo_fitted format).1 "<" "été"
  have same : fitted = " été" :=
    String.append_right_inj "<" |>.mp (isFitted.symm.trans appended)
  subst same
  exact ⟨consistent, appended, again consistent ""⟩

/-- Where the widths contradict each other a second time does matter. -/
example :
    let format := FieldFormat.ofWidths 5 3
    format.apply "a" = "    a" ∧ format.apply "    a" = "  a" := by
  decide +kernel

end LogPipeline.Pattern
