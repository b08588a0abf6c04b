import Mathlib.Tactic.SplitIfs
import LogPipeline.Time.DateStyle

/-!
# Templates that can be shown

A template that can be read has a text at every instant and in every zone, but
for one specifier: the lenient offset can be read and not written.  Whether a
template asks for it can be told from its text alone.  It does where the
specifier comes after a text that is a template by itself, so the percent sign
is not part of another specifier.
-/

namespace LogPipeline.Time

/-! ## Items that can be shown -/

theorem TemplateItem.show?_eq_none_iff (item : TemplateItem) (time : LocalTime) :
    item.show? time = none ↔ item = .lenientOffset := by
  cases item <;> simp [show?]

/-- Some items can be shown unless the lenient offset is among them. -/
theorem showItems?_eq_none_iff (time : LocalTime) (items : List TemplateItem) :
    showItems? time items = none ↔ .lenientOffset ∈ items := by
  induction items with
  | nil => simp [showItems?]
  | cons item rest ih =>
      rw [showItems?, List.mem_cons, ← ih, eq_comm (a := TemplateItem.lenientOffset),
        ← item.show?_eq_none_iff time]
      cases item.show? time <;> cases showItems? time rest <;> simp

/-! ## Reading one character after another -/

theorem TemplateItem.lenientOffset_not_mem_ofLetter?
    {letter : Char}
    {items : List TemplateItem}
    (stands : ofLetter? letter = some items) :
    .lenientOffset ∉ items := by
  unfold ofLetter? at stands
  split at stands
  -- The letters of numbers come last.
  case h_23 =>
    rcases Option.map_eq_some_iff.mp stands with ⟨field, _, rfl⟩
    simp
  all_goals
    cases stands
    simp [slashedDate, clock, zeroed]

namespace TemplatePlace

/-- How the lenient offset is come by: no other step leads towards it. -/
theorem step?_cases
    {place next : TemplatePlace}
    {char : Char}
    {items : List TemplateItem}
    (steps : place.step? char = some (next, items)) :
    (place = .text ∧ char = '%' ∧ next = .percent ∧ items = []) ∨
      (place = .percent ∧ char = '#' ∧ next = .alternate ∧ items = []) ∨
      (place = .alternate ∧ char = 'z' ∧ next = .text ∧
        items = [.lenientOffset]) ∨
      (next ≠ .percent ∧ next ≠ .alternate ∧ .lenientOffset ∉ items) := by
  cases place with
  | text =>
      rw [step?] at steps
      split at steps <;> cases steps <;> simp_all
  | percent =>
      rw [step?, stepPercent?] at steps
      split_ifs at steps with _ _ _ hash
      · cases steps
        simp
      · cases steps
        simp
      · cases steps
        simp
      · cases steps
        exact Or.inr (Or.inl ⟨rfl, hash, rfl, rfl⟩)
      · cases steps
        simp
      · cases steps
        simp
      · cases counts : fractionCount? char with
        | some count =>
            rw [counts] at steps
            cases steps
            simp
        | none =>
            rw [counts] at steps
            rcases Option.map_eq_some_iff.mp steps with ⟨whole, stands, equal⟩
            cases equal
            have absent := TemplateItem.lenientOffset_not_mem_ofLetter? stands
            exact Or.inr (Or.inr (Or.inr ⟨nofun, nofun, absent⟩))
  | padded pad =>
      rcases Option.map_eq_some_iff.mp steps with ⟨field, _, equal⟩
      cases equal
      simp
  | alternate =>
      rw [step?] at steps
      split_ifs at steps with lenient
      cases steps
      exact Or.inr (Or.inr (Or.inl ⟨rfl, lenient, rfl, rfl⟩))
  | colons count =>
      rw [step?] at steps
      split_ifs at steps <;> cases steps <;> simp
  | point =>
      rw [step?] at steps
      split_ifs at steps
      · cases steps
        simp
      · rcases Option.map_eq_some_iff.mp steps with ⟨count, _, equal⟩
        cases equal
        simp
  | digits pointed count =>
      rw [step?] at steps
      split_ifs at steps
      cases steps
      simp

end TemplatePlace

/-! ## Texts of templates -/

/-- After a text that is a template by itself, reading begins anew. -/
theorem readTemplate?_append
    {place : TemplatePlace}
    {before : List Char}
    {items : List TemplateItem}
    (reads : readTemplate? place before = some items)
    (after : List Char) :
    readTemplate? place (before ++ after) =
      (readTemplate? .text after).map (items ++ ·) := by
  induction before generalizing place items with
  | nil =>
      rw [readTemplate?] at reads
      by_cases stands : place = .text
      · rw [if_pos stands] at reads
        cases reads
        subst stands
        simp
      · rw [if_neg stands] at reads
        cases reads
  | cons char rest ih =>
      rw [readTemplate?] at reads
      rw [List.cons_append, readTemplate?]
      cases steps : place.step? char with
      | none =>
          rw [steps] at reads
          cases reads
      | some result =>
          rw [steps] at reads
          rcases Option.map_eq_some_iff.mp reads with ⟨others, readsOthers, rfl⟩
          dsimp only
          rw [ih readsOthers, Option.map_map]
          simp [Function.comp_def]

/-- The specifier of the lenient offset. -/
def lenientOffset : List Char := ['%', '#', 'z']

/-- A text has the specifier of the lenient offset after a template. -/
def AsksFrom (place : TemplatePlace) (chars : List Char) : Prop :=
  ∃ before after,
    chars = before ++ lenientOffset ++ after ∧
      (readTemplate? place before).isSome = true

/-- What is left to read of the specifier of the lenient offset. -/
def Completes (place : TemplatePlace) (chars : List Char) : Prop :=
  (place = .percent ∧ ∃ after, chars = '#' :: 'z' :: after) ∨
    (place = .alternate ∧ ∃ after, chars = 'z' :: after)

theorem AsksFrom.cons
    {place next : TemplatePlace}
    {char : Char}
    {produced : List TemplateItem}
    {rest : List Char}
    (steps : place.step? char = some (next, produced))
    (asks : AsksFrom next rest) :
    AsksFrom place (char :: rest) := by
  rcases asks with ⟨before, after, rfl, isRead⟩
  refine ⟨char :: before, after, rfl, ?_⟩
  rw [readTemplate?, steps]
  exact (Option.isSome_map ..).trans isRead

/-- The lenient offset is read by its specifier and by nothing else. -/
theorem asksFrom_of_mem
    {place : TemplatePlace}
    {chars : List Char}
    {items : List TemplateItem}
    (reads : readTemplate? place chars = some items)
    (member : .lenientOffset ∈ items) :
    Completes place chars ∨ AsksFrom place chars := by
  induction chars generalizing place items with
  | nil =>
      rw [readTemplate?] at reads
      split at reads <;> cases reads
      cases member
  | cons char rest ih =>
      rw [readTemplate?] at reads
      cases steps : place.step? char with
      | none =>
          rw [steps] at reads
          cases reads
      | some result =>
          rcases result with ⟨next, produced⟩
          rw [steps] at reads
          rcases Option.map_eq_some_iff.mp reads with ⟨others, readsOthers, rfl⟩
          rcases List.mem_append.mp member with now | later
          · rcases TemplatePlace.step?_cases steps with
              ⟨_, _, _, rfl⟩ | ⟨_, _, _, rfl⟩ | ⟨rfl, rfl, _⟩ | ⟨_, _, absent⟩
            · cases now
            · cases now
            · exact Or.inl (Or.inr ⟨rfl, rest, rfl⟩)
            · exact absurd now absent
          · rcases ih readsOthers later with completes | asks
            · rcases completes with ⟨rfl, after, rfl⟩ | ⟨rfl, after, rfl⟩
              · rcases TemplatePlace.step?_cases steps with
                  ⟨rfl, rfl, _⟩ | ⟨_, _, impossible, _⟩ | ⟨_, _, impossible, _⟩ |
                    ⟨impossible, _⟩
                · exact Or.inr ⟨[], after, rfl, rfl⟩
                · cases impossible
                · cases impossible
                · exact absurd rfl impossible
              · rcases TemplatePlace.step?_cases steps with
                  ⟨_, _, impossible, _⟩ | ⟨rfl, rfl, _⟩ | ⟨_, _, impossible, _⟩ |
                    ⟨_, impossible, _⟩
                · cases impossible
                · exact Or.inl (Or.inl ⟨rfl, after, rfl⟩)
                · cases impossible
                · exact absurd rfl impossible
            · exact Or.inr (asks.cons steps)

theorem lenientOffset_mem_iff
    {chars : List Char}
    {items : List TemplateItem}
    (reads : readTemplate? .text chars = some items) :
    .lenientOffset ∈ items ↔ AsksFrom .text chars := by
  constructor
  · intro member
    rcases asksFrom_of_mem reads member with completes | asks
    · rcases completes with ⟨impossible, _⟩ | ⟨impossible, _⟩ <;> cases impossible
    · exact asks
  · rintro ⟨before, after, rfl, isRead⟩
    rcases Option.isSome_iff_exists.mp isRead with ⟨front, readsFront⟩
    have specifier :
        readTemplate? .text lenientOffset = some [.lenientOffset] := by
      decide +kernel
    rw [List.append_assoc, readTemplate?_append readsFront,
      readTemplate?_append specifier, Option.map_map] at reads
    rcases Option.map_eq_some_iff.mp reads with ⟨others, _, rfl⟩
    simp

/-! ## Styles -/

/-- A text asks for the lenient offset after a text that is a template by itself. -/
def AsksLenientOffset (text : String) : Prop :=
  ∃ before after : String,
    text = before ++ "%#z" ++ after ∧ (TemplateItem.ofText? before).isSome = true

theorem asksLenientOffset_iff (text : String) :
    AsksLenientOffset text ↔ AsksFrom .text text.toList := by
  constructor
  · rintro ⟨before, after, rfl, isRead⟩
    refine ⟨before.toList, after.toList, ?_, isRead⟩
    rw [String.toList_append, String.toList_append]
    rfl
  · rintro ⟨before, after, split, isRead⟩
    refine ⟨String.ofList before, String.ofList after, ?_, ?_⟩
    · apply String.toList_inj.mp
      simp only [String.toList_append, String.toList_ofList]
      exact split
    · rw [TemplateItem.ofText?, String.toList_ofList]
      exact isRead

theorem not_asksLenientOffset_of_not_mem
    {text : String}
    (plain : '#' ∉ text.toList) :
    ¬ AsksLenientOffset text := by
  rintro ⟨before, after, rfl, _⟩
  apply plain
  rw [String.toList_append, String.toList_append]
  exact List.mem_append_left _ (List.mem_append_right _ (by decide))

namespace DateStyle

theorem showTemplate?_eq_none_iff
    {text : String}
    {items : List TemplateItem}
    (reads : TemplateItem.ofText? text = some items)
    (instant : Instant)
    (zone : Zone) :
    showTemplate? text instant zone = none ↔ AsksLenientOffset text := by
  rw [showTemplate?, reads, asksLenientOffset_iff, ← lenientOffset_mem_iff reads]
  exact Option.map_eq_none_iff.trans (showItems?_eq_none_iff _ items)

/-- All styles but templates have a text at every instant. -/
theorem exists_show?_of_ne_template
    {style : DateStyle}
    (named : ∀ text, style ≠ .template text)
    (instant : Instant)
    (zone : Zone) :
    ∃ text, style.show? instant zone = some text := by
  cases style with
  | sortable =>
      obtain ⟨items, reads⟩ :
          ∃ items, TemplateItem.ofText? sortableTemplate = some items := by
        apply Option.isSome_iff_exists.mp
        decide +kernel
      have plain : ¬ AsksLenientOffset sortableTemplate :=
        not_asksLenientOffset_of_not_mem (by decide +kernel)
      apply Option.ne_none_iff_exists'.mp
      exact plain ∘ (showTemplate?_eq_none_iff reads instant zone).mp
  | stamp => exact ⟨_, rfl⟩
  | seconds => exact ⟨_, rfl⟩
  | millis => exact ⟨_, rfl⟩
  | template text => exact absurd rfl (named text)

/-- An option names a style, or it is itself a template that can be read. -/
theorem ofOption_cases
    {option : String}
    {style : DateStyle}
    (accepted : ofOption option = .ok style) :
    (∀ text, style ≠ .template text) ∧ '#' ∉ option.toList ∨
      style = .template option ∧
        ∃ items, TemplateItem.ofText? option = some items := by
  unfold ofOption at accepted
  split at accepted
  case h_5 =>
    cases reads : TemplateItem.ofText? option with
    | none =>
        rw [reads] at accepted
        cases accepted
    | some items =>
        rw [reads] at accepted
        cases accepted
        exact Or.inr ⟨rfl, items, rfl⟩
  all_goals
    cases accepted
    exact Or.inl ⟨by simp, by decide +kernel⟩

/--
A style that an option names or describes has a text at every instant and in
every zone, unless the option asks for the lenient offset.
-/
theorem exists_show?_iff
    {option : String}
    {style : DateStyle}
    (accepted : ofOption option = .ok style)
    (instant : Instant)
    (zone : Zone) :
    (∃ text, style.show? instant zone = some text) ↔
      ¬ AsksLenientOffset option := by
  rcases ofOption_cases accepted with ⟨named, plain⟩ | ⟨rfl, items, reads⟩
  · have shows := exists_show?_of_ne_template named instant zone
    exact iff_of_true shows (not_asksLenientOffset_of_not_mem plain)
  · rw [← showTemplate?_eq_none_iff reads instant zone]
    exact Option.ne_none_iff_exists'.symm

/-- The percent sign of a specifier is not one that is to be shown as such. -/
theorem exists_show?_percent :
    ofOption "%H %%#z" = .ok (.template "%H %%#z") ∧
      (template "%H %%#z").show? .epoch .home = some "05 %#z" ∧
      ¬ AsksLenientOffset "%H %%#z" := by
  have accepted : ofOption "%H %%#z" = .ok (.template "%H %%#z") := rfl
  have shows : (template "%H %%#z").show? .epoch .home = some "05 %#z" := by
    decide +kernel
  exact ⟨accepted, shows, (exists_show?_iff accepted .epoch .home).mp ⟨_, shows⟩⟩

/-- A template that was accepted and cannot be shown at the beginning of 1970. -/
theorem not_exists_show?_lenientOffset :
    ofOption "%#z" = .ok (.template "%#z") ∧
      Instant.of? 0 0 = some .epoch ∧
      ¬ ∃ text, (template "%#z").show? .epoch .universal = some text := by
  refine ⟨rfl, by decide +kernel, ?_⟩
  have vain : (template "%#z").show? .epoch .universal = none := by
    decide +kernel
  rintro ⟨text, shows⟩
  rw [vain] at shows
  cases shows

end DateStyle

end LogPipeline.Time
