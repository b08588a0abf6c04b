import LogPipeline.Json.Printer
import LogPipeline.Json.Reader

/-!
# Tokens of JSON values

A written value consists of certain tokens, and the machine that puts tokens
together makes the value of them again, whatever is open around it and whatever
follows.  This holds of values whose numbers are whole and fit into 64 bits and
of which no part is garbled; other values are not written as what they are.
-/

namespace LogPipeline

/-- A number that is read as the same one: it is whole and fits into 64 bits. -/
inductive JsonNumber.IsExact : JsonNumber → Prop where
  | whole
      {value : Int}
      (least : -9223372036854775808 ≤ value)
      (greatest : value ≤ 18446744073709551615) :
      IsExact (.whole value)

namespace Json

/-- A value that is read as the same one. -/
inductive IsExact : Json → Prop where
  | null : IsExact .null
  | bool (value : Bool) : IsExact (.bool value)
  | number
      {value : JsonNumber}
      (exact : value.IsExact) :
      IsExact (.number value)
  | text (value : String) : IsExact (.text value)
  | list
      {items : List Json}
      (each : ∀ item ∈ items, IsExact item) :
      IsExact (.list items)
  | record
      {members : List (String × Json)}
      (each : ∀ member ∈ members, IsExact member.2) :
      IsExact (.record members)

/-! ## The tokens of a value -/

mutual

/-- The tokens of a value as it is written. -/
def tokens : Json → List JsonToken
  | .null => [.null]
  | .bool value => [.bool value]
  | .number value => [.number value]
  | .text value => [.text value]
  | .garbled => [.null]
  | .list items => .openList :: [.comma].intercalate (itemTokens items) ++ [.closeList]
  | .record members =>
      .openRecord :: [.comma].intercalate (memberTokens members) ++ [.closeRecord]

/-- The tokens of each item of a list. -/
def itemTokens : List Json → List (List JsonToken)
  | [] => []
  | item :: rest => item.tokens :: itemTokens rest

/-- The tokens of each member of a record. -/
def memberTokens : List (String × Json) → List (List JsonToken)
  | [] => []
  | (name, value) :: rest => (.text name :: .colon :: value.tokens) :: memberTokens rest

end

/-- Where a list was just opened, a value is read as it is anywhere else. -/
theorem ofTokens?_valueOrEnd (value : Json) (frames : List Frame) (rest : List JsonToken) :
    ofTokens? .valueOrEnd frames (value.tokens ++ rest) =
      ofTokens? .value frames (value.tokens ++ rest) := by
  cases value <;> rfl

/-- A value is put together from its tokens. -/
def IsReadBack (value : Json) : Prop :=
  ∀ (frames : List Frame) (rest : List JsonToken),
    ofTokens? .value frames (value.tokens ++ rest) =
      ofTokens? (.separator value) frames rest

theorem ofTokens?_items
    {items : List Json}
    (each : ∀ item ∈ items, item.IsReadBack)
    {first : Json}
    (begins : first.IsReadBack)
    (before : List Json)
    (frames : List Frame)
    (rest : List JsonToken) :
    ofTokens? .value (.list before :: frames)
        ([.comma].intercalate (itemTokens (first :: items)) ++ .closeList :: rest) =
      ofTokens? (.separator (.list (before.reverse ++ first :: items))) frames rest := by
  induction items generalizing first before with
  | nil =>
      simp only [itemTokens, List.intercalate_singleton]
      rw [begins]
      simp [ofTokens?, step?]
  | cons next items ih =>
      rw [List.forall_mem_cons] at each
      have further := ih each.2 each.1 (first :: before)
      rw [List.reverse_cons, List.append_assoc] at further
      simp only [itemTokens, List.intercalate_cons_cons, List.append_assoc]
      rw [begins]
      exact further

theorem ofTokens?_members
    {members : List (String × Json)}
    (each : ∀ member ∈ members, member.2.IsReadBack)
    (name : String)
    {first : Json}
    (begins : first.IsReadBack)
    (before : List (String × Json))
    (frames : List Frame)
    (rest : List JsonToken) :
    ofTokens? (.name (some before)) frames
        ([.comma].intercalate (memberTokens ((name, first) :: members)) ++
          .closeRecord :: rest) =
      ofTokens? (.separator (.record (before.reverse ++ (name, first) :: members)))
        frames rest := by
  induction members generalizing name first before with
  | nil =>
      simp only [memberTokens, List.intercalate_singleton, List.cons_append, ofTokens?,
        step?]
      rw [begins]
      simp [ofTokens?, step?, addMember, closeRecord]
  | cons next members ih =>
      rw [List.forall_mem_cons] at each
      have further := ih each.2 next.1 each.1 ((name, first) :: before)
      rw [List.reverse_cons, List.append_assoc] at further
      simp only [memberTokens, List.intercalate_cons_cons, List.cons_append,
        List.append_assoc, ofTokens?, step?]
      rw [begins]
      exact further

theorem IsExact.isReadBack {value : Json} (exact : value.IsExact) : value.IsReadBack := by
  induction exact with
  | null => exact fun _ _ => rfl
  | bool value => exact fun _ _ => rfl
  | number => exact fun _ _ => rfl
  | text value => exact fun _ _ => rfl
  | @list items each ih =>
      intro frames rest
      cases items with
      | nil => rfl
      | cons first items =>
          rw [List.forall_mem_cons] at ih
          obtain ⟨more, starts⟩ :
              ∃ more,
                [.comma].intercalate (itemTokens (first :: items)) =
                  first.tokens ++ more := by
            cases items with
            | nil => exact ⟨[], by simp [itemTokens]⟩
            | cons next items =>
                refine ⟨[.comma] ++ [.comma].intercalate (itemTokens (next :: items)), ?_⟩
                simp only [itemTokens, List.intercalate_cons_cons, List.append_assoc]
          have inner := ofTokens?_items ih.2 ih.1 [] frames rest
          have opened :
              ofTokens? .value frames ((Json.list (first :: items)).tokens ++ rest) =
                ofTokens? .valueOrEnd (.list [] :: frames)
                  ([.comma].intercalate (itemTokens (first :: items)) ++
                    .closeList :: rest) := by
            simp [tokens, ofTokens?, step?, beginValue?]
          rw [starts, List.append_assoc] at inner opened
          rw [opened, ofTokens?_valueOrEnd, inner]
          rfl
  | @record members each ih =>
      intro frames rest
      cases members with
      | nil => rfl
      | cons first members =>
          rw [List.forall_mem_cons] at ih
          have inner := ofTokens?_members ih.2 first.1 ih.1 [] frames rest
          simp only [memberTokens, List.intercalate_cons_cons_left, List.cons_append]
            at inner
          simp only [tokens, memberTokens, List.intercalate_cons_cons_left,
            List.cons_append, List.append_assoc, List.nil_append]
          exact inner

end Json

end LogPipeline
