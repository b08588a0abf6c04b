import LogPipeline.Event.Json
import LogPipeline.Proofs.Json.RoundTrip
import LogPipeline.Proofs.Time.Stamp
import Mathlib.Data.List.Nodup
import Mathlib.Data.String.Basic

/-!
# Reading written events

An event is read back from what is written of it: its properties have values of
the same kinds, its throwable has the same causes in the same order, and what is
absent remains absent.  A reader may set a limit to how deep lists and records
are nested; then the chain of causes must not be longer than the limit allows.
-/

namespace LogPipeline

/-! ## Fields of records -/

namespace FieldSource

/-- A record without repeated names is read by its names. -/
theorem of?_record
    {members : List (String × Json)}
    (distinct : (members.map Prod.fst).Nodup)
    (names : List String) :
    of? names (.record members) = some (.named members) := by
  have once (name : String) : unrepeated members name = true := by
    have count := List.nodup_iff_count_le_one.mp distinct name
    rw [List.count, List.countP_map, List.countP_eq_length_filter] at count
    exact decide_eq_true count
  simp [of?, once]

end FieldSource

/-! ## Properties -/

namespace FieldValue

/-- A text, a whole number of 64 bits, a truth value or null. -/
inductive IsPlain : FieldValue → Prop where
  | text (value : String) : IsPlain (.text value)
  | integer {value : Int} (fits : isWord value = true) : IsPlain (.integer value)
  | boolean (value : Bool) : IsPlain (.boolean value)
  | null : IsPlain .null

/-- A value is read as one of the same kind, for no kind tried earlier can be read. -/
theorem IsPlain.ofJson?_toJson {value : FieldValue} (plain : value.IsPlain) :
    ofJson? value.toJson = some value := by
  cases plain with
  | text value => rfl
  | @integer value fits =>
      have read : integerOf? (FieldValue.integer value).toJson = some (.integer value) :=
        if_pos fits
      rw [ofJson?, kinds, List.findSome?_cons, List.findSome?_cons, read]
      rfl
  | boolean value => rfl
  | null => rfl

theorem IsPlain.isExact_toJson {value : FieldValue} (plain : value.IsPlain) :
    value.toJson.IsExact := by
  cases plain with
  | text value => exact .text value
  | integer fits =>
      rw [isWord, Bool.and_eq_true, decide_eq_true_eq, decide_eq_true_eq] at fits
      exact .number (.whole fits.1 (by omega))
  | boolean value => exact .bool value
  | null => exact .null

end FieldValue

namespace Fields

/-- The entries are in the order of their keys, and each key occurs once. -/
def IsOrdered (fields : Fields) : Prop :=
  fields.entries.Pairwise fun first second => first.1 < second.1

theorem mem_insertEntry
    {key : String}
    {value : FieldValue}
    {entries : List (String × FieldValue)}
    {entry : String × FieldValue}
    (inside : entry ∈ insertEntry key value entries) :
    entry = (key, value) ∨ entry ∈ entries := by
  induction entries with
  | nil => simpa [insertEntry] using inside
  | cons first rest ih =>
      rw [insertEntry] at inside
      split at inside
      · simpa using inside
      · split at inside
        · rcases List.mem_cons.mp inside with new | old
          · exact Or.inl new
          · exact Or.inr (List.mem_cons_of_mem _ old)
        · rcases List.mem_cons.mp inside with same | later
          · exact Or.inr (same ▸ List.mem_cons_self)
          · rcases ih later with new | old
            · exact Or.inl new
            · exact Or.inr (List.mem_cons_of_mem _ old)

theorem isOrdered_insert
    {fields : Fields}
    (ordered : fields.IsOrdered)
    (key : String)
    (value : FieldValue) :
    (fields.insert key value).IsOrdered := by
  rcases fields with ⟨entries⟩
  unfold IsOrdered insert at *
  dsimp only at ordered ⊢
  induction entries with
  | nil => simp [insertEntry]
  | cons first rest ih =>
      rw [List.pairwise_cons] at ordered
      rw [insertEntry]
      split
      next before =>
        refine List.pairwise_cons.mpr ⟨?_, List.pairwise_cons.mpr ordered⟩
        rintro entry (_ | ⟨_, inside⟩)
        · exact before
        · exact before.trans (ordered.1 entry inside)
      next notBefore =>
        split
        next same =>
          refine List.pairwise_cons.mpr ⟨?_, ordered.2⟩
          exact same ▸ ordered.1
        next different =>
          have behind : first.1 < key :=
            lt_of_le_of_ne (not_lt.mp notBefore) (Ne.symm different)
          refine List.pairwise_cons.mpr ⟨?_, ih ordered.2⟩
          intro entry inside
          rcases mem_insertEntry inside with rfl | old
          · exact behind
          · exact ordered.1 entry old

/-- Properties are always in order, however they were put together. -/
theorem isOrdered_ofList (entries : List (String × FieldValue)) :
    (ofList entries).IsOrdered := by
  have kept (fields : Fields) (ordered : fields.IsOrdered) :
      (entries.foldl (fun fields entry => fields.insert entry.1 entry.2) fields).IsOrdered := by
    induction entries generalizing fields with
    | nil => exact ordered
    | cons entry entries ih => exact ih _ (isOrdered_insert ordered entry.1 entry.2)
  exact kept empty List.Pairwise.nil

/-- A key behind all others is put in at the end. -/
theorem insertEntry_of_last
    {key : String}
    {entries : List (String × FieldValue)}
    (last : ∀ entry ∈ entries, entry.1 < key)
    (value : FieldValue) :
    insertEntry key value entries = entries ++ [(key, value)] := by
  induction entries with
  | nil => rfl
  | cons first rest ih =>
      rw [List.forall_mem_cons] at last
      rw [insertEntry, if_neg last.1.asymm, if_neg last.1.ne', ih last.2, List.cons_append]

/-- Entries in order are put in one behind the other. -/
theorem ofList_entries {fields : Fields} (ordered : fields.IsOrdered) :
    ofList fields.entries = fields := by
  have appended (before rest : List (String × FieldValue))
      (ordered : (before ++ rest).Pairwise fun first second => first.1 < second.1) :
      rest.foldl (fun (fields : Fields) entry => fields.insert entry.1 entry.2)
          ⟨before⟩ =
        ⟨before ++ rest⟩ := by
    induction rest generalizing before with
    | nil => simp
    | cons entry rest ih =>
        have last : ∀ other ∈ before, other.1 < entry.1 := by
          intro other inside
          exact (List.pairwise_append.mp ordered).2.2 other inside entry List.mem_cons_self
        rw [List.append_cons] at ordered
        rw [List.foldl_cons, insert, insertEntry_of_last last, ih _ ordered,
          ← List.append_cons]
  exact appended [] fields.entries ordered

theorem readEntries?_toJson
    {entries : List (String × FieldValue)}
    (plain : ∀ entry ∈ entries, entry.2.IsPlain) :
    readEntries? (entries.map fun entry => (entry.1, entry.2.toJson)) = some entries := by
  induction entries with
  | nil => rfl
  | cons entry entries ih =>
      rw [List.forall_mem_cons] at plain
      rw [List.map_cons, readEntries?, plain.1.ofJson?_toJson, ih plain.2]

variable {fields : Fields}

theorem ofJson?_toJson
    (ordered : fields.IsOrdered)
    (plain : ∀ entry ∈ fields.entries, entry.2.IsPlain) :
    ofJson? fields.toJson = some fields := by
  have source :
      FieldSource.of? ["fields"] fields.toJson =
        some (.named [("fields", .record (fields.entries.map fun entry =>
          (entry.1, entry.2.toJson)))]) :=
    FieldSource.of?_record (by simp) _
  simp [ofJson?, source, FieldSource.required?, FieldSource.field?, ofRecord?,
    readEntries?_toJson plain, ofList_entries ordered]

theorem isExact_toJson (plain : ∀ entry ∈ fields.entries, entry.2.IsPlain) :
    fields.toJson.IsExact := by
  refine .record (List.forall_mem_singleton.mpr (.record ?_))
  rw [List.forall_mem_map]
  intro entry inside
  exact (plain entry inside).isExact_toJson

end Fields

/-! ## Throwables -/

namespace Throwable

theorem of?_linkJson (link : ThrowableLink) (cause : Json) :
    FieldSource.of? fieldNames (linkJson link cause) =
      some (.named
        [("class_name", .text link.className), ("message", .text link.message),
          ("frames", .list (link.frames.map .text)), ("cause", cause)]) :=
  FieldSource.of?_record (by simp) _

theorem listOf?_texts (texts : List String) :
    Json.listOf? Json.text? (.list (texts.map .text)) = some texts := by
  rw [Json.listOf?]
  induction texts with
  | nil => rfl
  | cons text texts ih => simp [Json.text?, ih]

/-- A link is read with whatever is read of its cause. -/
theorem readWithin?_linkJson (room : Nat) (link : ThrowableLink) (cause : Json) :
    readWithin? (room + 2) (linkJson link cause) =
      (FieldSource.nullable? (readWithin? (room + 1)) cause).map (.of link) := by
  simp [readWithin?, of?_linkJson, FieldSource.required?, FieldSource.optional?,
    FieldSource.field?, listOf?_texts, Json.text?, List.lookup_cons,
    Option.map_eq_bind]

theorem nullable?_toJson
    {β : Type}
    (read? : Json → Option β)
    (throwable : Throwable) :
    FieldSource.nullable? read? throwable.toJson = (read? throwable.toJson).map some := by
  cases throwable <;> rfl

theorem chain_ne_nil (throwable : Throwable) : throwable.chain ≠ [] := by
  cases throwable <;> exact List.cons_ne_nil _ _

/-- Where there is not room for the frames of a link, nothing is read. -/
theorem readWithin?_of_lt_two {room : Nat} (small : room < 2) (json : Json) :
    readWithin? room json = none := by
  rcases room with _ | _ | room
  · rfl
  · rfl
  · omega

/-- Each link needs a level of records, and the frames of the last one need another. -/
theorem readWithin?_toJson (throwable : Throwable) (room : Nat) :
    readWithin? room throwable.toJson =
      if throwable.chain.length < room then some throwable else none := by
  induction throwable generalizing room with
  | root link =>
      by_cases small : room < 2
      · have few : ¬ (root link).chain.length < room := by
          simp only [chain, List.length_singleton]
          omega
        rw [readWithin?_of_lt_two small, if_neg few]
      · obtain ⟨room, rfl⟩ := Nat.exists_eq_add_of_le' (Nat.not_lt.mp small)
        rw [toJson, readWithin?_linkJson]
        simp [FieldSource.nullable?, chain, of]
  | causedBy link cause ih =>
      have links : (causedBy link cause).chain.length = cause.chain.length + 1 :=
        rfl
      by_cases small : room < 2
      · have few : ¬ (causedBy link cause).chain.length < room := by
          have inner := List.length_pos_iff.mpr cause.chain_ne_nil
          omega
        rw [readWithin?_of_lt_two small, if_neg few]
      · obtain ⟨room, rfl⟩ := Nat.exists_eq_add_of_le' (Nat.not_lt.mp small)
        rw [toJson, readWithin?_linkJson, nullable?_toJson, ih, links]
        by_cases fits : cause.chain.length < room + 1
        · rw [if_pos fits, if_pos (Nat.succ_lt_succ fits)]
          rfl
        · rw [if_neg fits, if_neg (mt Nat.lt_of_succ_lt_succ fits)]
          rfl

theorem isExact_toJson (throwable : Throwable) : throwable.toJson.IsExact := by
  have link (link : ThrowableLink) (cause : Json) (exact : cause.IsExact) :
      (linkJson link cause).IsExact := by
    refine .record ?_
    simp only [List.forall_mem_cons]
    refine ⟨.text _, .text _, .list ?_, exact, List.forall_mem_nil _⟩
    rw [List.forall_mem_map]
    intro frame _
    exact .text frame
  induction throwable with
  | root here => exact link here .null .null
  | causedBy here cause ih => exact link here cause.toJson ih

theorem length_chain_lt_depth (throwable : Throwable) :
    throwable.chain.length < throwable.toJson.depth := by
  induction throwable with
  | root link => simp [chain, toJson, linkJson, Json.depth, Json.depthOfMembers]
  | causedBy link cause ih =>
      simp [chain, toJson, linkJson, Json.depth, Json.depthOfMembers]
      omega

end Throwable

/-! ## Events -/

theorem Level.ofJson?_toJson (level : Level) : ofJson? level.toJson = some level := by
  cases level <;> rfl

namespace Event

/--
An event that there can be, whose properties have plain values: its instant exists, its properties
are in order, and its line, if it has one, is possible.
-/
structure IsPlain (event : Event) : Prop where
  timestamp : event.timestamp.IsValid
  ordered : event.properties.IsOrdered
  values : ∀ entry ∈ event.properties.entries, entry.2.IsPlain
  line : ∀ line ∈ event.line, line ≤ greatestLine

theorem nullable?_textOrNull (value : Option String) :
    FieldSource.nullable? Json.text? (textOrNull value) = some value := by
  cases value <;> rfl

theorem nullable?_numberOrNull
    {limit : Nat}
    {value : Option Nat}
    (within : ∀ number ∈ value, number ≤ limit) :
    FieldSource.nullable? (Json.natUpTo? limit) (numberOrNull value) = some value := by
  cases value with
  | none => rfl
  | some number =>
      have fits : number ≤ limit := within number rfl
      simp [FieldSource.nullable?, numberOrNull, Json.whole, Json.natUpTo?, fits]

variable {event : Event}

/--
A written event is a record with the fields of the event, and no name stands there twice.  The
throwable is missing where there is none.
-/
theorem of?_toJson (event : Event) :
    ∃ members,
      FieldSource.of? fieldNames event.toJson = some (.named members) ∧
      members.lookup "timestamp" = some (.text event.timestamp.stamp) ∧
      members.lookup "level" = some event.level.toJson ∧
      members.lookup "logger_name" = some (.text event.loggerName) ∧
      members.lookup "thread_name" = some (.text event.threadName) ∧
      members.lookup "message" = some (.text event.message) ∧
      members.lookup "properties" = some event.properties.toJson ∧
      members.lookup "throwable" = event.throwable.map Throwable.toJson ∧
      members.lookup "file" = some (textOrNull event.file) ∧
      members.lookup "line" = some (numberOrNull event.line) ∧
      members.lookup "module_path" = some (textOrNull event.modulePath) ∧
      members.lookup "marker" = some (textOrNull event.marker) := by
  refine ⟨_, FieldSource.of?_record ?_ _, ?_⟩
  · cases event.throwable <;> simp
  · cases event.throwable <;> simp [List.lookup_cons]

theorem readStamp?_text (stamp : String) :
    readStamp? (.text stamp) = Time.Stamp.read? stamp := by
  rw [readStamp?, Json.text?, Option.bind_some]

theorem optional?_throwable
    {members : List (String × Json)}
    {throwable : Option Throwable}
    (written : members.lookup "throwable" = throwable.map Throwable.toJson)
    (room : Nat) :
    (FieldSource.named members).optional? "throwable" 6 (Throwable.readWithin? room) =
      if ∀ failure ∈ throwable, failure.chain.length < room then some throwable else none := by
  cases throwable with
  | none => simp [FieldSource.optional?, FieldSource.field?, written]
  | some throwable =>
      simp only [FieldSource.optional?, FieldSource.field?, written, Option.map_some,
        Throwable.nullable?_toJson, Throwable.readWithin?_toJson, Option.mem_some_iff,
        forall_eq']
      split <;> rfl

/-- Only a chain of causes that is longer than the room allows is refused. -/
theorem readWithin?_toJson
    (plain : event.IsPlain)
    (room : Nat) :
    readWithin? room event.toJson =
      if ∀ throwable ∈ event.throwable, throwable.chain.length < room - 1 then
        some event
      else
        none := by
  obtain ⟨members, source, timestamp, level, loggerName, threadName, message, properties,
    throwable, file, line, modulePath, marker⟩ := of?_toJson event
  rw [readWithin?, source, Option.bind_eq_bind, Option.bind_some, optional?_throwable throwable]
  simp only [FieldSource.required?, FieldSource.withDefault?, FieldSource.optional?,
    FieldSource.field?, timestamp, level, loggerName, threadName, message, properties, file, line,
    modulePath, marker, readStamp?_text, plain.timestamp.read?_stamp, Level.ofJson?_toJson,
    Json.text?,
    Fields.ofJson?_toJson plain.ordered plain.values, nullable?_textOrNull,
    nullable?_numberOrNull plain.line, Option.bind_eq_bind, Option.bind_some]
  split <;> rfl

theorem isExact_textOrNull (value : Option String) : (textOrNull value).IsExact := by
  cases value with
  | none => exact .null
  | some text => exact .text text

theorem isExact_toJson (plain : event.IsPlain) : event.toJson.IsExact := by
  have line : (numberOrNull event.line).IsExact := by
    cases given : event.line with
    | none => exact .null
    | some line =>
        have least := plain.line line given
        rw [greatestLine] at least
        exact .number (.whole (by omega) (by omega))
  refine .record ?_
  simp only [List.forall_mem_append, List.forall_mem_cons]
  refine ⟨⟨⟨.text _, .text _, .text _, .text _, .text _,
      Fields.isExact_toJson plain.values, List.forall_mem_nil _⟩, ?_⟩,
    isExact_textOrNull _, line, isExact_textOrNull _, isExact_textOrNull _,
    List.forall_mem_nil _⟩
  cases event.throwable with
  | none => exact List.forall_mem_nil _
  | some throwable => exact List.forall_mem_singleton.mpr throwable.isExact_toJson

/-- A written event is nested at least as deep as its chain of causes needs. -/
theorem length_chain_lt_depth {throwable : Throwable} (given : event.throwable = some throwable) :
    throwable.chain.length < event.toJson.depth - 1 := by
  have deep := throwable.length_chain_lt_depth
  simp only [toJson, given, Json.depth, List.cons_append, List.nil_append, Json.depthOfMembers]
  omega

/-- The usual limit leaves room for a failure with up to 124 causes. -/
theorem ofJson?_toJson_eq_some_iff (plain : event.IsPlain) :
    ofJson? event.toJson = some event ↔
      ∀ throwable ∈ event.throwable, throwable.chain.length ≤ 125 := by
  rw [ofJson?, readWithin?_toJson plain, FieldSource.greatestDepth, ite_eq_left_iff]
  simp only [reduceCtorEq, imp_false, Decidable.not_not, Nat.reduceSub, Nat.lt_succ_iff]

/--
What is written of an event is read back as the same event, where lists and records may be nested
as deep as they are in what is written.  At the usual limit it is read back if its failure has no
more than 124 causes.
-/
theorem read_written
    (event : Event)
    (plain : event.IsPlain)
    {room : Nat}
    (deep : event.toJson.depth ≤ room) :
    (Json.read? (Json.print event.toJson)).bind (readWithin? room) = some event ∧
      ((Json.read? (Json.print event.toJson)).bind ofJson? = some event ↔
        ∀ throwable ∈ event.throwable, throwable.chain.length ≤ 125) := by
  rw [(isExact_toJson plain).read?_print, Option.bind_some, Option.bind_some]
  refine ⟨?_, ofJson?_toJson_eq_some_iff plain⟩
  rw [readWithin?_toJson plain]
  refine if_pos ?_
  intro throwable given
  exact (length_chain_lt_depth given).trans_le (Nat.sub_le_sub_right deep 1)

/-- A request in a leap second whose failure has two causes, with a value of each plain kind. -/
def refusedTransfer : Event where
  timestamp := ⟨1483228799, 1250000000⟩
  level := .warn
  loggerName := "bank::transfer"
  threadName := "worker\x07"
  message := "refused: \"no such account\""
  properties :=
    .ofList
      [("user", .text "42"), ("balance", .integer (-9223372036854775808)),
        ("retry", .boolean false), ("branch", .null)]
  throwable :=
    some
      (.causedBy ⟨"TransferError", "not moved", ["transfer.rs:10", "main.rs:3"]⟩
        (.causedBy ⟨"", "account unknown", []⟩ (.root ⟨"IoError", "", ["disk.rs:7"]⟩)))
  file := some "transfer.rs"
  line := some 4294967295
  modulePath := none
  marker := none

theorem read_written_refusedTransfer :
    (refusedTransfer.IsPlain ∧ refusedTransfer.toJson.depth ≤ 5) ∧
      (Json.read? (Json.print refusedTransfer.toJson)).bind (readWithin? 5) =
        some refusedTransfer ∧
      (Json.read? (Json.print refusedTransfer.toJson)).bind ofJson? =
        some refusedTransfer := by
  have plain : refusedTransfer.IsPlain := by
    refine ⟨⟨by decide, by decide, by decide⟩, Fields.isOrdered_ofList _, ?_, by decide⟩
    have entries :
        refusedTransfer.properties.entries =
          [("balance", .integer (-9223372036854775808)), ("branch", .null),
            ("retry", .boolean false), ("user", .text "42")] := by
      decide
    rw [entries]
    simp only [List.forall_mem_cons]
    exact ⟨.integer (by decide), .null, .boolean false, .text "42", List.forall_mem_nil _⟩
  have deep : refusedTransfer.toJson.depth ≤ 5 := by decide
  have short : ∀ throwable ∈ refusedTransfer.throwable, throwable.chain.length ≤ 125 := by
    rintro _ ⟨⟩
    decide
  have ⟨within, usual⟩ := read_written refusedTransfer plain deep
  exact ⟨⟨plain, deep⟩, within, usual.mpr short⟩

end Event

end LogPipeline
