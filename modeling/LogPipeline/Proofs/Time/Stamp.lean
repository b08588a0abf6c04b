import LogPipeline.Time.Stamp
import LogPipeline.Proofs.Text.Numeral
import LogPipeline.Proofs.Time.Calendar
import Mathlib.Data.List.TakeWhile
import Mathlib.Tactic.IntervalCases

/-!
# Reading written time stamps

The reader finds each number of a stamp where the writer has put it, for a number
has as many digits as the reader takes, or a mark behind it.  So an instant is
read back from its stamp, a leap second included.
-/

namespace LogPipeline.Time

/-! ## Numbers with leading zeros -/

theorem isDigits_zeroFilled (width number : Nat) :
    Text.IsDigits (zeroFilled width number) := by
  have digits := Text.isDigits_toDigits number
  constructor
  · exact List.append_ne_nil_of_right_ne_nil _ digits.1
  · intro char inside
    rcases List.mem_append.mp inside with filled | inside
    · rw [List.eq_of_mem_replicate filled]
      rfl
    · exact digits.2 char inside

theorem length_zeroFilled
    {width number : Nat}
    (positive : 0 < width)
    (fits : number < 10 ^ width) :
    (zeroFilled width number).length = width := by
  have few := (Nat.length_toDigits_le_iff (by decide) positive).mpr fits
  rw [zeroFilled, digitsOf, List.length_append, List.length_replicate]
  exact Nat.sub_add_cancel few

/-- Leading zeros do not count. -/
theorem digitsValue_zeroFilled (width number : Nat) :
    Text.digitsValue 0 (zeroFilled width number) = number := by
  have zeros (count : Nat) : Text.digitsValue 0 (List.replicate count '0') = 0 := by
    induction count with
    | zero => rfl
    | succ count ih => exact ih
  have digits : Text.digitsValue 0 (Nat.toDigits 10 number) = number :=
    Nat.ofDigitChars_ten_toDigits
  unfold Text.digitsValue at zeros digits ⊢
  rw [zeroFilled, digitsOf, List.foldl_append, zeros, digits]

/-! ## The parts of a stamp -/

theorem daysInMonth_le (year : Int) (month : Nat) : daysInMonth year month ≤ 31 := by
  unfold daysInMonth
  split
  · split <;> decide
  all_goals decide

namespace Stamp

variable {chars rest : List Char}

theorem isBlank_of_isDigit {char : Char} (digit : char.isDigit = true) :
    Text.isBlank char = false := by
  have range : 48 ≤ char.toNat ∧ char.toNat ≤ 57 := by
    simpa [Char.isDigit, UInt32.le_iff_toNat_le] using digit
  simp [Text.isBlank]
  omega

theorem trimStart_append_of_isDigits (digits : Text.IsDigits chars) (rest : List Char) :
    Text.trimStart (chars ++ rest) = chars ++ rest := by
  rcases chars with _ | ⟨first, chars⟩
  · exact absurd rfl digits.1
  · have digit := digits.2 first List.mem_cons_self
    exact List.dropWhile_cons_of_neg (Bool.eq_false_iff.mp (isBlank_of_isDigit digit))

theorem takeNumber?_of_isDigits (digits : Text.IsDigits chars) (rest : List Char) :
    takeNumber? chars.length (chars ++ rest) = some (Text.digitsValue 0 chars, rest) := by
  have all : chars.takeWhile Char.isDigit = chars :=
    List.takeWhile_eq_self_iff.mpr digits.2
  rw [takeNumber?, trimStart_append_of_isDigits digits, List.take_left, all,
    List.isEmpty_eq_false_iff.mpr digits.1, List.drop_left]
  rfl

theorem takeNumber?_zeroFilled
    {width number : Nat}
    (positive : 0 < width)
    (fits : number < 10 ^ width)
    (rest : List Char) :
    takeNumber? width (zeroFilled width number ++ rest) = some (number, rest) := by
  have read := takeNumber?_of_isDigits (isDigits_zeroFilled width number) rest
  rwa [length_zeroFilled positive fits, digitsValue_zeroFilled] at read

theorem takeBetween?_zeroFilled
    {low high number : Nat}
    (least : low ≤ number)
    (greatest : number ≤ high)
    (two : high < 100)
    (rest : List Char) :
    takeBetween? low high (zeroFilled 2 number ++ rest) = some (number, rest) := by
  rw [takeBetween?, takeNumber?_zeroFilled (by decide) (greatest.trans_lt two)]
  exact if_pos ⟨least, greatest⟩

theorem takeMark?_cons {mark : Char} (shown : Text.isBlank mark = false) (rest : List Char) :
    takeMark? mark (mark :: rest) = some rest := by
  rw [takeMark?, Text.trimStart, List.dropWhile_cons_of_neg (Bool.eq_false_iff.mp shown)]
  exact if_pos rfl

/-- Digits with something else behind them are read to their end. -/
theorem takeWhile_isDigit_append
    (digits : Text.IsDigits chars)
    {mark : Char}
    (other : mark.isDigit = false)
    (rest : List Char) :
    (chars ++ mark :: rest).takeWhile Char.isDigit = chars ∧
      (chars ++ mark :: rest).dropWhile Char.isDigit = mark :: rest := by
  constructor
  · rw [List.takeWhile_append_of_pos digits.2,
      List.takeWhile_cons_of_neg (Bool.eq_false_iff.mp other), List.append_nil]
  · rw [List.dropWhile_append_of_pos digits.2,
      List.dropWhile_cons_of_neg (Bool.eq_false_iff.mp other)]

theorem takeYear?_zeroFilledSigned (year : Int) (rest : List Char) :
    takeYear? (zeroFilledSigned true 5 year ++ '-' :: rest) = some (year, '-' :: rest) := by
  have digits := isDigits_zeroFilled 4 year.natAbs
  have value := digitsValue_zeroFilled 4 year.natAbs
  obtain ⟨taken, left⟩ := takeWhile_isDigit_append digits (by decide : '-'.isDigit = false) rest
  have minus (chars : List Char) : Text.trimStart ('-' :: chars) = '-' :: chars :=
    List.dropWhile_cons_of_neg (by decide)
  have plus (chars : List Char) : Text.trimStart ('+' :: chars) = '+' :: chars :=
    List.dropWhile_cons_of_neg (by decide)
  rw [zeroFilledSigned, signOf, if_pos rfl]
  by_cases negative : year < 0
  · have signed : -Int.ofNat year.natAbs = year := by
      rw [Int.ofNat_eq_natCast]
      omega
    rw [if_pos negative]
    simp only [List.length_singleton, Nat.reduceSub, List.cons_append, List.nil_append,
      takeYear?, minus, taken, left]
    split
    next empty => exact absurd empty digits.1
    next => rw [value, signed]
  · have signed : Int.ofNat year.natAbs = year := by
      rw [Int.ofNat_eq_natCast]
      omega
    rw [if_neg negative]
    simp only [List.length_singleton, Nat.reduceSub, List.cons_append, List.nil_append,
      takeYear?, plus, taken, left]
    split
    next empty => exact absurd empty digits.1
    next => rw [value, signed]

theorem takeYear?_zeroFilled {year : Int} (usual : 0 ≤ year ∧ year < 10000) (rest : List Char) :
    takeYear? (zeroFilled 4 year.toNat ++ rest) = some (year, rest) := by
  have digits := isDigits_zeroFilled 4 year.toNat
  have read : takeNumber? 4 (zeroFilled 4 year.toNat ++ rest) = some (year.toNat, rest) :=
    takeNumber?_zeroFilled (by decide) (by omega) rest
  have value : Int.ofNat year.toNat = year := Int.toNat_of_nonneg usual.1
  have start := trimStart_append_of_isDigits digits rest
  generalize zeroFilled 4 year.toNat = chars at *
  cases chars with
  | nil => exact absurd rfl digits.1
  | cons first chars =>
      have signs := digits.head_ne
      rw [takeYear?, start]
      rw [List.cons_append] at read ⊢
      split
      next equal => exact absurd (List.cons.inj equal).1 signs.2
      next equal => exact absurd (List.cons.inj equal).1 signs.1
      next => simp only [read, Option.map_some, value]

/-- A year with a sign has any number of digits, and one without a sign has four. -/
theorem takeYear?_yearDigits (year : Int) (rest : List Char) :
    takeYear? (yearDigits year ++ '-' :: rest) = some (year, '-' :: rest) := by
  rw [yearDigits]
  split
  next unusual => exact takeYear?_zeroFilledSigned year rest
  next usual => exact takeYear?_zeroFilled (by simpa [isUnusualYear] using usual) _

theorem takeFraction?_fractionOf {nanos : Nat} (within : nanos < 1000000000) :
    takeFraction? (fractionOf nanos ++ ['Z']) = some (nanos, ['Z']) := by
  have read
      {width number : Nat}
      (positive : 0 < width)
      (short : width ≤ 9)
      (fits : number < 10 ^ width)
      (rest : List Char) :
      takeFraction? ('.' :: (zeroFilled width number ++ 'Z' :: rest)) =
        some (number * 10 ^ (9 - width), 'Z' :: rest) := by
    have digits := isDigits_zeroFilled width number
    have length := length_zeroFilled positive fits
    have value := digitsValue_zeroFilled width number
    obtain ⟨taken, left⟩ :=
      takeWhile_isDigit_append digits (by decide : 'Z'.isDigit = false) rest
    generalize zeroFilled width number = chars at *
    have counted : chars.take 9 = chars := List.take_of_length_le (length.trans_le short)
    cases chars with
    | nil => exact absurd rfl digits.1
    | cons => simp only [takeFraction?, taken, left, counted, value, length, Nat.pow_eq]
  rw [fractionOf]
  split_ifs with none
  · rw [none]
    rfl
  all_goals
    rw [List.cons_append, read (by decide) (by decide) (by omega)]
    congr 2
    omega

theorem takeDate?_shown
    {date : Date}
    (valid : date.isValid = true)
    (rest : List Char) :
    takeDate?
        (yearDigits date.year ++ '-' :: (zeroFilled 2 date.month ++ '-' ::
          (zeroFilled 2 date.day ++ rest))) =
      some (date, rest) := by
  obtain ⟨⟨⟨january, december⟩, first⟩, last⟩ :
      ((1 ≤ date.month ∧ date.month ≤ 12) ∧ 1 ≤ date.day) ∧
        date.day ≤ daysInMonth date.year date.month := by
    simpa [Date.isValid] using valid
  have day : date.day ≤ 31 := last.trans (daysInMonth_le _ _)
  have dash : Text.isBlank '-' = false := by decide
  rw [takeDate?, takeYear?_yearDigits]
  simp only [Option.bind_eq_bind, Option.bind_some, takeMark?_cons dash,
    takeBetween?_zeroFilled january december (by decide),
    takeBetween?_zeroFilled first day (by decide)]

theorem takeClock?_shown
    {hour minute second : Nat}
    (hours : hour < 24)
    (minutes : minute < 60)
    (seconds : second ≤ 60)
    (rest : List Char) :
    takeClock?
        (zeroFilled 2 hour ++ ':' :: (zeroFilled 2 minute ++ ':' ::
          (zeroFilled 2 second ++ rest))) =
      some ((hour, minute, second), rest) := by
  have colon : Text.isBlank ':' = false := by decide
  simp only [takeClock?, Option.bind_eq_bind, Option.bind_some, takeMark?_cons colon,
    takeBetween?_zeroFilled (Nat.zero_le hour) (Nat.le_of_lt_succ hours) (by decide),
    takeBetween?_zeroFilled (Nat.zero_le minute) (Nat.le_of_lt_succ minutes) (by decide),
    takeBetween?_zeroFilled (Nat.zero_le second) seconds (by decide)]

end Stamp

/-! ## Instants -/

namespace Instant

/-- An instant that exists: its year is in reach, and only the end of a minute may last longer. -/
structure IsValid (instant : Instant) : Prop where
  firstYear_le : firstYear ≤ (Date.ofDays (instant.seconds / secondsPerDay)).year
  le_lastYear : (Date.ofDays (instant.seconds / secondsPerDay)).year ≤ lastYear
  nanos_lt :
    instant.nanos < 1000000000 ∨
      instant.nanos < 2000000000 ∧ instant.seconds % 60 = 59

/-- The instants that can be made are those that exist. -/
theorem of?_eq_some_iff {seconds : Int} {nanos : Nat} {instant : Instant} :
    of? seconds nanos = some instant ↔ instant = ⟨seconds, nanos⟩ ∧ instant.IsValid := by
  rw [of?]
  split
  next valid =>
    rw [Option.some_inj]
    constructor
    · rintro rfl
      exact ⟨rfl, valid.1, valid.2.1, valid.2.2⟩
    · rintro ⟨rfl, _⟩
      rfl
  next invalid =>
    refine iff_of_false (Option.some_ne_none _).symm ?_
    rintro ⟨rfl, valid⟩
    exact invalid ⟨valid.firstYear_le, valid.le_lastYear, valid.nanos_lt⟩

variable {instant : Instant}

/-- What a clock shows in a minute that is not prolonged, or in the last second of one that is. -/
theorem shownSecond_cases (valid : instant.IsValid) :
    let time := LocalTime.ofInstant instant .universal
    time.shownSecond < 60 ∧ time.shownSecond = time.second ∧ time.shownNanos = instant.nanos ∨
      time.shownSecond = 60 ∧ time.second = 59 ∧
        time.shownNanos + 1000000000 = instant.nanos := by
  have within := valid.nanos_lt
  simp only [LocalTime.shownSecond, LocalTime.shownNanos, LocalTime.ofInstant, Zone.offset,
    secondsPerDay]
  omega

/-- The clock of universal time counts the seconds of the day. -/
theorem seconds_eq (instant : Instant) :
    let time := LocalTime.ofInstant instant .universal
    instant.seconds / secondsPerDay * secondsPerDay +
        Int.ofNat (time.hour * 3600 + time.minute * 60 + time.second) =
      instant.seconds := by
  simp only [LocalTime.ofInstant, Zone.offset, secondsPerDay, Int.ofNat_eq_natCast]
  omega

theorem date_universal (instant : Instant) :
    (LocalTime.ofInstant instant .universal).date =
      Date.ofDays (instant.seconds / secondsPerDay) := by
  rw [LocalTime.ofInstant, Zone.offset, Int.add_zero]

theorem instant?_shown (valid : instant.IsValid) :
    let time := LocalTime.ofInstant instant .universal
    Stamp.instant? time.date (time.hour, time.minute, time.shownSecond) time.shownNanos 0 =
      some instant := by
  have cases := shownSecond_cases valid
  have seconds := seconds_eq instant
  have date := date_universal instant
  dsimp only at cases seconds ⊢
  generalize LocalTime.ofInstant instant .universal = time at cases seconds date
  have clock :
      (if time.shownSecond == 60 then 59 else time.shownSecond) = time.second ∧
        (if time.shownSecond == 60 then time.shownNanos + 1000000000 else time.shownNanos) =
          instant.nanos := by
    rcases cases with ⟨usual, second, nanos⟩ | ⟨leap, second, nanos⟩
    · have noLeap : ¬ (time.shownSecond == 60) = true := by
        simpa using usual.ne
      exact ⟨(if_neg noLeap).trans second, (if_neg noLeap).trans nanos⟩
    · simp [leap, second, nanos]
  simp only [Stamp.instant?, date, Date.toDays_ofDays, Date.isValid_ofDays, clock, seconds,
    valid.firstYear_le, valid.le_lastYear, Int.sub_zero, Int.natAbs_zero, decide_true,
    Bool.and_self, and_self, if_true]
  rfl

/-- An instant is read back from its stamp. -/
theorem IsValid.read?_stamp (valid : instant.IsValid) :
    Stamp.read? instant.stamp = some instant := by
  have read := instant?_shown valid
  have second := shownSecond_cases valid
  have hour : (LocalTime.ofInstant instant .universal).hour < 24 := by
    simp only [LocalTime.ofInstant, Zone.offset, secondsPerDay]
    omega
  have minute : (LocalTime.ofInstant instant .universal).minute < 60 :=
    Nat.mod_lt _ (by decide)
  have nanos : (LocalTime.ofInstant instant .universal).shownNanos < 1000000000 :=
    Nat.mod_lt _ (by decide)
  have date : (LocalTime.ofInstant instant .universal).date.isValid = true := by
    rw [date_universal]
    exact Date.isValid_ofDays _
  rw [stamp]
  generalize LocalTime.ofInstant instant .universal = time at *
  dsimp only at read second
  have seconds : time.shownSecond ≤ 60 := by omega
  have middle (rest : List Char) : Stamp.takeMiddle? ('T' :: rest) = some rest := rfl
  have offset : Stamp.takeOffset? (Text.trimStart ['Z']) = some (0, []) := by decide
  rw [Stamp.read?, String.toList_ofList, stampOf]
  simp only [List.append_assoc, List.cons_append, List.nil_append, Option.bind_eq_bind,
    Stamp.takeDate?_shown date, middle, Stamp.takeClock?_shown hour minute seconds,
    Stamp.takeFraction?_fractionOf nanos, offset, Option.bind_some]
  exact read

end Instant

end LogPipeline.Time
