import Mathlib.Tactic.IntervalCases
import Mathlib.Tactic.SplitIfs
import Provenance.Proofs.Text.Characters
import Provenance.Time.Calendar
import Provenance.Time.Written

namespace Provenance.Time

def yearOfEra (day : Int) : Int := (day - day / 1460 + day / 36524 - day / 146096) / 365

def firstOfYear (year : Int) : Int := 365 * year + year / 4 - year / 100

/-- A day of an era: its century, the four-year cycle in that, the year in that, and the day of the
year. The last day of a year of 366 days is the leap day. -/
structure EraDay (day c q z d : Int) : Prop where
  sum : day = 36524 * c + 1461 * q + 365 * z + d
  century : 0 ≤ c ∧ c ≤ 3
  cycle : 0 ≤ q ∧ q ≤ 24
  year : 0 ≤ z ∧ z ≤ 3
  dayOfYear : 0 ≤ d ∧ d ≤ 365
  leap : d = 365 → z = 3 ∧ (q < 24 ∨ c = 3)

private theorem exists_eraDay {day : Int} (low : 0 ≤ day) (high : day < 146097) :
    ∃ c q z d, EraDay day c q z d := by
  -- The last day of an era, and of a cycle, is a day too many for the division.
  have centuries : ∃ c r, day = 36524 * c + r ∧ 0 ≤ c ∧ c ≤ 3 ∧ 0 ≤ r ∧
      (r < 36524 ∨ c = 3 ∧ r = 36524) := by
    by_cases last : day = 146096
    · exact ⟨3, 36524, by omega⟩
    · exact ⟨day / 36524, day % 36524, by omega⟩
  obtain ⟨c, r, day_eq, hc₀, hc₁, hr, century_end⟩ := centuries
  have years : ∃ z d, r % 1461 = 365 * z + d ∧ 0 ≤ z ∧ z ≤ 3 ∧ 0 ≤ d ∧
      (d < 365 ∨ z = 3 ∧ d = 365) := by
    by_cases last : r % 1461 = 1460
    · exact ⟨3, 365, by omega⟩
    · exact ⟨r % 1461 / 365, r % 1461 % 365, by omega⟩
  obtain ⟨z, d, rest_eq, hz₀, hz₁, hd, cycle_end⟩ := years
  exact ⟨c, r / 1461, z, d, by constructor <;> omega⟩

namespace EraDay

variable {day c q z d : Int}

theorem yearOfEra_eq (h : EraDay day c q z d) : yearOfEra day = 100 * c + 4 * q + z := by
  obtain ⟨sum, ⟨hc₀, hc₁⟩, ⟨hq₀, hq₁⟩, ⟨hz₀, hz₁⟩, ⟨hd₀, hd₁⟩, leap⟩ := h
  have cycles : day / 1460 = 25 * c + q ∨
      day / 1460 = 25 * c + q + 1 ∧ 1460 ≤ 24 * c + q + 365 * z + d := by omega
  have centuries : day / 36524 - day / 146096 = c := by
    by_cases last : 1461 * q + 365 * z + d = 36524
    · omega
    · have within : 1461 * q + 365 * z + d < 36524 := by omega
      have quotient : day / 36524 = c := by omega
      omega
  unfold yearOfEra
  rcases cycles with same | ⟨next, late⟩ <;> omega

theorem firstOfYear_eq (h : EraDay day c q z d) : firstOfYear (yearOfEra day) = day - d := by
  have := h.yearOfEra_eq
  obtain ⟨sum, ⟨hc₀, hc₁⟩, ⟨hq₀, hq₁⟩, ⟨hz₀, hz₁⟩, ⟨hd₀, hd₁⟩, leap⟩ := h
  unfold firstOfYear
  omega

end EraDay

/-- The date on a day of a year that starts in March. -/
def dateInYear (year : Int) (dayOfYear : Nat) : Date :=
  let monthFromMarch := (5 * dayOfYear + 2) / 153
  let month := if monthFromMarch < 10 then monthFromMarch + 3 else monthFromMarch - 9
  ⟨if month ≤ 2 then year + 1 else year, month, dayOfYear - (153 * monthFromMarch + 2) / 5 + 1⟩

private theorem dateOfDays_eq (days : Int) : dateOfDays days =
    dateInYear (yearOfEra ((days + 719468) % 146097) + (days + 719468) / 146097 * 400)
      ((days + 719468) % 146097 - firstOfYear (yearOfEra ((days + 719468) % 146097))).toNat := rfl

/-- The parts of a day, and its date in these terms. -/
theorem exists_dateInYear (days : Int) : ∃ (era day c q z : Int) (d : Nat),
    days + 719468 = era * 146097 + day ∧ EraDay day c q z d ∧
    dateOfDays days = dateInYear (100 * c + 4 * q + z + era * 400) d := by
  have low : 0 ≤ (days + 719468) % 146097 := Int.emod_nonneg _ (by decide)
  have high : (days + 719468) % 146097 < 146097 := Int.emod_lt_of_pos _ (by decide)
  obtain ⟨c, q, z, d, parts⟩ := exists_eraDay low high
  obtain ⟨n, rfl⟩ := Int.eq_ofNat_of_zero_le parts.dayOfYear.1
  refine ⟨(days + 719468) / 146097, (days + 719468) % 146097, c, q, z, n, by omega, parts, ?_⟩
  have dayOfYear : ((days + 719468) % 146097 -
      firstOfYear (yearOfEra ((days + 719468) % 146097))).toNat = n := by
    rw [parts.firstOfYear_eq]
    omega
  rw [dateOfDays_eq, dayOfYear, parts.yearOfEra_eq]

/-- A year that starts in March has its leap day in the next calendar year. -/
theorem EraDay.isLeapYear {day c q z d : Int} (h : EraDay day c q z d) (last : d = 365)
    (era : Int) : isLeapYear (100 * c + 4 * q + z + era * 400 + 1) = true := by
  obtain ⟨hz, hq⟩ := h.leap last
  have ⟨hc₀, hc₁⟩ := h.century
  have ⟨hq₀, hq₁⟩ := h.cycle
  simp only [Time.isLeapYear, Bool.and_eq_true, Bool.or_eq_true, decide_eq_true_eq]
  omega

theorem isValid_dateOfDays (days : Int) : (dateOfDays days).IsValid = true := by
  obtain ⟨era, day, c, q, z, d, -, parts, date⟩ := exists_dateInYear days
  have leap (last : d = 365) := parts.isLeapYear (by omega) era
  have late := parts.dayOfYear.2
  rw [date]
  generalize 100 * c + 4 * q + z + era * 400 = year at leap ⊢
  unfold dateInYear
  obtain ⟨m, month⟩ : ∃ m, (5 * d + 2) / 153 = m := ⟨_, rfl⟩
  have bound : m ≤ 11 := by omega
  rw [month]
  interval_cases m <;> simp [Date.IsValid, daysInMonth]
  case «11» =>
    by_cases last : d = 365
    · simp [leap (by omega), last]
    · split <;> omega
  all_goals omega

private theorem daysOfDate_dateInYear {d : Nat} (h : d ≤ 365) (year : Int) :
    daysOfDate (dateInYear year d) =
      year / 400 * 146097 + (firstOfYear (year % 400) + d) - 719468 := by
  unfold dateInYear daysOfDate
  obtain ⟨m, month⟩ : ∃ m, (5 * d + 2) / 153 = m := ⟨_, rfl⟩
  have march : ((if m < 10 then m + 3 else m - 9) + 9) % 12 = m := by split <;> omega
  have count : (153 * m + 2) / 5 + (d - (153 * m + 2) / 5 + 1) - 1 = d := by omega
  have same (early : Prop) [Decidable early] :
      (if early then (if early then year + 1 else year) - 1 else if early then year + 1 else year) =
        year := by
    split <;> omega
  simp only [month, march, count, same, firstOfYear]
  omega

/-- The days of the date of a day are that day. -/
theorem daysOfDate_dateOfDays (days : Int) : daysOfDate (dateOfDays days) = days := by
  obtain ⟨era, day, c, q, z, d, sum, parts, date⟩ := exists_dateInYear days
  have ⟨hc₀, hc₁⟩ := parts.century
  have ⟨hq₀, hq₁⟩ := parts.cycle
  have ⟨hz₀, hz₁⟩ := parts.year
  have eras : (100 * c + 4 * q + z + era * 400) / 400 = era := by omega
  have years : (100 * c + 4 * q + z + era * 400) % 400 = yearOfEra day := by
    rw [parts.yearOfEra_eq]
    omega
  have late := parts.dayOfYear.2
  rw [date, daysOfDate_dateInYear (by omega), eras, years, parts.firstOfYear_eq]
  omega

end Provenance.Time

namespace Provenance.Time

open Text

theorem isDigit_of_mem_padded {width n : Nat} {c : Char} (h : c ∈ padded width n) :
    c.isDigit = true := by
  rcases List.mem_append.1 h with zero | digit
  · rw [List.eq_of_mem_replicate zero]
    decide
  · exact isDigit_of_mem_toDigits digit

theorem length_padded {width n : Nat} (pos : 0 < width) (h : n < 10 ^ width) :
    (padded width n).length = width := by
  have short := (Nat.length_toDigits_le_iff (by decide) pos).2 h
  simp [padded, short]

theorem padded_ne_nil (width n : Nat) : padded width n ≠ [] := by
  simp [padded, Nat.toDigits_ne_nil]

theorem numberOf_padded (width n : Nat) : numberOf 10 (padded width n) = n := by
  rw [numberOf_eq_ofDigitChars fun c => isDigit_of_mem_padded, padded, Nat.ofDigitChars_append,
    Nat.ofDigitChars_replicate_zero, Nat.mul_zero, Nat.ofDigitChars_ten_toDigits]

/-- Digits are read as a whole if they fill the width, or if nothing after them is a digit. -/
theorem readNumber_digits {ds rest : List Char} {width : Nat} (digits : ∀ c ∈ ds, c.isDigit = true)
    (some_digit : ds ≠ [])
    (whole : ds.length = width ∨ ds.length ≤ width ∧ StopsDigits rest) :
    readNumber width (ds ++ rest) = some (numberOf 10 ds, rest) := by
  have taken : ((ds ++ rest).takeWhile Char.isDigit).take width = ds := by
    rcases whole with rfl | ⟨fits, stops⟩
    · rw [List.takeWhile_append_of_pos digits, List.take_left]
    · rw [takeWhile_isDigit_append stops, takeWhile_isDigit digits, List.take_of_length_le fits]
  rw [readNumber, taken]
  cases ds with
  | nil => exact absurd rfl some_digit
  | cons d ds => simp

theorem readNumber_padded {width n : Nat} (pos : 0 < width) (h : n < 10 ^ width)
    (rest : List Char) : readNumber width (padded width n ++ rest) = some (n, rest) := by
  rw [readNumber_digits (fun c => isDigit_of_mem_padded) (padded_ne_nil _ _)
    (.inl (length_padded pos h)), numberOf_padded]

private theorem readYear_writeYear (year : Int) {rest : List Char} (stops : StopsDigits rest) :
    readYear (writeYear year ++ rest) = some (year, rest) := by
  have signed (n : Nat) :
      readNumber (padded 4 n ++ rest).length (padded 4 n ++ rest) = some (n, rest) := by
    rw [readNumber_digits (fun c => isDigit_of_mem_padded) (padded_ne_nil _ _)
      (.inr ⟨by simp, stops⟩), numberOf_padded]
  unfold writeYear
  split
  · rename_i plain
    have read : readNumber 4 (padded 4 year.toNat ++ rest) = some (year.toNat, rest) :=
      readNumber_padded (by decide) (by omega) rest
    have value : (year.toNat : Int) = year := by omega
    cases text : padded 4 year.toNat with
    | nil => exact absurd text (padded_ne_nil _ _)
    | cons d ds =>
      have digit : d.isDigit = true := isDigit_of_mem_padded (text ▸ List.mem_cons_self)
      rw [text] at read
      unfold readYear
      split
      · rename_i same
        rw [List.cons_append, List.cons.injEq] at same
        exact absurd (same.1 ▸ digit) (by decide)
      · rename_i same
        rw [List.cons_append, List.cons.injEq] at same
        exact absurd (same.1 ▸ digit) (by decide)
      · exact Option.map_eq_some_iff.2 ⟨_, read, by simp only [value]⟩
  · split
    · simp only [List.cons_append, readYear, signed, Option.map_some]
      congr
      omega
    · simp only [List.cons_append, readYear, signed, Option.map_some]
      congr
      omega

theorem skipBlanks_cons {c : Char} (h : isBlank c = false) (cs : List Char) :
    skipBlanks (c :: cs) = c :: cs := by
  rw [skipBlanks, List.dropWhile_cons_of_neg (by simp [h])]

private theorem isBlank_of_isDigit {c : Char} (h : c.isDigit = true) : isBlank c = false := by
  have range : 48 ≤ c.toNat ∧ c.toNat ≤ 57 := Char.isDigit_iff_toNat.1 h
  simp only [isBlank, Bool.or_eq_false_iff, Bool.and_eq_false_iff, decide_eq_false_iff_not]
  omega

theorem skipBlanks_padded (width n : Nat) (rest : List Char) :
    skipBlanks (padded width n ++ rest) = padded width n ++ rest := by
  cases text : padded width n with
  | nil => exact absurd text (padded_ne_nil _ _)
  | cons d ds =>
    have digit : d ∈ padded width n := by simp [text]
    exact skipBlanks_cons (isBlank_of_isDigit (isDigit_of_mem_padded digit)) _

private theorem skipBlanks_writeYear (year : Int) (rest : List Char) :
    skipBlanks (writeYear year ++ rest) = writeYear year ++ rest := by
  unfold writeYear
  split_ifs
  · exact skipBlanks_padded _ _ _
  · exact skipBlanks_cons (by decide) _
  · exact skipBlanks_cons (by decide) _

private theorem readPart_padded {separator : Char} (visible : isBlank separator = false) {n : Nat}
    (h : n < 100) (rest : List Char) :
    readPart separator (separator :: (padded 2 n ++ rest)) = some (n, rest) := by
  rw [readPart, skipBlanks_cons visible]
  simp [skipBlanks_padded, readNumber_padded Nat.two_pos h]

private theorem readFraction_padded {width n : Nat} (pos : 0 < width) (fits : width ≤ 9)
    (h : n < 10 ^ width) {rest : List Char} (stops : StopsDigits rest) :
    readFraction ('.' :: padded width n ++ rest) = some (n * 10 ^ (9 - width), rest) := by
  have digits : ∀ c ∈ padded width n, c.isDigit = true := fun c => isDigit_of_mem_padded
  have length := length_padded pos h
  have taken : (padded width n ++ rest).takeWhile Char.isDigit = padded width n := by
    rw [takeWhile_isDigit_append stops, takeWhile_isDigit digits]
  have used : (padded width n).take 9 = padded width n := List.take_of_length_le (by omega)
  simp only [List.cons_append, readFraction, taken]
  split
  · exact absurd ‹_› (padded_ne_nil _ _)
  · rw [used, numberOf_padded, length, List.drop_left' length]
    rfl

private theorem readFraction_writeFraction {nanos : Nat} (h : nanos < 1000000000) (rest : List Char)
    :
    readFraction (writeFraction nanos ++ 'Z' :: rest) = some (nanos, 'Z' :: rest) := by
  have stops : StopsDigits ('Z' :: rest) := by
    rintro _ ⟨⟩
    decide
  unfold writeFraction
  split_ifs with whole millis micros
  · rw [whole]
    rfl
  · rw [readFraction_padded (by decide) (by decide) (by omega) stops]
    congr
    omega
  · rw [readFraction_padded (by decide) (by decide) (by omega) stops]
    congr
    omega
  · rw [readFraction_padded (by decide) (by decide) (by omega) stops]
    congr
    omega

private theorem lt_hundred_of_isValid {d : Date} (h : d.IsValid = true) :
    d.month < 100 ∧ d.day < 100 := by
  have days : daysInMonth d.year d.month ≤ 31 := by
    unfold daysInMonth
    split_ifs <;> decide
  simp only [Date.IsValid, Bool.and_eq_true, decide_eq_true_eq] at h
  omega

namespace Instant

/-- The date and time of day of an instant make up the instant. A second beyond the last of its
minute counts as the last one, with the second in its fraction. -/
theorem instant?_parts {t : Instant} (valid : t.IsValid = true) :
    instant? (dateOfDays (t.seconds / 86400)) ((t.seconds % 86400).toNat / 3600)
      ((t.seconds % 86400).toNat / 60 % 60)
      ((t.seconds % 86400).toNat % 60 + t.nanos / 1000000000) (t.nanos % 1000000000) 0 =
    some t := by
  have range := valid
  simp only [IsValid, Bool.and_eq_true, Bool.or_eq_true, decide_eq_true_eq] at range
  obtain ⟨⟨low, high⟩, nanos⟩ := range
  have date := isValid_dateOfDays (t.seconds / 86400)
  generalize clock_eq : (t.seconds % 86400).toNat = clock
  generalize carry_eq : t.nanos / 1000000000 = carry
  have carries : carry = 0 ∨ carry = 1 ∧ clock % 60 = 59 := by omega
  have total : t.seconds / 86400 * 86400 +
      ((clock / 3600 * 3600 + clock / 60 % 60 * 60 + min (clock % 60 + carry) 59 : Nat) : Int) =
        t.seconds := by
    omega
  have fraction : t.nanos % 1000000000 + (if clock % 60 + carry = 60 then 1000000000 else 0) =
      t.nanos := by
    split <;> omega
  have ranges : ((dateOfDays (t.seconds / 86400)).IsValid && decide (clock / 3600 < 24) &&
      decide (clock / 60 % 60 < 60) && decide (clock % 60 + carry ≤ 60) &&
      decide ((0 : Int).natAbs < 86400)) = true := by
    simp only [Bool.and_eq_true, decide_eq_true_eq]
    refine ⟨⟨⟨⟨date, ?_⟩, ?_⟩, ?_⟩, ?_⟩ <;> omega
  rw [instant?, if_pos ranges]
  simp only [daysOfDate_dateOfDays, total, fraction, Int.sub_zero]
  exact if_pos ⟨low, high, valid⟩

theorem read?_write {t : Instant} (valid : t.IsValid = true) : read? t.write = some t := by
  have parts := instant?_parts valid
  have date := isValid_dateOfDays (t.seconds / 86400)
  have seconds : (t.seconds % 86400).toNat % 60 + t.nanos / 1000000000 < 100 := by
    simp only [IsValid, Bool.and_eq_true, Bool.or_eq_true, decide_eq_true_eq] at valid
    omega
  obtain ⟨month_lt, day_lt⟩ := lt_hundred_of_isValid date
  have dash : isBlank '-' = false := by decide
  have colon : isBlank ':' = false := by decide
  have stops (rest : List Char) : StopsDigits ('-' :: rest) := by
    rintro _ ⟨⟩
    decide
  have year (rest : List Char) :=
    readYear_writeYear (dateOfDays (t.seconds / 86400)).year (stops rest)
  have month := readPart_padded dash month_lt
  have day := readPart_padded dash day_lt
  have hour_lt : (t.seconds % 86400).toNat / 3600 < 10 ^ 2 := by omega
  have hour := readNumber_padded Nat.two_pos hour_lt
  have minute_lt : (t.seconds % 86400).toNat / 60 % 60 < 100 := by omega
  have minute := readPart_padded colon minute_lt
  have second := readPart_padded colon seconds
  have nanos_lt : t.nanos % 1000000000 < 1000000000 := Nat.mod_lt _ (by decide)
  have fraction := readFraction_writeFraction nanos_lt []
  have offset (rest : List Char) : readOffset ('Z' :: rest) = some (0, rest) := rfl
  have zulu : skipBlanks ['Z'] = ['Z'] := rfl
  simp only [read?, write, Option.bind_eq_bind, List.append_assoc, List.cons_append,
    skipBlanks_writeYear, year, month, day, skipBlanks_padded, hour, minute, second, fraction,
    zulu, offset, Option.bind_some]
  exact (if_pos rfl).trans parts

theorem ofText?_toText {t : Instant} (valid : t.IsValid = true) : ofText? t.toText = some t := by
  rw [ofText?, toText, String.toList_ofList, read?_write valid]

private theorem isValid_of_instant? {date : Date} {hour minute second nanos : Nat} {offset : Int}
    {t : Instant} (h : instant? date hour minute second nanos offset = some t) :
    t.IsValid = true := by
  unfold instant? at h
  obtain ⟨-, h⟩ := Option.ite_none_right_eq_some.1 h
  obtain ⟨⟨-, -, valid⟩, same⟩ := Option.ite_none_right_eq_some.1 h
  exact Option.some.inj same ▸ valid

/-- Only valid instants are read. -/
theorem isValid_of_ofText? {s : String} {t : Instant} (h : ofText? s = some t) :
    t.IsValid = true := by
  unfold ofText? read? at h
  simp only [Option.bind_eq_bind, Option.bind_eq_some_iff, Prod.exists] at h
  obtain ⟨_, _, -, _, _, -, _, _, -, h⟩ := h
  split at h
  · split at h
    · simp only [Option.bind_eq_some_iff, Prod.exists] at h
      obtain ⟨_, -, _, _, -, _, _, -, _, _, -, _, _, -, _, _, -, h⟩ := h
      exact isValid_of_instant? (Option.ite_none_right_eq_some.1 h).2
    · cases h
  · cases h

end Instant

end Provenance.Time
