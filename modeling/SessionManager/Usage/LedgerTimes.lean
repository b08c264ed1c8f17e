import SessionManager.Foundation.Timestamps

/-! The timestamps of the ledger, with nine digits of the fractional second: they sort as the count of
nanoseconds does, and can be read back. -/
namespace SessionManager.Foundation.Instant
open List

/-- The days of the years before. -/
def daysToYear (year : Int) : Int :=
  365 * year + (year - 1) / 4 - (year - 1) / 100 + (year - 1) / 400

/-- The days of the months before, in a year. -/
def daysToMonth (year : Int) : Nat → Nat
  | month + 2 => daysToMonth year (month + 1) + daysInMonth year (month + 1)
  | _ => 0

def days (instant : Instant) : Int :=
  daysToYear instant.year + daysToMonth instant.year instant.month + instant.day

def nanoseconds (instant : Instant) : Int :=
  (((instant.days * 24 + instant.hour) * 60 + instant.minute) * 60 + instant.second) * 1000000000 +
    instant.nanosecond

theorem daysToMonth_add_le {year : Int} {month later : Nat} (positive : 1 ≤ month)
    (less : month < later) :
    daysToMonth year month + daysInMonth year month ≤ daysToMonth year later := by
  induction later, less using Nat.le_induction with
  | base =>
    obtain ⟨month, rfl⟩ := Nat.exists_eq_add_of_le' positive
    rfl
  | succ later less ih =>
    obtain ⟨later, rfl⟩ := Nat.exists_eq_add_of_le' (positive.trans (Nat.le_of_succ_le less))
    exact ih.trans (Nat.le_add_right _ _)

theorem day_of_year_le (instant : Instant) :
    instant.days < daysToYear (instant.year + 1) + 1 := by
  have months : _ ≤ daysToMonth instant.year 13 :=
    daysToMonth_add_le instant.month_range.1 (Nat.lt_succ_of_le instant.month_range.2)
  have year : (daysToMonth instant.year 13 : Int) =
      daysToYear (instant.year + 1) - daysToYear instant.year := by
    simp only [daysToMonth, daysInMonth, daysToYear, Nat.reduceAdd, Nat.reduceEqDiff, or_false,
      false_or, if_true, if_false]
    split <;> omega
  have day := instant.day_range
  unfold days
  omega

variable {one other : Instant}

theorem days_lt (less : one.year < other.year ∨ one.year = other.year ∧ (one.month < other.month ∨
    one.month = other.month ∧ one.day < other.day)) : one.days < other.days := by
  have bound := one.day_of_year_le
  have day := one.day_range
  have day' := other.day_range
  rcases less with less | ⟨years, less | ⟨months, less⟩⟩
  · have years : daysToYear (one.year + 1) ≤ daysToYear other.year := by
      unfold daysToYear
      omega
    unfold days at *
    omega
  · have months := @daysToMonth_add_le other.year _ _ one.month_range.1 less
    unfold days
    rw [years] at day ⊢
    omega
  · unfold days
    rw [years, months]
    omega

theorem before_iff : one.Before other ↔ one.nanoseconds < other.nanoseconds := by
  have forth := @days_lt one other
  have back := @days_lt other one
  have oneHour := one.hour_lt
  have otherHour := other.hour_lt
  have oneMinute := one.minute_lt
  have otherMinute := other.minute_lt
  have oneSecond := one.second_lt
  have otherSecond := other.second_lt
  have oneNano := one.nanosecond_lt
  have otherNano := other.nanosecond_lt
  have sameMonth : one.year = other.year → one.month = other.month →
      one.days - other.days = one.day - other.day := by
    intro years months
    unfold days
    rw [years, months]
    omega
  unfold Before calendar nanoseconds
  simp only [cons_lt_cons_iff, List.cons.injEq, lt_irrefl, and_false, or_false, and_true]
  omega

end SessionManager.Foundation.Instant

namespace SessionManager.Usage
open List Foundation Instant

/-- `[year]-[month]-[day]T[hour]:[minute]:[second].[subsecond digits:9]Z`, of the years from 0 on. -/
def formatTimestamp (instant : Instant) : List Char :=
  instant.toSeconds ++ '.' :: (digits 9 instant.nanosecond ++ ['Z'])

def value (text : List Char) : Nat :=
  text.foldl (fun total digit => total * 10 + (digit.toNat - 48)) 0

def number (width : Nat) (text : List Char) : Option (Nat × List Char) :=
  if (text.take width).length = width ∧ (text.take width).all Char.isDigit then
    some (value (text.take width), text.drop width)
  else none

def mark (character : Char) (text : List Char) : Option (List Char) :=
  if text.head? = some character then some text.tail else none

/-- Of more than nine digits the first nine count. -/
def subsecond (text : List Char) : Option (Nat × List Char) :=
  match mark '.' text with
  | none => some (0, text)
  | some text =>
    let field := text.takeWhile Char.isDigit
    if field = [] then none
    else some (value ((field ++ replicate 9 '0').take 9), text.dropWhile Char.isDigit)

def ofFields (year month day hour minute second nanosecond : Nat) : Option Instant :=
  if valid : year ≤ 9999 ∧ (1 ≤ month ∧ month ≤ 12) ∧ (1 ≤ day ∧ day ≤ daysInMonth year month) ∧
      hour < 24 ∧ minute < 60 ∧ second < 60 ∧ nanosecond < 10 ^ 9 then
    some ⟨year, month, day, hour, minute, second, nanosecond, by omega, valid.2.1, valid.2.2.1,
      valid.2.2.2.1, valid.2.2.2.2.1, valid.2.2.2.2.2.1, valid.2.2.2.2.2.2⟩
  else none

/-- The reading of RFC 3339, of texts in UTC. -/
def parseTimestamp (text : List Char) : Option Instant := do
  let (year, text) ← number 4 text
  let (month, text) ← number 2 (← mark '-' text)
  let (day, text) ← number 2 (← mark '-' text)
  let (hour, text) ← number 2 (← mark 'T' text)
  let (minute, text) ← number 2 (← mark ':' text)
  let (second, text) ← number 2 (← mark ':' text)
  let (nanosecond, text) ← subsecond text
  if text = ['Z'] then ofFields year month day hour minute second nanosecond else none

theorem digit_facts : ∀ digit : Fin 10,
    digit.val.digitChar.isDigit ∧ digit.val.digitChar.toNat - 48 = digit := by decide

theorem all_digits (width number : Nat) : (digits width number).all Char.isDigit := by
  induction width generalizing number with
  | zero => rfl
  | succ width ih => simp [digits, ih, digit_facts ⟨number % 10, Nat.mod_lt _ (by decide)⟩]

theorem value_digits {width number : Nat} (small : number < 10 ^ width) :
    value (digits width number) = number := by
  induction width generalizing number with
  | zero =>
    have zero : number = 0 := by omega
    rw [zero]
    rfl
  | succ width ih =>
    have last := (digit_facts ⟨number % 10, Nat.mod_lt _ (by decide)⟩).2
    have rest := ih (show number / 10 < 10 ^ width by omega)
    unfold value at rest ⊢
    rw [digits, foldl_append, rest, foldl_cons, foldl_nil, last]
    dsimp only
    omega

theorem number_digits {width one : Nat} (small : one < 10 ^ width) (rest : List Char) :
    number width (digits width one ++ rest) = some (one, rest) := by
  have taken : (digits width one ++ rest).take width = digits width one :=
    take_left' (digits_length _ _)
  have dropped : (digits width one ++ rest).drop width = rest := drop_left' (digits_length _ _)
  simp [number, taken, dropped, all_digits, value_digits small]

theorem subsecond_digits {nanosecond : Nat} (small : nanosecond < 10 ^ 9) :
    subsecond ('.' :: (digits 9 nanosecond ++ ['Z'])) = some (nanosecond, ['Z']) := by
  have all := List.all_eq_true.mp (all_digits 9 nanosecond)
  have some : digits 9 nanosecond ≠ [] := by simp [digits]
  simp [subsecond, mark, takeWhile_append_of_pos all, dropWhile_append_of_pos all, some,
    value_digits small, show 'Z'.isDigit = false from rfl]

theorem parse_format {instant : Instant} (after : 0 ≤ instant.year) :
    parseTimestamp (formatTimestamp instant) = some instant := by
  have whole := Int.toNat_of_nonneg after
  have years := instant.year_range.2
  have months := instant.month_range
  have hours := instant.hour_lt
  have minutes := instant.minute_lt
  have seconds := instant.second_lt
  have year := @number_digits 4 instant.year.toNat (by omega)
  have month := @number_digits 2 instant.month (by omega)
  have day := @number_digits 2 instant.day instant.day_lt
  have hour := @number_digits 2 instant.hour (by omega)
  have minute := @number_digits 2 instant.minute (by omega)
  have second := @number_digits 2 instant.second (by omega)
  simp only [parseTimestamp, formatTimestamp, toSeconds, append_assoc, cons_append, mark, head?_cons,
    tail_cons, if_true, Option.bind_eq_bind, Option.bind_some, year, month, day, hour, minute, second,
    subsecond_digits instant.nanosecond_lt]
  rw [ofFields, dif_pos ⟨by omega, months, whole ▸ instant.day_range, hours, minutes, seconds,
    instant.nanosecond_lt⟩]
  refine congrArg some (eq_of_calendar ?_ rfl)
  simp only [calendar, whole]

theorem format_lt {one other : Instant} (hpo : 0 ≤ one.year) (after : 0 ≤ other.year) :
    formatTimestamp one < formatTimestamp other ↔ one.nanoseconds < other.nanoseconds := by
  rw [← before_iff, formatTimestamp, formatTimestamp,
    append_lt_append_iff (by rw [toSeconds_length, toSeconds_length]), toSeconds_lt hpo after,
    toSeconds_inj hpo after, cons_lt_cons_iff, append_lt_append_iff (by simp),
    digits_lt one.nanosecond_lt other.nanosecond_lt]
  simp [Before]

/-- Of the years from 0 to 9999, texts sort as the instants do and can be read back, and so an interval
of texts is the interval of time. -/
theorem ledger_texts_sort_as_time (start moment reset : { instant : Instant // 0 ≤ instant.year }) :
    (formatTimestamp start < formatTimestamp moment ↔
      start.val.nanoseconds < moment.val.nanoseconds) ∧
    parseTimestamp (formatTimestamp moment) = some moment.val ∧
    (formatTimestamp start ≤ formatTimestamp moment ∧
        formatTimestamp moment < formatTimestamp reset ↔
      start.val.nanoseconds ≤ moment.val.nanoseconds ∧
        moment.val.nanoseconds < reset.val.nanoseconds) := by
  refine ⟨format_lt start.2 moment.2, parse_format moment.2, ?_⟩
  rw [← not_lt, format_lt moment.2 start.2, format_lt moment.2 reset.2, not_lt]

end SessionManager.Usage
