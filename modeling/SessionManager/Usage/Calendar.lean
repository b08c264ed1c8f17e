import Mathlib.Data.String.Basic
import SessionManager.Usage.LedgerTimes
import SessionManager.Usage.Transcript

/-! Hosts whose texts sort as the instants they stand for, and one of them: its clock knows January
2026, whose instants are written and read as the timestamps of the ledger. -/
namespace SessionManager.Usage
open Foundation

/-- Within the era, the texts of the instants can be read back and sort as the instants do. -/
structure Dated (host : Host) (era : Int → Prop) : Prop where
  parse : ∀ instant, era instant → host.parseRfc3339 (host.formatTimestamp instant) = some instant
  order : ∀ first second, era first → era second →
    (host.formatTimestamp first ≤ host.formatTimestamp second ↔ first ≤ second)

/-- The nanoseconds from the epoch to the start of a day of January 2026. -/
def january (day : Nat) : Int := (1767225600 + (day - 1) * 86400) * 1000000000

def InJanuary (instant : Int) : Prop := january 1 ≤ instant ∧ instant < january 32

instance : DecidablePred InJanuary := fun _ => inferInstanceAs (Decidable (_ ∧ _))

def calendarOf (instant : Int) (inside : InJanuary instant) : Instant :=
  let nanoseconds := (instant - january 1).toNat
  have short : nanoseconds < 31 * 86400000000000 := by
    unfold InJanuary january at inside
    simp only [nanoseconds, january]
    omega
  ⟨2026, 1, nanoseconds / 86400000000000 + 1, nanoseconds / 3600000000000 % 24,
    nanoseconds / 60000000000 % 60, nanoseconds / 1000000000 % 60, nanoseconds % 1000000000,
    year_range_2026, epoch.month_range, by
      have days : daysInMonth 2026 1 = 31 := rfl
      omega, by omega, by omega, by omega, by omega⟩

def januaryHost : Host where
  fromSlice _ := none
  parseRfc3339 text :=
    (parseTimestamp text.toList).map fun instant => instant.nanoseconds - epoch.nanoseconds
  formatTimestamp instant :=
    if inside : InJanuary instant then String.ofList (formatTimestamp (calendarOf instant inside))
    else ""
  resolveProjectKey directory := directory

theorem calendarOf_nanoseconds {instant : Int} (inside : InJanuary instant) :
    (calendarOf instant inside).nanoseconds = instant + epoch.nanoseconds := by
  unfold InJanuary january at inside
  simp only [calendarOf, Instant.nanoseconds, Instant.days, Instant.daysToYear, Instant.daysToMonth,
    epoch, january]
  omega

theorem calendarOf_year {instant : Int} (inside : InJanuary instant) :
    0 ≤ (calendarOf instant inside).year := show (0 : Int) ≤ 2026 by decide

theorem januaryHost_format {instant : Int} (inside : InJanuary instant) :
    januaryHost.formatTimestamp instant =
      String.ofList (formatTimestamp (calendarOf instant inside)) := dif_pos inside

theorem januaryHost_dated : Dated januaryHost InJanuary where
  parse := by
    intro instant inside
    have read : januaryHost.parseRfc3339 (januaryHost.formatTimestamp instant) =
        (parseTimestamp (formatTimestamp (calendarOf instant inside))).map fun instant =>
          instant.nanoseconds - epoch.nanoseconds := by
      rw [januaryHost_format inside]
      simp only [januaryHost, String.toList_ofList]
    rw [read, parse_format (calendarOf_year inside), Option.map_some, calendarOf_nanoseconds,
      add_sub_cancel_right]
  order := by
    intro first second inFirst inSecond
    rw [januaryHost_format inFirst, januaryHost_format inSecond, String.le_iff_toList_le,
      String.toList_ofList, String.toList_ofList, ← not_lt,
      format_lt (calendarOf_year inSecond) (calendarOf_year inFirst),
      calendarOf_nanoseconds, calendarOf_nanoseconds]
    omega

end SessionManager.Usage
