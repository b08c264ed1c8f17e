import Mathlib.Data.List.Pairwise
import SessionManager.Foundation.Latest

/-! A timeline of holders. Readings tell at certain moments who the holder is, if any; half-open
stretches of time record the holder from one reading to the next that differs. One stretch before
the first reading may be assumed. When readings come in order of their moments, the stretches say at
each moment what the latest reading before it said. -/
namespace SessionManager.Foundation.Timeline
open Latest List Bool

structure Reading (τ κ : Type) where
  moment : τ
  holder : Option κ
  deriving DecidableEq, Repr

structure Stretch (τ κ : Type) where
  start : τ
  stop : Option τ
  holder : κ
  assumed : Bool
  deriving DecidableEq, Repr

section

variable {τ κ : Type}

namespace Stretch

def close (moment : τ) (stretch : Stretch τ κ) : Stretch τ κ :=
  if stretch.stop.isNone then { stretch with stop := some moment } else stretch

variable {stretch : Stretch τ κ} {moment : τ}

@[simp] theorem close_start : (stretch.close moment).start = stretch.start := by
  unfold close
  split <;> rfl

@[simp] theorem close_holder : (stretch.close moment).holder = stretch.holder := by
  unfold close
  split <;> rfl

@[simp] theorem close_assumed : (stretch.close moment).assumed = stretch.assumed := by
  unfold close
  split <;> rfl

theorem close_stop : (stretch.close moment).stop = some (stretch.stop.getD moment) := by
  unfold close
  cases held : stretch.stop <;> simp [held]

theorem close_of_stop {stop : τ} (stops : stretch.stop = some stop) :
    stretch.close moment = stretch := by
  unfold close
  rw [stops]
  rfl

end Stretch

variable {rows : List (Stretch τ κ)} {reading : Reading τ κ}

/-- The stretches after a reading that differs from who holds: the open one ends, and the new holder,
if any, has one from then on. -/
def moved (rows : List (Stretch τ κ)) (reading : Reading τ κ) : List (Stretch τ κ) :=
  rows.map (Stretch.close reading.moment) ++
    reading.holder.toList.map fun key => ⟨reading.moment, none, key, false⟩

theorem mem_moved {row : Stretch τ κ} (hm : row ∈ moved rows reading) :
    (∃ old ∈ rows, row = old.close reading.moment) ∨
      ∃ key, reading.holder = some key ∧ row = ⟨reading.moment, none, key, false⟩ := by
  rcases mem_append.mp hm with old | isNew
  · obtain ⟨_, isRow, rfl⟩ := mem_map.mp old
    exact .inl ⟨_, isRow, rfl⟩
  · obtain ⟨key, isKey, rfl⟩ := mem_map.mp isNew
    exact .inr ⟨key, Option.mem_toList.mp isKey, rfl⟩

theorem close_mem_moved {row : Stretch τ κ} (hm : row ∈ rows) :
    row.close reading.moment ∈ moved rows reading :=
  mem_append_left _ (mem_map_of_mem hm)

theorem new_mem_moved {key : κ} (held : reading.holder = some key) :
    (⟨reading.moment, none, key, false⟩ : Stretch τ κ) ∈ moved rows reading := by
  refine mem_append_right _ ?_
  rw [held]
  exact mem_singleton.mpr rfl

end

variable {τ κ : Type} [LinearOrder τ] {moment : τ}

section

namespace Stretch

def covers (stretch : Stretch τ κ) (moment : τ) : Bool :=
  stretch.start ≤ moment && stretch.stop.all fun stop => moment < stop

def Before (first second : Stretch τ κ) : Prop :=
  ∃ stop, first.stop = some stop ∧ stop ≤ second.start

def Apart (first second : Stretch τ κ) : Prop := first.Before second ∨ second.Before first

variable {stretch other : Stretch τ κ} {moment : τ}

theorem covers_iff : stretch.covers moment ↔
    stretch.start ≤ moment ∧ ∀ stop, stretch.stop = some stop → moment < stop := by
  unfold covers
  cases stretch.stop <;> simp

theorem Before.not_covers (before : stretch.Before other) (covers : other.covers moment) :
    stretch.covers moment = false := by
  obtain ⟨_, stops, late⟩ := before
  rw [eq_false_iff]
  intro both
  exact absurd ((covers_iff.mp both).2 _ stops)
    (not_lt.mpr (late.trans (covers_iff.mp covers).1))

theorem Apart.not_both (hap : stretch.Apart other) :
    ¬(stretch.covers moment ∧ other.covers moment) := by
  rintro ⟨first, second⟩
  rcases hap with before | before
  · rw [before.not_covers second] at first
    cases first
  · rw [before.not_covers first] at second
    cases second

theorem Apart.one_stopped (hap : stretch.Apart other) :
    ¬(stretch.stop = none ∧ other.stop = none) := by
  rintro ⟨first, second⟩
  rcases hap with ⟨stop, stops, _⟩ | ⟨stop, stops, _⟩
  · rw [first] at stops
    cases stops
  · rw [second] at stops
    cases stops

theorem Apart.close (hap : stretch.Apart other) :
    (stretch.close moment).Apart (other.close moment) := by
  rcases hap with ⟨stop, stops, late⟩ | ⟨stop, stops, late⟩
  · exact .inl ⟨_, by rw [close_of_stop stops, stops], by simpa using late⟩
  · exact .inr ⟨_, by rw [close_of_stop stops, stops], by simpa using late⟩

end Stretch

theorem filter_le_one {α : Type} {holds : α → Bool} {rows : List α}
    (hsg : rows.Pairwise fun first second => ¬(holds first ∧ holds second)) :
    (rows.filter holds).length ≤ 1 := by
  induction rows with
  | nil => simp
  | cons _ rest ih =>
    obtain ⟨fromRow, fromRest⟩ := pairwise_cons.mp hsg
    rw [filter_cons]
    split
    · rename_i hh
      have none : rest.filter holds = [] :=
        filter_eq_nil_iff.mpr fun _ hm both => fromRow _ hm ⟨hh, both⟩
      simp [none]
    · exact ih fromRest

variable {rows : List (Stretch τ κ)}

theorem covering_unique (hap : rows.Pairwise Stretch.Apart)
    (moment : τ) : (rows.filter fun row => row.covers moment).length ≤ 1 :=
  filter_le_one (hap.imp fun hap => hap.not_both)

theorem covering_eq (hap : rows.Pairwise Stretch.Apart)
    {row : Stretch τ κ} (hf : (rows.filter fun row => row.covers moment).head? = some row) :
    (rows.filter fun row => row.covers moment) = [row] := by
  have unique := covering_unique hap moment
  cases covering : rows.filter fun row => row.covers moment with
  | nil => simp [covering] at hf
  | cons =>
    rw [covering] at hf unique
    cases hf
    simpa using unique

end

section

structure Charts (rows : List (Stretch τ κ)) (readings : List (Reading τ κ)) : Prop where
  sorted : readings.Pairwise fun earlier later => earlier.moment ≤ later.moment
  apart : rows.Pairwise Stretch.Apart
  started : ∀ row ∈ rows, row.assumed = false → ∃ reading ∈ readings, row.start = reading.moment
  stopped : ∀ row ∈ rows, ∀ stop, row.stop = some stop → ∃ reading ∈ readings, stop ≤ reading.moment
  opened : ∀ first, readings.head? = some first → first.holder.isSome →
    ∃ row ∈ rows, row.assumed = false ∧ row.start = first.moment
  observed : ∀ moment key,
    (∃ row ∈ rows, row.assumed = false ∧ row.covers moment ∧ row.holder = key) ↔
      (latest Reading.moment readings moment).bind Reading.holder = some key
  assumed : ∀ row ∈ rows, row.assumed → ∃ first ∈ rows, first.assumed = false ∧
    row.stop = some first.start ∧ row.start < first.start ∧
    (∀ other ∈ rows, other.assumed = false → first.start ≤ other.start) ∧
    ∀ reading ∈ readings, first.start ≤ reading.moment

variable {rows : List (Stretch τ κ)} {readings : List (Reading τ κ)} {reading : Reading τ κ}

theorem charts_nil : Charts ([] : List (Stretch τ κ)) [] where
  sorted := .nil
  apart := .nil
  started := by simp
  stopped := by simp
  opened := by simp
  observed := by simp [latest]
  assumed := by simp

theorem Charts.eq_nil (hch : Charts rows ([] : List (Reading τ κ))) : rows = [] := by
  have none : ∀ row ∈ rows, row.assumed ≠ false := by
    intro row hm observed
    obtain ⟨_, hk, _⟩ := hch.started row hm observed
    cases hk
  refine eq_nil_iff_forall_not_mem.mpr fun row hm => ?_
  obtain ⟨_, isRow, observed, _⟩ :=
    hch.assumed row hm (not_eq_false _ |>.mp (none row hm))
  exact none _ isRow observed

def Holds (rows : List (Stretch τ κ)) (key : κ) : Prop :=
  ∃ row ∈ rows, row.stop = none ∧ row.holder = key

theorem Charts.holds_unique (hch : Charts rows readings) {key other : κ}
    (holds : Holds rows key) (also : Holds rows other) : key = other := by
  obtain ⟨row, hm, endless, rfl⟩ := holds
  obtain ⟨second, isSecond, alsoEndless, rfl⟩ := also
  have symmetric : Std.Symm (Stretch.Apart : Stretch τ κ → Stretch τ κ → Prop) :=
    ⟨fun _ _ => Or.symm⟩
  by_contra hne
  have hn : row ≠ second := fun hs => hne (congrArg Stretch.holder hs)
  exact (hch.apart.forall hm isSecond hn).one_stopped ⟨endless, alsoEndless⟩

theorem Charts.sorted_append (hch : Charts rows readings)
    (newest : ∀ earlier ∈ readings, earlier.moment ≤ reading.moment) :
    (readings ++ [reading]).Pairwise fun earlier later => earlier.moment ≤ later.moment := by
  refine pairwise_append.mpr ⟨hch.sorted, pairwise_singleton _ _, ?_⟩
  intro earlier hm _ isLast
  rw [mem_singleton.mp isLast]
  exact newest _ hm

variable {row : Stretch τ κ} {first : Stretch τ κ} {start : τ}

theorem Charts.not_assumed (hch : Charts rows readings)
    (hm : row ∈ rows) (endless : row.stop = none) : row.assumed = false := by
  rw [eq_false_iff]
  intro assumed
  obtain ⟨_, _, _, stop, _⟩ := hch.assumed row hm assumed
  rw [endless] at stop
  cases stop

theorem Charts.covers_now (hch : Charts rows readings)
    (late : ∀ reading ∈ readings, reading.moment ≤ moment) (hm : row ∈ rows) :
    row.covers moment ↔ row.stop = none := by
  rw [Stretch.covers_iff]
  constructor
  · rintro ⟨_, stops⟩
    cases held : row.stop with
    | none => rfl
    | some =>
      obtain ⟨reading, hk, hpa⟩ := hch.stopped row hm _ held
      exact absurd (stops _ held) (not_lt.mpr (hpa.trans (late _ hk)))
  · intro endless
    obtain ⟨reading, hk, starts⟩ :=
      hch.started row hm (hch.not_assumed hm endless)
    refine ⟨starts ▸ late _ hk, ?_⟩
    rw [endless]
    nofun

section

variable (hch : Charts rows readings)
  (newest : ∀ earlier ∈ readings, earlier.moment ≤ reading.moment)
include hch newest

theorem Charts.keep (hs : ∀ key, reading.holder = some key ↔ Holds rows key) :
    Charts rows (readings ++ [reading]) where
  sorted := hch.sorted_append newest
  apart := hch.apart
  started := by
    intro row hm observed
    obtain ⟨hk, before, starts⟩ := hch.started row hm observed
    exact ⟨hk, mem_append_left _ before, starts⟩
  stopped := by
    intro row hm stop stops
    obtain ⟨hk, before, hpa⟩ := hch.stopped row hm _ stops
    exact ⟨hk, mem_append_left _ before, hpa⟩
  opened := by
    intro first isFirst holds
    cases readings with
    | cons =>
      cases isFirst
      exact hch.opened _ rfl holds
    | nil =>
      -- the first reading cannot confirm a holder: there is no stretch yet
      cases isFirst
      obtain ⟨key, held⟩ := Option.isSome_iff_exists.mp holds
      obtain ⟨row, hm, endless, _⟩ := (hs key).mp held
      obtain ⟨hk, before, _⟩ :=
        hch.started row hm (hch.not_assumed hm endless)
      cases before
  observed := by
    intro moment key
    rw [latest_append_newest newest]
    split
    · rename_i hr
      have late : ∀ earlier ∈ readings, earlier.moment ≤ moment :=
        fun _ hm => (newest _ hm).trans hr
      show _ ↔ reading.holder = some key
      rw [hs]
      constructor
      · rintro ⟨row, hm, _, covers, holder⟩
        exact ⟨row, hm, (hch.covers_now late hm).mp covers, holder⟩
      · rintro ⟨row, hm, endless, holder⟩
        exact ⟨row, hm, hch.not_assumed hm endless, (hch.covers_now late hm).mpr endless, holder⟩
    · exact hch.observed _ key
  assumed := by
    intro row hm assumed
    obtain ⟨first, isRow, observed, stop, start, least, before⟩ :=
      hch.assumed row hm assumed
    refine ⟨_, isRow, observed, stop, start, least, ?_⟩
    intro hk isReading
    rcases mem_append.mp isReading with earlier | last
    · exact before hk earlier
    · obtain ⟨started, isStart, starts⟩ := hch.started _ isRow observed
      rw [mem_singleton.mp last, starts]
      exact newest started isStart

theorem Charts.closed_covers (hm : row ∈ rows) (moment : τ) :
    (row.close reading.moment).covers moment ↔ row.covers moment ∧ moment < reading.moment := by
  rw [Stretch.covers_iff, Stretch.covers_iff, Stretch.close_stop, Stretch.close_start]
  cases held : row.stop with
  | none => simp
  | some stop =>
    obtain ⟨hk, isReading, hpa⟩ := hch.stopped row hm _ held
    have bound : stop ≤ reading.moment := hpa.trans (newest hk isReading)
    simp only [Option.getD_some, Option.some.injEq, forall_eq']
    exact ⟨fun ⟨starts, hi⟩ => ⟨⟨starts, hi⟩, hi.trans_le bound⟩, And.left⟩

theorem Charts.move : Charts (moved rows reading) (readings ++ [reading]) where
  sorted := hch.sorted_append newest
  apart := by
    refine pairwise_append.mpr ⟨?_, ?_, ?_⟩
    · exact pairwise_map.mpr (hch.apart.imp fun hap => hap.close)
    · cases reading.holder <;> simp
    · intro old isOld _ isNew
      obtain ⟨row, hm, rfl⟩ := mem_map.mp isOld
      obtain ⟨key, _, rfl⟩ := mem_map.mp isNew
      refine .inl ⟨_, Stretch.close_stop, ?_⟩
      cases held : row.stop with
      | none => exact le_rfl
      | some stop =>
        obtain ⟨hk, isReading, hpa⟩ := hch.stopped row hm _ held
        exact hpa.trans (newest hk isReading)
  started := by
    intro row hm observed
    rcases mem_moved hm with ⟨old, isRow, rfl⟩ | ⟨key, _, rfl⟩
    · obtain ⟨hk, before, starts⟩ := hch.started old isRow (by simpa using observed)
      exact ⟨hk, mem_append_left _ before, by simpa using starts⟩
    · exact ⟨_, by simp, rfl⟩
  stopped := by
    intro row hm stop stops
    rcases mem_moved hm with ⟨old, isRow, rfl⟩ | ⟨key, _, rfl⟩
    · rw [Stretch.close_stop] at stops
      cases held : old.stop with
      | none =>
        rw [held] at stops
        cases stops
        exact ⟨_, by simp, le_rfl⟩
      | some before =>
        rw [held] at stops
        cases stops
        obtain ⟨hk, isReading, hpa⟩ := hch.stopped old isRow _ held
        exact ⟨hk, mem_append_left _ isReading, hpa⟩
    · cases stops
  opened := by
    intro first isFirst holds
    cases readings with
    | nil =>
      cases isFirst
      obtain ⟨key, held⟩ := Option.isSome_iff_exists.mp holds
      exact ⟨_, new_mem_moved held, rfl, rfl⟩
    | cons =>
      cases isFirst
      obtain ⟨row, hm, observed, starts⟩ := hch.opened _ rfl holds
      exact ⟨_, close_mem_moved hm, by simpa using observed, by simpa using starts⟩
  observed := by
    intro _ key
    rw [latest_append_newest newest]
    split
    · rename_i hr
      constructor
      · rintro ⟨row, hm, _, covers, rfl⟩
        rcases mem_moved hm with ⟨old, isRow, rfl⟩ | ⟨key, held, rfl⟩
        · have hi := ((hch.closed_covers newest isRow _).mp covers).2
          exact absurd hr (not_le.mpr hi)
        · exact held
      · intro held
        exact ⟨_, new_mem_moved held, rfl, Stretch.covers_iff.mpr ⟨hr, nofun⟩, rfl⟩
    · rename_i early
      rw [← hch.observed _ key]
      constructor
      · rintro ⟨row, hm, observed, covers, rfl⟩
        rcases mem_moved hm with ⟨old, isRow, rfl⟩ | ⟨key, _, rfl⟩
        · exact ⟨old, isRow, by simpa using observed,
            ((hch.closed_covers newest isRow _).mp covers).1, by simp⟩
        · exact absurd (Stretch.covers_iff.mp covers).1 early
      · rintro ⟨row, hm, observed, covers, rfl⟩
        exact ⟨_, close_mem_moved hm, by simpa using observed,
          (hch.closed_covers newest hm _).mpr ⟨covers, not_le.mp early⟩, by simp⟩
  assumed := by
    intro row hm assumed
    rcases mem_moved hm with ⟨old, isRow, rfl⟩ | ⟨key, _, rfl⟩
    · obtain ⟨first, isFirst, observed, stop, start, least, before⟩ :=
        hch.assumed old isRow (by simpa using assumed)
      obtain ⟨started, isStart, starts⟩ := hch.started _ isFirst observed
      have newer : first.start ≤ reading.moment := starts ▸ newest started isStart
      refine ⟨_, close_mem_moved isFirst, by simpa using observed, ?_, by simpa using start, ?_, ?_⟩
      · rw [Stretch.close_of_stop stop, stop, Stretch.close_start]
      · intro _ isOther notAssumed
        rw [Stretch.close_start]
        rcases mem_moved isOther with ⟨older, isOlder, rfl⟩ | ⟨key, _, rfl⟩
        · simpa using least older isOlder (by simpa using notAssumed)
        · exact newer
      · intro hk isReading
        rw [Stretch.close_start]
        rcases mem_append.mp isReading with earlier | last
        · exact before hk earlier
        · rw [mem_singleton.mp last]
          exact newer
    · cases assumed

end

structure IsFirst (rows : List (Stretch τ κ)) (first : Stretch τ κ) : Prop where
  mem : first ∈ rows
  observed : first.assumed = false
  least : ∀ other ∈ rows, other.assumed = false → first.start ≤ other.start

section

variable (hch : Charts rows readings)
include hch

/-- When the first reading found a holder, the first stretch starts with it. -/
theorem Charts.first_le (isFirst : IsFirst rows first)
    (hf : ∀ head, readings.head? = some head → head.holder.isSome) :
    ∀ reading ∈ readings, first.start ≤ reading.moment := by
  cases readings with
  | nil => simp
  | cons head =>
    obtain ⟨row, hm, observed, starts⟩ := hch.opened _ rfl (hf _ rfl)
    have bound : first.start ≤ head.moment := starts ▸ isFirst.least row hm observed
    intro reading hm
    rcases mem_cons.mp hm with rfl | later
    · exact bound
    · exact bound.trans (rel_of_pairwise_cons hch.sorted later)

theorem Charts.assumed_stop {first row : Stretch τ κ}
    (isFirst : IsFirst rows first) (hm : row ∈ rows) (assumed : row.assumed) :
    row.stop = some first.start ∧ row.start < first.start := by
  obtain ⟨least, isRow, observed, stop, start, below, _⟩ := hch.assumed row hm assumed
  have hs : least.start = first.start :=
    le_antisymm (below _ isFirst.mem isFirst.observed) (isFirst.least least isRow observed)
  exact ⟨hs ▸ stop, hs ▸ start⟩

theorem Charts.assumed_unique :
    rows.Pairwise fun first second => ¬(first.assumed ∧ second.assumed) := by
  refine List.Pairwise.imp_of_mem ?_ hch.apart
  rintro row _ hm isOther hap ⟨first, second⟩
  obtain ⟨least, isRow, observed, stop, start, below, _⟩ := hch.assumed row hm first
  have isFirst : IsFirst rows least := ⟨isRow, observed, below⟩
  obtain ⟨otherStop, otherStart⟩ := hch.assumed_stop isFirst isOther second
  rcases hap with ⟨end₁, stops, late⟩ | ⟨end₂, stops, late⟩
  · rw [stop] at stops
    cases stops
    exact absurd otherStart (not_lt.mpr late)
  · rw [otherStop] at stops
    cases stops
    exact absurd start (not_lt.mpr late)

section

variable (isFirst : IsFirst rows first)
  (before : ∀ reading ∈ readings, first.start ≤ reading.moment)
include isFirst before

/-- Changing only the assumed stretch, within the time before the readings. -/
theorem Charts.assume {after : List (Stretch τ κ)} (hap : after.Pairwise Stretch.Apart)
    (observed : ∀ row : Stretch τ κ, row.assumed = false → (row ∈ after ↔ row ∈ rows))
    (assumed : ∀ row ∈ after, row.assumed → row.stop = some first.start ∧ row.start < first.start) :
    Charts after readings where
  sorted := hch.sorted
  apart := hap
  started := fun row hm seen => hch.started row ((observed row seen).mp hm) seen
  stopped := by
    intro row hm stop stops
    cases seen : row.assumed with
    | false => exact hch.stopped row ((observed row seen).mp hm) _ stops
    | true =>
      rw [(assumed row hm seen).1] at stops
      cases stops
      obtain ⟨_, hk, starts⟩ := hch.started _ isFirst.mem isFirst.observed
      exact ⟨_, hk, starts.le⟩
  opened := by
    intro _ isHead holds
    obtain ⟨row, hm, seen, starts⟩ := hch.opened _ isHead holds
    exact ⟨row, (observed row seen).mpr hm, seen, starts⟩
  observed := by
    intro _ key
    rw [← hch.observed _ key]
    constructor
    · rintro ⟨row, hm, seen, rest⟩
      exact ⟨row, (observed row seen).mp hm, seen, rest⟩
    · rintro ⟨row, hm, seen, rest⟩
      exact ⟨row, (observed row seen).mpr hm, seen, rest⟩
  assumed := by
    intro row hm isAssumed
    obtain ⟨stop, start⟩ := assumed row hm isAssumed
    refine ⟨_, (observed _ isFirst.observed).mpr isFirst.mem, isFirst.observed, stop, start,
      ?_, before⟩
    intro _ isOther seen
    exact isFirst.least _ ((observed _ seen).mp isOther) seen

theorem Charts.insert_assumed
    (none : ∀ row ∈ rows, row.assumed = false) (early : start < first.start) :
    Charts (rows ++ [⟨start, some first.start, first.holder, true⟩]) readings := by
  refine hch.assume isFirst before ?_ ?_ ?_
  · refine pairwise_append.mpr ⟨hch.apart, pairwise_singleton _ _, ?_⟩
    intro row hm _ isNew
    rw [mem_singleton.mp isNew]
    exact .inr ⟨first.start, rfl, isFirst.least row hm (none row hm)⟩
  · intro row seen
    rw [mem_append, mem_singleton]
    refine ⟨?_, .inl⟩
    rintro (old | rfl)
    · exact old
    · cases seen
  · intro row hm assumed
    rcases mem_append.mp hm with old | isNew
    · rw [none row old] at assumed
      cases assumed
    · rw [mem_singleton.mp isNew]
      exact ⟨rfl, early⟩

end

end

def reach (former start : τ) (row : Stretch τ κ) : Stretch τ κ :=
  if row.start = former then { row with start := start } else row

theorem Charts.extend_assumed (hch : Charts rows readings) {first held : Stretch τ κ}
    (isFirst : IsFirst rows first) (before : ∀ reading ∈ readings, first.start ≤ reading.moment)
    (hm : held ∈ rows) (assumed : held.assumed) (early : start < held.start) :
    Charts (rows.map (reach held.start start)) readings := by
  obtain ⟨_, heldStart⟩ := hch.assumed_stop isFirst hm assumed
  -- the assumed stretch is the only one that starts where it does
  have observedSame : ∀ row ∈ rows, row.assumed = false → reach held.start start row = row := by
    intro row isRow seen
    refine if_neg fun hs => ?_
    exact absurd (isFirst.least row isRow seen) (not_le.mpr (hs ▸ heldStart))
  have kind : ∀ row : Stretch τ κ, (reach held.start start row).assumed = row.assumed := by
    intro row
    unfold reach
    split <;> rfl
  have moved : ∀ row ∈ rows, row.assumed → (reach held.start start row).stop =
      some first.start ∧ (reach held.start start row).start < first.start := by
    intro row isRow isAssumed
    obtain ⟨stop, starts⟩ := hch.assumed_stop isFirst isRow isAssumed
    unfold reach
    split
    · exact ⟨stop, early.trans heldStart⟩
    · exact ⟨stop, starts⟩
  refine hch.assume isFirst before ?_ ?_ ?_
  · refine pairwise_map.mpr (List.Pairwise.imp_of_mem ?_ (hch.apart.and hch.assumed_unique))
    rintro row other isRow isOther ⟨hap, unique⟩
    cases rowSeen : row.assumed with
    | true =>
      have otherSeen : other.assumed = false :=
        eq_false_iff.mpr fun both => unique ⟨rowSeen, both⟩
      refine .inl ⟨first.start, (moved row isRow rowSeen).1, ?_⟩
      rw [observedSame _ isOther otherSeen]
      exact isFirst.least _ isOther otherSeen
    | false =>
      rw [observedSame row isRow rowSeen]
      cases otherSeen : other.assumed with
      | true =>
        exact .inr ⟨first.start, (moved _ isOther otherSeen).1, isFirst.least row isRow rowSeen⟩
      | false =>
        rw [observedSame _ isOther otherSeen]
        exact hap
  · intro row seen
    constructor
    · intro isMoved
      obtain ⟨old, isOld, rfl⟩ := mem_map.mp isMoved
      rw [observedSame old isOld ((kind old).symm.trans seen)]
      exact isOld
    · intro isRow
      exact mem_map.mpr ⟨row, isRow, observedSame row isRow seen⟩
  · intro row isMoved isAssumed
    obtain ⟨old, isOld, rfl⟩ := mem_map.mp isMoved
    exact moved old isOld ((kind old).symm.trans isAssumed)

/-- Who is said to hold at a moment: what the latest reading found, or whom the assumed stretch names
before the first reading. -/
def expected (rows : List (Stretch τ κ)) (readings : List (Reading τ κ)) (moment : τ) : Option κ :=
  match latest Reading.moment readings moment with
  | some reading => reading.holder
  | none => (rows.find? fun row => row.assumed && row.covers moment).map Stretch.holder

theorem Charts.latest_none (hch : Charts rows readings)
    (hm : row ∈ rows) (assumed : row.assumed) (covers : row.covers moment) :
    latest Reading.moment readings moment = none := by
  obtain ⟨first, _, _, stop, _, _, before⟩ := hch.assumed row hm assumed
  have early := (Stretch.covers_iff.mp covers).2 first.start stop
  exact latest_eq_none_iff.mpr fun _ hk => early.trans_le (before _ hk)

theorem Charts.lookup (hch : Charts rows readings) (moment : τ) :
    (rows.filter fun row => row.covers moment).head?.map Stretch.holder =
      expected rows readings moment := by
  cases hf : (rows.filter fun row => row.covers moment).head? with
  | none =>
    have uncovered : ∀ row ∈ rows, row.covers moment = false := by
      intro row hm
      rw [head?_eq_none_iff, filter_eq_nil_iff] at hf
      exact eq_false_iff.mpr (hf row hm)
    unfold expected
    split
    · rename_i reading isLatest
      cases held : reading.holder with
      | none => rfl
      | some key =>
        obtain ⟨row, hm, _, covers, _⟩ := (hch.observed _ key).mpr
          (by rw [isLatest]; exact held)
        rw [uncovered row hm] at covers
        cases covers
    · have none : rows.find? (fun row => row.assumed && row.covers moment) = none := by
        rw [find?_eq_none]
        intro row hm
        simp [uncovered row hm]
      rw [none]
  | some row =>
    obtain ⟨hm, covers⟩ := mem_filter.mp (mem_of_head? hf)
    unfold expected
    cases seen : row.assumed with
    | false =>
      have law := (hch.observed _ row.holder).mp ⟨row, hm, seen, covers, rfl⟩
      cases isLatest : latest Reading.moment readings moment with
      | none =>
        rw [isLatest] at law
        cases law
      | some =>
        rw [isLatest] at law
        exact law.symm
    | true =>
      rw [hch.latest_none hm seen covers]
      have hs : rows.find? (fun row => row.assumed && row.covers moment) = some row := by
        rw [← head?_filter, ← filter_filter, covering_eq hch.apart hf]
        simp [seen]
      rw [Option.map_some, hs]
      rfl

end

end SessionManager.Foundation.Timeline
