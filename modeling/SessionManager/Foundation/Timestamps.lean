import Mathlib.Data.List.Infix
import Mathlib.Data.List.Lex
import Mathlib.Data.String.Basic
import Mathlib.Order.Lattice

/-! Timestamps in the text form of RFC 3339, compared as texts. Up to the second the text has a fixed
width and sorts as the time does. The fractional second is printed without trailing zeros, or not at
all where it is zero, and the letter that follows it sorts after every digit and after the point. -/
namespace SessionManager.Foundation
open List

section

variable {α : Type} [LinearOrder α] {first second : List α}

/-- Two texts that differ at a place where both have a character, the first one having the less. -/
def Diverges (first second : List α) : Prop :=
  ∃ common one other firstRest secondRest, first = common ++ one :: firstRest ∧
    second = common ++ other :: secondRest ∧ one < other

theorem Diverges.cons (diverges : Diverges first second) (head : α) :
    Diverges (head :: first) (head :: second) := by
  obtain ⟨_, one, _, firstRest, secondRest, rfl, rfl, less⟩ := diverges
  exact ⟨_ :: _, one, _, firstRest, secondRest, rfl, rfl, less⟩

theorem Diverges.lt (diverges : Diverges first second)
    (firstEnd secondEnd : List α) : first ++ firstEnd < second ++ secondEnd := by
  obtain ⟨_, _, _, _, _, rfl, rfl, less⟩ := diverges
  rw [append_assoc, append_assoc]
  exact append_left_lt (cons_lt_cons_iff.mpr (.inl less))

theorem infix_or_diverges (first second : List α) :
    first <+: second ∨ second <+: first ∨ Diverges first second ∨ Diverges second first := by
  induction first generalizing second with
  | nil => exact .inl nil_prefix
  | cons head first ih =>
    cases second with
    | nil => exact .inr (.inl nil_prefix)
    | cons other second =>
      rcases lt_trichotomy head other with less | rfl | more
      · exact .inr (.inr (.inl ⟨[], _, _, _, _, rfl, rfl, less⟩))
      · rcases ih second with shorter | longer | before | after
        · exact .inl (prefix_cons_inj _ |>.mpr shorter)
        · exact .inr (.inl (prefix_cons_inj _ |>.mpr longer))
        · exact .inr (.inr (.inl (before.cons _)))
        · exact .inr (.inr (.inr (after.cons _)))
      · exact .inr (.inr (.inr ⟨[], _, _, _, _, rfl, rfl, more⟩))

theorem append_lt_append_iff {first second firstEnd secondEnd : List α}
    (lengths : first.length = second.length) :
    first ++ firstEnd < second ++ secondEnd ↔
      first < second ∨ first = second ∧ firstEnd < secondEnd := by
  induction first generalizing second with
  | nil =>
    rw [eq_nil_of_length_eq_zero lengths.symm]
    simp
  | cons _ _ ih =>
    cases second with
    | nil => cases lengths
    | cons =>
      rw [cons_append, cons_append, cons_lt_cons_iff, cons_lt_cons_iff,
        ih (Nat.succ.inj lengths), List.cons.injEq]
      tauto

end

section

/-- The digits of a number, padded with zeros to the width. -/
def digits : Nat → Nat → List Char
  | 0, _ => []
  | width + 1, number => digits width (number / 10) ++ [(number % 10).digitChar]

variable (width number : Nat)

@[simp] theorem digits_length : (digits width number).length = width := by
  induction width generalizing number with
  | zero => rfl
  | succ width ih => simp [digits, ih]

variable {one other : Nat} {character : Char}

theorem digitChar_lt (small : one < 10) (smaller : other < 10) :
    one.digitChar < other.digitChar ↔ one < other := by
  have table : ∀ one other : Fin 10,
      one.val.digitChar < other.val.digitChar ↔ one.val < other.val := by decide
  exact table ⟨one, small⟩ ⟨_, smaller⟩

theorem digitChar_between {digit : Nat} (small : digit < 10) :
    '0' ≤ digit.digitChar ∧ digit.digitChar < 'Z' := by
  have table : ∀ digit : Fin 10, '0' ≤ digit.val.digitChar ∧ digit.val.digitChar < 'Z' := by decide
  exact table ⟨_, small⟩

section

variable {width one other : Nat} (small : one < 10 ^ width) (smaller : other < 10 ^ width)
include small smaller

theorem digits_lt : digits width one < digits width other ↔ one < other := by
  induction width generalizing one other with
  | zero =>
    have hs : one = other := by omega
    rw [hs]
    simp [digits]
  | succ width ih =>
    have heads := ih (show one / 10 < 10 ^ _ by omega) (show other / 10 < 10 ^ _ by omega)
    have back := ih (show other / 10 < 10 ^ _ by omega) (show one / 10 < 10 ^ _ by omega)
    have last := digitChar_lt (Nat.mod_lt one (by decide)) (Nat.mod_lt other (by decide))
    rw [digits, digits, append_lt_append_iff (by simp), heads, cons_lt_cons_iff, last]
    have hs : digits width (one / 10) = digits width (other / 10) ↔ one / 10 = other / 10 := by
      refine ⟨?_, congrArg _⟩
      intro heq
      have _ : ¬ one / 10 < other / 10 := fun less => (heads.mpr less).ne heq
      have _ : ¬ other / 10 < one / 10 := fun less => (back.mpr less).ne heq.symm
      omega
    rw [hs]
    simp only [lt_irrefl, and_false, or_false]
    omega

theorem digits_inj : digits width one = digits width other ↔ one = other := by
  refine ⟨?_, congrArg _⟩
  intro heq
  have _ : ¬ one < other := fun less => ((digits_lt small smaller).mpr less).ne heq
  have _ : ¬ other < one := fun less => ((digits_lt smaller small).mpr less).ne heq.symm
  omega

end

theorem digit_of_mem_digits
    (hm : character ∈ digits width number) : '0' ≤ character ∧ character < 'Z' := by
  induction width generalizing number with
  | zero => cases hm
  | succ _ ih =>
    rcases mem_append.mp hm with before | last
    · exact ih _ before
    · rw [mem_singleton.mp last]
      exact digitChar_between (Nat.mod_lt _ (by decide))

/-- The digits of a fraction of the given width without its trailing zeros. -/
def fraction : Nat → Nat → List Char
  | 0, _ => []
  | width + 1, number =>
    if number % 10 = 0 then fraction width (number / 10) else digits (width + 1) number

theorem digits_eq_fraction :
    ∃ zeros, digits width number = fraction width number ++ List.replicate zeros '0' := by
  induction width generalizing number with
  | zero => exact ⟨0, rfl⟩
  | succ _ ih =>
    rw [fraction]
    split
    · next round =>
        obtain ⟨zeros, hs⟩ := ih (_ / 10)
        refine ⟨zeros + 1, ?_⟩
        rw [digits, hs, round, replicate_succ', append_assoc]
        rfl
    · exact ⟨0, by simp⟩

theorem not_lt_zeros {text : List Char} (characters : ∀ character ∈ text, '0' ≤ character)
    {zeros : Nat} (lengths : text.length = zeros) : ¬ text < List.replicate zeros '0' := by
  induction text generalizing zeros with
  | nil =>
    rw [← lengths]
    exact lt_irrefl _
  | cons _ _ ih =>
    rw [← lengths, length_cons, replicate_succ, cons_lt_cons_iff]
    rintro (less | ⟨_, later⟩)
    · exact absurd (characters _ mem_cons_self) (not_le.mpr less)
    · exact ih (fun _ hm => characters _ (mem_cons_of_mem _ hm)) rfl later

theorem fraction_eq (small : one < 10 ^ 9) (smaller : other < 10 ^ 9)
    (hs : fraction 9 one = fraction 9 other) : one = other := by
  obtain ⟨zeros, first⟩ := digits_eq_fraction 9 one
  obtain ⟨others, second⟩ := digits_eq_fraction 9 _
  have firstLength := congrArg List.length first
  have secondLength := congrArg List.length second
  simp only [digits_length, length_append, length_replicate] at firstLength secondLength
  rw [hs] at firstLength
  refine (digits_inj small smaller).mp ?_
  rw [first, second, hs, show zeros = others by omega]

theorem digit_of_mem_fraction
    (hm : character ∈ fraction width number) : '0' ≤ character ∧ character < 'Z' := by
  obtain ⟨_, hs⟩ := digits_eq_fraction _ _
  refine digit_of_mem_digits width number ?_
  rw [hs]
  exact mem_append_left _ hm

def afterSeconds (nanosecond : Nat) : List Char :=
  (if nanosecond = 0 then [] else '.' :: fraction 9 nanosecond) ++ ['Z']

theorem afterSeconds_of_ne_zero {nanosecond : Nat} (nonzero : nanosecond ≠ 0) :
    afterSeconds nanosecond = '.' :: (fraction 9 nanosecond ++ ['Z']) := by
  rw [afterSeconds, if_neg nonzero]
  rfl

theorem afterSeconds_gt_of_prefix (order : one < other) (small : other < 10 ^ 9)
    (shorter : fraction 9 one <+: fraction 9 other) : afterSeconds other < afterSeconds one := by
  rw [afterSeconds_of_ne_zero (by omega : _ ≠ 0)]
  by_cases zero : one = 0
  · rw [zero]
    exact cons_lt_cons_iff.mpr (.inl (by decide))
  · obtain ⟨rest, longer⟩ := shorter
    rw [afterSeconds_of_ne_zero zero, ← longer, append_assoc, cons_lt_cons_iff]
    refine .inr ⟨rfl, append_left_lt ?_⟩
    cases rest with
    | nil =>
      rw [append_nil] at longer
      have hs := fraction_eq (by omega) small longer
      omega
    | cons character =>
      have hm : character ∈ fraction 9 other := by
        rw [← longer]
        simp
      exact cons_lt_cons_iff.mpr (.inl (digit_of_mem_fraction 9 _ hm).2)

theorem afterSeconds_lt_of_not_prefix (order : one < other)
    (small : other < 10 ^ 9) (hne : ¬ fraction 9 one <+: fraction 9 other) :
    afterSeconds one < afterSeconds other := by
  obtain ⟨zeros, first⟩ := digits_eq_fraction 9 one
  obtain ⟨others, second⟩ := digits_eq_fraction 9 other
  have sorted := (digits_lt (by omega) small).mpr order
  rcases infix_or_diverges (fraction 9 one) (fraction 9 other) with shorter | longer | before | after
  · exact absurd shorter hne
  · obtain ⟨rest, longer⟩ := longer
    have lengths : (rest ++ List.replicate zeros '0').length = others := by
      have firstLength := congrArg List.length first
      have secondLength := congrArg List.length second
      have restLength := congrArg List.length longer
      rw [length_append] at restLength
      rw [digits_length, length_append, length_replicate] at firstLength secondLength
      rw [length_append, length_replicate]
      omega
    rw [first, second, ← longer, append_assoc, append_lt_append_iff rfl] at sorted
    rcases sorted with less | ⟨_, less⟩
    · exact absurd less (lt_irrefl _)
    · refine absurd less (not_lt_zeros ?_ lengths)
      intro character hm
      rcases mem_append.mp hm with early | late
      · have hi : character ∈ fraction 9 one := by
          rw [← longer]
          exact mem_append_right _ early
        exact (digit_of_mem_fraction 9 one hi).1
      · rw [eq_of_mem_replicate late]
  · have nonzero : one ≠ 0 := by
      rintro rfl
      exact hne nil_prefix
    rw [afterSeconds_of_ne_zero nonzero, afterSeconds_of_ne_zero (by omega : _ ≠ 0),
      cons_lt_cons_iff]
    exact .inr ⟨rfl, before.lt _ _⟩
  · have reversed := after.lt (List.replicate others '0') (List.replicate zeros '0')
    rw [← first, ← second] at reversed
    exact absurd sorted (lt_asymm reversed)

end

def daysInMonth (year : Int) (month : Nat) : Nat :=
  if month = 2 then
    if year % 4 = 0 ∧ (year % 100 ≠ 0 ∨ year % 400 = 0) then 29 else 28
  else if month = 4 ∨ month = 6 ∨ month = 9 ∨ month = 11 then 30 else 31

structure Instant where
  year : Int
  month : Nat
  day : Nat
  hour : Nat
  minute : Nat
  second : Nat
  nanosecond : Nat
  year_range : -9999 ≤ year ∧ year ≤ 9999
  month_range : 1 ≤ month ∧ month ≤ 12
  day_range : 1 ≤ day ∧ day ≤ daysInMonth year month
  hour_lt : hour < 24
  minute_lt : minute < 60
  second_lt : second < 60
  nanosecond_lt : nanosecond < 10 ^ 9
  deriving DecidableEq, Repr

def epoch : Instant where
  year := 1970
  month := 1
  day := 1
  hour := 0
  minute := 0
  second := 0
  nanosecond := 0
  year_range := by decide
  month_range := by decide
  day_range := by decide
  hour_lt := by decide
  minute_lt := by decide
  second_lt := by decide
  nanosecond_lt := by decide

theorem year_range_2026 : -9999 ≤ (2026 : Int) ∧ (2026 : Int) ≤ 9999 := by decide

namespace Instant

def calendar (instant : Instant) : List Int :=
  [instant.year, instant.month, instant.day, instant.hour, instant.minute, instant.second]

def Before (one other : Instant) : Prop :=
  one.calendar < other.calendar ∨ one.calendar = other.calendar ∧ one.nanosecond < other.nanosecond

instance : DecidableRel Before := fun one other =>
  inferInstanceAs (Decidable (one.calendar < other.calendar ∨
    one.calendar = other.calendar ∧ one.nanosecond < other.nanosecond))

theorem day_lt (instant : Instant) : instant.day < 100 := by
  have bound := instant.day_range.2
  unfold daysInMonth at bound
  split at bound
  · split at bound <;> omega
  · split at bound <;> omega

/-- The text of an instant down to the second; years have four digits. -/
def toSeconds (instant : Instant) : List Char :=
  digits 4 instant.year.toNat ++ '-' :: (digits 2 instant.month ++ '-' ::
    (digits 2 instant.day ++ 'T' :: (digits 2 instant.hour ++ ':' ::
      (digits 2 instant.minute ++ ':' :: digits 2 instant.second))))

def text (instant : Instant) : List Char := instant.toSeconds ++ afterSeconds instant.nanosecond

/-- The text of RFC 3339, which has no years but those from 0 to 9999. -/
def formatRfc3339 (instant : Instant) : Option String :=
  if 0 ≤ instant.year then some (String.ofList instant.text) else none

theorem field_lt {width one other : Nat} {mark : Char} {rest otherRest : List Char}
    (small : one < 10 ^ width) (smaller : other < 10 ^ width) :
    digits width one ++ mark :: rest < digits width other ++ mark :: otherRest ↔
      one < other ∨ one = other ∧ rest < otherRest := by
  rw [append_lt_append_iff (by simp), digits_lt small smaller, digits_inj small smaller,
    cons_lt_cons_iff]
  simp only [lt_irrefl, true_and, false_or]

variable {one other : Instant}

theorem toSeconds_lt (hpo : 0 ≤ one.year) (after : 0 ≤ other.year) :
    one.toSeconds < other.toSeconds ↔ one.calendar < other.calendar := by
  obtain ⟨_, _⟩ := one.year_range
  obtain ⟨_, _⟩ := other.year_range
  have oneMonth := one.month_range
  have otherMonth := other.month_range
  have oneDay := one.day_lt
  have otherDay := other.day_lt
  have oneHour := one.hour_lt
  have otherHour := other.hour_lt
  have oneMinute := one.minute_lt
  have otherMinute := other.minute_lt
  have oneSecond := one.second_lt
  have otherSecond := other.second_lt
  unfold toSeconds calendar
  rw [field_lt (by omega) (by omega), field_lt (by omega) (by omega), field_lt (by omega) (by omega),
    field_lt (by omega) (by omega), field_lt (by omega) (by omega), digits_lt (by omega) (by omega)]
  simp only [cons_lt_cons_iff, lt_irrefl, and_false, or_false]
  omega

theorem toSeconds_inj (hpo : 0 ≤ one.year) (after : 0 ≤ other.year) :
    one.toSeconds = other.toSeconds ↔ one.calendar = other.calendar := by
  have forth := toSeconds_lt hpo after
  have back := toSeconds_lt after hpo
  constructor
  · intro hs
    rw [hs] at forth back
    have first : ¬ one.calendar < other.calendar := fun less => lt_irrefl _ (forth.mpr less)
    have second : ¬ other.calendar < one.calendar := fun less => lt_irrefl _ (back.mpr less)
    exact le_antisymm (not_lt.mp second) (not_lt.mp first)
  · intro hs
    rw [hs] at forth back
    have first : ¬ one.toSeconds < other.toSeconds := fun less => lt_irrefl _ (forth.mp less)
    have second : ¬ other.toSeconds < one.toSeconds := fun less => lt_irrefl _ (back.mp less)
    exact le_antisymm (not_lt.mp second) (not_lt.mp first)

theorem toSeconds_length (instant : Instant) : instant.toSeconds.length = 19 := by
  simp [toSeconds]

/-- The two instants are in one second, and what is printed of the first one's fraction begins what is
printed of the second one's. -/
def Clash (one other : Instant) : Prop :=
  one.calendar = other.calendar ∧ fraction 9 one.nanosecond <+: fraction 9 other.nanosecond

instance : DecidableRel Clash := fun one other =>
  inferInstanceAs (Decidable (one.calendar = other.calendar ∧
    fraction 9 one.nanosecond <+: fraction 9 other.nanosecond))

section

variable (hpo : 0 ≤ one.year) (after : 0 ≤ other.year)
include hpo after

theorem text_lt : one.text < other.text ↔ one.calendar < other.calendar ∨
      one.calendar = other.calendar ∧ afterSeconds one.nanosecond < afterSeconds other.nanosecond := by
  unfold text
  rw [append_lt_append_iff (by rw [toSeconds_length, toSeconds_length]), toSeconds_lt hpo after,
    toSeconds_inj hpo after]

/-- The texts of two instants sort as the instants do, unless they clash. -/
theorem text_lt_of_not_clash (order : one.Before other) (hap : ¬ one.Clash other) :
    one.text < other.text := by
  refine (text_lt hpo after).mpr (order.imp_right ?_)
  rintro ⟨hs, less⟩
  refine ⟨hs, afterSeconds_lt_of_not_prefix less other.nanosecond_lt ?_⟩
  exact fun shorter => hap ⟨hs, shorter⟩

theorem text_gt_of_clash
    (order : one.Before other) (clash : one.Clash other) : other.text < one.text := by
  refine (text_lt after hpo).mpr (.inr ⟨clash.1.symm, ?_⟩)
  rcases order with less | ⟨_, less⟩
  · exact absurd clash.1 less.ne
  · exact afterSeconds_gt_of_prefix less other.nanosecond_lt clash.2

end

theorem eq_of_calendar (hs : one.calendar = other.calendar)
    (nanos : one.nanosecond = other.nanosecond) : one = other := by
  cases one
  simp only [calendar, List.cons.injEq, Int.natCast_inj, and_true] at hs
  simp_all

theorem before_trichotomy (one other : Instant) :
    one.Before other ∨ one = other ∨ other.Before one := by
  rcases lt_trichotomy one.calendar other.calendar with less | hs | more
  · exact .inl (.inl less)
  · rcases lt_trichotomy one.nanosecond other.nanosecond with less | heq | more
    · exact .inl (.inr ⟨hs, less⟩)
    · exact .inr (.inl (eq_of_calendar hs heq))
    · exact .inr (.inr (.inr ⟨hs.symm, more⟩))
  · exact .inr (.inr (.inl more))

theorem Before.year_le (order : one.Before other) : one.year ≤ other.year := by
  unfold Before calendar at order
  rw [cons_lt_cons_iff, List.cons.injEq] at order
  omega

theorem Before.asymm (order : one.Before other) : ¬ other.Before one := by
  rcases order with less | ⟨hs, less⟩
  · rintro (more | ⟨heq, _⟩)
    · exact lt_asymm less more
    · exact less.ne heq.symm
  · rintro (more | ⟨_, more⟩)
    · exact more.ne hs.symm
    · omega

end Instant

end SessionManager.Foundation
