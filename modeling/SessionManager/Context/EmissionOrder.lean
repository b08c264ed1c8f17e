import SessionManager.Context.Monitor
import SessionManager.Foundation.GatedCell
import SessionManager.Foundation.Transcripts
import SessionManager.Usage.Calendar

/-! The snapshot of the context against the order in which its events were emitted. Samples and resets
ride detached requests, so they are applied in any order. Of samples the newest is kept whatever the
order; a reset is applied as it comes, so one that comes late discards a newer sample or takes the
boundary back. -/
namespace SessionManager.Context
open Foundation GatedCell List Bool

structure Sample where
  emittedAt : String
  usedPercentage : Rat
  totalInputTokens : Option Int
  deriving DecidableEq, Repr

/-- The events of one session, each with its stamp; a sample has a percentage. -/
inductive ContextEvent
  | sample (sample : Sample) (now : String)
  | reset (emittedAt : String)
  deriving DecidableEq, Repr

def ContextEvent.emittedAt : ContextEvent → String
  | .sample taken _ => taken.emittedAt
  | .reset emittedAt => emittedAt

def Sample.event (sample : Sample) : ContextUsageEvent where
  usedPercentage := some sample.usedPercentage
  totalInputTokens := sample.totalInputTokens
  emittedAt := some sample.emittedAt

section

variable (host : ContextHost) (config : ContextMonitorConfig)

def applyEvent (session : ContextSession) : ContextEvent → ContextSession
  | .sample sample now => (applyContextUsageUpdate host config session sample.event now).session
  | .reset emittedAt => (applyContextResetEvent session (some emittedAt)).session

def applyEvents (session : ContextSession) (events : List ContextEvent) : ContextSession :=
  events.foldl (applyEvent host config) session

def ContextEvent.stamp (event : ContextEvent) : Int :=
  (parseTimestampNs host event.emittedAt).getD 0

def ContextEvent.signal (event : ContextEvent) : Signal Int Sample :=
  match event with
  | .sample taken _ => .offer (event.stamp host) taken
  | .reset _ => .clear (event.stamp host)

def Readable (event : ContextEvent) : Prop := (parseTimestampNs host event.emittedAt).isSome = true

def currentSample (events : List ContextEvent) : Option Sample :=
  (current (events.map (ContextEvent.signal host))).map Prod.snd

/-- The three fields of the snapshot show the sample, or nothing. -/
def Shows (session : ContextSession) (sample : Option Sample) : Prop :=
  session.contextUsedPercentage = sample.map Sample.usedPercentage ∧
    session.contextTotalInputTokens = sample.map (fun sample => sample.totalInputTokens.getD 0) ∧
    session.contextSampledAt = sample.map Sample.emittedAt

end

variable {emittedAt : String} {now : String}

section

variable {host : ContextHost} {config : ContextMonitorConfig} {session : ContextSession}
  {cell : Cell Int Sample}

/-- The stored session is a gated cell: its boundary is the floor and its snapshot what is held. -/
structure Represents (host : ContextHost) (session : ContextSession) (cell : Cell Int Sample) :
    Prop where
  floor : (jsonText session.contextCycleResetEmittedAt).map (parseTimestampNs host) =
    cell.floor.map some
  shows : Shows session (cell.held.map Prod.snd)
  stamp : ∀ held, cell.held = some held →
    parseTimestampNs host held.2.emittedAt = some held.1

theorem parseTimestampNs_trim (text : String) :
    parseTimestampNs host (trim text) = parseTimestampNs host text := by
  unfold parseTimestampNs
  rw [trim_trim]

variable {stamp : Int} {sample : Sample} {text : String}

theorem trim_ne_empty (read : parseTimestampNs host text = some stamp) : trim text ≠ "" := by
  intro blank
  rw [parseTimestampNs, if_pos blank] at read
  cases read

theorem jsonText_readable
    (read : parseTimestampNs host text = some stamp) : jsonText (some text) = some (trim text) := by
  simp [jsonText, Option.filter, trim_ne_empty read]

theorem notAfter_readable {stored : Option String}
    (read : parseTimestampNs host emittedAt = some stamp) {floor : Option Int}
    (holds : (jsonText stored).map (parseTimestampNs host) = floor.map some) :
    notAfter host (some emittedAt) stored = !floor.all fun floor => decide (floor < stamp) := by
  unfold notAfter
  cases text : jsonText stored with
  | none =>
    rw [text] at holds
    cases floor with
    | none => rfl
    | some => cases holds
  | some text' =>
    rw [text] at holds
    cases floor with
    | none => cases holds
    | some floor =>
      have other : parseTimestampNs host text' = some floor := Option.some.inj holds
      simp only [timestampIsAfter, read, other, Option.all_some]

theorem Represents.sampled (represents : Represents host session cell) :
    (jsonText session.contextSampledAt).map (parseTimestampNs host) =
      (cell.held.map Prod.fst).map some := by
  rw [represents.shows.2.2]
  cases is : cell.held with
  | none => rfl
  | some held =>
    have read := represents.stamp held is
    simp only [Option.map_some, jsonText_readable read, parseTimestampNs_trim, read]

theorem storeSample_newer (newer : jsonText session.contextSampledAt ≠ some sample.emittedAt)
    (filled : trim sample.emittedAt ≠ "") :
    storeSample session sample.event sample.usedPercentage now = { session with
        tokensUsed := some (sample.totalInputTokens.getD 0)
        contextUsedPercentage := some sample.usedPercentage
        contextTotalInputTokens := some (sample.totalInputTokens.getD 0)
        contextSampledAt := some sample.emittedAt
        contextCompactionActive := false } := by
  have emitted : (sample.event.emittedAt.filter fun value => decide (trim value ≠ "")).getD now =
      sample.emittedAt := by
    simp [Sample.event, Option.filter, filled]
  unfold storeSample
  simp only [emitted]
  exact if_pos (.inr (.inr (.inr (.inr (.inl ⟨rfl, newer⟩)))))

/-- The fields that decide on samples: the snapshot and the boundary. -/
def gauge (session : ContextSession) : Option Rat × Option Int × Option String × Option String :=
  (session.contextUsedPercentage, session.contextTotalInputTokens, session.contextSampledAt,
    session.contextCycleResetEmittedAt)

theorem gauge_latchContextAlert (usedPercentage : Rat) :
    gauge (latchContextAlert host config session usedPercentage).1 = gauge session := by
  unfold latchContextAlert
  split
  · dsimp only
    split <;> rfl
  · rfl

theorem gauge_dropUnsupportedMonitor : gauge (dropUnsupportedMonitor session).1 = gauge session ∨
      gauge (dropUnsupportedMonitor session).1 =
        gauge { session with contextCycleResetEmittedAt := none } := by
  unfold dropUnsupportedMonitor
  split
  · exact .inr rfl
  · exact .inl rfl

theorem gauge_applyEvent_sample
    (hfr : notAfter host sample.event.emittedAt session.contextCycleResetEmittedAt = false)
    (newer : notAfter host sample.event.emittedAt session.contextSampledAt = false) :
    gauge (applyEvent host config session (.sample sample now)) = gauge (dropUnsupportedMonitor
        (storeSample session sample.event sample.usedPercentage now)).1 := by
  rw [applyEvent, applyContextUsageUpdate]
  rw [hfr, newer]
  simp only [false_eq_true, if_false, Sample.event]
  split
  · exact gauge_latchContextAlert _
  · rfl

theorem Represents.of_gauge {other : ContextSession} (represents : Represents host session cell)
    (hs : gauge other = gauge session) : Represents host other cell := by
  simp only [gauge, Prod.mk.injEq] at hs
  obtain ⟨used, total, sampled, boundary⟩ := hs
  refine ⟨boundary ▸ represents.floor, ?_, represents.stamp⟩
  unfold Shows
  rw [used, total, sampled]
  exact represents.shows

section

variable (represents : Represents host session cell)
  (read : parseTimestampNs host sample.emittedAt = some stamp)
include represents read

theorem Represents.guards :
    (notAfter host sample.event.emittedAt session.contextCycleResetEmittedAt ||
      notAfter host sample.event.emittedAt session.contextSampledAt) = !cell.accepts stamp := by
  rw [Sample.event, notAfter_readable read represents.floor,
    notAfter_readable read represents.sampled, Option.all_map, Cell.accepts, Bool.not_and]

/-- A sample is stored where the cell accepts it. The boundary stays, or it is dropped with the
monitor of a provider without a gauge. -/
theorem Represents.sample_accepted (hac : cell.accepts stamp) (now : String) :
    ∃ floor, (floor = cell.floor ∨ floor = none) ∧
      Represents host (applyEvent host config session (.sample sample now))
        ⟨floor, some (stamp, sample)⟩ := by
  have helds := (accepts_eq_true.mp hac).2
  have hpa := represents.guards read
  rw [hac, Bool.not_true, Bool.or_eq_false_iff] at hpa
  have hne : jsonText session.contextSampledAt ≠ some sample.emittedAt := by
    intro hs
    have hst := represents.sampled
    rw [hs, Option.map_some, read] at hst
    cases is : cell.held with
    | none =>
      rw [is] at hst
      cases hst
    | some held =>
      rw [is] at hst
      have heq : stamp = held.1 := Option.some.inj (Option.some.inj hst)
      exact lt_irrefl _ (heq ▸ helds held is)
  have whole : gauge (applyEvent host config session (.sample sample now)) =
      gauge (dropUnsupportedMonitor
        (storeSample session sample.event sample.usedPercentage now)).1 :=
    gauge_applyEvent_sample hpa.1 hpa.2
  rw [storeSample_newer hne (trim_ne_empty read)] at whole
  rcases gauge_dropUnsupportedMonitor with kept | dropped
  · refine ⟨cell.floor, .inl rfl, Represents.of_gauge ?_ (whole.trans kept)⟩
    exact ⟨represents.floor, ⟨rfl, rfl, rfl⟩, fun _ is => Option.some.inj is ▸ read⟩
  · refine ⟨none, .inr rfl, Represents.of_gauge ?_ (whole.trans dropped)⟩
    exact ⟨rfl, ⟨rfl, rfl, rfl⟩, fun _ is => Option.some.inj is ▸ read⟩

theorem Represents.sample_refused (refused : cell.accepts stamp = false) (now : String) :
    applyContextUsageUpdate host config session sample.event now = ⟨session, .staleSample, []⟩ := by
  have stale := represents.guards read
  rw [refused, Bool.not_false, Bool.or_eq_true_iff] at stale
  rw [applyContextUsageUpdate]
  rcases stale with low | old
  · rw [low, if_pos rfl]
  · rw [old, if_pos rfl, ite_self]

theorem Represents.stale_iff (now : String) :
    (applyContextUsageUpdate host config session sample.event now).outcome = .staleSample ↔
      cell.accepts stamp = false := by
  refine ⟨?_, fun refused => by rw [represents.sample_refused read refused]⟩
  intro stale
  by_contra other
  have hac : cell.accepts stamp = true := not_eq_false _ ▸ other
  have hpa := represents.guards read
  rw [hac, Bool.not_true, Bool.or_eq_false_iff] at hpa
  rw [applyContextUsageUpdate] at stale
  rw [hpa.1, hpa.2] at stale
  simp only [false_eq_true, if_false, Sample.event] at stale
  split at stale <;> cases stale

end

theorem Represents.reset (read : parseTimestampNs host emittedAt = some stamp) :
    Represents host (applyEvent host config session (.reset emittedAt)) ⟨some stamp, none⟩ where
  floor := by
    change (jsonText (some emittedAt)).map (parseTimestampNs host) = some (some stamp)
    rw [jsonText_readable read, Option.map_some, parseTimestampNs_trim, read]
  shows := ⟨rfl, rfl, rfl⟩
  stamp := fun _ h => nomatch h

end

section

variable {host : ContextHost} {config : ContextMonitorConfig} {session : ContextSession}
  {events : List ContextEvent}

structure Unsampled (session : ContextSession) : Prop where
  boundary : jsonText session.contextCycleResetEmittedAt = none
  shows : Shows session none

/-- A reset comes in time where no reset before it and no stored sample is later. Samples always do. -/
def InTime (host : ContextHost) (earlier : List ContextEvent) (session : ContextSession) :
    ContextEvent → Prop
  | .sample _ _ => True
  | .reset emittedAt =>
    (∀ other, .reset other ∈ earlier →
      (ContextEvent.reset other).stamp host ≤ (ContextEvent.reset emittedAt).stamp host) ∧
    ∀ stored stamp, jsonText session.contextSampledAt = some stored →
      parseTimestampNs host stored = some stamp → stamp ≤ (ContextEvent.reset emittedAt).stamp host

def Follows (host : ContextHost) (events : List ContextEvent) (session : ContextSession) : Prop :=
  ∃ cell, Represents host session cell ∧ Tracks (events.map (ContextEvent.signal host)) cell

variable {event : ContextEvent} {start : ContextSession}

theorem parse_of_readable (readable : Readable host event) :
    parseTimestampNs host event.emittedAt = some (event.stamp host) := by
  obtain ⟨_, read⟩ := Option.isSome_iff_exists.mp readable
  rw [ContextEvent.stamp, read]
  rfl

theorem mem_clears_signals {stamp : Int} : stamp ∈ clears (events.map (ContextEvent.signal host)) ↔
      ∃ emittedAt, .reset emittedAt ∈ events ∧
        (ContextEvent.reset emittedAt).stamp host = stamp := by
  rw [mem_clears, mem_map]
  constructor
  · rintro ⟨event, hm, hs⟩
    cases event with
    | sample => cases hs
    | reset emittedAt =>
      cases hs
      exact ⟨_, hm, rfl⟩
  · rintro ⟨emittedAt, hm, rfl⟩
    exact ⟨.reset _, hm, rfl⟩

theorem Unsampled.follows (unsampled : Unsampled session) : Follows host [] session := by
  refine ⟨⟨none, none⟩, ⟨?_, unsampled.shows, fun _ h => nomatch h⟩, tracks_empty⟩
  rw [unsampled.boundary]
  rfl

theorem Represents.timely_iff {cell : Cell Int Sample} (represents : Represents host session cell)
    (emittedAt : String) :
    InTime host events session (.reset emittedAt) ↔
      Timely (events.map (ContextEvent.signal host)) cell
        (.clear ((ContextEvent.reset emittedAt).stamp host)) := by
  have sampled := represents.sampled
  refine and_congr ?_ ?_
  · constructor
    · intro earlier _ hm
      obtain ⟨other, hi, rfl⟩ := mem_clears_signals.mp hm
      exact earlier _ hi
    · intro earlier other hi
      exact earlier _ (mem_clears_signals.mpr ⟨_, hi, rfl⟩)
  · constructor
    · intro earlier held is
      rw [is, Option.map_some, Option.map_some, Option.map_eq_some_iff] at sampled
      obtain ⟨hst, text, read⟩ := sampled
      exact earlier hst held.1 text read
    · intro earlier hst stamp text read
      rw [text, Option.map_some, read] at sampled
      cases is : cell.held with
      | none =>
        rw [is] at sampled
        cases sampled
      | some held =>
        rw [is] at sampled
        have hs : stamp = held.1 := Option.some.inj (Option.some.inj sampled)
        exact hs ▸ earlier held is

theorem Follows.step (follows : Follows host events session)
    (readable : Readable host event) (inTime : InTime host events session event) :
    Follows host (events ++ [event]) (applyEvent host config session event) := by
  obtain ⟨cell, represents, tracks⟩ := follows
  unfold Follows
  rw [map_append]
  cases event with
  | sample taken now =>
    have read := parse_of_readable readable
    cases hac : cell.accepts ((ContextEvent.sample taken now).stamp host) with
    | true =>
      obtain ⟨_, floors, after⟩ := represents.sample_accepted read hac now
      exact ⟨_, after, tracks.offer_accepted hac floors⟩
    | false =>
      refine ⟨_, ?_, tracks.offer_refused hac⟩
      rw [applyEvent, represents.sample_refused read hac]
      exact represents
  | reset =>
    have read := parse_of_readable readable
    exact ⟨_, Represents.reset read,
      tracks.clear_iff.mpr ((represents.timely_iff _).mp inTime)⟩

theorem applyEvents_append (start : ContextSession) (event : ContextEvent) :
    applyEvents host config start (events ++ [event]) =
      applyEvent host config (applyEvents host config start events) event := by
  rw [applyEvents, foldl_append]
  rfl

def AllInTime (host : ContextHost) (config : ContextMonitorConfig) (start : ContextSession)
    (events : List ContextEvent) : Prop :=
  ∀ earlier event later, events = earlier ++ event :: later →
    Readable host event ∧ InTime host earlier (applyEvents host config start earlier) event

theorem AllInTime.append
    (before : AllInTime host config start events) (readable : Readable host event)
    (inTime : InTime host events (applyEvents host config start events) event) :
    AllInTime host config start (events ++ [event]) := by
  intro _ _ later split
  rcases eq_nil_or_concat later with rfl | ⟨_, _, rfl⟩
  · have front := append_inj_left' split rfl
    have back := append_inj_right' split rfl
    cases front
    cases back
    exact ⟨readable, inTime⟩
  · rw [concat_eq_append, ← cons_append, ← append_assoc] at split
    exact before _ _ _ (append_inj_left' split rfl)

theorem follows_applyEvents (unsampled : Unsampled start)
    (inTime : AllInTime host config start events) :
    Follows host events (applyEvents host config start events) := by
  induction events using List.reverseRecOn with
  | nil => exact unsampled.follows
  | append_singleton earlier event ih =>
    have before : AllInTime host config start earlier := by
      intro _ _ later split
      refine inTime _ _ (later ++ [event]) ?_
      rw [split, append_assoc]
      rfl
    obtain ⟨readable, timely⟩ := inTime _ _ [] rfl
    rw [applyEvents_append]
    exact (ih before).step readable timely

section

variable (follows : Follows host events session)
include follows

theorem Follows.shows : Shows session (currentSample host events) := by
  obtain ⟨_, represents, tracks⟩ := follows
  unfold currentSample
  rw [← tracks.held]
  exact represents.shows

theorem Follows.resets_lt {sample : Sample} (readable : Readable host (.sample sample now))
    (taken : (applyContextUsageUpdate host config session sample.event now).outcome ≠
      .staleSample) (hm : .reset emittedAt ∈ events) :
    (ContextEvent.reset emittedAt).stamp host < (ContextEvent.sample sample now).stamp host := by
  obtain ⟨_, represents, tracks⟩ := follows
  have read := parse_of_readable readable
  rw [ne_eq, represents.stale_iff read, not_eq_false] at taken
  exact tracks.clears_lt taken _ (mem_clears_signals.mpr ⟨_, hm, rfl⟩)

/-- A reset that comes late discards a newer sample, or it lets in every sample from its own stamp
on, those before a later reset included. -/
theorem Follows.late_reset (readable : Readable host (.reset emittedAt))
    (late : ¬InTime host events session (.reset emittedAt)) :
    ¬Shows (applyEvent host config session (.reset emittedAt))
        (currentSample host (events ++ [.reset emittedAt])) ∨
      ∃ other, .reset other ∈ events ∧
        (ContextEvent.reset emittedAt).stamp host < (ContextEvent.reset other).stamp host ∧
        ∀ sample now, Readable host (.sample sample now) →
          (ContextEvent.reset emittedAt).stamp host < (ContextEvent.sample sample now).stamp host →
            (applyContextUsageUpdate host config
              (applyEvent host config session (.reset emittedAt)) sample.event now).outcome ≠
                .staleSample := by
  obtain ⟨_, represents, tracks⟩ := follows
  have readReset := parse_of_readable readable
  rw [represents.timely_iff, Timely, not_and_or] at late
  rcases late with older | newer
  · right
    simp only [not_forall, not_le] at older
    obtain ⟨_, hm, before⟩ := older
    obtain ⟨other, hi, rfl⟩ := mem_clears_signals.mp hm
    refine ⟨_, hi, before, ?_⟩
    intro sample now readSample after
    have empty : Represents host (applyEvent host config session (.reset emittedAt))
        ⟨some ((ContextEvent.reset emittedAt).stamp host), none⟩ := Represents.reset readReset
    have read := parse_of_readable readSample
    rw [ne_eq, empty.stale_iff read, not_eq_false, accepts_eq_true]
    exact ⟨fun _ is => Option.some.inj is ▸ after, fun _ h => nomatch h⟩
  · left
    simp only [not_forall, not_le] at newer
    obtain ⟨held, is, after⟩ := newer
    have kept : currentSample host (events ++ [.reset emittedAt]) = some held.2 := by
      unfold currentSample
      rw [map_append, map_singleton, ContextEvent.signal, current_append_clear,
        ← tracks.held, is, Option.filter_some, if_pos (decide_eq_true after)]
      rfl
    rw [kept]
    rintro ⟨h, -⟩
    cases h

end

/-- Where every reset comes in time, the snapshot is the newest sample if no reset is later, and no
sample from before a reset is taken after it. A reset that does not come in time breaks one of the
two. -/
theorem snapshot_follows_emission (host : ContextHost) (config : ContextMonitorConfig)
    {start : ContextSession} (unsampled : Unsampled start) {events : List ContextEvent}
    (inTime : AllInTime host config start events) :
    Shows (applyEvents host config start events) (currentSample host events) ∧
      (∀ sample now, Readable host (.sample sample now) →
        (applyContextUsageUpdate host config (applyEvents host config start events) sample.event
          now).outcome ≠ .staleSample →
        ∀ emittedAt, .reset emittedAt ∈ events →
          (ContextEvent.reset emittedAt).stamp host < (ContextEvent.sample sample now).stamp host) ∧
      ∀ emittedAt, Readable host (.reset emittedAt) →
        ¬InTime host events (applyEvents host config start events) (.reset emittedAt) →
        ¬Shows (applyEvents host config start (events ++ [.reset emittedAt]))
            (currentSample host (events ++ [.reset emittedAt])) ∨
          ∃ other, .reset other ∈ events ∧
            (ContextEvent.reset emittedAt).stamp host < (ContextEvent.reset other).stamp host ∧
            ∀ sample now, Readable host (.sample sample now) →
              (ContextEvent.reset emittedAt).stamp host <
                (ContextEvent.sample sample now).stamp host →
              (applyContextUsageUpdate host config
                (applyEvents host config start (events ++ [.reset emittedAt])) sample.event
                  now).outcome ≠ .staleSample := by
  have follows := follows_applyEvents unsampled inTime
  refine ⟨follows.shows, ?_, ?_⟩
  · intro sample now readable taken emittedAt member
    exact follows.resets_lt readable taken member
  · intro emittedAt readable late
    rw [applyEvents_append]
    exact follows.late_reset readable late

/-- Stamps of a January, and whole percentages. -/
def januaryStamps : ContextHost where
  readStamp := Usage.januaryHost.parseRfc3339
  formatPercentage := fun percentage => toString percentage.floor

def stamp (second : String) : String := "2026-01-01T00:00:0" ++ second ++ "Z"

def twoMilestones : ContextMonitorConfig := ⟨[], 50, 80⟩

def idleSession : ContextSession where
  id := "seat"
  friendlyName := none
  name := none
  provider := some "claude"
  contextMonitorEnabled := false
  contextMonitorNotify := none
  contextMonitorNotifySource := "explicit"
  contextMonitorThresholdPercentages := none
  contextMonitorWarningPercentage := none
  contextMonitorCriticalPercentage := none
  contextWarningSent := false
  contextCriticalSent := false
  contextReportedThresholds := none
  contextCycleResetEmittedAt := none
  contextCompactionActive := false
  tokensUsed := none
  contextUsedPercentage := none
  contextTotalInputTokens := none
  contextSampledAt := none
  agentStatusText := none
  agentStatusAt := none
  agentTaskCompletedAt := none

/-- A sample of the second moment comes after a reset of the first, and one of the third before it. -/
theorem snapshot_follows_emission_of_samples :
    (applyEvents januaryStamps twoMilestones idleSession
      [.reset (stamp "1"), .sample ⟨stamp "3", 30, none⟩ "", .sample ⟨stamp "2", 20, none⟩ ""]
        ).contextUsedPercentage = some 30 := by
  have inTime : AllInTime januaryStamps twoMilestones idleSession
      [.reset (stamp "1"), .sample ⟨stamp "3", 30, none⟩ "", .sample ⟨stamp "2", 20, none⟩ ""] := by
    have none_yet : AllInTime januaryStamps twoMilestones idleSession [] := by
      intro earlier event later split
      exact absurd split.symm (append_ne_nil_of_right_ne_nil _ (cons_ne_nil _ _))
    have first : InTime januaryStamps [] (applyEvents januaryStamps twoMilestones idleSession [])
        (.reset (stamp "1")) :=
      ⟨(fun _ member => nomatch member), fun _ _ impossible => nomatch impossible⟩
    have reads : ∀ event ∈ [ContextEvent.reset (stamp "1"), .sample ⟨stamp "3", 30, none⟩ "",
        .sample ⟨stamp "2", 20, none⟩ ""], Readable januaryStamps event := by
      unfold Readable
      decide +kernel
    have one : AllInTime januaryStamps twoMilestones idleSession [.reset (stamp "1")] :=
      none_yet.append (reads _ (by simp)) first
    have two : AllInTime januaryStamps twoMilestones idleSession
        [.reset (stamp "1"), .sample ⟨stamp "3", 30, none⟩ ""] :=
      one.append (reads _ (by simp)) trivial
    exact two.append (reads _ (by simp)) trivial
  have shows := (snapshot_follows_emission januaryStamps twoMilestones ⟨rfl, rfl, rfl, rfl⟩ inTime).1
  exact shows.1

/-- A reset of the first moment that comes after a sample of the second discards it; and one that
comes after a reset of the third lets a sample of the second in. -/
theorem late_resets_break_snapshot :
    (currentSample januaryStamps [.sample ⟨stamp "2", 20, none⟩ "", .reset (stamp "1")] = some ⟨stamp "2", 20, none⟩ ∧
      (applyEvents januaryStamps twoMilestones idleSession
        [.sample ⟨stamp "2", 20, none⟩ "", .reset (stamp "1")]).contextUsedPercentage = none) ∧
      currentSample januaryStamps [.reset (stamp "3"), .reset (stamp "1"), .sample ⟨stamp "2", 20, none⟩ ""] = none ∧
      (applyEvents januaryStamps twoMilestones idleSession
        [.reset (stamp "3"), .reset (stamp "1"), .sample ⟨stamp "2", 20, none⟩ ""]).contextUsedPercentage =
          some 20 := by
  decide +kernel

end

end SessionManager.Context
