import SessionManager.Foundation.Fallible
import SessionManager.Foundation.Selection
import SessionManager.Foundation.Timeline
import SessionManager.Usage.Calendar
import SessionManager.Usage.Identity

/-! Runs of identity calls, for both providers in any order. As long as observations of a provider
come in order of their instants, and nothing is bootstrapped for a provider whose first observation
found nobody, the stored intervals are a chart of the observations. -/
namespace SessionManager.Usage
open Foundation Foundation.Latest Foundation.Timeline List Fallible Function

section

inductive IdentityCall
  | recordObservation (provider : Provider) (identity : Option AccountIdentity) (observedAt : Int)
      (previousPollAt bootstrapFrom : Option Int)
  | ensureBootstrapInterval (provider : Provider) (earliestMessageAt : Int)

namespace IdentityCall

def provider : IdentityCall → Provider
  | recordObservation provider _ _ _ _ => provider
  | ensureBootstrapInterval provider _ => provider

def run (host : Host) (store : IdentityStore) : IdentityCall → Except String IdentityStore
  | recordObservation provider identity observedAt previousPollAt bootstrapFrom =>
    (store.recordObservation host provider identity observedAt previousPollAt bootstrapFrom).map
      Prod.fst
  | ensureBootstrapInterval provider earliestMessageAt =>
    (store.ensureBootstrapInterval host provider earliestMessageAt).map Prod.fst

def readings : IdentityCall → List (Reading Int String)
  | recordObservation _ identity observedAt _ _ =>
    [⟨observedAt, identity.map AccountIdentity.accountKey⟩]
  | ensureBootstrapInterval _ _ => []

def instants : IdentityCall → List Int
  | recordObservation _ _ observedAt _ bootstrapFrom => observedAt :: bootstrapFrom.toList
  | ensureBootstrapInterval _ earliestMessageAt => [earliestMessageAt]

def bootstraps : IdentityCall → Bool
  | recordObservation _ _ _ _ bootstrapFrom => bootstrapFrom.isSome
  | ensureBootstrapInterval _ _ => true

end IdentityCall

/-- The store, and for each provider its successful observations so far. -/
structure Identified where
  store : IdentityStore
  observed : Provider → List (Reading Int String)

def Identified.empty : Identified := ⟨.empty, fun _ => []⟩

def Identified.apply (host : Host) (state : Identified) (call : IdentityCall) : Identified :=
  match call.run host state.store with
  | .ok store =>
    ⟨store, Function.update state.observed call.provider
      (state.observed call.provider ++ call.readings)⟩
  | .error _ => state

/-- A call whose instants lie in the era, whose observation is not before an earlier one of the
provider, and that bootstraps only when the provider's first observation found an account. -/
structure InOrder (era : Int → Prop) (state : Identified) (call : IdentityCall) : Prop where
  dated : ∀ instant ∈ call.instants, era instant
  newest : ∀ reading ∈ call.readings, ∀ earlier ∈ state.observed call.provider,
    earlier.moment ≤ reading.moment
  found : call.bootstraps → ∀ first, (state.observed call.provider).head? = some first →
    first.holder.isSome

def InOrderRun (host : Host) (era : Int → Prop) (state : Identified) : List IdentityCall → Prop
  | [] => True
  | call :: rest => InOrder era state call ∧ InOrderRun host era (state.apply host call) rest

def IdentityRow.stretch (row : IdentityRow) : Stretch String String :=
  ⟨row.fromTs, row.toTs, row.accountKey, row.isAssumed⟩

structure TimelineSound (host : Host) (era : Int → Prop) (state : Identified)
    (provider : Provider) : Prop where
  disjoint : (state.store.rows provider).Pairwise fun first second =>
    ∀ text, ¬(first.stretch.covers text ∧ second.stretch.covers text)
  oneOpen : ((state.store.rows provider).filter fun row => row.toTs.isNone).length ≤ 1
  oneAssumed : ((state.store.rows provider).filter IdentityRow.isAssumed).length ≤ 1
  assumedStop : ∀ row ∈ state.store.rows provider, row.isAssumed →
    ∃ first ∈ state.store.rows provider, first.isAssumed = false ∧
      (∀ other ∈ state.store.rows provider, other.isAssumed = false →
        first.fromTs ≤ other.fromTs) ∧
      row.toTs = some first.fromTs
  lookup : ∀ instant, era instant → ∃ attribution,
    state.store.accountAt host provider instant = .ok attribution ∧
      attribution.map TimelineAttribution.accountKey =
        match latest Reading.moment (state.observed provider) instant with
        | some reading => reading.holder
        | none => ((state.store.rows provider).find? fun row =>
          row.isAssumed && row.stretch.covers (host.formatTimestamp instant)).map
            fun row => row.accountKey

end

variable {row : IdentityRow} {text : String} {reading : Reading Int String} {changed : Bool}
  (store : IdentityStore) (provider : Provider)

section

variable {host : Host} {era : Int → Prop} {store after : IdentityStore} {provider : Provider}

theorem asStr_inj {first second : Provider} (hs : first.asStr = second.asStr) : first = second := by
  cases first <;> cases second <;> first | rfl | exact absurd hs (by decide)

def IdentityStore.stretches (store : IdentityStore) (provider : Provider) :
    List (Stretch String String) :=
  (store.rows provider).map IdentityRow.stretch

theorem stretches_congr (hs : after.timeline = store.timeline) (provider : Provider) :
    after.stretches provider = store.stretches provider := by
  unfold IdentityStore.stretches IdentityStore.rows
  rw [hs]

theorem stretches_append {opened : List IdentityRow}
    (timeline : after.timeline = store.timeline ++ opened)
    (owned : ∀ row ∈ opened, row.provider = provider.asStr) (other : Provider) :
    after.stretches other = store.stretches other ++
      if other = provider then opened.map IdentityRow.stretch else [] := by
  unfold IdentityStore.stretches IdentityStore.rows
  rw [timeline, filter_append, map_append]
  congr 1
  split
  · rename_i hs
    rw [filter_eq_self.mpr fun row hm => by simp [owned row hm, hs]]
  rename_i hne
  rw [filter_eq_nil_iff.mpr, map_nil]
  intro row hm
  rw [owned row hm, decide_eq_true_eq]
  exact fun hs => hne (asStr_inj hs).symm

theorem stretches_map {change : IdentityRow → IdentityRow}
    {moved : Stretch String String → Stretch String String}
    (timeline : after.timeline = store.timeline.map change)
    (owner : ∀ row, (change row).provider = row.provider)
    (effect : ∀ row, (change row).stretch =
      if row.provider = provider.asStr then moved row.stretch else row.stretch) (other : Provider) :
    after.stretches other = if other = provider then (store.stretches other).map moved
      else store.stretches other := by
  unfold IdentityStore.stretches IdentityStore.rows
  rw [timeline, filter_map, map_map]
  have kept : (fun row => decide (row.provider = other.asStr)) ∘ change =
      fun row => decide (row.provider = other.asStr) := by
    funext row
    simp [owner row]
  rw [kept]
  split
  · rename_i hs
    rw [map_map]
    refine map_congr_left fun row hm => ?_
    have owned : row.provider = provider.asStr := by
      simpa [hs] using (mem_filter.mp hm).2
    rw [comp_apply, effect, if_pos owned, comp_apply]
  · rename_i hne
    refine map_congr_left fun row hm => ?_
    have owned : row.provider = other.asStr := by simpa using (mem_filter.mp hm).2
    rw [comp_apply, effect, if_neg]
    rw [owned]
    exact fun hs => hne (asStr_inj hs)

theorem stretches_close (text : String) (other : Provider) :
    (store.closeCurrent provider text).stretches other = if other = provider
      then (store.stretches other).map (Stretch.close text) else store.stretches other := by
  refine stretches_map rfl ?_ ?_ _
  · intro row
    split <;> rfl
  · intro row
    by_cases owned : row.provider = provider.asStr
    · cases held : row.toTs <;> simp [owned, held, IdentityRow.stretch, Stretch.close]
    · simp [owned]

theorem insertTimelineRow_ok (hd : store.insertTimelineRow row = .ok after) :
    after.accounts = store.accounts ∧ after.timeline = store.timeline ++ [row] ∧
      (store.accounts row.accountKey).isSome := by
  unfold IdentityStore.insertTimelineRow at hd
  split at hd
  · cases hd
  split at hd
  · cases hd
  obtain ⟨hk, hd⟩ := guard_ok.mp hd
  cases hd
  refine ⟨rfl, rfl, ?_⟩
  cases held : store.accounts row.accountKey with
  | none => simp [held] at hk
  | some => rfl

theorem currentAccount_holds {key seen : String}
    (current : store.currentAccount provider = some (key, seen)) :
    Holds (store.stretches provider) key := by
  obtain ⟨⟨_, _⟩, first, rfl⟩ := Option.map_eq_some_iff.mp current
  obtain ⟨row, hm, joined⟩ := mem_filterMap.mp (Selection.mem_of_first first)
  split at joined
  · rename_i endless
    obtain ⟨_, _, hs⟩ := Option.map_eq_some_iff.mp joined
    cases hs
    exact ⟨row.stretch, mem_map_of_mem hm, Option.isNone_iff_eq_none.mp endless, rfl⟩
  · cases joined

theorem currentAccount_none (hk : ∀ row ∈ store.timeline, (store.accounts row.accountKey).isSome)
    (current : store.currentAccount provider = none) (key : String) :
    ¬Holds (store.stretches provider) key := by
  rintro ⟨_, hm, endless, _⟩
  obtain ⟨row, isRow, rfl⟩ := mem_map.mp hm
  have empty := Selection.eq_nil_of_first (Option.map_eq_none_iff.mp current)
  obtain ⟨_, held⟩ :=
    Option.isSome_iff_exists.mp (hk row (mem_of_mem_filter isRow))
  have open_ : row.toTs = none := endless
  have hli := filterMap_eq_nil_iff.mp empty row isRow
  simp [open_, held] at hli

theorem closeCurrent_idle (idle : ∀ key, ¬Holds (store.stretches provider) key) (text : String) :
    (store.closeCurrent provider text).timeline = store.timeline := by
  have hs : ∀ row ∈ store.timeline, (if row.provider = provider.asStr && row.toTs.isNone
      then { row with toTs := some text } else row) = row := by
    intro row hm
    refine if_neg fun current => ?_
    obtain ⟨owned, endless⟩ := Bool.and_eq_true_iff.mp current
    exact idle row.accountKey ⟨row.stretch, mem_map_of_mem (mem_filter.mpr ⟨hm, owned⟩),
      Option.isNone_iff_eq_none.mp endless, rfl⟩
  exact (map_congr_left hs).trans (map_id _)

end

section

variable {host : Host} {store after : IdentityStore} {provider : Provider}

def Grows (store after : IdentityStore) : Prop :=
  ∀ key, (store.accounts key).isSome → (after.accounts key).isSome

variable (identity : AccountIdentity)

theorem upsertAccount_grows (text : String) : Grows store (store.upsertAccount identity text) := by
  intro key held
  by_cases hs : key = identity.accountKey
  · rw [hs]
    simp [IdentityStore.upsertAccount]
  · simpa [IdentityStore.upsertAccount, hs] using held

/-- An observation confirms who holds the open interval, or ends it and opens the next one. -/
inductive Observes (store : IdentityStore) (provider : Provider) (account : Option String)
    (text : String) (after : IdentityStore) : Prop
  | kept (timeline : after.timeline = store.timeline)
      (same : ∀ key, account = some key ↔ Holds (store.stretches provider) key)
  | moved (opened : List IdentityRow)
      (timeline : after.timeline = (store.closeCurrent provider text).timeline ++ opened)
      (stretches : opened.map IdentityRow.stretch =
        account.toList.map fun key => ⟨text, none, key, false⟩)
      (owned : ∀ row ∈ opened, row.provider = provider.asStr)
      (known : ∀ row ∈ opened, (after.accounts row.accountKey).isSome)

variable {identity : Option AccountIdentity} {observedAt : Int} {previousPollAt : Option Int}
  {outcome : ObservationOutcome}

theorem Observes.open {opened : IdentityStore} {seen : AccountIdentity} {uncertaintyMs : Int}
    (timeline : opened.timeline = (store.closeCurrent provider text).timeline)
    (hd : opened.insertTimelineRow
      (IdentityStore.observedRow provider seen text uncertaintyMs) = .ok after) :
    Observes store provider (some seen.accountKey) text after := by
  obtain ⟨accounts, inserted, hk⟩ := insertTimelineRow_ok hd
  refine .moved [IdentityStore.observedRow _ _ _ _]
    (by rw [inserted, timeline]) rfl ?_ ?_
  · intro row hm
    rw [mem_singleton.mp hm]
    rfl
  · intro row hm
    rw [mem_singleton.mp hm, accounts]
    exact hk

theorem observe_ok (hk : ∀ row ∈ store.timeline, (store.accounts row.accountKey).isSome)
    (unique : ∀ key other, Holds (store.stretches provider) key →
      Holds (store.stretches provider) other → key = other)
    (hd : store.observe host provider identity observedAt previousPollAt = .ok (after, outcome)) :
    Grows store after ∧ Observes store provider (identity.map AccountIdentity.accountKey)
      (host.formatTimestamp observedAt) after := by
  unfold IdentityStore.observe at hd
  split at hd
  · -- logged out
    cases hd
    exact ⟨fun _ held => held, .moved [] (append_nil _).symm rfl nofun nofun⟩
  · -- still logged out
    rename_i current
    cases hd
    refine ⟨fun _ held => held, .kept rfl fun key => ⟨nofun, fun holds => ?_⟩⟩
    exact absurd holds (currentAccount_none hk current key)
  · rename_i currentKey lastSeen seen current
    have holds := currentAccount_holds current
    split at hd
    · -- the same account
      rename_i hs
      cases hd
      refine ⟨upsertAccount_grows _ _, .kept rfl fun key => ?_⟩
      rw [Option.map_some, Option.some.injEq, ← hs]
      exact ⟨fun isKey => isKey ▸ holds, fun also => unique _ _ holds also⟩
    · -- another account
      obtain ⟨_, _, hd⟩ := bind_eq_ok.mp hd
      obtain ⟨opened, inserts, hd⟩ := bind_eq_ok.mp hd
      cases hd
      have closed : ((store.upsertAccount seen (host.formatTimestamp observedAt)).closeCurrent
          provider (host.formatTimestamp observedAt)).timeline =
            (store.closeCurrent provider (host.formatTimestamp observedAt)).timeline := rfl
      refine ⟨?_, .open closed inserts⟩
      intro key held
      rw [(insertTimelineRow_ok inserts).1]
      exact upsertAccount_grows _ _ key held
  · -- an account after none
    rename_i seen current
    obtain ⟨opened, inserts, hd⟩ := bind_eq_ok.mp hd
    cases hd
    have idle : (store.upsertAccount seen (host.formatTimestamp observedAt)).timeline =
        (store.closeCurrent provider (host.formatTimestamp observedAt)).timeline :=
      (closeCurrent_idle (currentAccount_none hk current) _).symm
    refine ⟨?_, .open idle inserts⟩
    intro key held
    rw [(insertTimelineRow_ok inserts).1]
    exact upsertAccount_grows _ _ key held

end

section

variable {host : Host} {store after : IdentityStore} {provider : Provider} {earliest : Int}

/-- What a bootstrap did: nothing, or, before the first observed interval, a new assumed interval or
an earlier start of the one there is. -/
inductive Bootstraps (host : Host) (store : IdentityStore) (provider : Provider) (earliest : Int)
    (after : IdentityStore) : Prop
  | same (isSame : after = store)
  | inserted (first : IdentityRow) (firstAt : Int)
      (isFirst : first ∈ store.rows provider ∧ IsFirst (store.stretches provider) first.stretch)
      (parsed : IdentityStore.parseTimestamp host first.fromTs = .ok firstAt)
      (early : earliest < firstAt)
      (none : ∀ row ∈ store.rows provider, row.isAssumed → row.toTs ≠ some first.fromTs)
      (inserts : store.insertTimelineRow ⟨⟨provider.asStr, first.accountKey,
        host.formatTimestamp earliest, some first.fromTs⟩, 0, true⟩ = .ok after)
  | moved (first : IdentityRow) (firstAt : Int) (held : IdentityRow)
      (isFirst : first ∈ store.rows provider ∧ IsFirst (store.stretches provider) first.stretch)
      (parsed : IdentityStore.parseTimestamp host first.fromTs = .ok firstAt)
      (early : earliest < firstAt) (isHeld : held ∈ store.rows provider)
      (assumed : held.isAssumed) (earlier : host.formatTimestamp earliest < held.fromTs)
      (moves : store.moveStart provider held.fromTs (host.formatTimestamp earliest) = .ok after)

theorem ensureBootstrapIntervalTx_ok
    (hd : store.ensureBootstrapIntervalTx host provider earliest = .ok (after, changed)) :
    Bootstraps host store provider earliest after := by
  unfold IdentityStore.ensureBootstrapIntervalTx at hd
  simp only at hd
  split at hd
  · cases hd
    exact .same rfl
  rename_i first isFirst
  obtain ⟨hm, observed⟩ := mem_filter.mp (Selection.mem_of_first isFirst)
  have least : IsFirst (store.stretches provider) first.stretch := by
    have seen : first.isAssumed = false := by simpa using observed
    refine ⟨mem_map_of_mem hm, seen, ?_⟩
    intro _ isOther otherSeen
    obtain ⟨other, isRow, rfl⟩ := mem_map.mp isOther
    refine Selection.least_of_first (fun row : IdentityRow => row.fromTs) isFirst _ ?_
    exact mem_filter.mpr ⟨isRow, by rw [show other.isAssumed = false from otherSeen]; rfl⟩
  obtain ⟨_, parsed, hd⟩ := bind_eq_ok.mp hd
  split at hd
  · cases hd
    exact .same rfl
  rename_i early
  split at hd
  · rename_i held isHeld
    obtain ⟨heldMember, heldKind⟩ := mem_filter.mp (Selection.mem_of_first isHeld)
    split at hd
    · rename_i earlier
      obtain ⟨_, moves, hd⟩ := bind_eq_ok.mp hd
      cases hd
      exact .moved _ _ held ⟨hm, least⟩ parsed (not_le.mp early) heldMember
        (Bool.and_eq_true_iff.mp heldKind).1 earlier moves
    · cases hd
      exact .same rfl
  · rename_i hab
    obtain ⟨_, inserts, hd⟩ := bind_eq_ok.mp hd
    cases hd
    refine .inserted _ _ ⟨hm, least⟩ parsed (not_le.mp early) ?_ inserts
    intro row isRow assumed stops
    have hli := filter_eq_nil_iff.mp (Selection.eq_nil_of_first hab) row isRow
    exact hli (by simp [assumed, stops])

end

section

variable {host : Host} {era : Int → Prop} {state : Identified} {provider : Provider}

def textual (host : Host) (readings : List (Reading Int String)) : List (Reading String String) :=
  readings.map fun reading => ⟨host.formatTimestamp reading.moment, reading.holder⟩

def IdentityRow.Written (host : Host) (era : Int → Prop) (row : IdentityRow) : Prop :=
  (∃ start, era start ∧ row.fromTs = host.formatTimestamp start) ∧
    ∀ text, row.toTs = some text → ∃ stop, era stop ∧ text = host.formatTimestamp stop

structure Recorded (host : Host) (era : Int → Prop) (state : Identified) : Prop where
  dated : ∀ provider, ∀ reading ∈ state.observed provider, era reading.moment
  written : ∀ row ∈ state.store.timeline, row.Written host era
  known : ∀ row ∈ state.store.timeline, (state.store.accounts row.accountKey).isSome
  charts : ∀ provider,
    Charts (state.store.stretches provider) (textual host (state.observed provider))

theorem recorded_empty : Recorded host era .empty where
  dated := nofun
  written := nofun
  known := nofun
  charts := fun _ => charts_nil

theorem Dated.lt_iff (dated : Dated host era) {first second : Int} (isFirst : era first)
    (isSecond : era second) :
    host.formatTimestamp first < host.formatTimestamp second ↔ first < second := by
  rw [← not_le, ← not_le, dated.order _ _ isSecond isFirst]

theorem textual_newest (dated : Dated host era) {readings : List (Reading Int String)}
    (hi : ∀ reading ∈ readings, era reading.moment)
    (isInside : era reading.moment)
    (newest : ∀ earlier ∈ readings, earlier.moment ≤ reading.moment) :
    ∀ earlier ∈ textual host readings, earlier.moment ≤ host.formatTimestamp reading.moment := by
  intro _ hm
  obtain ⟨earlier, isEarlier, rfl⟩ := mem_map.mp hm
  exact (dated.order _ _ (hi _ isEarlier) isInside).mpr (newest _ isEarlier)

theorem mem_closeCurrent {store : IdentityStore}
    (hm : row ∈ (store.closeCurrent provider text).timeline) :
    ∃ old ∈ store.timeline, row.fromTs = old.fromTs ∧ row.accountKey = old.accountKey ∧
      (row.toTs = old.toTs ∨ row.toTs = some text) := by
  obtain ⟨old, isRow, rfl⟩ := mem_map.mp hm
  refine ⟨old, isRow, ?_⟩
  split
  · exact ⟨rfl, rfl, .inr rfl⟩
  · exact ⟨rfl, rfl, .inl rfl⟩

variable {store after : IdentityStore} {after : IdentityStore} {observedAt : Int}
  {identity : Option AccountIdentity} {outcome : ObservationOutcome}

theorem Observes.rows {account : Option String}
    (observes : Observes store provider account (host.formatTimestamp observedAt) after)
    (grows : Grows store after) (hi : era observedAt)
    (hw : ∀ row ∈ store.timeline, row.Written host era)
    (hk : ∀ row ∈ store.timeline, (store.accounts row.accountKey).isSome) :
    ∀ row ∈ after.timeline, row.Written host era ∧ (after.accounts row.accountKey).isSome := by
  cases observes with
  | kept timeline =>
    rw [timeline]
    exact fun row hm => ⟨hw row hm, grows _ (hk row hm)⟩
  | moved opened timeline stretches _ openedKnown =>
    rw [timeline]
    intro row hm
    rcases mem_append.mp hm with closed | isNew
    · obtain ⟨old, isOld, starts, account, stops⟩ := mem_closeCurrent closed
      refine ⟨⟨starts ▸ (hw old isOld).1, ?_⟩, account ▸ grows _ (hk old isOld)⟩
      intro text stop
      rcases stops with hs | now
      · exact (hw old isOld).2 _ (hs ▸ stop)
      · rw [now] at stop
        cases stop
        exact ⟨_, hi, rfl⟩
    · have hli : row.stretch ∈ opened.map IdentityRow.stretch := mem_map_of_mem isNew
      rw [stretches] at hli
      obtain ⟨_, _, hs⟩ := mem_map.mp hli
      obtain ⟨starts, stops, _⟩ := Stretch.mk.inj hs
      refine ⟨⟨⟨_, hi, starts.symm⟩, ?_⟩, openedKnown row isNew⟩
      intro text stop
      cases stops.trans stop

theorem Recorded.observe (recorded : Recorded host era state) (dated : Dated host era)
    {previousPollAt : Option Int}
    (hi : era observedAt)
    (newest : ∀ earlier ∈ state.observed provider, earlier.moment ≤ observedAt)
    (hd : state.store.observe host provider identity observedAt previousPollAt =
      .ok (after, outcome)) :
    Recorded host era ⟨after, Function.update state.observed provider
      (state.observed provider ++ [⟨observedAt, identity.map AccountIdentity.accountKey⟩])⟩ := by
  obtain ⟨grows, observes⟩ := observe_ok recorded.known
    (fun key _ => (recorded.charts _).holds_unique) hd
  have rows := observes.rows grows hi recorded.written recorded.known
  refine ⟨?_, fun row hm => (rows row hm).1, fun row hm => (rows row hm).2, ?_⟩
  · intro other _ hm
    by_cases hs : other = provider
    · simp only [hs, update_self, mem_append, mem_singleton] at hm
      rcases hm with earlier | rfl
      · exact recorded.dated _ _ earlier
      · exact hi
    · simp only [update_of_ne hs] at hm
      exact recorded.dated _ _ hm
  · intro other
    have hch := recorded.charts other
    by_cases hs : other = provider
    · subst hs
      have late := textual_newest dated (recorded.dated _)
        (show era (Reading.moment ⟨_, identity.map AccountIdentity.accountKey⟩)
          from hi) newest
      simp only [update_self]
      rw [textual, map_append]
      cases observes with
      | kept timeline current =>
        rw [stretches_congr timeline]
        exact hch.keep late current
      | moved _ timeline stretches owned =>
        rw [stretches_append timeline owned, stretches_close, if_pos rfl, if_pos rfl, stretches]
        show Charts (Timeline.moved _ ⟨host.formatTimestamp observedAt,
          identity.map AccountIdentity.accountKey⟩) _
        exact hch.move late
    · simp only [update_of_ne hs]
      cases observes with
      | kept timeline =>
        rw [stretches_congr timeline]
        exact hch
      | moved _ timeline _ owned =>
        rw [stretches_append timeline owned, stretches_close, if_neg hs, if_neg hs, append_nil]
        exact hch

section

variable {former start : String} (hd : store.moveStart provider former start = .ok after)
include hd

theorem moveStart_ok :
    after.accounts = store.accounts ∧ after.timeline = store.timeline.map fun row =>
      if row.provider = provider.asStr && row.fromTs = former then { row with fromTs := start }
      else row := by
  unfold IdentityStore.moveStart at hd
  split at hd
  · cases hd
  · cases hd
    exact ⟨rfl, rfl⟩

theorem stretches_moveStart (other : Provider) : after.stretches other = if other = provider
      then (store.stretches other).map (reach former start) else store.stretches other := by
  refine stretches_map (moveStart_ok hd).2 ?_ ?_ _
  · intro row
    split <;> rfl
  · intro row
    by_cases owned : row.provider = provider.asStr
    · by_cases hs : row.fromTs = former <;> simp [owned, hs, IdentityRow.stretch, reach]
    · simp [owned]

end

theorem Recorded.assume (recorded : Recorded host era state)
    (accounts : after.accounts = state.store.accounts)
    (rows : ∀ row ∈ after.timeline,
      row.Written host era ∧ (state.store.accounts row.accountKey).isSome)
    (hch : ∀ other, Charts (after.stretches other) (textual host (state.observed other))) :
    Recorded host era { state with store := after } :=
  ⟨recorded.dated, fun row hm => (rows row hm).1,
    fun row hm => by rw [accounts]; exact (rows row hm).2, hch⟩

/-- A stored start that parses to a later instant is a later text. -/
theorem Dated.text_lt (dated : Dated host era) (recorded : Recorded host era state)
    (hm : row ∈ state.store.timeline) {start earliest : Int}
    (parsed : IdentityStore.parseTimestamp host row.fromTs = .ok start) (hi : era earliest)
    (early : earliest < start) : host.formatTimestamp earliest < row.fromTs := by
  obtain ⟨hw, isInside, text⟩ := (recorded.written row hm).1
  rw [IdentityStore.parseTimestamp, text, dated.parse hw isInside] at parsed
  cases parsed
  rw [text]
  exact (dated.lt_iff hi isInside).mpr early

theorem Recorded.bootstrap (recorded : Recorded host era state) (dated : Dated host era)
    {earliest : Int} (hi : era earliest)
    (hf : state.store.stretches provider ≠ [] →
      ∀ first, (state.observed provider).head? = some first → first.holder.isSome)
    (hd : state.store.ensureBootstrapIntervalTx host provider earliest = .ok (after, changed)) :
    Recorded host era { state with store := after } := by
  have hch := recorded.charts provider
  have before {first : Stretch String String} (isFirst : IsFirst (state.store.stretches provider)
      first) : ∀ reading ∈ textual host (state.observed provider),
        first.start ≤ reading.moment := by
    refine hch.first_le isFirst ?_
    intro _ isHead
    rw [textual, head?_map] at isHead
    obtain ⟨_, isHead, rfl⟩ := Option.map_eq_some_iff.mp isHead
    exact hf (ne_nil_of_mem isFirst.mem) _ ‹_›
  have hfm (row : IdentityRow) (hm : row ∈ state.store.timeline) :=
    And.intro (recorded.written row hm) (recorded.known row hm)
  cases ensureBootstrapIntervalTx_ok hd with
  | same isSame =>
    rw [isSame]
    exact recorded
  | inserted first _ isFirst parsed early none inserts =>
    obtain ⟨accounts, timeline, hk⟩ := insertTimelineRow_ok inserts
    have isRow := mem_of_mem_filter isFirst.1
    refine recorded.assume accounts ?_ ?_
    · rw [timeline]
      intro row hm
      rcases mem_append.mp hm with old | isNew
      · exact hfm row old
      · rw [mem_singleton.mp isNew]
        refine ⟨⟨⟨_, hi, rfl⟩, ?_⟩, hk⟩
        intro _ stop
        cases stop
        exact (recorded.written _ isRow).1
    · intro other
      rw [stretches_append timeline fun row hm => by rw [mem_singleton.mp hm]]
      split
      · rename_i hs
        rw [hs]
        refine hch.insert_assumed isFirst.2 (before isFirst.2) ?_ ?_
        · intro _ hm
          obtain ⟨row, isOld, rfl⟩ := mem_map.mp hm
          refine Bool.eq_false_iff.mpr fun assumed => none row isOld assumed ?_
          exact (hch.assumed_stop isFirst.2 (mem_map_of_mem isOld) assumed).1
        · exact dated.text_lt recorded isRow parsed hi early
      · rw [append_nil]
        exact recorded.charts _
  | moved _ _ _ isFirst _ _ isHeld assumed earlier moves =>
    obtain ⟨accounts, timeline⟩ := moveStart_ok moves
    refine recorded.assume accounts ?_ ?_
    · rw [timeline]
      intro row hm
      obtain ⟨old, isOld, rfl⟩ := mem_map.mp hm
      split
      · exact ⟨⟨⟨_, hi, rfl⟩, (recorded.written old isOld).2⟩, recorded.known old isOld⟩
      · exact hfm old isOld
    · intro other
      rw [stretches_moveStart moves]
      split
      · rename_i hs
        rw [hs]
        exact hch.extend_assumed isFirst.2 (before isFirst.2)
          (mem_map_of_mem isHeld) assumed earlier
      · exact recorded.charts _

theorem Observes.stretches_nil (observes : Observes store provider none text after)
    (empty : store.stretches provider = []) : after.stretches provider = [] := by
  cases observes with
  | kept timeline => rw [stretches_congr timeline, empty]
  | moved _ timeline stretches owned =>
    rw [stretches_append timeline owned, stretches_close, stretches, empty]
    simp

section

variable (recorded : Recorded host era state) (dated : Dated host era)
include recorded dated

theorem Recorded.recordObservation {previousPollAt bootstrapFrom : Option Int}
    (inOrder : InOrder era state
      (.recordObservation provider identity observedAt previousPollAt bootstrapFrom))
    (hd : state.store.recordObservation host provider identity observedAt previousPollAt
      bootstrapFrom = .ok (after, outcome)) :
    Recorded host era ⟨after, Function.update state.observed provider
      (state.observed provider ++ [⟨observedAt, identity.map AccountIdentity.accountKey⟩])⟩ := by
  obtain ⟨_, _, hd⟩ := bind_eq_ok.mp hd
  obtain ⟨⟨_, _⟩, observes, hd⟩ := bind_eq_ok.mp hd
  have hi : era observedAt := inOrder.dated _ mem_cons_self
  have newest : ∀ earlier ∈ state.observed provider, earlier.moment ≤ observedAt :=
    inOrder.newest _ (mem_singleton.mpr rfl)
  have kept := recorded.observe dated hi newest observes
  cases bootstrapFrom with
  | none =>
    cases hd
    exact kept
  | some earliest =>
    obtain ⟨⟨_, _⟩, bootstraps, hd⟩ := bind_eq_ok.mp hd
    cases hd
    have hr : era earliest := inOrder.dated _ (by simp [IdentityCall.instants])
    refine kept.bootstrap dated hr ?_ bootstraps
    intro hli first isFirst
    simp only [update_self] at isFirst
    cases held : state.observed provider with
    | cons =>
      rw [held] at isFirst
      cases isFirst
      exact inOrder.found rfl _ (by rw [IdentityCall.provider, held]; rfl)
    | nil =>
      rw [held] at isFirst
      cases isFirst
      -- the first observation finds nobody: there is nothing to bootstrap before
      cases identity with
      | some => rfl
      | none =>
        have hch := recorded.charts provider
        rw [held] at hch
        obtain ⟨_, taken⟩ := observe_ok recorded.known
          (fun key _ => (recorded.charts _).holds_unique) observes
        exact absurd (taken.stretches_nil hch.eq_nil) hli

theorem Recorded.apply {call : IdentityCall} (inOrder : InOrder era state call) :
    Recorded host era (state.apply host call) := by
  unfold Identified.apply
  split
  · rename_i hd
    cases call with
    | recordObservation =>
      obtain ⟨⟨after, _⟩, finished, rfl⟩ := map_eq_ok.mp hd
      exact recorded.recordObservation dated inOrder finished
    | ensureBootstrapInterval provider =>
      obtain ⟨⟨after, _⟩, finished, rfl⟩ := map_eq_ok.mp hd
      have kept := recorded.bootstrap dated
        (inOrder.dated _ (mem_singleton.mpr rfl)) (fun _ => inOrder.found rfl) finished
      have hs : Function.update state.observed provider (state.observed provider ++ []) =
          state.observed := by
        rw [append_nil, update_eq_self]
      show Recorded host era ⟨after, Function.update state.observed provider
        (state.observed provider ++ [])⟩
      rw [hs]
      exact kept
  · exact recorded

theorem Recorded.run {calls : List IdentityCall} (inOrder : InOrderRun host era state calls) :
    Recorded host era (calls.foldl (Identified.apply host) state) := by
  induction calls generalizing state with
  | nil => exact recorded
  | cons _ _ ih => exact ih (recorded.apply dated inOrder.1) inOrder.2

end

end

section

variable {host : Host} {era : Int → Prop} {state : Identified} {provider : Provider}

theorem Dated.parses (dated : Dated host era)
    (hw : ∃ instant, era instant ∧ text = host.formatTimestamp instant) :
    ∃ instant, IdentityStore.parseTimestamp host text = .ok instant := by
  obtain ⟨instant, hi, rfl⟩ := hw
  exact ⟨_, by rw [IdentityStore.parseTimestamp, dated.parse _ hi]⟩

theorem uncertainAt_ok (dated : Dated host era)
    (hw : row.Written host era) (uncertainty start messageAt : Int) :
    ∃ uncertain, IdentityStore.uncertainAt host row uncertainty start messageAt =
      .ok uncertain := by
  unfold IdentityStore.uncertainAt
  split
  · cases stop : row.toTs with
    | none => exact ⟨false, rfl⟩
    | some =>
      obtain ⟨_, parsed⟩ := dated.parses (hw.2 _ stop)
      simp only [parsed]
      exact ⟨_, rfl⟩
  · exact ⟨false, rfl⟩

theorem covering_stretches (text : String) : ((store.rows provider).filter fun row =>
        row.fromTs ≤ text && row.toTs.all fun toTs => text < toTs).map IdentityRow.stretch =
      (store.stretches provider).filter fun row => row.covers text := by
  rw [IdentityStore.stretches, filter_map]
  rfl

theorem Recorded.lookup (recorded : Recorded host era state) (dated : Dated host era)
    (instant : Int) : ∃ attribution, state.store.accountAt host provider instant = .ok attribution ∧
        attribution.map TimelineAttribution.accountKey =
          expected (state.store.stretches provider) (textual host (state.observed provider))
            (host.formatTimestamp instant) := by
  have hch := recorded.charts provider
  have hsg := covering_unique hch.apart (host.formatTimestamp instant)
  have hm (row : IdentityRow) (covers : row ∈ (state.store.rows provider).filter fun row =>
      row.fromTs ≤ host.formatTimestamp instant &&
        row.toTs.all fun toTs => host.formatTimestamp instant < toTs) :
      row ∈ state.store.timeline :=
    mem_of_mem_filter (mem_of_mem_filter covers)
  rw [← covering_stretches] at hsg
  rw [← hch.lookup, ← covering_stretches]
  unfold IdentityStore.accountAt
  simp only
  generalize ((state.store.rows provider).filter fun row =>
    row.fromTs ≤ host.formatTimestamp instant &&
      row.toTs.all fun toTs => host.formatTimestamp instant < toTs) = covering at hsg hm ⊢
  rcases covering with _ | ⟨row, _ | ⟨_, _⟩⟩
  · exact ⟨none, rfl, rfl⟩
  · have hw := recorded.written row (hm row (mem_singleton.mpr rfl))
    obtain ⟨_, starts⟩ := dated.parses hw.1
    obtain ⟨uncertain, judged⟩ := uncertainAt_ok dated hw
      (state.store.boundaryUncertainty _ row) _ _
    refine ⟨some ⟨row.accountKey, row.isAssumed, uncertain⟩, ?_, rfl⟩
    simp only [insertionSort_cons, insertionSort_nil, List.orderedInsert, head?_cons, starts]
    exact bind_eq_ok.mpr ⟨_, rfl, bind_eq_ok.mpr ⟨uncertain, judged, rfl⟩⟩
  · simp at hsg

theorem Recorded.sound (recorded : Recorded host era state) (dated : Dated host era)
    (provider : Provider) : TimelineSound host era state provider where
  disjoint := by
    refine (pairwise_map.mp (recorded.charts _).apart).imp ?_
    exact fun hap _ => hap.not_both
  oneOpen := by
    refine filter_le_one ((pairwise_map.mp (recorded.charts _).apart).imp ?_)
    rintro first second hap ⟨one, other⟩
    exact hap.one_stopped ⟨Option.isNone_iff_eq_none.mp one, Option.isNone_iff_eq_none.mp other⟩
  oneAssumed := filter_le_one (pairwise_map.mp (recorded.charts _).assumed_unique)
  assumedStop := by
    intro row hm assumed
    obtain ⟨_, isFirst, observed, stop, _, least, _⟩ :=
      (recorded.charts _).assumed row.stretch (mem_map_of_mem hm) assumed
    obtain ⟨first, isRow, rfl⟩ := mem_map.mp isFirst
    refine ⟨_, isRow, observed, ?_, stop⟩
    exact fun other isOther seen => least other.stretch (mem_map_of_mem isOther) seen
  lookup := by
    intro instant hi
    obtain ⟨_, hf, account⟩ := recorded.lookup dated _
    refine ⟨_, hf, account.trans ?_⟩
    unfold expected
    have hk := recorded.dated provider
    have renamed : latest Reading.moment (textual host (state.observed provider))
        (host.formatTimestamp instant) =
          (latest Reading.moment (state.observed provider) instant).map fun reading =>
            ⟨host.formatTimestamp reading.moment, reading.holder⟩ := by
      refine latest_map ?_ ?_
      · intro first isFirst second isSecond
        exact dated.order _ _ (hk _ isFirst) (hk _ isSecond)
      · intro reading hm
        exact dated.order _ _ (hk _ hm) hi
    rw [renamed]
    cases latest Reading.moment (state.observed provider) instant with
    | some => rfl
    | none =>
      rw [IdentityStore.stretches, find?_map, Option.map_map]
      rfl

/-- While the calls are in order, the intervals of either provider are a timeline of its
observations; a call that fails changes nothing. -/
theorem timeline_is_sound (dated : Dated host era) (calls : List IdentityCall)
    (inOrder : InOrderRun host era .empty calls) :
    let reached := calls.foldl (Identified.apply host) .empty
    (∀ provider, TimelineSound host era reached provider) ∧
      ∀ call reason, call.run host reached.store = .error reason →
        reached.apply host call = reached := by
  intro reached
  refine ⟨fun provider => (recorded_empty.run dated inOrder).sound dated provider, ?_⟩
  intro call reason failed
  rw [Identified.apply, failed]

end

section

def codexAccount (externalId : String) : AccountIdentity := ⟨.codex, externalId, none, none, none⟩

def seenAt (externalId : String) (observedAt : Int) : IdentityCall :=
  .recordObservation .codex (some (codexAccount externalId)) observedAt none none

def afterCalls (calls : List IdentityCall) : Identified :=
  calls.foldl (Identified.apply januaryHost) .empty

theorem timeline_is_sound_of_switch :
    InOrderRun januaryHost InJanuary .empty [seenAt "one" (january 3),
        .ensureBootstrapInterval .codex (january 2), seenAt "two" (january 4)] ∧
      TimelineSound januaryHost InJanuary (afterCalls [seenAt "one" (january 3),
        .ensureBootstrapInterval .codex (january 2), seenAt "two" (january 4)]) .codex := by
  have inOrder : InOrderRun januaryHost InJanuary .empty [seenAt "one" (january 3),
      .ensureBootstrapInterval .codex (january 2), seenAt "two" (january 4)] := by
    refine ⟨⟨by decide, by decide, nofun⟩, ⟨by decide, nofun, ?_⟩,
      ⟨by decide, by decide +kernel, nofun⟩, trivial⟩
    rintro _ first isFirst
    cases isFirst
    rfl
  exact ⟨inOrder, (timeline_is_sound januaryHost_dated _ inOrder).1 .codex⟩

theorem not_sound_of_lookup {state : Identified} {instant : Int}
    {attribution : Option TimelineAttribution} (hi : InJanuary instant)
    (hf : state.store.accountAt januaryHost .codex instant = .ok attribution)
    (isLatest : latest Reading.moment (state.observed .codex) instant = some reading)
    (hne : attribution.map TimelineAttribution.accountKey ≠ reading.holder) :
    ¬TimelineSound januaryHost InJanuary state .codex := by
  intro hso
  obtain ⟨_, looked, account⟩ := hso.lookup _ hi
  rw [hf] at looked
  cases looked
  rw [isLatest] at account
  exact hne account

/-- An observation of the second of January that comes after one of the third takes over for all
time: on the fourth the lookup finds its account. And a bootstrap covers the third although the
provider was seen logged out on the second. -/
theorem late_observation_takes_over :
    Dated januaryHost InJanuary ∧
      ¬TimelineSound januaryHost InJanuary
        (afterCalls [seenAt "one" (january 3), seenAt "two" (january 2)]) .codex ∧
      ¬TimelineSound januaryHost InJanuary
        (afterCalls [.recordObservation .codex none (january 2) none none, seenAt "one" (january 4),
          .ensureBootstrapInterval .codex (january 2)]) .codex := by
  refine ⟨januaryHost_dated, ?_, ?_⟩
  · exact not_sound_of_lookup (by decide : InJanuary (january 4)) rfl rfl (by decide)
  · exact not_sound_of_lookup (by decide : InJanuary (january 3)) rfl rfl (by decide)

end

end SessionManager.Usage
