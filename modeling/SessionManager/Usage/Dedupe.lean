import SessionManager.Usage.Copies

/-! When the rows of the ledger do not depend on the order in which copies of messages arrive.
Copies of a message are grouped by request id, and a main copy takes precedence over sidechain
copies. The rows are first described without reference to any order; then every way in which a set
of copies can fall outside that description is shown to make two orders differ. -/
namespace SessionManager.Usage

section

/-- A main copy tolerates the sidechain copies of its message when these all have one request id,
and that id is either no main copy's or the only one among the main copies. -/
def Compatible (copies : List Contribution) : Prop :=
  ∀ main ∈ copies, ∀ side ∈ copies, main.isSidechain = false → side.isSidechain = true →
    main.messageId = side.messageId →
      (∀ other ∈ copies, other.isSidechain = true → other.messageId = side.messageId →
        exactKey other = exactKey side) ∧
      (exactKey main = exactKey side → ∀ other ∈ copies, other.isSidechain = false →
        other.messageId = side.messageId → exactKey other = exactKey side)

/-- The copies that can end up as rows: main copies, and sidechain copies of messages that have no
main copy. -/
def Survives (copies : List Contribution) (copy : Contribution) : Prop :=
  copy.isSidechain = false ∨
    ∀ other ∈ copies, other.messageId = copy.messageId → other.isSidechain = true

/-- No copy of the same kind under the same key would replace this one. -/
def Unbeaten (copies : List Contribution) (copy : Contribution) : Prop :=
  ∀ other ∈ copies, exactKey other = exactKey copy → other.isSidechain = copy.isSidechain →
    shouldReplace other copy = false

/-- Among the copies that can end up as a row, the best ones under a key are equal. -/
def TieFree (copies : List Contribution) : Prop :=
  ∀ first ∈ copies, ∀ second ∈ copies, exactKey first = exactKey second →
    first.isSidechain = second.isSidechain → Survives copies first →
      Unbeaten copies first → Unbeaten copies second → first = second

end

section

variable {first second : Contribution}

theorem exactKey_messageId (hs : exactKey first = exactKey second) :
    first.messageId = second.messageId := by
  simp only [exactKey, AliasKey.exact.injEq] at hs
  exact hs.1

theorem looseKey_eq_iff :
    looseKey first = looseKey second ↔ first.messageId = second.messageId := by
  simp [looseKey]

theorem shouldReplace_self (copy : Contribution) : shouldReplace copy copy = false := by
  simp [shouldReplace]

variable {candidate incumbent : Contribution}

theorem shouldReplace_main (side : candidate.isSidechain) (main : incumbent.isSidechain = false) :
    shouldReplace candidate incumbent = false := by
  simp [shouldReplace, main, side]

theorem shouldReplace_iff (hs : candidate.isSidechain = incumbent.isSidechain) :
    shouldReplace candidate incumbent ↔ incumbent.totalTokens < candidate.totalTokens ∨
      incumbent.totalTokens = candidate.totalTokens ∧
        candidate.hasSpeed ∧ incumbent.hasSpeed = false := by
  by_cases heq : candidate.totalTokens = incumbent.totalTokens
  · simp [shouldReplace, hs, heq]
  · simp [shouldReplace, hs, heq, Ne.symm heq]

/-- A copy that replaces an incumbent is not replaced by one that could not replace the incumbent. -/
theorem shouldReplace_of_replaced {copy incumbent other : Contribution}
    (kind : copy.isSidechain = incumbent.isSidechain)
    (also : other.isSidechain = incumbent.isSidechain)
    (better : shouldReplace copy incumbent)
    (worse : shouldReplace other incumbent = false) : shouldReplace other copy = false := by
  rw [← Bool.not_eq_true] at worse ⊢
  rw [shouldReplace_iff also] at worse
  rw [shouldReplace_iff kind] at better
  rw [shouldReplace_iff (also.trans kind.symm)]
  rintro (more | ⟨_, _, slow⟩)
  · exact worse (.inl (by omega))
  · rcases better with more | ⟨_, quick, _⟩
    · exact worse (.inl (by omega))
    · rw [slow] at quick
      cases quick

end

section

open Copies List

structure Settled (seen : List Contribution) (state : Copies) : Prop where
  linked : state.Linked
  exact_seen : ∀ copy ∈ seen, ∃ msgId, state.aliases (exactKey copy) = some msgId
  loose_seen : ∀ copy ∈ seen, ∃ msgId, state.aliases (looseKey copy) = some msgId
  exact_known : ∀ copy msgId, state.aliases (exactKey copy) = some msgId →
    ∃ other ∈ seen, exactKey other = exactKey copy
  row_seen : ∀ msgId value, state.row msgId = some value → value ∈ seen
  main_rows : ∀ main ∈ seen, main.isSidechain = false → ∀ msgId value,
    state.row msgId = some value → value.messageId = main.messageId → value.isSidechain = false
  unbeaten : ∀ msgId value, state.row msgId = some value → Unbeaten seen value
  own_row : ∀ copy ∈ seen, Survives seen copy → ∃ msgId value,
    state.aliases (exactKey copy) = some msgId ∧ state.row msgId = some value ∧
      exactKey value = exactKey copy ∧ value.isSidechain = copy.isSidechain

variable {seen : List Contribution} {state : Copies} {copy : Contribution}

variable {copies : List Contribution} {kept : Contribution} {msgId : Nat}

theorem Compatible.mono (hcm : Compatible copies) (subset : seen ⊆ copies) : Compatible seen := by
  intro _ inMain side inSide isMain isSide hs
  obtain ⟨sides, mains⟩ := hcm _ (subset inMain) side (subset inSide) isMain isSide hs
  exact ⟨fun _ inOther => sides _ (subset inOther),
    fun shared _ inOther => mains shared _ (subset inOther)⟩

theorem Survives.mono (survives : Survives copies copy)
    (subset : seen ⊆ copies) : Survives seen copy :=
  survives.imp id fun sides kept inSeen => sides kept (subset inSeen)

theorem Unbeaten.mono (unbeaten : Unbeaten copies copy)
    (subset : seen ⊆ copies) : Unbeaten seen copy :=
  fun other inSeen => unbeaten other (subset inSeen)

theorem settled_empty : Settled [] Copies.empty where
  linked := linked_empty
  exact_seen := by simp
  loose_seen := by simp
  exact_known := by simp [Copies.empty]
  row_seen := by simp [Copies.empty]
  main_rows := by simp
  unbeaten := by simp [Copies.empty]
  own_row := by simp

theorem Settled.row_unique (hse : Settled seen state) {first second : Nat}
    {value other : Contribution} (hlo : state.row first = some value)
    (also : state.row second = some other) (hs : exactKey value = exactKey other) :
    first = second := by
  have hk := hse.linked.row_alias _ _ hlo
  rw [hs, hse.linked.row_alias _ _ also] at hk
  exact (Option.some.inj hk).symm

theorem Settled.meets (hse : Settled seen state) (hcm : Compatible (copy :: seen))
    {incumbent : Contribution} (hf : state.target copy = some (state.place copy))
    (hst : state.row (state.place copy) = some incumbent)
    (message : incumbent.messageId = copy.messageId) :
    (incumbent.isSidechain = copy.isSidechain ∧ exactKey incumbent = exactKey copy) ∨
    (copy.isSidechain ∧ incumbent.isSidechain = false) ∨
    (copy.isSidechain = false ∧ incumbent.isSidechain ∧
      ∀ msgId value, state.row msgId = some value → value.messageId = copy.messageId →
        msgId = state.place copy) := by
  have inSeen := hse.row_seen _ _ hst
  cases copyKind : copy.isSidechain <;> cases kind : incumbent.isSidechain
  · -- two main copies: the key was seen before, by a main copy or by the only sidechain key
    refine .inl ⟨rfl, ?_⟩
    obtain ⟨hk, -⟩ | ⟨-, looseId, -, hs, other, hlo, hne⟩ | ⟨-, none, -⟩ :=
      target_cases _ _
    · obtain ⟨earlier, inEarlier, sameKey⟩ := hse.exact_known _ _ (hk.trans hf)
      cases earlierKind : earlier.isSidechain with
      | false =>
        obtain ⟨msgId, value, at', hlo, key, -⟩ :=
          hse.own_row _ inEarlier (.inl earlierKind)
        rw [sameKey, hk, hf] at at'
        cases at'
        cases hlo.symm.trans hst
        exact key.trans sameKey
      | true =>
        have messages := exactKey_messageId sameKey
        obtain ⟨-, mains⟩ := hcm _ (by simp) _ (by simp [inEarlier]) copyKind
          earlierKind messages.symm
        rw [mains sameKey.symm _ (by simp [inSeen]) kind (message.trans messages.symm),
          sameKey]
    · cases hs.symm.trans hf
      cases hlo.symm.trans hst
      exact absurd (kind.trans copyKind.symm) hne
    · cases none.symm.trans hf
  · -- the first main copy of a message takes over the only sidechain row
    refine .inr (.inr ⟨rfl, rfl, fun _ value hlo hs => ?_⟩)
    have noMain : value.isSidechain := by
      by_contra isMain
      have incumbentMain := hse.main_rows _ (hse.row_seen _ _ hlo)
        (by simpa using isMain) _ _ hst (message.trans hs.symm)
      rw [kind] at incumbentMain
      cases incumbentMain
    obtain ⟨sides, -⟩ := hcm _ (by simp) _ (by simp [inSeen]) copyKind kind message.symm
    exact hse.row_unique hlo hst
      (sides _ (by simp [hse.row_seen _ _ hlo]) noMain (hs.trans message.symm))
  · exact .inr (.inl ⟨rfl, rfl⟩)
  · -- two sidechain copies: no main copy was seen, so every key has its own row
    refine .inl ⟨rfl, ?_⟩
    obtain ⟨hk, -⟩ | ⟨-, looseId, -, hs, other, hlo, hne⟩ | ⟨-, none, -⟩ :=
      target_cases _ _
    · obtain ⟨earlier, inEarlier, sameKey⟩ := hse.exact_known _ _ (hk.trans hf)
      have survives : Survives seen earlier := by
        refine .inr fun _ inOther hs => ?_
        by_contra isMain
        have incumbentMain := hse.main_rows _ inOther (by simpa using isMain) _ _ hst
          (message.trans ((exactKey_messageId sameKey).symm.trans hs.symm))
        rw [kind] at incumbentMain
        cases incumbentMain
      obtain ⟨msgId, value, at', hlo, key, -⟩ := hse.own_row _ inEarlier survives
      rw [sameKey, hk, hf] at at'
      cases at'
      cases hlo.symm.trans hst
      exact key.trans sameKey
    · cases hs.symm.trans hf
      cases hlo.symm.trans hst
      exact absurd (kind.trans copyKind.symm) hne
    · cases none.symm.trans hf

inductive Placed (seen : List Contribution) (state : Copies) (copy : Contribution) : Prop
  | opens (fresh : state.row (state.place copy) = none) (wins : state.winner copy = copy)
      (unknown : state.aliases (exactKey copy) = none)
      (others : ∀ other ∈ seen, other.messageId = copy.messageId → ∃ msgId value,
        state.row msgId = some value ∧ value.messageId = copy.messageId ∧
          value.isSidechain = copy.isSidechain)
  | joins (incumbent : Contribution) (stored : state.row (state.place copy) = some incumbent)
      (kind : incumbent.isSidechain = copy.isSidechain)
      (key : exactKey incumbent = exactKey copy)
      (wins : state.winner copy = if shouldReplace copy incumbent then copy else incumbent)
  | yields (incumbent : Contribution) (stored : state.row (state.place copy) = some incumbent)
      (message : incumbent.messageId = copy.messageId)
      (side : copy.isSidechain = true) (main : incumbent.isSidechain = false)
      (wins : state.winner copy = incumbent)
  | takes (incumbent : Contribution) (stored : state.row (state.place copy) = some incumbent)
      (message : incumbent.messageId = copy.messageId)
      (main : copy.isSidechain = false) (side : incumbent.isSidechain = true)
      (wins : state.winner copy = copy)
      (alone : ∀ msgId value, state.row msgId = some value → value.messageId = copy.messageId →
        msgId = state.place copy)

theorem Settled.placed (hse : Settled seen state) (hcm : Compatible (copy :: seen)) :
    Placed seen state copy := by
  obtain ⟨opens, isNext, isCopy, free⟩ | ⟨_, hf, hst, message, wins⟩ :=
    hse.linked.place_cases copy
  · obtain ⟨-, some⟩ | ⟨-, looseId, -, hs, -⟩ | ⟨unknown, -, kinds⟩ := target_cases state copy
    · simp [opens] at some
    · simp [opens] at hs
    · refine .opens (by rw [isNext, free]) isCopy unknown fun _ inSeen hs => ?_
      obtain ⟨looseId, hk⟩ := hse.loose_seen _ inSeen
      rw [looseKey_eq_iff.mpr hs] at hk
      obtain ⟨_, hlo, message⟩ := hse.linked.alias_row _ _ hk
      exact ⟨looseId, _, hlo, message, kinds looseId _ hk hlo⟩
  · obtain ⟨kind, key⟩ | ⟨side, main⟩ | ⟨main, side, alone⟩ :=
      hse.meets hcm hf hst message
    · exact .joins _ hst kind key wins
    · rw [shouldReplace_main side main] at wins
      exact .yields _ hst message side main wins
    · rw [show shouldReplace _ _ by simp [shouldReplace, main, side]] at wins
      exact .takes _ hst message main side wins alone

section

variable (hse : Settled seen state) (placed : Placed seen state copy)
include hse placed

theorem Settled.winner_seen : state.winner copy ∈ copy :: seen := by
  cases placed with
  | opens _ wins | takes _ _ _ _ _ wins => simp [wins]
  | joins _ hst _ _ wins =>
    rw [wins]
    split_ifs
    · simp
    · exact mem_cons_of_mem _ (hse.row_seen _ _ hst)
  | yields _ hst _ _ _ wins =>
    rw [wins]
    exact mem_cons_of_mem _ (hse.row_seen _ _ hst)

theorem Settled.winner_main
    {main : Contribution} (hm : main ∈ copy :: seen) (isMain : main.isSidechain = false)
    (message : main.messageId = copy.messageId) : (state.winner copy).isSidechain = false := by
  cases placed with
  | opens _ wins _ others =>
    rw [wins]
    rcases mem_cons.mp hm with rfl | inSeen
    · exact isMain
    · obtain ⟨_, _, hlo, hs, kind⟩ := others _ inSeen message
      rw [← kind]
      exact hse.main_rows _ inSeen isMain _ _ hlo (hs.trans message.symm)
  | joins incumbent hst kind key wins =>
    have both : incumbent.isSidechain = false := by
      rcases mem_cons.mp hm with rfl | inSeen
      · exact kind.trans isMain
      · exact hse.main_rows _ inSeen isMain _ _ hst ((exactKey_messageId key).trans message.symm)
    rw [wins]
    split_ifs
    · exact kind.symm.trans both
    · exact both
  | yields _ _ _ _ incumbentMain wins => rw [wins, incumbentMain]
  | takes _ _ _ copyMain _ wins => rw [wins, copyMain]

theorem Settled.ingest_main_rows : ∀ main ∈ copy :: seen, main.isSidechain = false → ∀ msgId value,
      (state.ingest copy).row msgId = some value → value.messageId = main.messageId →
        value.isSidechain = false := by
  intro main hm isMain msgId value hlo message
  by_cases hh : msgId = state.place copy
  · subst hh
    rw [ingest_row_self] at hlo
    obtain rfl := Option.some.inj hlo
    rw [hse.linked.winner_messageId] at message
    exact hse.winner_main placed hm isMain message.symm
  · rw [ingest_row_other hh] at hlo
    have inSeen := hse.row_seen _ _ hlo
    rcases mem_cons.mp hm with rfl | old
    · cases placed with
      | opens _ _ _ others =>
        obtain ⟨_, kept, hst, hs, kind⟩ := others _ inSeen message
        exact hse.main_rows kept (hse.row_seen _ _ hst) (kind.trans isMain) _ _ hlo
          (message.trans hs.symm)
      | joins _ hst kind key =>
        exact hse.main_rows _ (hse.row_seen _ _ hst) (kind.trans isMain) _ _
          hlo (message.trans (exactKey_messageId key).symm)
      | yields _ _ _ side => rw [isMain] at side; cases side
      | takes _ _ _ _ _ _ alone => exact absurd (alone _ _ hlo message) hh
    · exact hse.main_rows _ old isMain _ _ hlo message

theorem Settled.ingest_unbeaten :
    ∀ msgId value, (state.ingest copy).row msgId = some value → Unbeaten (copy :: seen) value := by
  intro msgId value hlo _ hm key kind
  by_cases hh : msgId = state.place copy
  · subst hh
    rw [ingest_row_self] at hlo
    obtain rfl := Option.some.inj hlo
    cases placed with
    | opens _ wins unknown =>
      rw [wins] at key kind ⊢
      rcases mem_cons.mp hm with rfl | inSeen
      · exact shouldReplace_self _
      · obtain ⟨hk, isKnown⟩ := hse.exact_seen _ inSeen
        rw [key, unknown] at isKnown
        cases isKnown
    | joins incumbent hst sameKind sameKey wins =>
      have below := hse.unbeaten _ _ hst
      by_cases better : shouldReplace copy incumbent
      · rw [if_pos better] at wins
        rw [wins] at key kind ⊢
        rcases mem_cons.mp hm with rfl | inSeen
        · exact shouldReplace_self _
        · exact shouldReplace_of_replaced sameKind.symm (kind.trans sameKind.symm) better
            (below _ inSeen (key.trans sameKey.symm) (kind.trans sameKind.symm))
      · rw [if_neg better] at wins
        rw [wins] at key kind ⊢
        rcases mem_cons.mp hm with rfl | inSeen
        · simpa using better
        · exact below _ inSeen key kind
    | yields _ hst _ side main wins =>
      rw [wins] at key kind ⊢
      rcases mem_cons.mp hm with rfl | inSeen
      · rw [side, main] at kind
        cases kind
      · exact hse.unbeaten _ _ hst _ inSeen key kind
    | takes _ hst message main side wins =>
      rw [wins] at key kind ⊢
      rcases mem_cons.mp hm with rfl | inSeen
      · exact shouldReplace_self _
      · have incumbentMain := hse.main_rows _ inSeen (kind.trans main) _ _ hst
          (message.trans (exactKey_messageId key).symm)
        rw [side] at incumbentMain
        cases incumbentMain
  · rw [ingest_row_other hh] at hlo
    rcases mem_cons.mp hm with rfl | inSeen
    · have hk := hse.linked.row_alias _ _ hlo
      rw [← key] at hk
      refine absurd ?_ hh
      rw [place, target, hk]
      rfl
    · exact hse.unbeaten _ _ hlo _ inSeen key kind

theorem Settled.ingest_own_row :
    ∀ kept ∈ copy :: seen, Survives (copy :: seen) kept → ∃ msgId value,
      (state.ingest copy).aliases (exactKey kept) = some msgId ∧
      (state.ingest copy).row msgId = some value ∧
      exactKey value = exactKey kept ∧ value.isSidechain = kept.isSidechain := by
  intro kept hm survives
  rcases mem_cons.mp hm with rfl | inSeen
  · refine ⟨_, _, (ingest_alias_self kept).1, ingest_row_self kept, ?_⟩
    cases placed with
    | opens _ wins | takes _ _ _ _ _ wins => simp [wins]
    | joins _ _ kind key wins => rw [wins]; split_ifs <;> simp [kind, key]
    | yields _ hst message side main =>
      rcases survives with isMain | sides
      · rw [side] at isMain
        cases isMain
      · have isSide := sides _ (by simp [hse.row_seen _ _ hst]) message
        rw [main] at isSide
        cases isSide
  · obtain ⟨msgId, value, hk, hlo, key, kind⟩ := hse.own_row kept inSeen
      (survives.mono (subset_cons_self _ _))
    have stays : (state.ingest copy).aliases (exactKey kept) = some msgId :=
      ingest_alias_exact (by simp [exactKey]) hk
    by_cases hh : msgId = state.place copy
    · subst hh
      refine ⟨_, _, stays, ingest_row_self _, ?_⟩
      cases placed with
      | opens hfr => rw [hfr] at hlo; cases hlo
      | joins _ hst sameKind sameKey wins =>
        cases hst.symm.trans hlo
        rw [wins]
        split_ifs
        · exact ⟨sameKey.symm.trans key, sameKind.symm.trans kind⟩
        · exact ⟨key, kind⟩
      | yields _ hst _ _ _ wins =>
        cases hst.symm.trans hlo
        rw [wins]
        exact ⟨key, kind⟩
      | takes _ hst message main side =>
        cases hst.symm.trans hlo
        rcases survives with isMain | sides
        · rw [← kind, side] at isMain
          cases isMain
        · have isSide := sides _ (by simp) (message.symm.trans (exactKey_messageId key))
          rw [main] at isSide
          cases isSide
    · exact ⟨_, _, stays, by rw [ingest_row_other hh, hlo], key, kind⟩

end

theorem Settled.ingest (hse : Settled seen state) (hcm : Compatible (copy :: seen)) :
    Settled (copy :: seen) (state.ingest copy) := by
  have placed := hse.placed hcm
  refine ⟨hse.linked.ingest _, ?_, ?_, ?_, ?_, hse.ingest_main_rows placed,
    hse.ingest_unbeaten placed, hse.ingest_own_row placed⟩
  · intro kept hm
    rcases mem_cons.mp hm with rfl | inSeen
    · exact ⟨_, (ingest_alias_self kept).1⟩
    · obtain ⟨msgId, hk⟩ := hse.exact_seen kept inSeen
      exact ⟨_, ingest_alias_exact (by simp [exactKey]) hk⟩
  · intro kept hm
    by_cases hs : looseKey kept = looseKey copy
    · exact ⟨_, by rw [hs, (ingest_alias_self _).2]⟩
    · rcases mem_cons.mp hm with rfl | inSeen
      · exact absurd rfl hs
      · obtain ⟨msgId, hk⟩ := hse.loose_seen kept inSeen
        exact ⟨_, by rw [ingest_alias_other (by simp [looseKey, exactKey]) hs, hk]⟩
  · intro kept msgId hk
    by_cases hs : exactKey kept = exactKey copy
    · exact ⟨_, by simp, hs.symm⟩
    · rw [ingest_alias_other hs (by simp [looseKey, exactKey])] at hk
      obtain ⟨_, inSeen, key⟩ := hse.exact_known kept _ hk
      exact ⟨_, by simp [inSeen], key⟩
  · intro msgId _ hlo
    by_cases hh : msgId = state.place copy
    · subst hh
      rw [ingest_row_self] at hlo
      obtain rfl := Option.some.inj hlo
      exact hse.winner_seen placed
    · rw [ingest_row_other hh] at hlo
      exact mem_cons_of_mem _ (hse.row_seen _ _ hlo)

theorem Settled.foldl (hse : Settled seen state) (hcm : Compatible (copies.reverse ++ seen)) :
    Settled (copies.reverse ++ seen) (copies.foldl Copies.ingest state) := by
  induction copies generalizing seen state with
  | nil => exact hse
  | cons _ _ ih =>
    simp only [reverse_cons, append_assoc, singleton_append] at hcm ⊢
    exact ih (hse.ingest (hcm.mono (subset_append_right _ _))) hcm

theorem settled_ingestAll (hcm : Compatible copies) :
    Settled copies.reverse (ingestAll copies) := by
  have run : Settled (copies.reverse ++ []) (copies.foldl Copies.ingest Copies.empty) :=
    settled_empty.foldl (hcm.mono (by simp [reverse_subset]))
  rwa [append_nil] at run

theorem Settled.keeps (hse : Settled seen state) (hcm : Compatible (copy :: seen))
    (hst : state.row msgId = some kept)
    (survives : Survives (copy :: seen) kept) (unbeaten : Unbeaten (copy :: seen) kept) :
    (state.ingest copy).row msgId = some kept := by
  by_cases hh : msgId = state.place copy
  · subst hh
    rw [ingest_row_self]
    cases hse.placed hcm with
    | opens hfr => rw [hfr] at hst; cases hst
    | joins _ hlo kind key wins =>
      cases hlo.symm.trans hst
      rw [wins, unbeaten _ (by simp) key.symm kind.symm]
      rfl
    | yields _ hlo _ _ _ wins =>
      cases hlo.symm.trans hst
      rw [wins]
    | takes _ hlo message main side =>
      cases hlo.symm.trans hst
      rcases survives with isMain | sides
      · rw [side] at isMain
        cases isMain
      · have isSide := sides _ (by simp) message.symm
        rw [main] at isSide
        cases isSide
  · rw [ingest_row_other hh, hst]

theorem Settled.keeps_foldl (hse : Settled seen state) (hcm : Compatible (copies.reverse ++ seen))
    (hst : state.row msgId = some kept) (survives : Survives (copies.reverse ++ seen) kept)
    (unbeaten : Unbeaten (copies.reverse ++ seen) kept) :
    (copies.foldl Copies.ingest state).row msgId = some kept := by
  induction copies generalizing seen state with
  | nil => exact hst
  | cons first rest ih =>
    simp only [reverse_cons, append_assoc, singleton_append] at *
    have subset : first :: seen ⊆ rest.reverse ++ first :: seen := subset_append_right _ _
    have now := hcm.mono subset
    exact ih (hse.ingest now) hcm
      (hse.keeps now hst (survives.mono subset) (unbeaten.mono subset)) survives unbeaten

end

end SessionManager.Usage
