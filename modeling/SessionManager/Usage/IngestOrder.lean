import SessionManager.Usage.Dedupe

/-! Two orders of ingesting the same copies leave the same message rows exactly when the copies are
compatible and free of ties. Compatible copies determine their rows; for copies that are not
compatible, and for ties, two orders with different rows are built. -/
namespace SessionManager.Usage
open Copies List

variable {first second : Contribution} {copies : List Contribution}

section

def Copies.Holds (state : Copies) (value : Contribution) : Prop :=
  ∃ msgId, state.row msgId = some value

theorem Copies.Linked.holds_unique {state : Copies} (linked : state.Linked)
    (holds : state.Holds first) (also : state.Holds second)
    (hs : exactKey first = exactKey second) : first = second := by
  obtain ⟨firstId, hst⟩ := holds
  obtain ⟨secondId, hlo⟩ := also
  have hk := linked.row_alias firstId _ hst
  rw [hs, linked.row_alias secondId _ hlo] at hk
  cases Option.some.inj hk
  exact Option.some.inj (hst.symm.trans hlo)

/-- Compatible copies without ties have rows that mention no order. -/
theorem holds_ingestAll_iff (hcm : Compatible copies)
    (tieFree : TieFree copies) (value : Contribution) :
    (ingestAll copies).Holds value ↔
      value ∈ copies ∧ Survives copies value ∧ Unbeaten copies value := by
  have hse := settled_ingestAll hcm
  have back : copies ⊆ copies.reverse := fun _ hm => mem_reverse.mpr hm
  have forth : copies.reverse ⊆ copies := fun _ hm => mem_reverse.mp hm
  have stored_survives : ∀ {msgId kept}, (ingestAll copies).row msgId = some kept →
      kept ∈ copies ∧ Survives copies kept ∧ Unbeaten copies kept := by
    intro msgId kept hst
    refine ⟨forth (hse.row_seen _ _ hst), ?_, (hse.unbeaten _ _ hst).mono back⟩
    cases kind : kept.isSidechain with
    | false => exact .inl kind
    | true =>
      refine .inr fun _ hm hs => ?_
      by_contra isMain
      have main := hse.main_rows _ (back hm) (by simpa using isMain) _ _ hst hs.symm
      rw [kind] at main
      cases main
  constructor
  · rintro ⟨msgId, hst⟩
    exact stored_survives hst
  · rintro ⟨hm, survives, unbeaten⟩
    obtain ⟨msgId, kept, -, hst, key, kind⟩ :=
      hse.own_row _ (back hm) (survives.mono forth)
    obtain ⟨inCopies, -, alsoUnbeaten⟩ := stored_survives hst
    have hs := tieFree _ hm kept inCopies key.symm kind.symm survives unbeaten alsoUnbeaten
    exact ⟨_, by rw [hst, hs]⟩

end

section

variable {state : Copies} {copy : Contribution}

variable {msgId : Nat} {messageId : String} {mains sides others : List Contribution}
  {sides : List Contribution} {value : Contribution}

theorem Copies.Linked.row_of_other_message (linked : state.Linked)
    (other : value.messageId ≠ copy.messageId) :
    (state.ingest copy).row msgId = some value ↔ state.row msgId = some value := by
  by_cases hh : msgId = state.place copy
  · subst hh
    have winner := linked.winner_messageId copy
    constructor
    · intro hst
      rw [ingest_row_self] at hst
      cases hst
      exact absurd winner other
    · intro hst
      obtain ⟨-, isNext, -, free⟩ | ⟨_, -, hlo, hs, -⟩ := linked.place_cases _
      · rw [isNext, free] at hst
        cases hst
      · cases hlo.symm.trans hst
        exact absurd hs other
  · rw [ingest_row_other hh]

theorem Copies.Linked.row_of_other_messages
    (linked : state.Linked) (others : ∀ copy ∈ copies, copy.messageId ≠ messageId)
    (message : value.messageId = messageId) :
    (copies.foldl Copies.ingest state).row msgId = some value ↔ state.row msgId = some value := by
  induction copies generalizing state with
  | nil => exact Iff.rfl
  | cons _ _ ih =>
    refine (ih (linked.ingest _) fun _ hm => others _ (by simp [hm])).trans ?_
    refine linked.row_of_other_message ?_
    rw [message]
    exact (others _ (by simp)).symm

theorem Copies.Linked.side_changes_nothing (linked : state.Linked) (isSide : copy.isSidechain)
    (mains : ∀ msgId value, state.row msgId = some value → value.messageId = copy.messageId →
      value.isSidechain = false)
    (hk : (state.aliases (looseKey copy)).isSome) : (state.ingest copy).row = state.row := by
  funext msgId
  by_cases hh : msgId = state.place copy
  · subst hh
    rw [ingest_row_self]
    obtain ⟨opens, -, -, -⟩ | ⟨_, -, hst, message, wins⟩ := linked.place_cases copy
    · obtain ⟨looseId, isKnown⟩ := Option.isSome_iff_exists.mp hk
      obtain ⟨value, hlo, hs⟩ := linked.alias_row _ _ isKnown
      obtain ⟨-, hf⟩ | ⟨-, _, -, hf, -⟩ | ⟨-, -, kinds⟩ := target_cases state copy
      · simp [opens] at hf
      · simp [opens] at hf
      · have kind := kinds looseId _ isKnown hlo
        rw [mains looseId _ hlo hs, isSide] at kind
        cases kind
    · rw [wins, shouldReplace_main isSide (mains _ _ hst message), hst]
      rfl
  · rw [ingest_row_other hh]

theorem Copies.Linked.sides_change_nothing (linked : state.Linked)
    (areSides : ∀ side ∈ sides, side.isSidechain ∧ side.messageId = messageId)
    (mains : ∀ msgId value, state.row msgId = some value → value.messageId = messageId →
      value.isSidechain = false)
    (hk : (state.aliases (.loose messageId)).isSome) :
    (sides.foldl Copies.ingest state).row = state.row := by
  induction sides generalizing state with
  | nil => rfl
  | cons side _ ih =>
    obtain ⟨isSide, rfl⟩ := areSides side (by simp)
    have hun := linked.side_changes_nothing isSide mains hk
    have stillKnown : ((state.ingest side).aliases (.loose side.messageId)).isSome :=
      Option.isSome_iff_exists.mpr ⟨_, (ingest_alias_self side).2⟩
    rw [foldl_cons, ih (linked.ingest side)
      (fun _ hm => areSides _ (by simp [hm])) (by rwa [hun]) stillKnown,
      hun]

theorem mains_first
    (areMains : ∀ main ∈ mains, main.isSidechain = false ∧ main.messageId = messageId)
    (nonempty : mains ≠ [])
    (areSides : ∀ side ∈ sides, side.isSidechain ∧ side.messageId = messageId)
    (areOthers : ∀ other ∈ others, other.messageId ≠ messageId) :
    (∀ value, (ingestAll (mains ++ (sides ++ others))).Holds value → value.messageId = messageId →
      value.isSidechain = false) ∧
    ∀ main ∈ mains, ∃ value, (ingestAll (mains ++ (sides ++ others))).Holds value ∧
      exactKey value = exactKey main := by
  have hcm : Compatible mains := by
    intro main _ side hm _ isSide
    rw [(areMains side hm).1] at isSide
    cases isSide
  have hse := settled_ingestAll hcm
  have back : mains ⊆ mains.reverse := fun _ hm => mem_reverse.mpr hm
  obtain ⟨_, inMains⟩ := exists_mem_of_ne_nil _ nonempty
  have rows : ∀ msgId value, value.messageId = messageId →
      ((ingestAll (mains ++ (sides ++ others))).row msgId = some value ↔
        (ingestAll mains).row msgId = some value) := by
    intro msgId value message
    have hk : ((ingestAll mains).aliases (.loose messageId)).isSome := by
      obtain ⟨msgId, hk⟩ := hse.loose_seen _ (back inMains)
      rw [looseKey, (areMains _ inMains).2] at hk
      simp [hk]
    have absorbed := hse.linked.sides_change_nothing areSides
      (fun _ _ hst message => hse.main_rows _ (back inMains)
        (areMains _ inMains).1 _ _ hst (message.trans (areMains _ inMains).2.symm))
      hk
    rw [ingestAll_append, foldl_append,
      ((hse.linked.foldl _).row_of_other_messages areOthers message), absorbed]
  constructor
  · rintro value ⟨msgId, hst⟩ message
    exact hse.main_rows _ (back inMains) (areMains _ inMains).1 _ _
      ((rows _ _ message).mp hst) (message.trans (areMains _ inMains).2.symm)
  · intro main hm
    obtain ⟨msgId, value, -, hst, key, -⟩ :=
      hse.own_row _ (back hm) (.inl (areMains _ hm).1)
    have message := (exactKey_messageId key).trans (areMains _ hm).2
    exact ⟨_, ⟨_, (rows _ _ message).mpr hst⟩, key⟩

/-- A sidechain copy followed by a main copy under another key puts both keys on one row. -/
theorem side_then_main_share {side main : Contribution} (rest : List Contribution)
    (isSide : side.isSidechain) (isMain : main.isSidechain = false)
    (message : main.messageId = side.messageId) (hne : exactKey main ≠ exactKey side) :
    ∃ msgId, (ingestAll ([side, main] ++ rest)).aliases (exactKey side) = some msgId ∧
      (ingestAll ([side, main] ++ rest)).aliases (exactKey main) = some msgId := by
  have exact : ∀ (copy : Contribution) messageId, exactKey copy ≠ .loose messageId := by
    simp [exactKey]
  obtain ⟨hk, loose⟩ :
      (Copies.empty.ingest side).aliases (exactKey side) = some (Copies.empty.place side) ∧
      (Copies.empty.ingest side).aliases (looseKey side) = some (Copies.empty.place side) :=
    ingest_alias_self side
  have hst : (Copies.empty.ingest side).row (Copies.empty.place side) =
      some (Copies.empty.winner side) := ingest_row_self side
  have unknown : (Copies.empty.ingest side).aliases (exactKey main) = none := by
    rw [ingest_alias_other hne (exact _ _)]
    rfl
  have isWinner : Copies.empty.winner side = side := rfl
  have shared : (Copies.empty.ingest side).place main = Copies.empty.place side := by
    rw [looseKey, ← message] at loose
    obtain ⟨hs, hf⟩ | ⟨-, _, isLoose, hf, -⟩ | ⟨-, -, kinds⟩ :=
      target_cases (Copies.empty.ingest side) _
    · rw [← hs, unknown] at hf
      cases hf
    · rw [place, hf]
      exact Option.some.inj (isLoose.symm.trans loose)
    · have kind := kinds _ _ loose hst
      rw [isWinner, isSide, isMain] at kind
      cases kind
  refine ⟨Copies.empty.place side, ?_, ?_⟩ <;> rw [ingestAll_append]
  · exact foldl_alias_exact (exact side) (ingest_alias_exact (exact side) hk)
  · refine foldl_alias_exact (exact _) ?_
    rw [← shared]
    exact (ingest_alias_self _).1

/-- A sidechain row that no main copy of its message can reach: it is not the last row of the
message, and none of their keys leads to it. -/
structure Unreached (mains : List Contribution) (messageId : String) (msgId : Nat)
    (state : Copies) : Prop where
  linked : state.Linked
  side : ∃ value, state.row msgId = some value ∧ value.isSidechain = true ∧
    value.messageId = messageId
  not_loose : state.aliases (.loose messageId) ≠ some msgId
  not_exact : ∀ main ∈ mains, state.aliases (exactKey main) ≠ some msgId

theorem Unreached.ingest {mains : List Contribution}
    (unreached : Unreached mains messageId msgId state) (hm : copy ∈ mains)
    (message : copy.messageId = messageId) : Unreached mains messageId msgId (state.ingest copy) := by
  obtain ⟨_, hst, isSide, sameMessage⟩ := unreached.side
  have elsewhere : state.place copy ≠ msgId := by
    intro hh
    obtain ⟨hk, hf⟩ | ⟨-, looseId, hk, hf, -⟩ | ⟨-, opens, -⟩ := target_cases state copy
    · obtain ⟨target, isTarget⟩ := Option.isSome_iff_exists.mp hf
      have placed : state.place copy = target := by simp [place, isTarget]
      exact unreached.not_exact _ hm (by rw [hk, isTarget, ← placed, hh])
    · have placed : state.place copy = looseId := by simp [place, hf]
      rw [looseKey, message, ← placed, hh] at hk
      exact unreached.not_loose hk
    · have placed : state.place copy = state.next := by simp [place, opens]
      have bound := unreached.linked.row_lt_next _ _ hst
      rw [← hh, placed] at bound
      exact lt_irrefl _ bound
  refine ⟨unreached.linked.ingest _, ⟨_, ?_, isSide, sameMessage⟩, ?_, ?_⟩
  · rw [ingest_row_other elsewhere.symm, hst]
  · rw [← message]
    exact fun isLoose => elsewhere (Option.some.inj ((ingest_alias_self _).2.symm.trans isLoose))
  · intro main inMains isExact
    by_cases hs : exactKey main = exactKey copy
    · rw [hs, (ingest_alias_self _).1] at isExact
      exact elsewhere (Option.some.inj isExact)
    · rw [ingest_alias_other hs (by simp [exactKey, looseKey])] at isExact
      exact unreached.not_exact _ inMains isExact

theorem Unreached.foldl {mains copies : List Contribution}
    (unreached : Unreached mains messageId msgId state) (subset : copies ⊆ mains)
    (messages : ∀ main ∈ mains, main.messageId = messageId) :
    Unreached mains messageId msgId (copies.foldl Copies.ingest state) := by
  induction copies generalizing state with
  | nil => exact unreached
  | cons first _ ih =>
    have hm : first ∈ mains := subset (by simp)
    exact ih (unreached.ingest hm (messages _ hm)) fun _ inRest => subset (by simp [inRest])

theorem Copies.Linked.side_stays
    (linked : state.Linked) (areSides : ∀ side ∈ sides, side.isSidechain)
    (hst : ∃ value, state.row msgId = some value ∧ value.isSidechain ∧
      value.messageId = messageId) :
    ∃ value, (sides.foldl Copies.ingest state).row msgId = some value ∧
      value.isSidechain ∧ value.messageId = messageId := by
  induction sides generalizing state with
  | nil => exact hst
  | cons side _ ih =>
    refine ih (linked.ingest side) (fun _ hm => areSides _ (by simp [hm])) ?_
    obtain ⟨value, hlo, isSide, message⟩ := hst
    by_cases hh : msgId = state.place side
    · subst hh
      obtain ⟨-, isNext, -, free⟩ | ⟨_, -, held, hs, wins⟩ := linked.place_cases side
      · rw [isNext, free] at hlo
        cases hlo
      · cases held.symm.trans hlo
        refine ⟨_, ingest_row_self side, ?_, ?_⟩ <;> rw [wins] <;> split_ifs
        · exact areSides side (by simp)
        · exact isSide
        · exact hs.symm.trans message
        · exact message
    · exact ⟨_, by rw [ingest_row_other hh, hlo], isSide, message⟩

/-- Two sidechain copies under different keys first, the first of them under a key of no main
copy: a sidechain row is left over. -/
theorem two_sides_first (firstSide : first.isSidechain) (secondSide : second.isSidechain)
    (message : second.messageId = first.messageId) (hne : exactKey second ≠ exactKey first)
    (areMains : ∀ main ∈ mains, main.messageId = first.messageId ∧ exactKey main ≠ exactKey first)
    (areSides : ∀ side ∈ sides, side.isSidechain)
    (areOthers : ∀ other ∈ others, other.messageId ≠ first.messageId) :
    ∃ value, (ingestAll ([first, second] ++ (mains ++ (sides ++ others)))).Holds value ∧
      value.messageId = first.messageId ∧ value.isSidechain := by
  have opened : (Copies.empty.ingest first).row 1 = some first := rfl
  have isLoose : (Copies.empty.ingest first).aliases (looseKey second) = some 1 := by
    rw [looseKey_eq_iff.mpr message]
    exact (ingest_alias_self _).2
  have unknown : (Copies.empty.ingest first).aliases (exactKey second) = none := by
    rw [ingest_alias_other hne (by simp [exactKey, looseKey])]
    rfl
  have hap : (Copies.empty.ingest first).place second = 2 := by
    have opens : (Copies.empty.ingest first).target second = none := by
      simp [target, unknown, isLoose, opened, firstSide, secondSide]
    rw [place, opens]
    rfl
  have start : Unreached mains first.messageId 1 (ingestAll [first, second]) := by
    have linked := linked_ingestAll [first, second]
    refine ⟨linked, ⟨_, ?_, firstSide, rfl⟩, ?_, ?_⟩
    · show ((Copies.empty.ingest first).ingest second).row 1 = some first
      rw [ingest_row_other (by rw [hap]; decide), opened]
    · show ((Copies.empty.ingest first).ingest second).aliases (.loose first.messageId) ≠ some 1
      rw [← message, ← looseKey, (ingest_alias_self _).2, hap]
      decide
    · intro main hm
      show ((Copies.empty.ingest first).ingest second).aliases (exactKey main) ≠ some 1
      by_cases hs : exactKey main = exactKey second
      · rw [hs, (ingest_alias_self _).1, hap]
        decide
      · rw [ingest_alias_other hs (by simp [exactKey, looseKey]),
          ingest_alias_other (areMains _ hm).2 (by simp [exactKey, looseKey])]
        intro h
        cases h
  have afterMains := start.foldl (List.Subset.refl _) fun _ hm => (areMains _ hm).1
  obtain ⟨value, hst, isSide, sameMessage⟩ := afterMains.linked.side_stays areSides afterMains.side
  refine ⟨_, ⟨1, ?_⟩, sameMessage, isSide⟩
  rw [ingestAll_append, foldl_append, foldl_append]
  exact ((afterMains.linked.foldl _).row_of_other_messages areOthers sameMessage).mpr hst

end

section

/-- Ingests copies in the given order into a ledger that has burn samples and no messages. -/
def ingestMessages (samples : List BurnSample) (copies : List Contribution) : Ledger :=
  copies.foldl (fun db copy => commit (fun db => (ingestContribution db copy).map Prod.fst) db)
    { Ledger.empty with burnSamples := samples }

def messageRows (db : Ledger) : List Contribution := db.messages.map Prod.snd

variable {db : Ledger}

theorem foldl_ingest_copies (hso : Sound db) (linked : db.copies.Linked)
    (copies : List Contribution) :
    let after := copies.foldl
      (fun db copy => commit (fun db => (ingestContribution db copy).map Prod.fst) db) db
    Sound after ∧ after.copies = copies.foldl Copies.ingest db.copies := by
  induction copies generalizing db with
  | nil => exact ⟨hso, rfl⟩
  | cons copy _ ih =>
    obtain ⟨after, _, hd, hs⟩ := ingestContribution_copies linked hso.ids_fresh copy
    have committed : commit (fun db => (ingestContribution db copy).map Prod.fst) db = after := by
      simp [commit, hd]
    simp only [foldl_cons, committed, ← hs]
    exact ih (hso.ingest hd) (by rw [hs]; exact linked.ingest _)

variable (samples : List BurnSample)

theorem ingestMessages_copies (copies : List Contribution) : Sound (ingestMessages samples copies) ∧
      (ingestMessages samples copies).copies = ingestAll copies := by
  have hso := sound_of_samples samples
  have linked : ({ Ledger.empty with burnSamples := samples } : Ledger).copies.Linked := linked_empty
  exact foldl_ingest_copies hso linked _

theorem mem_messageRows (hso : Sound db) (value : Contribution) :
    value ∈ messageRows db ↔ db.copies.Holds value := by
  simp only [messageRows, mem_map, Copies.Holds, Ledger.copies, ← mem_messages_iff hso]
  constructor
  · rintro ⟨⟨msgId, _⟩, hm, rfl⟩
    exact ⟨_, hm⟩
  · rintro ⟨msgId, hm⟩
    exact ⟨(_, _), hm, rfl⟩

theorem messageRows_nodup (hso : Sound db) (linked : db.copies.Linked) :
    (messageRows db).Nodup := by
  refine List.Nodup.map_on ?_ (List.Nodup.of_map _ hso.ids_nodup)
  rintro ⟨firstId, _⟩ inFirst ⟨secondId, _⟩ inSecond hs
  have hk := linked.row_alias firstId _ ((mem_messages_iff hso _ _).mp inFirst)
  have also := linked.row_alias secondId _ ((mem_messages_iff hso _ _).mp inSecond)
  subst hs
  cases hk.symm.trans also
  rfl

theorem messageRows_perm_iff (first second : List Contribution) :
    (messageRows (ingestMessages samples first)).Perm (messageRows (ingestMessages samples second)) ↔
      ∀ value, (ingestAll first).Holds value ↔ (ingestAll second).Holds value := by
  obtain ⟨firstSound, firstCopies⟩ := ingestMessages_copies _ _
  obtain ⟨secondSound, secondCopies⟩ := ingestMessages_copies _ _
  have firstLinked := linked_ingestAll first
  have secondLinked := linked_ingestAll second
  rw [← firstCopies] at firstLinked
  rw [← secondCopies] at secondLinked
  rw [perm_ext_iff_of_nodup (messageRows_nodup firstSound firstLinked)
    (messageRows_nodup secondSound secondLinked)]
  simp only [mem_messageRows firstSound, mem_messageRows secondSound, firstCopies, secondCopies]

end

section

variable {samples : List BurnSample} {copies : List Contribution}

/-- Any two orders of the copies leave the same message rows, up to storage ids. -/
def RowsIgnoreOrder (samples : List BurnSample) (copies : List Contribution) : Prop :=
  ∀ first second, first.Perm copies → second.Perm copies →
    (messageRows (ingestMessages samples first)).Perm (messageRows (ingestMessages samples second))

theorem RowsIgnoreOrder.holds_iff (ignores : RowsIgnoreOrder samples copies)
    {first second : List Contribution} (isFirst : first.Perm copies) (isSecond : second.Perm copies)
    (value : Contribution) : (ingestAll first).Holds value ↔ (ingestAll second).Holds value :=
  (messageRows_perm_iff samples first second).mp (ignores first second isFirst isSecond) value

def mainsOf (messageId : String) (copies : List Contribution) : List Contribution :=
  (copies.filter fun copy => copy.messageId = messageId).filter fun copy => !copy.isSidechain

def sidesOf (messageId : String) (copies : List Contribution) : List Contribution :=
  (copies.filter fun copy => copy.messageId = messageId).filter fun copy => !(!copy.isSidechain)

def othersOf (messageId : String) (copies : List Contribution) : List Contribution :=
  copies.filter fun copy => !decide (copy.messageId = messageId)

theorem split_perm (messageId : String) (copies : List Contribution) :
    (mainsOf messageId copies ++ (sidesOf messageId copies ++ othersOf messageId copies)).Perm
      copies := by
  rw [← append_assoc]
  exact ((filter_append_perm _ _).append_right _).trans (filter_append_perm _ _)

variable {messageId : String} {copy : Contribution}

theorem mem_mainsOf : copy ∈ mainsOf messageId copies ↔
      copy ∈ copies ∧ copy.isSidechain = false ∧ copy.messageId = messageId := by
  simp [mainsOf]

theorem mem_sidesOf : copy ∈ sidesOf messageId copies ↔
      copy ∈ copies ∧ copy.isSidechain ∧ copy.messageId = messageId := by
  simp [sidesOf]

theorem mem_othersOf :
    copy ∈ othersOf messageId copies ↔ copy ∈ copies ∧ copy.messageId ≠ messageId := by
  simp [othersOf]

theorem mains_first_of_mem {main : Contribution} (hm : main ∈ copies)
    (isMain : main.isSidechain = false) :
    ∃ order, order.Perm copies ∧
      (∀ value, (ingestAll order).Holds value → value.messageId = main.messageId →
        value.isSidechain = false) ∧
      ∀ other ∈ copies, other.messageId = main.messageId → other.isSidechain = false →
        ∃ value, (ingestAll order).Holds value ∧ exactKey value = exactKey other := by
  have areMains : ∀ copy ∈ mainsOf main.messageId copies,
      copy.isSidechain = false ∧ copy.messageId = main.messageId :=
    fun _ inMains => (mem_mainsOf.mp inMains).2
  have areSides : ∀ copy ∈ sidesOf main.messageId copies,
      copy.isSidechain ∧ copy.messageId = main.messageId :=
    fun _ inSides => (mem_sidesOf.mp inSides).2
  have areOthers : ∀ copy ∈ othersOf main.messageId copies, copy.messageId ≠ main.messageId :=
    fun _ inOthers => (mem_othersOf.mp inOthers).2
  obtain ⟨rows, keys⟩ := mains_first areMains
    (ne_nil_of_mem (mem_mainsOf.mpr ⟨hm, isMain, rfl⟩)) areSides areOthers
  exact ⟨_, split_perm main.messageId _, rows,
    fun _ inCopies message kind => keys _ (mem_mainsOf.mpr ⟨inCopies, kind, message⟩)⟩

theorem pair_first_perm (inFirst : first ∈ copies)
    (inSecond : second ∈ copies) (differ : second ≠ first) :
    ([first, second] ++ ((copies.erase first).erase second)).Perm copies := by
  have later : second ∈ copies.erase first := (mem_erase_of_ne differ).mpr inSecond
  exact ((perm_cons_erase later).symm.cons _).trans (perm_cons_erase inFirst).symm

section

variable (ignores : RowsIgnoreOrder samples copies) {main side other : Contribution}
  (inMain : main ∈ copies) (inSide : side ∈ copies) (inOther : other ∈ copies)
  (isMain : main.isSidechain = false) (isSide : side.isSidechain)
include ignores inMain inSide inOther isMain isSide

/-- A sidechain key that is also a main key is the only main key of its message. -/
theorem RowsIgnoreOrder.shared_key
    (otherMain : other.isSidechain = false) (message : other.messageId = side.messageId)
    (shared : exactKey main = exactKey side) : exactKey other = exactKey side := by
  by_contra hne
  obtain ⟨_, isOrder, -, keys⟩ := mains_first_of_mem inMain isMain
  have sameMessage := exactKey_messageId shared
  obtain ⟨_, holdsFirst, firstKey⟩ := keys _ inMain rfl isMain
  obtain ⟨_, holdsSecond, secondKey⟩ :=
    keys _ inOther (message.trans sameMessage.symm) otherMain
  have hn : other ≠ side := fun hs => hne (congrArg exactKey hs)
  have isPair := pair_first_perm inSide inOther hn
  obtain ⟨_, sideRow, otherRow⟩ :=
    side_then_main_share ((copies.erase side).erase _) isSide otherMain message hne
  obtain ⟨firstId, hst⟩ := (ignores.holds_iff isOrder isPair _).mp holdsFirst
  obtain ⟨secondId, hlo⟩ := (ignores.holds_iff isOrder isPair _).mp holdsSecond
  have linked := linked_ingestAll ([side, other] ++ ((copies.erase side).erase other))
  have firstAlias := linked.row_alias firstId _ hst
  have secondAlias := linked.row_alias secondId _ hlo
  rw [firstKey, shared, sideRow] at firstAlias
  rw [secondKey, otherRow] at secondAlias
  cases firstAlias
  cases secondAlias
  cases hst.symm.trans hlo
  exact hne (secondKey.symm.trans (firstKey.trans shared))

theorem RowsIgnoreOrder.one_side_key
    (otherSide : other.isSidechain) (mainMessage : main.messageId = side.messageId)
    (message : other.messageId = side.messageId)
    (free : ∀ kept ∈ copies, kept.isSidechain = false → kept.messageId = side.messageId →
      exactKey kept ≠ exactKey side) : exactKey other = exactKey side := by
  by_contra hne
  obtain ⟨_, isOrder, rows, -⟩ := mains_first_of_mem inMain isMain
  have hn : other ≠ side := fun hs => hne (congrArg exactKey hs)
  have rest : ((copies.erase side).erase other) ⊆ copies := fun _ hm =>
    mem_of_mem_erase (mem_of_mem_erase hm)
  have isPair :=
    ((split_perm side.messageId _).append_left _).trans (pair_first_perm inSide inOther hn)
  obtain ⟨_, holds, valueMessage, valueSide⟩ := two_sides_first isSide otherSide message hne
    (fun kept inMains => by
      obtain ⟨inRest, kind, hs⟩ := mem_mainsOf.mp inMains
      exact ⟨hs, free kept (rest inRest) kind hs⟩)
    (fun kept inSides => (mem_sidesOf.mp inSides).2.1)
    (fun kept inOthers => (mem_othersOf.mp inOthers).2)
  have kept := rows _ ((ignores.holds_iff isPair isOrder _).mp holds)
    (valueMessage.trans mainMessage.symm)
  rw [valueSide] at kept
  cases kept

end

theorem RowsIgnoreOrder.compatible (ignores : RowsIgnoreOrder samples copies) :
    Compatible copies := by
  intro main inMain side inSide isMain isSide message
  refine ⟨fun _ inOther otherSide otherMessage => ?_,
    fun shared _ inOther otherMain otherMessage =>
      ignores.shared_key inMain inSide inOther isMain isSide otherMain otherMessage shared⟩
  -- one of two different sidechain keys belongs to no main copy
  by_cases free : ∀ kept ∈ copies, kept.isSidechain = false → kept.messageId = side.messageId →
      exactKey kept ≠ exactKey side
  · exact ignores.one_side_key inMain inSide inOther isMain isSide otherSide message otherMessage free
  · push Not at free
    obtain ⟨_, inShares, sharesMain, -, shared⟩ := free
    by_contra hne
    refine hne (ignores.one_side_key inMain inOther inSide isMain otherSide isSide
      (message.trans otherMessage.symm) otherMessage.symm fun kept inKept keptMain keptMessage => ?_).symm
    rw [ignores.shared_key inShares inSide inKept sharesMain isSide keptMain
      (keptMessage.trans otherMessage) shared]
    exact Ne.symm hne

theorem first_keeps_row (hcm : Compatible copies) {kept : Contribution}
    (hm : kept ∈ copies) (survives : Survives copies kept) (unbeaten : Unbeaten copies kept) :
    (ingestAll (kept :: copies.erase kept)).Holds kept := by
  have subset : (copies.erase kept).reverse ++ [kept] ⊆ copies := by
    intro _ hi
    rcases mem_append.mp hi with later | now
    · exact mem_of_mem_erase (mem_reverse.mp later)
    · rwa [mem_singleton.mp now]
  have start : Settled [kept] (Copies.empty.ingest kept) :=
    settled_empty.ingest (hcm.mono (by simpa using hm))
  exact ⟨1, start.keeps_foldl (hcm.mono subset) rfl (survives.mono subset) (unbeaten.mono subset)⟩

theorem RowsIgnoreOrder.tieFree (ignores : RowsIgnoreOrder samples copies) : TieFree copies := by
  intro _ inFirst second inSecond key kind survives unbeaten alsoUnbeaten
  have hcm := ignores.compatible
  have alsoSurvives : Survives copies second := by
    rcases survives with isMain | sides
    · exact .inl (kind.symm.trans isMain)
    · exact .inr fun _ hm hs => sides _ hm (hs.trans (exactKey_messageId key).symm)
  have holdsFirst := first_keeps_row hcm inFirst survives unbeaten
  have holdsSecond := first_keeps_row hcm inSecond alsoSurvives alsoUnbeaten
  have both := (ignores.holds_iff (perm_cons_erase inSecond).symm
    (perm_cons_erase inFirst).symm _).mp holdsSecond
  exact (linked_ingestAll _).holds_unique holdsFirst both key

theorem Compatible.perm {order : List Contribution} (hcm : Compatible copies)
    (tieFree : TieFree copies) (isOrder : order.Perm copies) (value : Contribution) :
    (ingestAll order).Holds value ↔
      value ∈ copies ∧ Survives copies value ∧ Unbeaten copies value := by
  have forth := isOrder.subset
  have back := isOrder.symm.subset
  have ties : TieFree order := fun _ inFirst _ inSecond key kind survives unbeaten also =>
    tieFree _ (forth inFirst) _ (forth inSecond) key kind (survives.mono back)
      (unbeaten.mono back) (also.mono back)
  rw [holds_ingestAll_iff (hcm.mono forth) ties]
  exact ⟨fun ⟨hm, survives, unbeaten⟩ =>
      ⟨forth hm, survives.mono back, unbeaten.mono back⟩,
    fun ⟨hm, survives, unbeaten⟩ =>
      ⟨back hm, survives.mono forth, unbeaten.mono forth⟩⟩

/-- The message rows do not depend on the order of ingestion exactly when the copies are compatible
and free of ties. -/
theorem message_rows_ignore_order_iff (samples : List BurnSample) (copies : List Contribution) :
    (∀ first second, first.Perm copies → second.Perm copies →
      (messageRows (ingestMessages samples first)).Perm
        (messageRows (ingestMessages samples second))) ↔
      Compatible copies ∧ TieFree copies := by
  constructor
  · intro ignores
    have ignores : RowsIgnoreOrder samples copies := ignores
    exact ⟨ignores.compatible, ignores.tieFree⟩
  · rintro ⟨compatible, tieFree⟩ first second isFirst isSecond
    rw [messageRows_perm_iff]
    intro value
    rw [compatible.perm tieFree isFirst, compatible.perm tieFree isSecond]

def copyOf (requestId : String) (sidechain : Bool) : Contribution :=
  { sampleMessage with requestId := some requestId, isSidechain := sidechain }

/-- Two sidechain copies of a message with different request ids, and its main copy: the main copy
first leaves one row of 7 tokens, the main copy last leaves a second, sidechain row. -/
theorem message_rows_depend_on_order :
    messageRows (ingestMessages [] [copyOf "c" false, copyOf "a" true, copyOf "b" true]) =
      [copyOf "c" false] ∧
    messageRows (ingestMessages [] [copyOf "a" true, copyOf "b" true, copyOf "c" false]) =
      [copyOf "a" true, copyOf "c" false] := by
  constructor <;> decide

end

end SessionManager.Usage
