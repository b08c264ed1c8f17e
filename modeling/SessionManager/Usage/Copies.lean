import SessionManager.Usage.Rollup

/-! How the ledger recognises copies of one message, seen apart from windows and totals: rows by
storage id, aliases by key, and the next free id. The ledger's own ingestion is shown to follow
this machine, and every state of the machine keeps its rows and aliases linked. -/
namespace SessionManager.Usage

@[ext] structure Copies where
  row : Nat → Option Contribution
  aliases : AliasKey → Option Nat
  next : Nat

def AliasKey.messageId : AliasKey → String
  | .exact messageId _ => messageId
  | .loose messageId => messageId

namespace Copies

variable (state : Copies)

def target (copy : Contribution) : Option Nat :=
  match state.aliases (exactKey copy) with
  | some msgId => some msgId
  | none =>
    match state.aliases (looseKey copy) with
    | none => none
    | some looseId =>
      if (state.row looseId).any fun incumbent => incumbent.isSidechain ≠ copy.isSidechain
      then some looseId else none

/-- The id of the row that holds a copy's message once it is ingested. -/
def place (copy : Contribution) : Nat := (state.target copy).getD state.next

/-- What that row holds then. -/
def winner (copy : Contribution) : Contribution :=
  match (state.target copy).bind state.row with
  | some incumbent => if shouldReplace copy incumbent then copy else incumbent
  | none => copy

def ingest (copy : Contribution) : Copies where
  row := Function.update state.row (state.place copy) (some (state.winner copy))
  aliases := Function.update (Function.update state.aliases (exactKey copy) (some (state.place copy)))
    (looseKey copy) (some (state.place copy))
  next := if (state.target copy).isSome then state.next else state.next + 1

/-- Aliases lead to rows of their message, and each row is found under its own exact key. -/
structure Linked : Prop where
  alias_row : ∀ key msgId, state.aliases key = some msgId →
    ∃ value, state.row msgId = some value ∧ value.messageId = key.messageId
  row_alias : ∀ msgId value, state.row msgId = some value →
    state.aliases (exactKey value) = some msgId
  row_lt_next : ∀ msgId value, state.row msgId = some value → msgId < state.next

variable {state}

theorem target_cases (state : Copies) (copy : Contribution) :
    state.aliases (exactKey copy) = state.target copy ∧ (state.target copy).isSome ∨
    (state.aliases (exactKey copy) = none ∧ ∃ looseId, state.aliases (looseKey copy) = some looseId ∧
      state.target copy = some looseId ∧
      ∃ incumbent, state.row looseId = some incumbent ∧ incumbent.isSidechain ≠ copy.isSidechain) ∨
    (state.aliases (exactKey copy) = none ∧ state.target copy = none ∧
      ∀ looseId incumbent, state.aliases (looseKey copy) = some looseId →
        state.row looseId = some incumbent → incumbent.isSidechain = copy.isSidechain) := by
  unfold target
  cases exactAlias : state.aliases (exactKey copy) with
  | some => simp
  | none =>
    cases looseAlias : state.aliases (looseKey copy) with
    | none => simp
    | some looseId =>
      cases hf : state.row looseId with
      | none =>
        refine .inr (.inr ⟨rfl, by simp [hf], ?_⟩)
        rintro _ incumbent ⟨⟩ hlo
        simp [hf] at hlo
      | some incumbent =>
        by_cases hne : incumbent.isSidechain = copy.isSidechain
        · refine .inr (.inr ⟨rfl, by simp [hf, hne], ?_⟩)
          rintro _ _ ⟨⟩ hlo
          rw [hf] at hlo
          cases hlo
          exact hne
        · exact .inr (.inl ⟨rfl, looseId, rfl, by simp [hf, hne], _, hf, hne⟩)

theorem ingest_alias_self (copy : Contribution) :
    (state.ingest copy).aliases (exactKey copy) = some (state.place copy) ∧
      (state.ingest copy).aliases (looseKey copy) = some (state.place copy) := by
  simp [ingest, exactKey, looseKey]

variable {copy : Contribution} {msgId : Nat} {key : AliasKey}

theorem ingest_alias_other (exact : key ≠ exactKey copy)
    (loose : key ≠ looseKey copy) : (state.ingest copy).aliases key = state.aliases key := by
  simp [ingest, exact, loose]

theorem ingest_row_self (copy : Contribution) :
    (state.ingest copy).row (state.place copy) = some (state.winner copy) := by
  simp [ingest]

theorem ingest_row_other (other : msgId ≠ state.place copy) :
    (state.ingest copy).row msgId = state.row msgId := by
  simp [ingest, other]

theorem ingest_alias_exact
    (exact : ∀ messageId, key ≠ .loose messageId) (hk : state.aliases key = some msgId) :
    (state.ingest copy).aliases key = some msgId := by
  by_cases hs : key = exactKey copy
  · subst hs
    rw [(ingest_alias_self _).1, place, target, hk]
    rfl
  · rw [ingest_alias_other hs (exact _), hk]

theorem Linked.target_row (linked : state.Linked) (hf : state.target copy = some msgId) :
    ∃ incumbent, state.row msgId = some incumbent ∧ incumbent.messageId = copy.messageId := by
  obtain ⟨hk, -⟩ | ⟨-, _, hk, hs, -⟩ | ⟨-, none, -⟩ := target_cases _ _
  · exact linked.alias_row (exactKey _) _ (hk.trans hf)
  · cases hs.symm.trans hf
    exact linked.alias_row (looseKey _) _ hk
  · cases none.symm.trans hf

theorem Linked.place_cases (linked : state.Linked) (copy : Contribution) :
    (state.target copy = none ∧ state.place copy = state.next ∧ state.winner copy = copy ∧
      state.row state.next = none) ∨
    ∃ incumbent, state.target copy = some (state.place copy) ∧
      state.row (state.place copy) = some incumbent ∧ incumbent.messageId = copy.messageId ∧
      state.winner copy = if shouldReplace copy incumbent then copy else incumbent := by
  cases hf : state.target copy with
  | none =>
    refine .inl ⟨rfl, by simp [place, hf], by simp [winner, hf], ?_⟩
    cases free : state.row state.next with
    | none => rfl
    | some => exact absurd (linked.row_lt_next _ _ free) (lt_irrefl _)
  | some msgId =>
    obtain ⟨incumbent, hlo, hs⟩ := linked.target_row hf
    have hh : state.place copy = msgId := by simp [place, hf]
    rw [hh]
    exact .inr ⟨_, rfl, hlo, hs, by simp [winner, hf, hlo]⟩

theorem Linked.winner_messageId (linked : state.Linked) (copy : Contribution) :
    (state.winner copy).messageId = copy.messageId := by
  obtain ⟨-, -, isCopy, -⟩ | ⟨_, -, -, hs, hse⟩ := linked.place_cases _
  · rw [isCopy]
  · rw [hse]
    split_ifs
    · rfl
    · exact hs

theorem Linked.ingest (linked : state.Linked) (copy : Contribution) :
    (state.ingest copy).Linked where
  alias_row := by
    intro key msgId hk
    by_cases hh : msgId = state.place copy
    · subst hh
      refine ⟨state.winner _, ingest_row_self _, ?_⟩
      rw [linked.winner_messageId]
      by_cases exact : key = exactKey copy
      · rw [exact]; rfl
      by_cases loose : key = looseKey copy
      · rw [loose]; rfl
      rw [ingest_alias_other exact loose] at hk
      obtain ⟨value, hlo, hs⟩ := linked.alias_row key _ hk
      obtain ⟨-, isNext, -, free⟩ | ⟨incumbent, -, hst, also, -⟩ := linked.place_cases _
      · rw [isNext, free] at hlo
        cases hlo
      · cases hlo.symm.trans hst
        rw [← also, hs]
    · have exact : key ≠ exactKey copy := by
        rintro rfl
        rw [(ingest_alias_self _).1] at hk
        exact hh (Option.some.inj hk).symm
      have loose : key ≠ looseKey copy := by
        rintro rfl
        rw [(ingest_alias_self _).2] at hk
        exact hh (Option.some.inj hk).symm
      rw [ingest_alias_other exact loose] at hk
      rw [ingest_row_other hh]
      exact linked.alias_row key _ hk
  row_alias := by
    intro msgId value hlo
    by_cases hh : msgId = state.place copy
    · subst hh
      rw [ingest_row_self] at hlo
      obtain rfl := Option.some.inj hlo
      obtain ⟨-, -, isCopy, -⟩ | ⟨incumbent, -, hst, -, hse⟩ := linked.place_cases _
      · rw [isCopy, (ingest_alias_self _).1]
      · rw [hse]
        split_ifs
        · exact (ingest_alias_self _).1
        · exact ingest_alias_exact (by simp [exactKey]) (linked.row_alias _ _ hst)
    · rw [ingest_row_other hh] at hlo
      exact ingest_alias_exact (by simp [exactKey]) (linked.row_alias _ _ hlo)
  row_lt_next := by
    intro msgId value hlo
    have grows : state.next ≤ (state.ingest copy).next := by
      simp only [Copies.ingest]
      split_ifs <;> omega
    by_cases hh : msgId = state.place copy
    · subst hh
      obtain ⟨opens, isNext, -, -⟩ | ⟨incumbent, -, hst, -, -⟩ := linked.place_cases copy
      · simp [Copies.ingest, opens, isNext]
      · exact lt_of_lt_of_le (linked.row_lt_next _ _ hst) grows
    · rw [ingest_row_other hh] at hlo
      exact lt_of_lt_of_le (linked.row_lt_next _ _ hlo) grows

def empty : Copies := ⟨fun _ => none, fun _ => none, 1⟩

theorem linked_empty : empty.Linked := ⟨by simp [empty], by simp [empty], by simp [empty]⟩

def ingestAll (copies : List Contribution) : Copies := copies.foldl ingest empty

theorem ingestAll_append (first second : List Contribution) :
    ingestAll (first ++ second) = second.foldl ingest (ingestAll first) := List.foldl_append

theorem foldl_alias_exact {copies : List Contribution}
    (exact : ∀ messageId, key ≠ .loose messageId) (hk : state.aliases key = some msgId) :
    (copies.foldl ingest state).aliases key = some msgId := by
  induction copies generalizing state with
  | nil => exact hk
  | cons _ _ ih => exact ih (ingest_alias_exact exact hk)

theorem Linked.foldl (linked : state.Linked) (copies : List Contribution) :
    (copies.foldl Copies.ingest state).Linked := by
  induction copies generalizing state with
  | nil => exact linked
  | cons _ _ ih => exact ih (linked.ingest _)

theorem linked_ingestAll (copies : List Contribution) : (ingestAll copies).Linked :=
  linked_empty.foldl copies

end Copies

section

def Ledger.copies (db : Ledger) : Copies := ⟨loadContribution db, db.aliases, db.nextId⟩

theorem matchedId_eq_target {db : Ledger} (linked : db.copies.Linked) (copy : Contribution) :
    matchedId db copy = some (db.copies.target copy) := by
  unfold matchedId Copies.target aliasTarget
  simp only [Ledger.copies]
  cases exactAlias : db.aliases (exactKey copy) with
  | some => rfl
  | none =>
    cases looseAlias : db.aliases (looseKey copy) with
    | none => rfl
    | some looseId =>
      obtain ⟨_, hlo, -⟩ := linked.alias_row (looseKey _) looseId looseAlias
      simp only [Ledger.copies] at hlo
      simp only [hlo, Option.map_some, Option.any_some, decide_eq_true_eq]

theorem upsertAliases_copies (db : Ledger) (copy : Contribution) (msgId : Nat) :
    (upsertAliases db copy msgId).copies =
      ⟨loadContribution db, Function.update (Function.update db.aliases (exactKey copy) (some msgId))
        (looseKey copy) (some msgId), db.nextId⟩ := rfl

/-- On a linked ledger ingestion never fails and does what the machine of copies does. -/
theorem ingestContribution_copies {db : Ledger} (linked : db.copies.Linked)
    (hfr : ∀ row ∈ db.messages, row.1 < db.nextId) (copy : Contribution) :
    ∃ after outcome, ingestContribution db copy = some (after, outcome) ∧
      after.copies = db.copies.ingest copy := by
  unfold ingestContribution
  rw [matchedId_eq_target linked _]
  obtain ⟨opens, isNext, isCopy, -⟩ | ⟨incumbent, hf, hst, -, hse⟩ :=
    linked.place_cases _
  · rw [opens]
    have hfm := materializeContribution_frame (insertContribution db copy).1 db.nextId copy
    refine ⟨_, _, rfl, ?_⟩
    rw [upsertAliases_copies]
    refine Copies.ext (funext fun msgId => ?_) ?_ ?_
    · simp only [Copies.ingest, isNext, isCopy, Function.update_apply]
      exact (hfm.load _).trans (loadContribution_insert db _ hfr _)
    · simp only [Copies.ingest, isNext]
      exact congrArg (fun aliases => Function.update (Function.update aliases _ _) _ _) hfm.aliases
    · simp only [Copies.ingest, opens]
      exact hfm.nextId
  · have hlo : loadContribution db (db.copies.place copy) = some incumbent := hst
    simp only [hf, hlo]
    by_cases better : shouldReplace copy incumbent
    · have hfm := rewriteContribution_frame db (db.copies.place copy) incumbent copy
      rw [if_pos better] at hse ⊢
      refine ⟨_, _, rfl, ?_⟩
      rw [upsertAliases_copies, hfm.1, hfm.2]
      refine Copies.ext (funext fun _ => ?_) rfl ?_
      · simp only [Copies.ingest, hse, Function.update_apply, rewriteContribution_load]
        split_ifs with hh
        · rw [hh, hlo, Option.map_some]
        · rfl
      · simp only [Copies.ingest, hf]
        rfl
    · rw [if_neg better] at hse ⊢
      refine ⟨_, _, rfl, ?_⟩
      rw [upsertAliases_copies]
      refine Copies.ext (funext fun _ => ?_) rfl ?_
      · simp only [Copies.ingest, hse, Function.update_apply]
        split_ifs with hh
        · rw [hh, hlo]
        · rfl
      · simp only [Copies.ingest, hf]
        rfl

end

end SessionManager.Usage
