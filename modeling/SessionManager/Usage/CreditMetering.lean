import SessionManager.Usage.BurnOrder

/-! Whether tokens are paid by credits. A plan without premium models pays for the model of the scoped
window; otherwise credits are spent when extra usage is on and a window that applies to the model is
full. The code goes through the samples from the newest on and takes the first of each window. -/
namespace SessionManager.Usage
open Foundation Foundation.Selection List

structure AccountMetadata where
  planTier : Option String
  extraUsageEnabled : Option Bool

structure MetadataRow extends AccountMetadata where
  accountKey : String
  observedAt : String

structure MeteredAccount extends AccountMetadata where
  provider : String

/-- The tables `accounts`, `account_metadata_history` and `burn_samples`. -/
structure MeteringTables where
  accounts : String → Option MeteredAccount
  history : List MetadataRow
  samples : List BurnRow

section

variable (tables : MeteringTables) (accountKey timestamp model : String)

def accountMetadataAt : AccountMetadata :=
  let rows := tables.history.filter fun row => row.accountKey = accountKey
  let historical := ((rows.filter fun row => row.observedAt ≤ timestamp).insertionSort
    fun first second => second.observedAt ≤ first.observedAt).head?
  let bootstrap := (rows.insertionSort
    fun first second => first.observedAt ≤ second.observedAt).head?
  ((historical.or bootstrap).map MetadataRow.toAccountMetadata).getD
    (((tables.accounts accountKey).map MeteredAccount.toAccountMetadata).getD ⟨none, none⟩)

def BurnRow.labelledAt (row : BurnRow) : Bool :=
  row.accountKey = accountKey && row.windowKind = "weekly_scoped" && row.observedAt ≤ timestamp &&
    row.windowScope.isSome

def scopedModelAt : Option String :=
  ((tables.samples.filter (BurnRow.labelledAt accountKey timestamp)).insertionSort
    BurnRow.notBefore).head?.bind fun row => row.windowScope

def planExcludesPremium (planTier : String) : Bool :=
  let plan := planTier.toLower
  plan = "pro" || containsText plan "standard_team" || containsText plan "team_standard"

def excludedPremium (account : MeteredAccount) : Bool :=
  account.provider = "claude" &&
    (accountMetadataAt tables accountKey timestamp).planTier.any planExcludesPremium &&
    (scopedModelAt tables accountKey timestamp).any (modelMatchesScope model)

def BurnRow.windowKey (row : BurnRow) : String × Option String := (row.windowKind, row.windowScope)

def appliesTo (window : String × Option String) : Bool :=
  window.1 ≠ "weekly_scoped" || window.2.any (modelMatchesScope model)

/-- The sample is of the account, observed by then, and its window covers the time. -/
def BurnRow.standsAt (row : BurnRow) : Bool :=
  row.accountKey = accountKey && row.observedAt ≤ timestamp && row.windowStart ≤ timestamp &&
    timestamp < row.resetsAt

def anyExhausted : (seen : List (String × Option String)) → List BurnRow → Bool
  | _, [] => false
  | seen, row :: rest =>
    row.windowKey ∉ seen && appliesTo model row.windowKey && 100 ≤ row.percent ||
      anyExhausted (row.windowKey :: seen) rest

def creditMetered (host : Host) (instant : Int) : Bool :=
  match tables.accounts accountKey with
  | none => false
  | some account =>
    let timestamp := host.formatTimestamp instant
    excludedPremium tables accountKey timestamp model account ||
      anyExhausted model [] ((tables.samples.filter
        (BurnRow.standsAt accountKey timestamp)).insertionSort BurnRow.notBefore) &&
      (accountMetadataAt tables accountKey timestamp).extraUsageEnabled.getD false

end

section

variable {tables : MeteringTables} {model : String} {rows : List BurnRow}

def LatestIn (rows : List BurnRow) (row : BurnRow) : Prop :=
  row ∈ rows ∧ ∀ other ∈ rows, other.windowKey = row.windowKey → row.notBefore other

theorem notBefore_antisymm {one two : BurnRow} (first : one.notBefore two)
    (second : two.notBefore one) : one.id = two.id := by
  rcases first with less | ⟨hs, less⟩
  · rcases second with more | ⟨hs, _⟩
    · exact absurd less (lt_asymm more)
    · exact absurd hs less.ne'
  · rcases second with more | ⟨_, more⟩
    · exact absurd hs more.ne'
    · exact le_antisymm more less

/-- The scan answers for the latest sample of each window that it has not seen. -/
theorem anyExhausted_iff (sorted : rows.Pairwise BurnRow.notBefore)
    (hn : (rows.map BurnRow.id).Nodup) (seen : List (String × Option String)) :
    anyExhausted model seen rows ↔ ∃ row, LatestIn rows row ∧ row.windowKey ∉ seen ∧
      appliesTo model row.windowKey ∧ 100 ≤ row.percent := by
  induction rows generalizing seen with
  | nil => simp [anyExhausted, LatestIn]
  | cons first _ ih =>
    obtain ⟨newer, sorted⟩ := pairwise_cons.mp sorted
    obtain ⟨own, hn⟩ := nodup_cons.mp hn
    have refl : first.notBefore first := .inr ⟨rfl, le_rfl⟩
    rw [anyExhausted, Bool.or_eq_true, ih sorted hn]
    simp only [Bool.and_eq_true, decide_eq_true_eq, mem_cons, not_or]
    constructor
    · rintro (⟨⟨unseen, applies⟩, full⟩ | ⟨row, ⟨hm, latest⟩, ⟨other, unseen⟩, meets⟩)
      · refine ⟨_, ⟨mem_cons_self, ?_⟩, unseen, applies, full⟩
        intro row hm _
        rcases mem_cons.mp hm with rfl | later
        · exact refl
        · exact newer row later
      · refine ⟨row, ⟨mem_cons_of_mem _ hm, ?_⟩, unseen, meets⟩
        intro another among hs
        rcases mem_cons.mp among with rfl | later
        · exact absurd hs.symm other
        · exact latest _ later hs
    · rintro ⟨row, ⟨hm, latest⟩, unseen, meets⟩
      rcases mem_cons.mp hm with rfl | later
      · exact .inl ⟨⟨unseen, meets.1⟩, meets.2⟩
      · refine .inr ⟨row, ⟨later, fun _ among => latest _ (mem_cons_of_mem _ among)⟩,
          ⟨?_, unseen⟩, meets⟩
        -- the first row is not older and, with another id, newer
        intro hs
        rw [notBefore_antisymm (newer row later) (latest _ mem_cons_self hs.symm)] at own
        exact own (mem_map_of_mem later)

/-- The metadata of an account that count at a time: those last observed by then, or else the first
that were ever observed, or else those of the account itself. -/
inductive MetadataAt (tables : MeteringTables) (accountKey timestamp : String)
    (account : MeteredAccount) : AccountMetadata → Prop
  | latest {row : MetadataRow} (mem : row ∈ tables.history) (own : row.accountKey = accountKey)
      (past : row.observedAt ≤ timestamp)
      (newest : ∀ other ∈ tables.history, other.accountKey = accountKey →
        other.observedAt ≤ timestamp → other.observedAt ≤ row.observedAt) :
      MetadataAt tables accountKey timestamp account row.toAccountMetadata
  | first {row : MetadataRow} (mem : row ∈ tables.history) (own : row.accountKey = accountKey)
      (future : ∀ other ∈ tables.history, other.accountKey = accountKey →
        ¬other.observedAt ≤ timestamp)
      (oldest : ∀ other ∈ tables.history, other.accountKey = accountKey →
        row.observedAt ≤ other.observedAt) :
      MetadataAt tables accountKey timestamp account row.toAccountMetadata
  | unobserved (absent : ∀ other ∈ tables.history, other.accountKey ≠ accountKey) :
      MetadataAt tables accountKey timestamp account account.toAccountMetadata

/-- The plan has no premium models, and the model is the one that the latest label names. -/
structure ExcludedPremium (tables : MeteringTables) (accountKey timestamp model : String)
    (provider : String) (metadata : AccountMetadata) : Prop where
  claude : provider = "claude"
  plan : ∃ planTier, metadata.planTier = some planTier ∧ planExcludesPremium planTier
  named : ∃ row ∈ tables.samples, row.labelledAt accountKey timestamp ∧
    (∀ other ∈ tables.samples, other.labelledAt accountKey timestamp → row.notBefore other) ∧
    ∃ scope, row.windowScope = some scope ∧ modelMatchesScope model scope

section

variable {accountKey timestamp : String} {account : MeteredAccount}

theorem metadataAt_lookup (known : tables.accounts accountKey = some account) :
    MetadataAt tables accountKey timestamp account
      (accountMetadataAt tables accountKey timestamp) := by
  simp only [accountMetadataAt]
  generalize own : tables.history.filter (fun row => row.accountKey = accountKey) = rows
  have mem (row : MetadataRow) :
      row ∈ rows ↔ row ∈ tables.history ∧ row.accountKey = accountKey := by simp [← own]
  cases historical : ((rows.filter fun row => row.observedAt ≤ timestamp).insertionSort
      fun first second => second.observedAt ≤ first.observedAt).head? with
  | some row =>
    obtain ⟨inRows, past⟩ := mem_filter.mp (mem_of_first historical)
    obtain ⟨inHistory, isOwn⟩ := (mem row).mp inRows
    simp only [Option.some_or, Option.map_some, Option.getD_some]
    refine .latest inHistory isOwn (of_decide_eq_true past) fun other among isOther before => ?_
    exact least_of_first (fun row : MetadataRow => OrderDual.toDual row.observedAt) historical
      other (mem_filter.mpr ⟨(mem other).mpr ⟨among, isOther⟩, decide_eq_true before⟩)
  | none =>
    have future : ∀ row ∈ rows, ¬row.observedAt ≤ timestamp := by
      intro row hm
      have nothing := eq_nil_of_first historical
      simpa using filter_eq_nil_iff.mp nothing row hm
    cases bootstrap : (rows.insertionSort
        fun first second => first.observedAt ≤ second.observedAt).head? with
    | some row =>
      obtain ⟨inHistory, isOwn⟩ := (mem row).mp (mem_of_first bootstrap)
      simp only [Option.none_or, Option.map_some, Option.getD_some]
      refine .first inHistory isOwn (fun other among isOther => ?_) fun other among isOther => ?_
      · exact future other ((mem other).mpr ⟨among, isOther⟩)
      · exact least_of_first MetadataRow.observedAt bootstrap other
          ((mem other).mpr ⟨among, isOther⟩)
    | none =>
      simp only [Option.none_or, Option.map_none, Option.getD_none, known, Option.map_some,
        Option.getD_some]
      refine .unobserved fun other among isOther => ?_
      have listed := (mem other).mpr ⟨among, isOther⟩
      rw [eq_nil_of_first bootstrap] at listed
      cases listed

/-- The key of the history leaves one answer. -/
theorem MetadataAt.unique {one other : AccountMetadata}
    (keyed : (tables.history.map fun row => (row.accountKey, row.observedAt)).Nodup)
    (first : MetadataAt tables accountKey timestamp account one)
    (second : MetadataAt tables accountKey timestamp account other) : one = other := by
  have same {row twin : MetadataRow} (inRow : row ∈ tables.history) (inTwin : twin ∈ tables.history)
      (own : row.accountKey = accountKey) (also : twin.accountKey = accountKey)
      (less : row.observedAt ≤ twin.observedAt) (more : twin.observedAt ≤ row.observedAt) :
      row.toAccountMetadata = twin.toAccountMetadata :=
    congrArg _ (inj_on_of_nodup_map keyed inRow inTwin
      (Prod.ext (own.trans also.symm) (le_antisymm less more)))
  cases first with
  | latest mem own past newest =>
    cases second with
    | latest memTwin also pastTwin newestTwin =>
      exact same mem memTwin own also (newestTwin _ mem own past) (newest _ memTwin also pastTwin)
    | first _ _ future _ => exact absurd past (future _ mem own)
    | unobserved absent => exact absurd own (absent _ mem)
  | first mem own future oldest =>
    cases second with
    | latest memTwin also pastTwin _ => exact absurd pastTwin (future _ memTwin also)
    | first memTwin also _ oldestTwin =>
      exact same mem memTwin own also (oldest _ memTwin also) (oldestTwin _ mem own)
    | unobserved absent => exact absurd own (absent _ mem)
  | unobserved absent =>
    cases second with
    | latest memTwin also => exact absurd also (absent _ memTwin)
    | first memTwin also => exact absurd also (absent _ memTwin)
    | unobserved => rfl

theorem excludedPremium_iff (keyed : (tables.samples.map BurnRow.id).Nodup) :
    excludedPremium tables accountKey timestamp model account ↔
      ExcludedPremium tables accountKey timestamp model account.provider
        (accountMetadataAt tables accountKey timestamp) := by
  unfold excludedPremium scopedModelAt
  simp only [Bool.and_eq_true, decide_eq_true_eq, Option.any_eq_true, Option.bind_eq_some_iff]
  constructor
  · rintro ⟨⟨claude, plan⟩, scope, ⟨row, head, label⟩, applies⟩
    obtain ⟨mem, labelled⟩ := mem_filter.mp (mem_of_first head)
    refine ⟨claude, plan, row, mem, labelled, fun other among isOther => ?_, scope, label, applies⟩
    rcases rel_of_first head other (mem_filter.mpr ⟨among, isOther⟩) with rfl | newer
    · exact .inr ⟨rfl, le_rfl⟩
    · exact newer
  · rintro ⟨claude, plan, row, mem, labelled, newest, scope, label, applies⟩
    refine ⟨⟨claude, plan⟩, scope, ⟨row, ?_, label⟩, applies⟩
    have listed := mem_filter.mpr ⟨mem, labelled⟩
    cases head : ((tables.samples.filter (BurnRow.labelledAt accountKey timestamp)).insertionSort
        BurnRow.notBefore).head? with
    | none =>
      rw [eq_nil_of_first head] at listed
      cases listed
    | some top =>
      obtain ⟨inSamples, isLabelled⟩ := mem_filter.mp (mem_of_first head)
      rcases rel_of_first head row listed with rfl | newer
      · rfl
      · exact congrArg some (inj_on_of_nodup_map keyed inSamples mem
          (notBefore_antisymm newer (newest top inSamples isLabelled)))

end

/-- Tokens are metered exactly by the rule: the model is an excluded premium model at the time, or
extra usage is on at the time and the latest sample of a window that applies to the model says that
it is full. -/
theorem credit_metered_iff (keyed : (tables.samples.map BurnRow.id).Nodup)
    (dated : (tables.history.map fun row => (row.accountKey, row.observedAt)).Nodup)
    (accountKey : String) (host : Host) (instant : Int) :
    creditMetered tables accountKey model host instant ↔
      ∃ account metadata, tables.accounts accountKey = some account ∧
        let timestamp := host.formatTimestamp instant
        MetadataAt tables accountKey timestamp account metadata ∧
        (ExcludedPremium tables accountKey timestamp model account.provider metadata ∨
          (∃ row, LatestIn (tables.samples.filter (BurnRow.standsAt accountKey timestamp)) row ∧
            appliesTo model row.windowKey ∧ 100 ≤ row.percent) ∧
          metadata.extraUsageEnabled = some true) := by
  dsimp only
  cases known : tables.accounts accountKey with
  | none => simp [creditMetered, known]
  | some account =>
    generalize time : host.formatTimestamp instant = timestamp
    generalize hs : tables.samples.filter (BurnRow.standsAt accountKey timestamp) = standing
    have distinct : ((standing.insertionSort BurnRow.notBefore).map BurnRow.id).Nodup :=
      ((perm_insertionSort _ standing).map _).nodup_iff.mpr
        (keyed.sublist (hs ▸ filter_sublist.map _))
    have exhausted := @anyExhausted_iff model _ (pairwise_insertionSort _ standing) distinct []
    simp only [LatestIn, mem_insertionSort, not_mem_nil, not_false_eq_true, true_and] at exhausted
    have lookup : MetadataAt tables accountKey timestamp account
        (accountMetadataAt tables accountKey timestamp) := metadataAt_lookup known
    have metered : creditMetered tables accountKey model host instant ↔
        ExcludedPremium tables accountKey timestamp model account.provider
            (accountMetadataAt tables accountKey timestamp) ∨
          (∃ row, LatestIn standing row ∧ appliesTo model row.windowKey ∧ 100 ≤ row.percent) ∧
          (accountMetadataAt tables accountKey timestamp).extraUsageEnabled = some true := by
      simp only [creditMetered, known, time, hs, Bool.or_eq_true, Bool.and_eq_true, exhausted,
        Option.getD_eq_iff, LatestIn, excludedPremium_iff keyed, Bool.false_eq_true, and_false,
        or_false]
    rw [metered]
    constructor
    · intro rule
      exact ⟨account, _, rfl, lookup, rule⟩
    · rintro ⟨_, metadata, ⟨⟩, stands, rule⟩
      rwa [stands.unique dated lookup] at rule

def burnSample (id : Nat) (windowKind : String) (percent : Rat) (day : Nat) : BurnRow :=
  ⟨⟨"claude:one", windowKind, none, januaryHost.formatTimestamp (january 1),
    januaryHost.formatTimestamp (january 8)⟩, id, percent, none, none, "oauth_usage",
    januaryHost.formatTimestamp (january day)⟩

/-- The short window was full and is no longer, the week has become full, and extra usage was switched
on after the second of January. -/
def weekTables : MeteringTables where
  accounts _ := some ⟨⟨none, none⟩, "claude"⟩
  history := [⟨⟨some "max", some false⟩, "claude:one", januaryHost.formatTimestamp (january 2)⟩,
    ⟨⟨some "max", some true⟩, "claude:one", januaryHost.formatTimestamp (january 3)⟩]
  samples := [burnSample 0 "five_hour" 100 2, burnSample 1 "five_hour" 20 3,
    burnSample 2 "weekly_all" 100 3]

theorem full_week_metered : (weekTables.samples.map BurnRow.id).Nodup ∧
    (weekTables.history.map fun row => (row.accountKey, row.observedAt)).Nodup ∧
    creditMetered weekTables "claude:one" "opus" januaryHost (january 4) := by
  have keyed : (weekTables.samples.map BurnRow.id).Nodup := by decide
  have dated : (weekTables.history.map fun row => (row.accountKey, row.observedAt)).Nodup := by
    decide +kernel
  have enabled : MetadataAt weekTables "claude:one" (januaryHost.formatTimestamp (january 4))
      ⟨⟨none, none⟩, "claude"⟩ ⟨some "max", some true⟩ :=
    @MetadataAt.latest weekTables "claude:one" _ _
      ⟨⟨some "max", some true⟩, "claude:one", januaryHost.formatTimestamp (january 3)⟩
      (mem_cons_of_mem _ mem_cons_self) rfl (by decide +kernel) (by decide +kernel)
  have full : LatestIn (weekTables.samples.filter (BurnRow.standsAt "claude:one"
      (januaryHost.formatTimestamp (january 4)))) (burnSample 2 "weekly_all" 100 3) := by
    refine ⟨mem_filter.mpr ⟨?_, by decide +kernel⟩, by decide +kernel⟩
    simp [weekTables]
  exact ⟨keyed, dated, (credit_metered_iff keyed dated _ _ _).mpr
    ⟨_, _, rfl, enabled, .inr ⟨⟨_, full, rfl, Rat.le_refl⟩, rfl⟩⟩⟩

end

end SessionManager.Usage
