import SessionManager.Foundation.Transcripts
import SessionManager.Reviews.Requests
import SessionManager.Usage.Calendar

/-! Runs of review requests. The loop of a creation and the statement that supersedes compute the owner
of a request in two ways, which differ where the requester is white space. Where they agree on the
requests that are active for the pull request, a creation leaves one active request. -/
namespace SessionManager.Reviews
open Foundation List

inductive ReviewEvent
  | create (now : Int) (id : String) (request : CreateRequest)
  | cancel (requestId : String) (lastError : Option String)
  | pickup (requestId lastPolledAt : String)
  | pollError (requestId lastPolledAt lastError : String) (nextRetryAt : Option String)
  | polled (requestId lastPolledAt : String)
  | retry (requestId : String) (retry : RetryRequest) (lastPolledAt : String)
  | complete (requestId : String) (completion : CompleteRequest)
  | completeAndEnqueue (requestId : String) (completion : CompleteRequest) (enqueued : Bool)
  deriving DecidableEq, Repr

def stepReviews (calendar : Calendar) (table : RegistrationTable) :
    ReviewEvent → RegistrationTable × Option CreateOutcome
  | .create now id request =>
    let (after, outcome) := createCodexReviewRequest calendar now id request table
    (after, some outcome)
  | .cancel requestId lastError => (cancelCodexReviewRequest table requestId lastError, none)
  | .pickup requestId lastPolledAt =>
    (markCodexReviewRequestPickup table requestId lastPolledAt, none)
  | .pollError requestId lastPolledAt lastError nextRetryAt =>
    (markCodexReviewRequestPollError table requestId lastPolledAt lastError nextRetryAt, none)
  | .polled requestId lastPolledAt =>
    (markCodexReviewRequestPolled table requestId lastPolledAt, none)
  | .retry requestId retry lastPolledAt =>
    (retryCodexReviewRequest table requestId retry lastPolledAt, none)
  | .complete requestId completion =>
    (completeCodexReviewRequest table requestId completion, none)
  | .completeAndEnqueue requestId completion enqueued =>
    (completeCodexReviewRequestAndEnqueue table requestId completion enqueued, none)

def SingleWatch (table : RegistrationTable) : Prop :=
  ∀ repo prNumber, table.count (isWatch repo prNumber) ≤ 1

/-- The two ways to compute the owner agree on the active requests for the pull request. -/
def OwnersAgree (table : RegistrationTable) (request : CreateRequest) : Prop :=
  ∀ row ∈ table.rows, isWatch request.repo request.prNumber row = true → row.storedOwner = row.owner

instance (table : RegistrationTable) (request : CreateRequest) :
    Decidable (OwnersAgree table request) :=
  inferInstanceAs (Decidable (∀ row ∈ table.rows,
    isWatch request.repo request.prNumber row = true → row.storedOwner = row.owner))

def Agreeing (table : RegistrationTable) : ReviewEvent → Prop
  | .create _ _ request => OwnersAgree table request
  | _ => True

variable {requestOwner : String} {row : Registration}

section

variable {table : RegistrationTable} {chosen : Registration → Bool}
  {change : Registration → Registration} {hke : ∀ row, (change row).id = row.id}

theorem SingleWatch.updateWhere (hsg : SingleWatch table)
    (less : ∀ repo prNumber row, isWatch repo prNumber (change row) = true →
      isWatch repo prNumber row) :
    SingleWatch (updateWhere table chosen change hke) := by
  intro repo prNumber
  refine (KeyedTable.count_update_le ?_).trans (hsg _ _)
  intro row _ counts
  split at counts
  · exact less _ _ row counts
  · exact counts

theorem isWatch_eq_true {repo : String} {prNumber : Int} : isWatch repo prNumber row ↔
      row.isActive ∧ row.repo = repo ∧ row.prNumber = prNumber := by
  simp only [isWatch, Bool.and_eq_true, decide_eq_true_eq, and_assoc]

variable {active : List Registration} {request : CreateRequest}

theorem examine_none (done : examine request requestOwner active = none) :
    ∀ row ∈ active, row.owner = requestOwner := by
  induction active with
  | nil =>
    intro row hm
    cases hm
  | cons _ _ ih =>
    rw [examine] at done
    split at done
    · cases done
    rename_i hs
    split at done
    · cases done
    · intro row hm
      rcases mem_cons.mp hm with rfl | after
      · exact not_not.mp hs
      · exact ih done row after

theorem examine_not_created {new : Registration} :
    examine request requestOwner active ≠ some (.created new) := by
  induction active with
  | nil => exact nofun
  | cons _ _ ih =>
    rw [examine]
    split
    · exact nofun
    · split
      · exact nofun
      · exact ih

end

section

variable {calendar : Calendar} {now : Int} {id : String}
  {request : CreateRequest} {table : RegistrationTable} {new : Registration}

theorem create_created
    (done : (createCodexReviewRequest calendar now id request table).2 = .created new) :
    new.isActive ∧ new.repo = request.repo ∧ new.prNumber = request.prNumber ∧
      (∀ row ∈ table.rows, isWatch request.repo request.prNumber row →
        row.owner = owner request.requesterSessionId request.notifySessionId) ∧
      (createCodexReviewRequest calendar now id request table).1.rows = (supersede table new
          (owner request.requesterSessionId request.notifySessionId)).rows ++ [new] := by
  unfold createCodexReviewRequest at done ⊢
  split at done
  · cases done
  next polls =>
    split at done
    · cases done
    next retries =>
      rw [if_neg polls, if_neg retries]
      dsimp only at done ⊢
      cases looked : examine request (owner request.requesterSessionId request.notifySessionId)
          (listActive table request.repo request.prNumber) with
      | some =>
        rw [looked] at done
        exact absurd (looked.trans (congrArg some done)) examine_not_created
      | none =>
        rw [looked] at done
        cases retry : codexReviewNextRetryAt calendar now request.latestRequestPostedAt
            request.retryIntervalSeconds with
        | error =>
          rw [retry] at done
          cases done
        | ok =>
          rw [retry] at done
          dsimp only at done ⊢
          split at done
          · next hfr =>
              cases done
              rw [dif_pos hfr]
              refine ⟨rfl, rfl, rfl, ?_, rfl⟩
              intro row hm watches
              refine examine_none looked row ?_
              simp [listActive, hm, watches]
          · cases done

theorem create_of_not_created
    (other : ∀ new, (createCodexReviewRequest calendar now id request table).2 ≠ .created new) :
    (createCodexReviewRequest calendar now id request table).1 = table := by
  unfold createCodexReviewRequest at other ⊢
  split
  · rfl
  split
  · rfl
  dsimp only
  split
  · rfl
  split
  · rfl
  split
  · next polls retries _ looked _ nextRetry retry hfr =>
      refine absurd ?_ (other (newRegistration id nextRetry request))
      rw [if_neg polls, if_neg retries]
      dsimp only
      rw [looked, retry]
      dsimp only
      rw [dif_pos hfr]
  · rfl

theorem mem_supersede (hm : row ∈ table.rows)
    (kept : isWatch new.repo new.prNumber row → row.storedOwner ≠ requestOwner) :
    row ∈ (supersede table new requestOwner).rows := by
  refine mem_map.mpr ⟨row, hm, if_neg ?_⟩
  rw [Bool.and_eq_true, decide_eq_true_eq]
  rintro ⟨watches, hs⟩
  exact kept watches hs

/-- Every request for the pull request is superseded exactly where the statement computes the owner
that the loop has computed. -/
theorem count_supersede_eq_zero :
    (supersede table new requestOwner).count (isWatch new.repo new.prNumber) = 0 ↔
      ∀ row ∈ table.rows, isWatch new.repo new.prNumber row → row.storedOwner = requestOwner := by
  unfold KeyedTable.count
  rw [countP_eq_zero]
  constructor
  · intro nobody row hm watches
    by_contra other
    exact nobody row (mem_supersede hm fun _ => other) watches
  · intro all row hm watches
    obtain ⟨old, ht, rfl⟩ := mem_map.mp hm
    split at watches
    · cases watches
    · next kept =>
        exact kept (Bool.and_eq_true_iff.mpr ⟨watches, decide_eq_true (all old ht watches)⟩)

section

variable (done : (createCodexReviewRequest calendar now id request table).2 = .created new)
include done

theorem count_create (repo : String) (prNumber : Int) :
    (createCodexReviewRequest calendar now id request table).1.count (isWatch repo prNumber) =
      (supersede table new (owner request.requesterSessionId request.notifySessionId)).count
        (isWatch repo prNumber) +
        if new.repo = repo ∧ new.prNumber = prNumber then 1 else 0 := by
  obtain ⟨active, -, -, -, rows⟩ := create_created done
  unfold KeyedTable.count
  rw [rows, countP_append, countP_singleton]
  simp only [isWatch_eq_true, active, true_and]

theorem count_create_le_one_iff : (createCodexReviewRequest calendar now id request table).1.count
        (isWatch new.repo new.prNumber) ≤ 1 ↔ OwnersAgree table request := by
  obtain ⟨-, repo, prNumber, owners, -⟩ := create_created done
  have counted := count_create done new.repo new.prNumber
  rw [if_pos ⟨rfl, rfl⟩] at counted
  have nobody : (createCodexReviewRequest calendar now id request table).1.count
        (isWatch new.repo new.prNumber) ≤ 1 ↔
      (supersede table new (owner request.requesterSessionId request.notifySessionId)).count
        (isWatch new.repo new.prNumber) = 0 := by omega
  rw [nobody, count_supersede_eq_zero, repo, prNumber]
  refine forall₂_congr ?_
  intro row hm
  refine forall_congr' ?_
  intro watches
  rw [owners row hm watches]

/-- Where the owners agree, what was active for the pull request is superseded and nothing else is
touched. -/
theorem rows_create (agree : OwnersAgree table request) :
    (createCodexReviewRequest calendar now id request table).1.rows = (table.rows.map fun row =>
        if isWatch new.repo new.prNumber row then row.superseded new else row) ++ [new] := by
  obtain ⟨-, repo, prNumber, owners, rows⟩ := create_created done
  rw [rows]
  refine congrArg (· ++ [new]) (map_congr_left ?_)
  intro row hm
  by_cases watches : isWatch new.repo new.prNumber row
  · have hk := watches
    rw [repo, prNumber] at hk
    have hs := (agree row hm hk).trans (owners row hm hk)
    rw [if_pos watches, if_pos (Bool.and_eq_true_iff.mpr ⟨watches, decide_eq_true hs⟩)]
  · rw [if_neg watches, if_neg fun both => watches (Bool.and_eq_true_iff.mp both).1]

end

theorem SingleWatch.create (hsg : SingleWatch table) (agree : OwnersAgree table request) :
    SingleWatch (createCodexReviewRequest calendar now id request table).1 := by
  by_cases made : ∃ new, (createCodexReviewRequest calendar now id request table).2 = .created new
  · obtain ⟨new, done⟩ := made
    intro repo prNumber
    by_cases own : new.repo = repo ∧ new.prNumber = prNumber
    · obtain ⟨rfl, rfl⟩ := own
      exact (count_create_le_one_iff done).mpr agree
    · have kept : SingleWatch (supersede table new
          (owner request.requesterSessionId request.notifySessionId)) :=
        hsg.updateWhere fun _ _ _ h => nomatch h
      rw [count_create done, if_neg own]
      exact kept _ _
  · rw [create_of_not_created (not_exists.mp made)]
    exact hsg

end

section

variable {calendar : Calendar} {table : RegistrationTable}

theorem SingleWatch.updateActive (hsg : SingleWatch table) {requestId : String}
    {change : Registration → Registration} (hke : ∀ row, (change row).id = row.id)
    (activates : ∀ row, (change row).isActive = true → row.isActive = true)
    (repos : ∀ row, (change row).repo = row.repo)
    (numbers : ∀ row, (change row).prNumber = row.prNumber) :
    SingleWatch (updateActive table requestId change hke) := by
  refine hsg.updateWhere ?_
  intro _ _ row watches
  rw [isWatch_eq_true, repos, numbers] at watches
  exact isWatch_eq_true.mpr ⟨activates row watches.1, watches.2⟩

theorem SingleWatch.complete (hsg : SingleWatch table) (requestId : String)
    (completion : CompleteRequest) :
    SingleWatch (completeCodexReviewRequest table requestId completion) :=
  hsg.updateActive (by intro _; rfl) (fun _ h => nomatch h) (fun _ => rfl) fun _ => rfl

theorem SingleWatch.step (hsg : SingleWatch table) (event : ReviewEvent)
    (agreeing : Agreeing table event) : SingleWatch (stepReviews calendar table event).1 := by
  cases event with
  | create => exact hsg.create agreeing
  | cancel =>
    exact hsg.updateActive (by intro _; rfl) (fun _ h => nomatch h) (fun _ => rfl) fun _ => rfl
  | pickup | pollError | polled | retry =>
    exact hsg.updateActive (by intro _; rfl) (fun _ hs => hs) (fun _ => rfl) fun _ => rfl
  | complete requestId completion => exact hsg.complete _ _
  | completeAndEnqueue requestId completion enqueued =>
    cases enqueued with
    | true => exact hsg.complete _ _
    | false => exact hsg

/-- In every run whose creations meet agreeing owners there is one active request for a pull request
at most. A creation keeps it so exactly where the owners agree, and then it supersedes what was active
for the pull request, and nothing else. -/
theorem one_watch_per_pull_request (calendar : Calendar)
    {start : RegistrationTable} (single : SingleWatch start) {events : List ReviewEvent}
    (agreeing : Throughout Agreeing (stepReviews calendar) start events) :
    SingleWatch (reached (stepReviews calendar) start events) ∧
      ∀ now id request new,
        (createCodexReviewRequest calendar now id request
          (reached (stepReviews calendar) start events)).2 = .created new →
        (SingleWatch (createCodexReviewRequest calendar now id request
            (reached (stepReviews calendar) start events)).1 ↔
          OwnersAgree (reached (stepReviews calendar) start events) request) ∧
        (OwnersAgree (reached (stepReviews calendar) start events) request →
          (createCodexReviewRequest calendar now id request
            (reached (stepReviews calendar) start events)).1.rows =
              ((reached (stepReviews calendar) start events).rows.map fun row =>
                if isWatch new.repo new.prNumber row then row.superseded new else row) ++
                  [new]) := by
  have kept : SingleWatch (reached (stepReviews calendar) start events) :=
    @reached_of_allowed _ _ _ _ SingleWatch Agreeing
      (fun _ event holds allowed => holds.step event allowed) start single events agreeing
  refine ⟨kept, ?_⟩
  intro now id request new done
  refine ⟨⟨?_, kept.create⟩, rows_create done⟩
  intro after
  exact (count_create_le_one_iff done).mp (after new.repo new.prNumber)

def asked (requesterSessionId : Option String) (requestedHeadSha : String) : CreateRequest where
  repo := "app"
  prNumber := 7
  requesterSessionId := requesterSessionId
  notifySessionId := "lead"
  steer := none
  requestedHeadSha := requestedHeadSha
  latestRequestCommentId := none
  latestRequestCommentUrl := none
  latestRequestPostedAt := "2026-01-01T10:00:00Z"
  pollIntervalSeconds := 60
  retryIntervalSeconds := 600

def asks (id : String) (requesterSessionId : Option String) (requestedHeadSha : String) : ReviewEvent :=
  .create (Usage.january 1) id (asked requesterSessionId requestedHeadSha)

/-- The times of a January; a naive time is one without its zone. -/
def januaryCalendar : Calendar where
  parseRfc3339 := Usage.januaryHost.parseRfc3339
  parsePythonNaiveDatetime text := Usage.januaryHost.parseRfc3339 (text ++ "Z")
  formatRfc3339 instant :=
    if inside : Usage.InJanuary instant then
      (Usage.calendarOf instant inside).formatRfc3339.elim (.error "invalid year") .ok
    else .error "outside of January"

def noRegistrations : RegistrationTable := ⟨[], List.nodup_nil⟩

/-- A request without a requester is superseded by one of the next head. -/
theorem one_watch_per_pull_request_of_heads :
    SingleWatch (reached (stepReviews januaryCalendar) noRegistrations
      [asks "r1" none "aa", asks "r2" none "bb"]) ∧
      (reached (stepReviews januaryCalendar) noRegistrations
        [asks "r1" none "aa", asks "r2" none "bb"]).rows.map
          (·.isActive) = [false, true] := by
  refine ⟨(one_watch_per_pull_request januaryCalendar ?_ ?_).1, by decide +kernel⟩
  · intro repo prNumber
    exact Nat.zero_le 1
  · refine ⟨?_, ?_, trivial⟩
    · intro row member
      cases member
    · change OwnersAgree _ _
      decide +kernel

/-- A requester of one blank: the loop takes "lead" for the owner of both requests, and the statement
looks for an owner "lead" where the first request has a blank. -/
theorem two_watches_of_blank_requester :
    (stepReviews januaryCalendar (reached (stepReviews januaryCalendar) noRegistrations
        [asks "r1" (some " ") "aa"]) (asks "r2" (some " ") "bb")).2 =
          some (.created (newRegistration "r2" "2026-01-01T10:10:00Z" (asked (some " ") "bb"))) ∧
      (reached (stepReviews januaryCalendar) noRegistrations
        [asks "r1" (some " ") "aa", asks "r2" (some " ") "bb"]).count
          (fun row => isWatch "app" 7 row && decide (row.owner = "lead")) = 2 := by
  decide +kernel

end

end SessionManager.Reviews
