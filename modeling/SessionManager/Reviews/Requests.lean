import Mathlib.Data.List.Sort
import SessionManager.Foundation.KeyedTable
import SessionManager.Foundation.Text

/-! Requests for reviews of pull requests and the statements that write them. Creating a request looks
at the requests that are active for the pull request, supersedes them and inserts a new one, all in one
transaction; the other statements write one active request. The identifier of the comment with the
review is left out. -/
namespace SessionManager.Reviews
open Foundation

structure Registration where
  id : String
  repo : String
  prNumber : Int
  requesterSessionId : Option String
  notifySessionId : String
  steer : Option String
  requestedHeadSha : Option String
  supersededByRequestId : Option String
  supersededAt : Option String
  requestedAt : String
  latestRequestCommentId : Option Int
  latestRequestCommentUrl : Option String
  latestRequestPostedAt : Option String
  attemptCount : Int
  nextRetryAt : Option String
  pollIntervalSeconds : Int
  retryIntervalSeconds : Int
  pickupDetectedAt : Option String
  pickupSource : Option String
  reviewLandedAt : Option String
  reviewSource : Option String
  reviewUrl : Option String
  lastPolledAt : Option String
  lastError : Option String
  state : String
  isActive : Bool
  deriving DecidableEq, Repr

abbrev RegistrationTable := KeyedTable Registration.id

structure CreateRequest where
  repo : String
  prNumber : Int
  requesterSessionId : Option String
  notifySessionId : String
  steer : Option String
  requestedHeadSha : String
  latestRequestCommentId : Option Int
  latestRequestCommentUrl : Option String
  latestRequestPostedAt : String
  pollIntervalSeconds : Int
  retryIntervalSeconds : Int
  deriving DecidableEq, Repr

/-- The readers and the printer of times that the server takes from a library, in nanoseconds. -/
structure Calendar where
  parseRfc3339 : String → Option Int
  parsePythonNaiveDatetime : String → Option Int
  formatRfc3339 : Int → Except String String

def Calendar.parseQueueDatetime (calendar : Calendar) (value : String) : Option Int :=
  if trim value = "" then none
  else (calendar.parseRfc3339 (trim value)).or (calendar.parsePythonNaiveDatetime (trim value))

/-- A time of posting that cannot be read counts as now. -/
def codexReviewNextRetryAt (calendar : Calendar) (now : Int) (postedAt : String)
    (retryIntervalSeconds : Int) : Except String String :=
  let posted := ((calendar.parseQueueDatetime postedAt).or
    (calendar.parsePythonNaiveDatetime postedAt)).getD now
  calendar.formatRfc3339 (posted + max retryIntervalSeconds 1 * 1000000000)

structure RetryRequest where
  latestRequestCommentId : Option Int
  latestRequestCommentUrl : Option String
  latestRequestPostedAt : String
  nextRetryAt : String
  deriving DecidableEq, Repr

structure CompleteRequest where
  reviewLandedAt : String
  reviewSource : Option String
  reviewUrl : Option String
  lastPolledAt : String
  deriving DecidableEq, Repr

section

/-- The owner as the program computes it: a requester of white space does not count. -/
def owner (requesterSessionId : Option String) (notifySessionId : String) : String :=
  (requesterSessionId.filter fun value => decide (trim value ≠ "")).getD notifySessionId

def Registration.owner (registration : Registration) : String :=
  Reviews.owner registration.requesterSessionId registration.notifySessionId

/-- The owner as the statement computes it: `COALESCE(NULLIF(requester, ''), notify)`. -/
def Registration.storedOwner (registration : Registration) : String :=
  (registration.requesterSessionId.filter fun value => decide (value ≠ "")).getD
    registration.notifySessionId

end

def isWatch (repo : String) (prNumber : Int) (registration : Registration) : Bool :=
  registration.isActive && decide (registration.repo = repo) &&
    decide (registration.prNumber = prNumber)

def listActive (table : RegistrationTable) (repo : String) (prNumber : Int) : List Registration :=
  (table.rows.filter (isWatch repo prNumber)).insertionSort fun first second =>
    first.requestedAt ≤ second.requestedAt

inductive CreateOutcome
  | refused (reason : String)
  | existing (registration : Registration)
  | created (registration : Registration)
  deriving DecidableEq, Repr

/-- The loop over the active requests; `none` where it runs to its end. -/
def examine (request : CreateRequest) (requestOwner : String) :
    List Registration → Option CreateOutcome
  | [] => none
  | registration :: later =>
    if registration.owner ≠ requestOwner then
      some (.refused (s!"CONFLICT: active Codex review request {registration.id} for " ++
        s!"{request.repo} PR #{request.prNumber} is owned by {registration.owner}; " ++
        "cancel it or wait for completion"))
    else if registration.requestedHeadSha = some request.requestedHeadSha then
      some (.existing registration)
    else examine request requestOwner later

def newRegistration (id nextRetryAt : String) (request : CreateRequest) : Registration where
  id := id
  repo := request.repo
  prNumber := request.prNumber
  requesterSessionId := request.requesterSessionId
  notifySessionId := request.notifySessionId
  steer := request.steer
  requestedHeadSha := some request.requestedHeadSha
  supersededByRequestId := none
  supersededAt := none
  requestedAt := request.latestRequestPostedAt
  latestRequestCommentId := request.latestRequestCommentId
  latestRequestCommentUrl := request.latestRequestCommentUrl
  latestRequestPostedAt := some request.latestRequestPostedAt
  attemptCount := 1
  nextRetryAt := some nextRetryAt
  pollIntervalSeconds := request.pollIntervalSeconds
  retryIntervalSeconds := request.retryIntervalSeconds
  pickupDetectedAt := none
  pickupSource := none
  reviewLandedAt := none
  reviewSource := none
  reviewUrl := none
  lastPolledAt := none
  lastError := none
  state := "active"
  isActive := true

def Registration.superseded (registration new : Registration) : Registration :=
  { registration with
    isActive := false
    state := "superseded"
    supersededByRequestId := some new.id
    supersededAt := some new.requestedAt
    lastError := some "Superseded by a newer requested PR head" }

section

def updateWhere (table : RegistrationTable) (chosen : Registration → Bool)
    (change : Registration → Registration) (keeps : ∀ row, (change row).id = row.id) :
    RegistrationTable :=
  table.update (fun row => if chosen row then change row else row) fun row => by
    split
    · exact keeps row
    · rfl

def supersede (table : RegistrationTable) (new : Registration) (requestOwner : String) :
    RegistrationTable :=
  updateWhere table
    (fun row => isWatch new.repo new.prNumber row && decide (row.storedOwner = requestOwner))
    (fun row => row.superseded new) fun _ => rfl

/-- `create_codex_review_request_conn` in its transaction, with the generated identifier. -/
def createCodexReviewRequest (calendar : Calendar) (now : Int) (id : String)
    (request : CreateRequest) (table : RegistrationTable) :
    RegistrationTable × CreateOutcome :=
  if request.pollIntervalSeconds ≤ 0 then
    (table, .refused "poll_interval_seconds must be > 0")
  else if request.retryIntervalSeconds ≤ 0 then
    (table, .refused "retry_interval_seconds must be > 0")
  else
    let requestOwner := owner request.requesterSessionId request.notifySessionId
    match examine request requestOwner (listActive table request.repo request.prNumber) with
    | some outcome => (table, outcome)
    | none =>
      match codexReviewNextRetryAt calendar now request.latestRequestPostedAt
          request.retryIntervalSeconds with
      | .error reason => (table, .refused reason)
      | .ok nextRetryAt =>
        let new := newRegistration id nextRetryAt request
        if fresh : (supersede table new requestOwner).find new.id = none then
          ((supersede table new requestOwner).insert new fresh, .created new)
        else
          (table, .refused "UNIQUE constraint failed: codex_review_request_registrations.id")

/-- The statements on one active request; none of them writes what identifies it. -/
def updateActive (table : RegistrationTable) (requestId : String)
    (change : Registration → Registration) (keeps : ∀ row, (change row).id = row.id) :
    RegistrationTable :=
  updateWhere table (fun row => decide (row.id = requestId) && row.isActive) change keeps

/-- `cancel_codex_review_request_in_path`, and with an error text the variant that notes it. -/
def cancelCodexReviewRequest (table : RegistrationTable) (requestId : String)
    (lastError : Option String) : RegistrationTable :=
  updateActive table requestId (fun row =>
      { row with
        isActive := false, state := "cancelled", lastError := lastError.or row.lastError })
    fun _ => rfl

def markCodexReviewRequestPickup (table : RegistrationTable) (requestId lastPolledAt : String) :
    RegistrationTable :=
  updateActive table requestId (fun row =>
      { row with
        pickupDetectedAt := row.pickupDetectedAt.or (some lastPolledAt)
        pickupSource := row.pickupSource.or (some "reaction")
        lastPolledAt := some lastPolledAt
        lastError := none })
    fun _ => rfl

def markCodexReviewRequestPollError (table : RegistrationTable)
    (requestId lastPolledAt lastError : String) (nextRetryAt : Option String) :
    RegistrationTable :=
  updateActive table requestId (fun row =>
      { row with
        lastPolledAt := some lastPolledAt
        lastError := some lastError
        nextRetryAt := nextRetryAt.or row.nextRetryAt })
    fun _ => rfl

def markCodexReviewRequestPolled (table : RegistrationTable) (requestId lastPolledAt : String) :
    RegistrationTable :=
  updateActive table requestId
    (fun row => { row with lastPolledAt := some lastPolledAt, lastError := none }) fun _ => rfl

def retryCodexReviewRequest (table : RegistrationTable) (requestId : String)
    (retry : RetryRequest) (lastPolledAt : String) : RegistrationTable :=
  updateActive table requestId (fun row =>
      { row with
        attemptCount := row.attemptCount + 1
        latestRequestCommentId := retry.latestRequestCommentId
        latestRequestCommentUrl := retry.latestRequestCommentUrl
        latestRequestPostedAt := some retry.latestRequestPostedAt
        pickupDetectedAt := none
        pickupSource := none
        nextRetryAt := some retry.nextRetryAt
        lastPolledAt := some lastPolledAt
        lastError := none })
    fun _ => rfl

def completeCodexReviewRequest (table : RegistrationTable) (requestId : String)
    (completion : CompleteRequest) : RegistrationTable :=
  updateActive table requestId (fun row =>
      { row with
        reviewLandedAt := some completion.reviewLandedAt
        reviewSource := completion.reviewSource
        reviewUrl := completion.reviewUrl
        state := "completed"
        isActive := false
        lastPolledAt := some completion.lastPolledAt
        lastError := none })
    fun _ => rfl

/-- The completion is undone where the wake message cannot be enqueued. -/
def completeCodexReviewRequestAndEnqueue (table : RegistrationTable) (requestId : String)
    (completion : CompleteRequest) (enqueued : Bool) : RegistrationTable :=
  if enqueued then completeCodexReviewRequest table requestId completion else table

end

end SessionManager.Reviews
