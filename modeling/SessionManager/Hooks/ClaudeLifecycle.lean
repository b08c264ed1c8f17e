import Mathlib.Algebra.Order.Group.Int
import SessionManager.Foundation.StampedCell
import SessionManager.Sessions.Status
import SessionManager.Usage.LedgerTimes

/-! The Stop and UserPromptSubmit hooks of a Claude session. Each hook is delivered by a detached
request of its own, so hooks are applied in any order and a Stop may be applied long after it was
received. Timestamps are texts read by a parser that is a parameter; `none` is an unreadable text.
The stored texts are taken as already trimmed. -/
namespace SessionManager.Hooks
open Sessions Foundation Foundation.StampedCell List

structure HookSession where
  provider : Option String
  status : SessionStatus
  completionStatus : Option CompletionStatus
  lastActivity : Option String
  activityHookAt : Option String
  activityHookEmittedAt : Option String
  activityTurnStartHookAt : Option String
  agentStatusText : Option String
  agentStatusAt : Option String
  agentTaskCompletedAt : Option String
  pendingHandoffPath : Option String
  pendingHandoffRecordedAt : Option String
  claudeHandoffInProgressAt : Option String
  lastActionSummary : Option String
  transcriptPath : Option String
  providerResumeId : Option String
  nativeTitle : Option String
  nativeTitleSourceMtimeNs : Option Int
  nativeTitleUpdatedAtNs : Option Int
  deriving DecidableEq, Repr

def jsonText (value : Option String) : Option String := value.filter (· ≠ "")

theorem jsonText_some {text : String} (nonempty : text ≠ "") : jsonText (some text) = some text := by
  simp [jsonText, Option.filter, nonempty]

def HookSession.rawSessionIsStopped (session : HookSession) : Bool :=
  isStopped session.status session.completionStatus

structure StopDetails where
  lastMessage : Option String
  nativeTitle : Option String
  nativeTitleMtimeNs : Option Int
  transcriptPath : Option String
  deriving DecidableEq, Repr

/-- One clock reading: the text that is stored and the nanoseconds it stands for. -/
structure Clock where
  text : String
  nanos : Int
  deriving DecidableEq, Repr

/-- The timestamp reader: nanoseconds of a readable text. An empty text is never readable. -/
structure TimestampParser where
  parse : String → Option Int
  parse_empty : parse "" = none

section

variable (parser : TimestampParser) (resumeId : String → Option String)

def timestampIsAfter (value other : String) : Bool :=
  match parser.parse value, parser.parse other with
  | some value, some other => other < value
  | _, _ => false

/-- The guard shared by both hooks: a stored emission stamp that is newer than the hook's own. -/
def supersededByEmission (session : HookSession) (emittedAt : Option String) : Bool :=
  match emittedAt, jsonText session.activityHookEmittedAt with
  | some emittedAt, some stored => timestampIsAfter parser stored emittedAt
  | _, _ => false

def supersededByArrival (session : HookSession) (receivedAt : Option String) : Bool :=
  match receivedAt, jsonText session.activityHookAt with
  | some receivedAt, some stored => timestampIsAfter parser stored receivedAt
  | _, _ => false

/-- The seat-session rows a Stop hook appends: the transcript known before, then its own. -/
def seatSessionAppends (session : HookSession) (transcriptPath : Option String) :
    List (String × Option String) :=
  if (jsonText session.provider).getD "claude" = "claude" then
    let previous := jsonText session.transcriptPath
    let previousResume := (previous.bind resumeId).or (jsonText session.providerResumeId)
    (previousResume.map fun id => (id, previous)).toList ++
      ((transcriptPath.bind resumeId).map fun id => (id, transcriptPath)).toList
  else []

def stopTransition (session : HookSession) (emittedAt : Option String) (now : Clock) :
    HookSession :=
  let reservesHandoff := (jsonText session.provider).getD "claude" = "claude" &&
    (jsonText session.pendingHandoffPath).isSome &&
    (jsonText session.pendingHandoffRecordedAt).isSome
  { session with
    claudeHandoffInProgressAt := if reservesHandoff then some now.text else none
    status := if reservesHandoff then .running else .idle
    lastActivity := some now.text
    activityHookAt := some now.text
    activityHookEmittedAt := emittedAt
    agentStatusText := none
    agentStatusAt := none }

/-- The transcript metadata a Stop carries, applied whether or not it is superseded. -/
def stopMetadata (session : HookSession) (details : StopDetails) (now : Clock) : HookSession :=
  let session :=
    match details.lastMessage with
    | some message => { session with lastActionSummary := some message }
    | none => session
  let session :=
    match details.transcriptPath with
    | some path =>
      let own := if (jsonText session.provider).getD "claude" = "claude" then resumeId path else none
      { session with
        transcriptPath := some path
        providerResumeId := own.or session.providerResumeId }
    | none => session
  match details.nativeTitle with
  | none => session
  | some title =>
    let changed := jsonText session.nativeTitle ≠ some title
    match details.nativeTitleMtimeNs with
    | some mtime =>
      { session with
        nativeTitle := some title
        nativeTitleSourceMtimeNs := some mtime
        nativeTitleUpdatedAtNs := if changed then some mtime else session.nativeTitleUpdatedAtNs }
    | none =>
      { session with
        nativeTitle := some title
        nativeTitleUpdatedAtNs := if changed then some now.nanos else session.nativeTitleUpdatedAtNs }

/-- The session after the hook, the seat-session rows it appends, and whether it took effect. -/
def applyClaudeStopHook (session : HookSession) (details : StopDetails)
    (receivedAt emittedAt : Option String) (now : Clock) :
    HookSession × List (String × Option String) × Bool :=
  let appends := seatSessionAppends resumeId session details.transcriptPath
  if session.rawSessionIsStopped then (session, appends, false)
  else
    let superseded := supersededByEmission parser session emittedAt ||
      supersededByArrival parser session receivedAt
    let moved := if superseded then session else stopTransition session emittedAt now
    (stopMetadata resumeId moved details now, appends, !superseded)

def applyClaudeUserPromptSubmitHook (session : HookSession) (emittedAt : Option String)
    (now : Clock) : HookSession × Bool :=
  if session.rawSessionIsStopped then (session, false)
  else if supersededByEmission parser session emittedAt then (session, false)
  else
    ({ session with
        status := .running
        lastActivity := some now.text
        activityHookAt := some now.text
        activityTurnStartHookAt := some now.text
        activityHookEmittedAt := emittedAt
        claudeHandoffInProgressAt := none
        agentTaskCompletedAt := none }, true)

inductive HookEvent
  | stop (details : StopDetails) (receivedAt : String)
  | promptSubmit
  deriving DecidableEq, Repr

structure Hook where
  event : HookEvent
  emittedAt : String
  now : Clock
  deriving DecidableEq, Repr

def Hook.settles (hook : Hook) : SessionStatus :=
  match hook.event with
  | .stop _ _ => .idle
  | .promptSubmit => .running

def applyHook (session : HookSession) (hook : Hook) : HookSession :=
  match hook.event with
  | .stop details receivedAt =>
    (applyClaudeStopHook parser resumeId session details (some receivedAt) (some hook.emittedAt)
      hook.now).1
  | .promptSubmit =>
    (applyClaudeUserPromptSubmitHook parser session (some hook.emittedAt) hook.now).1

def applyHooks (session : HookSession) (hooks : List Hook) : HookSession :=
  hooks.foldl (applyHook parser resumeId) session

/-- Only a Stop is checked against the arrival time of the last applied hook. -/
def blockedByArrival (session : HookSession) (hook : Hook) : Bool :=
  match hook.event with
  | .stop _ receivedAt => supersededByArrival parser session (some receivedAt)
  | .promptSubmit => false

structure Steady (session : HookSession) : Prop where
  live : session.rawSessionIsStopped = false
  noHandoff : ((jsonText session.pendingHandoffPath).isSome &&
    (jsonText session.pendingHandoffRecordedAt).isSome) = false

structure Core where
  status : SessionStatus
  activityHookAt : Option String
  activityHookEmittedAt : Option String

def core (session : HookSession) : Core :=
  ⟨session.status, session.activityHookAt, session.activityHookEmittedAt⟩

/-- The stored emission stamp with the status it decided. -/
def settled (session : HookSession) : Option (Int × SessionStatus) :=
  ((jsonText session.activityHookEmittedAt).bind parser.parse).map fun stamp =>
    (stamp, session.status)

theorem stopMetadata_core (session : HookSession) (details : StopDetails) (now : Clock) :
    core (stopMetadata resumeId session details now) = core session ∧
      (Steady (stopMetadata resumeId session details now) ↔ Steady session) := by
  obtain ⟨message, title, mtime, path⟩ := details
  have steady_iff : ∀ other : HookSession, other.status = session.status →
      other.completionStatus = session.completionStatus →
      other.pendingHandoffPath = session.pendingHandoffPath →
      other.pendingHandoffRecordedAt = session.pendingHandoffRecordedAt →
      (Steady other ↔ Steady session) := by
    intro other hs hc hp hr
    constructor <;> intro steady <;>
      exact ⟨by simpa [HookSession.rawSessionIsStopped, hs, hc] using steady.live,
        by simpa [hp, hr] using steady.noHandoff⟩
  cases message <;> cases path <;> cases title <;> cases mtime <;>
    exact ⟨rfl, steady_iff _ rfl rfl rfl rfl⟩

variable {session : HookSession} {session other : HookSession} {before after : List Hook}
  {latest : Hook} {hooks : List Hook}

theorem stopTransition_steady (steady : Steady session) (emittedAt : String) (now : Clock) :
    Steady (stopTransition session (some emittedAt) now) ∧
      core (stopTransition session (some emittedAt) now) =
        ⟨.idle, some now.text, some emittedAt⟩ := by
  have unreserved : ((jsonText session.provider).getD "claude" = "claude" &&
      (jsonText session.pendingHandoffPath).isSome &&
      (jsonText session.pendingHandoffRecordedAt).isSome) = false := by
    rw [Bool.and_assoc, steady.noHandoff, Bool.and_false]
  have marker := (isStopped_eq_false.mp steady.live).2
  refine ⟨⟨?_, steady.noHandoff⟩, by simp [core, stopTransition, unreserved]⟩
  simp [HookSession.rawSessionIsStopped, stopTransition, unreserved, isStopped_eq_false, marker]

theorem applyHook_cases (steady : Steady session) (hook : Hook) :
    Steady (applyHook parser resumeId session hook) ∧
      core (applyHook parser resumeId session hook) =
        if supersededByEmission parser session (some hook.emittedAt) ||
            blockedByArrival parser session hook then core session
        else ⟨hook.settles, some hook.now.text, some hook.emittedAt⟩ := by
  obtain ⟨event, emittedAt, now⟩ := hook
  cases event with
  | stop =>
    simp only [applyHook, applyClaudeStopHook, steady.live, Bool.false_eq_true, if_false,
      blockedByArrival, Hook.settles, stopMetadata_core]
    split_ifs with superseded
    · simp [superseded, steady]
    · simp [superseded, stopTransition_steady steady emittedAt now]
  | promptSubmit =>
    have marker := (isStopped_eq_false.mp steady.live).2
    simp only [applyHook, applyClaudeUserPromptSubmitHook, steady.live, Bool.false_eq_true,
      if_false, blockedByArrival, Bool.or_false, Hook.settles]
    split_ifs with superseded
    · exact ⟨steady, rfl⟩
    · exact ⟨⟨by simp [HookSession.rawSessionIsStopped, isStopped_eq_false, marker],
        steady.noHandoff⟩, rfl⟩

def Hook.stamp (hook : Hook) : Int := (parser.parse hook.emittedAt).getD 0

/-- A hook seen as a write of its status under its emission stamp. -/
def hookWrite (session : HookSession) (hook : Hook) : Write Int SessionStatus :=
  ⟨hook.stamp parser, hook.settles, blockedByArrival parser session hook⟩

def hookWrites (session : HookSession) : List Hook → List (Write Int SessionStatus)
  | [] => []
  | hook :: rest =>
    hookWrite parser session hook :: hookWrites (applyHook parser resumeId session hook) rest

theorem supersededByEmission_eq (session : HookSession) {emittedAt : String} {stamp : Int}
    (parsed : parser.parse emittedAt = some stamp) :
    supersededByEmission parser session (some emittedAt) =
      ((settled parser session).map fun hst => decide (stamp < hst.1)).getD false := by
  unfold supersededByEmission settled timestampIsAfter
  cases jsonText session.activityHookEmittedAt with
  | none => rfl
  | some hst => cases h : parser.parse hst <;> simp [h, parsed]

theorem settled_eq_of_core (hs : core session = core other) :
    settled parser session = settled parser other := by
  simp only [core, Core.mk.injEq] at hs
  simp only [settled, hs]

theorem settled_applyHook (steady : Steady session) {hook : Hook}
    (readable : (parser.parse hook.emittedAt).isSome) :
    settled parser (applyHook parser resumeId session hook) =
      write (settled parser session) (hookWrite parser session hook) := by
  obtain ⟨stamp, parsed⟩ := Option.isSome_iff_exists.mp readable
  have nonempty : hook.emittedAt ≠ "" := by
    intro blank
    simp [blank, parser.parse_empty] at parsed
  obtain ⟨-, after⟩ := applyHook_cases _ resumeId steady _
  have kept : core (applyHook parser resumeId session hook) = core session →
      settled parser (applyHook parser resumeId session hook) = settled parser session :=
    settled_eq_of_core _
  have taken : core (applyHook parser resumeId session hook) =
        ⟨hook.settles, some hook.now.text, some hook.emittedAt⟩ →
      settled parser (applyHook parser resumeId session hook) = some (stamp, hook.settles) := by
    intro hs
    simp only [core, Core.mk.injEq] at hs
    simp [settled, hs, jsonText_some nonempty, parsed]
  rw [supersededByEmission_eq _ _ parsed] at after
  cases blocked : blockedByArrival parser session hook with
  | true => simp [kept (by simpa [blocked] using after), write, hookWrite, blocked]
  | false =>
    cases hst : settled parser session with
    | none =>
      simp [taken (by simpa [blocked, hst] using after), write, hookWrite, blocked,
        Hook.stamp, parsed]
    | some entry =>
      by_cases newer : stamp < entry.1
      · simp [kept (by simpa [blocked, hst, newer] using after), write, hookWrite, blocked,
          Hook.stamp, parsed, hst, newer]
      · simp [taken (by simpa [blocked, hst, newer] using after), write, hookWrite, blocked,
          Hook.stamp, parsed, newer]

theorem settled_applyHooks (steady : Steady session)
    (readable : ∀ hook ∈ hooks, (parser.parse hook.emittedAt).isSome) :
    settled parser (applyHooks parser resumeId session hooks) =
      (hookWrites parser resumeId session hooks).foldl write (settled parser session) := by
  induction hooks generalizing session with
  | nil => rfl
  | cons hook _ ih =>
    rw [hookWrites, foldl_cons,
      ← settled_applyHook _ _ steady (readable _ (by simp))]
    exact ih (applyHook_cases _ _ steady _).1
      (fun _ hm => readable _ (by simp [hm]))

theorem hookWrites_append (session : HookSession) (first second : List Hook) :
    hookWrites parser resumeId session (first ++ second) =
      hookWrites parser resumeId session first ++
        hookWrites parser resumeId (applyHooks parser resumeId session first) second := by
  induction first generalizing session with
  | nil => rfl
  | cons _ _ ih =>
    rw [cons_append, hookWrites, ih]
    rfl

theorem mem_hookWrites
    {offered : Write Int SessionStatus} (hm : offered ∈ hookWrites parser resumeId session hooks) :
    ∃ hook ∈ hooks, offered.stamp = hook.stamp parser ∧ offered.value = hook.settles := by
  induction hooks generalizing session with
  | nil => simp [hookWrites] at hm
  | cons hook _ ih =>
    rcases mem_cons.mp hm with rfl | later
    · exact ⟨_, by simp, rfl, rfl⟩
    · obtain ⟨hf, inRest, facts⟩ := ih later
      exact ⟨hf, by simp [inRest], facts⟩

theorem status_of_settled {stamp : Int} {status : SessionStatus}
    (decided : settled parser session = some (stamp, status)) : session.status = status := by
  obtain ⟨_, -, hs⟩ := Option.map_eq_some_iff.mp decided
  cases hs
  rfl

/-- The session settles to what its latest-emitted hook stands for when the arrival guard lets that
hook through. -/
theorem hooks_settle_by_emission (session : HookSession) (steady : Steady session)
    (before after : List Hook) (latest : Hook)
    (readable : ∀ hook ∈ before ++ latest :: after, (parser.parse hook.emittedAt).isSome)
    (greatest : ∀ hook ∈ before ++ after, hook.stamp parser < latest.stamp parser)
    (fresh : supersededByEmission parser session (some latest.emittedAt) = false)
    (unblocked : blockedByArrival parser (applyHooks parser resumeId session before) latest = false) :
    (applyHooks parser resumeId session (before ++ latest :: after)).status = latest.settles := by
  obtain ⟨_, parsed⟩ := Option.isSome_iff_exists.mp (readable latest (by simp))
  apply status_of_settled parser
  rw [settled_applyHooks _ _ steady readable, hookWrites_append]
  refine foldl_write_of_wins (mem_append_right _ mem_cons_self) ⟨unblocked, ?_⟩ ?_
  · intro other hm _
    have earlier : ∀ hook ∈ before ++ after, other.stamp = hook.stamp parser →
        other.stamp < latest.stamp parser := by
      intro hook inHooks hs
      rw [hs]
      exact greatest _ inHooks
    rcases mem_append.mp hm with inBefore | inRest
    · obtain ⟨hook, hf, hs, -⟩ := mem_hookWrites _ _ inBefore
      exact .inl (earlier _ (mem_append_left _ hf) hs)
    · rcases mem_cons.mp inRest with rfl | inAfter
      · exact .inr ⟨rfl, rfl⟩
      · obtain ⟨hook, hf, hs, -⟩ := mem_hookWrites _ _ inAfter
        exact .inl (earlier _ (mem_append_right _ hf) hs)
  · intro _ _ decided
    rw [supersededByEmission_eq _ _ parsed, decided] at fresh
    simpa [hookWrite, Hook.stamp, parsed] using fresh

end

section

def utcParser : TimestampParser where
  parse text := (Usage.parseTimestamp text.toList).map Instant.nanoseconds
  parse_empty := by decide

def liveSession : HookSession :=
  { provider := some "claude", status := .running, completionStatus := none, lastActivity := none
    activityHookAt := none, activityHookEmittedAt := none, activityTurnStartHookAt := none
    agentStatusText := none, agentStatusAt := none, agentTaskCompletedAt := none
    pendingHandoffPath := none, pendingHandoffRecordedAt := none
    claudeHandoffInProgressAt := none, lastActionSummary := none, transcriptPath := none
    providerResumeId := none, nativeTitle := none, nativeTitleSourceMtimeNs := none
    nativeTitleUpdatedAtNs := none }

def olderPrompt : Hook := ⟨.promptSubmit, "2026-01-02T00:00:01Z", ⟨"2026-01-02T00:00:11Z", 11⟩⟩

def newerStop : Hook :=
  ⟨.stop ⟨none, none, none, none⟩ "2026-01-02T00:00:10Z", "2026-01-02T00:00:02Z",
    ⟨"2026-01-02T00:00:12Z", 12⟩⟩

def oldestStop : Hook :=
  ⟨.stop ⟨some "done", none, none, none⟩ "2026-01-02T00:00:08Z", "2026-01-01T23:59:59Z",
    ⟨"2026-01-02T00:00:09Z", 9⟩⟩

/-- An older Stop is applied before the latest one and an older prompt after it. -/
theorem hooks_settle_by_latest_stop :
    (applyHooks utcParser (fun _ => none) liveSession
      ([oldestStop] ++ newerStop :: [olderPrompt])).status = .idle :=
  hooks_settle_by_emission utcParser (fun _ => none) liveSession ⟨by decide, by decide⟩
    [oldestStop] [olderPrompt] newerStop (by decide +kernel) (by decide +kernel) (by decide +kernel)
    (by decide +kernel)

/-- The Stop was emitted last and received before the prompt was applied; the prompt, although
emitted earlier, makes its arrival guard drop it. -/
theorem late_stop_is_dropped : olderPrompt.stamp utcParser < newerStop.stamp utcParser ∧
    (applyHooks utcParser (fun _ => none) liveSession [olderPrompt, newerStop]).status =
      .running := by
  decide +kernel

end

end SessionManager.Hooks
