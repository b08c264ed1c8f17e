import Mathlib.Algebra.Order.Ring.Rat
import SessionManager.Foundation.Text

/-! The context gauge of a session: usage samples of the status line and resets of the context. Each
event is applied to the stored session under the lock, and what it queues or cancels is an effect; an
event whose effects fail is not stored. Percentages are exact. Timestamps are read by a reader that is
a parameter. -/
namespace SessionManager.Context
open Foundation

/-- The reading of a trimmed text, in nanoseconds since 1970, and the printing of percentages. -/
structure ContextHost where
  readStamp : String → Option Int
  formatPercentage : Rat → String

structure ContextSession where
  id : String
  friendlyName : Option String
  name : Option String
  provider : Option String
  contextMonitorEnabled : Bool
  contextMonitorNotify : Option String
  contextMonitorNotifySource : String
  contextMonitorThresholdPercentages : Option (List Rat)
  contextMonitorWarningPercentage : Option Rat
  contextMonitorCriticalPercentage : Option Rat
  contextWarningSent : Bool
  contextCriticalSent : Bool
  contextReportedThresholds : Option (List Rat)
  contextCycleResetEmittedAt : Option String
  contextCompactionActive : Bool
  tokensUsed : Option Int
  contextUsedPercentage : Option Rat
  contextTotalInputTokens : Option Int
  contextSampledAt : Option String
  agentStatusText : Option String
  agentStatusAt : Option String
  agentTaskCompletedAt : Option String
  deriving DecidableEq, Repr

structure ContextUsageEvent where
  usedPercentage : Option Rat
  totalInputTokens : Option Int
  emittedAt : Option String
  deriving DecidableEq, Repr

structure ContextMonitorConfig where
  thresholdPercentages : List Rat
  warningPercentage : Rat
  criticalPercentage : Rat
  deriving DecidableEq, Repr

structure ContextAlert where
  notifyTarget : String
  text : String
  deliveryMode : String
  deriving DecidableEq, Repr

inductive ContextEffect
  | cancelAlerts (sessionId : String)
  | queueAlert (alert : ContextAlert)
  deriving DecidableEq, Repr

inductive ContextUsageOutcome
  | staleSample
  | noUsage
  | notRegistered
  | recorded (usedPercentage : Rat)
  | flagsReset
  deriving DecidableEq, Repr

structure ContextStep where
  session : ContextSession
  outcome : ContextUsageOutcome
  effects : List ContextEffect
  deriving DecidableEq, Repr

section

def jsonText (value : Option String) : Option String :=
  (value.map trim).filter fun text => decide (text ≠ "")

variable (host : ContextHost)

def parseTimestampNs (value : String) : Option Int :=
  if trim value = "" then none else host.readStamp (trim value)

def timestampIsAfter (value other : String) : Bool :=
  match parseTimestampNs host value, parseTimestampNs host other with
  | some value, some other => decide (other < value)
  | _, _ => false

end

section

structure EffectiveThresholds where
  percentages : List Rat
  warningPercentage : Rat
  criticalPercentage : Rat
  deriving DecidableEq, Repr

def resolveContextMonitorThresholds (percentagesOverride : Option (List Rat))
    (warningOverride criticalOverride : Option Rat) (config : ContextMonitorConfig) :
    Except String EffectiveThresholds :=
  let configured :=
    if config.thresholdPercentages.isEmpty then
      [config.warningPercentage, config.criticalPercentage]
    else config.thresholdPercentages
  let percentages :=
    match percentagesOverride with
    | some percentages => percentages
    | none =>
      if warningOverride.isSome || criticalOverride.isSome then
        [warningOverride.getD (configured.headD config.warningPercentage),
          criticalOverride.getD (configured.getLastD config.criticalPercentage)]
      else configured
  if percentages.any fun value => !(decide (0 ≤ value) && decide (value ≤ 100)) || value == 0 then
    .error "context-monitor thresholds must be finite percentages in the range (0, 100]"
  else if percentages.isEmpty ||
      (percentages.zip percentages.tail).any fun pair => decide (pair.2 ≤ pair.1) then
    .error "context-monitor thresholds must be non-empty and strictly increasing"
  else
    .ok {
      percentages
      warningPercentage := percentages.headD 0
      criticalPercentage := percentages.getLastD 0 }

/-- The milestones that are already reported, with the two flags of older sessions read as such. -/
def contextReportedThresholds (session : ContextSession) (thresholds : List Rat) : List Rat :=
  match session.contextReportedThresholds with
  | some values => values
  | none =>
    let warned := if session.contextWarningSent then [thresholds.headD 0] else []
    if session.contextCriticalSent && !warned.contains (thresholds.getLastD 0) then
      warned ++ [thresholds.getLastD 0]
    else warned

end

section

variable (host : ContextHost) (config : ContextMonitorConfig)

def rawSessionLabel (session : ContextSession) : String :=
  ((jsonText session.friendlyName).or (jsonText session.name)).getD session.id

def providerHasMeasuredContextGauge (provider : String) : Bool :=
  decide (trim provider = "claude") || decide (trim provider = "codex-fork")

def unsupportedProvider (session : ContextSession) : Bool :=
  !providerHasMeasuredContextGauge ((jsonText session.provider).getD "claude")

def resetContextOneshotFlags (session : ContextSession) : ContextSession :=
  { session with
    contextWarningSent := false
    contextCriticalSent := false
    contextReportedThresholds := some []
    contextCycleResetEmittedAt := none }

def clearContextSnapshot (session : ContextSession) : ContextSession :=
  { session with
    contextUsedPercentage := none
    contextTotalInputTokens := none
    contextSampledAt := none }

def setContextCycleBoundary (session : ContextSession) (emittedAt : Option String) :
    ContextSession :=
  match emittedAt with
  | none => session
  | some emittedAt => { session with contextCycleResetEmittedAt := some emittedAt }

def applyContextResetEvent (session : ContextSession) (emittedAt : Option String) : ContextStep where
  session :=
    { clearContextSnapshot { setContextCycleBoundary (resetContextOneshotFlags session) emittedAt with
        contextCompactionActive := false } with
      agentStatusText := none
      agentStatusAt := none
      agentTaskCompletedAt := none }
  outcome := .flagsReset
  effects := [.cancelAlerts session.id]

def latchContextAlert (session : ContextSession) (usedPercentage : Rat) :
    ContextSession × Option ContextAlert :=
  match jsonText session.contextMonitorNotify,
      resolveContextMonitorThresholds session.contextMonitorThresholdPercentages
        session.contextMonitorWarningPercentage session.contextMonitorCriticalPercentage config with
  | some notifyTarget, .ok thresholds =>
    let reported := contextReportedThresholds session thresholds.percentages
    let passed := thresholds.percentages.filter fun threshold =>
      decide (threshold ≤ usedPercentage) && !reported.contains threshold
    if passed.isEmpty then (session, none)
    else
      let rounded := host.formatPercentage usedPercentage
      let text :=
        if notifyTarget = session.id then s!"[sm context] Your context is now at {rounded}%."
        else
          s!"[sm context] Context for {rawSessionLabel session} ({session.id}) is now at " ++
            s!"{rounded}%."
      ({ session with
          contextReportedThresholds := some (reported ++ passed)
          contextWarningSent :=
            session.contextWarningSent || decide (thresholds.warningPercentage ≤ usedPercentage)
          contextCriticalSent :=
            session.contextCriticalSent ||
              decide (thresholds.criticalPercentage ≤ usedPercentage) },
        some { notifyTarget, text, deliveryMode := "sequential" })
  | _, _ => (session, none)

def storeSample (session : ContextSession) (event : ContextUsageEvent) (usedPercentage : Rat)
    (now : String) : ContextSession :=
  let tokensUsed := event.totalInputTokens.getD 0
  let sampledAt := (event.emittedAt.filter fun value => decide (trim value ≠ "")).getD now
  if session.tokensUsed ≠ some tokensUsed ∨ session.contextUsedPercentage ≠ some usedPercentage ∨
      session.contextTotalInputTokens ≠ some tokensUsed ∨ jsonText session.contextSampledAt = none ∨
      event.emittedAt.isSome = true ∧ jsonText session.contextSampledAt ≠ some sampledAt ∨
      session.contextCompactionActive = true then
    { session with
      tokensUsed := some tokensUsed
      contextUsedPercentage := some usedPercentage
      contextTotalInputTokens := some tokensUsed
      contextSampledAt := some sampledAt
      contextCompactionActive := false }
  else session

/-- A provider without a gauge keeps no monitor; what is left of one is taken down. -/
def dropUnsupportedMonitor (session : ContextSession) : ContextSession × List ContextEffect :=
  if unsupportedProvider session && (session.contextMonitorEnabled ||
      (jsonText session.contextMonitorNotify).isSome || session.contextWarningSent ||
      session.contextCriticalSent) then
    (resetContextOneshotFlags { session with
        contextMonitorEnabled := false
        contextMonitorNotify := none
        contextMonitorNotifySource := "explicit" }, [.cancelAlerts session.id])
  else (session, [])

/-- A sample that was emitted no later than the stored stamp is stale. -/
def notAfter (emittedAt stored : Option String) : Bool :=
  match emittedAt, jsonText stored with
  | some emittedAt, some stored => !timestampIsAfter host emittedAt stored
  | _, _ => false

def applyContextUsageUpdate (session : ContextSession) (event : ContextUsageEvent)
    (now : String) : ContextStep :=
  let enabled := session.contextMonitorEnabled && !unsupportedProvider session
  if notAfter host event.emittedAt session.contextCycleResetEmittedAt then
    ⟨session, .staleSample, []⟩
  else if notAfter host event.emittedAt session.contextSampledAt then
    ⟨session, .staleSample, []⟩
  else
    match event.usedPercentage with
    | none => ⟨session, .noUsage, []⟩
    | some usedPercentage =>
      let (kept, dropped) :=
        dropUnsupportedMonitor (storeSample session event usedPercentage now)
      if enabled then
        let (latched, alert) := latchContextAlert host config kept usedPercentage
        ⟨latched, .recorded usedPercentage, dropped ++ (alert.map ContextEffect.queueAlert).toList⟩
      else ⟨kept, .notRegistered, dropped⟩

end

end SessionManager.Context
