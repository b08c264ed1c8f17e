import SessionManager.Context.Latches
import SessionManager.Hooks.ClaudeLifecycle
import SessionManager.Jobs.AdmissionSafety
import SessionManager.Jobs.CompletionRetries
import SessionManager.Jobs.Orphans
import SessionManager.Lifecycle.Creation
import SessionManager.Lifecycle.Rotations
import SessionManager.Messages.BugReports
import SessionManager.Messages.Chunks
import SessionManager.Messages.ReminderRuns
import SessionManager.Mobile.AppArtifacts
import SessionManager.Mobile.Devices
import SessionManager.Mobile.EnrollmentRuns
import SessionManager.Mobile.Tickets
import SessionManager.Queue.AuthorityRequests
import SessionManager.Reparent.Consent
import SessionManager.Reparent.Display
import SessionManager.Reparent.Finality
import SessionManager.Reparent.Recovery
import SessionManager.Reviews.SingleWatch
import SessionManager.Security.SignedRequests
import SessionManager.Usage.CodexConservation
import SessionManager.Usage.CreditMetering
import SessionManager.Usage.IngestOrder
import SessionManager.Usage.Materializer
import SessionManager.Usage.Rereading
import SessionManager.Usage.Seats
