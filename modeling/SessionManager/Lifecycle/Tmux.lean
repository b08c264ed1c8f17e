import SessionManager.Foundation.Effects
import SessionManager.Lifecycle.Records

/-! The state file and the tmux server as the session store calls them. A runtime is a tmux session
and the session that it was started for; `started` is the history of such starts. A query that tmux
answers is answered truly; one that it leaves unanswered, because the server is out of reach, reads as
absence. `unanswered` is the history of those. -/
namespace SessionManager.Lifecycle
open Foundation Operation

structure Runtime where
  target : Target
  sessionId : String
  deriving DecidableEq, Repr

structure World where
  store : Store
  up : List Runtime
  started : List String
  unanswered : List Target
  deriving DecidableEq, Repr

namespace World

def isUp (target : Target) (world : World) : Bool :=
  world.up.any fun runtime => runtime.target = target

def start (target : Target) (sessionId : String) (world : World) : World :=
  { world with
    up := ⟨target, sessionId⟩ :: world.up
    started := sessionId :: world.started }

def leaveUnanswered (target : Target) (world : World) : World :=
  { world with unanswered := target :: world.unanswered }

def kill (target : Target) (world : World) : World :=
  { world with up := world.up.filter fun runtime => decide (runtime.target ≠ target) }

end World

def load : Operation World Store := observe World.store

/-- `write_raw_json_value`: the file is replaced as a whole. -/
def save (state : Store) : Operation World Unit :=
  call "failed to atomically replace session state" fun world => { world with store := state }

def saveOrFail (state : Except String Store) : Operation World Unit := ofExcept state >>= save

/-- `has-session` exits with an error both where there is no such session and where tmux fails. -/
def sessionExists (target : Target) : Operation World Bool := do
  call "failed to run tmux has-session" id
  match ← attempt (call "tmux has-session failed" id) with
  | .ok _ => observe (World.isUp target)
  | .error _ =>
    record (World.leaveUnanswered target)
    return false

def killSession (target : Target) : Operation World Bool := do
  if ← sessionExists target then
    call "tmux kill-session failed" (World.kill target)
    return true
  return false

/-- The log attachment stands for all that follows the new tmux session; where it fails the session
is killed if that works. -/
def createSession (target : Target) (sessionId : String) : Operation World Unit := do
  if ← sessionExists target then
    fail ("tmux session already exists: " ++ target.tmuxSession)
  else
    call "failed to prepare the session log and command" id
    call "tmux new-session failed" (World.start target sessionId)
    match ← attempt (call "failed to attach the session log" id) with
    | .ok _ => return ()
    | .error reason =>
      let _ ← attempt (killSession target)
      fail reason

inductive RestoreTmuxTeardownOutcome
  | killed
  | alreadyAbsent
  | inconclusive (reason : String)
  deriving DecidableEq, Repr

def teardownSessionForRestore (target : Target) : Operation World RestoreTmuxTeardownOutcome := do
  let there ← observe (World.isUp target)
  match ← attempt (call "tmux kill-session failed" (World.kill target)) with
  | .ok _ => return if there then .killed else .alreadyAbsent
  | .error reason => return .inconclusive reason

end SessionManager.Lifecycle
