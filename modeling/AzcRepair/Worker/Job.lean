import AzcRepair.Text.Letters
import AzcRepair.Worker.Failure

/-!
# Jobs

A job is the work of the remote worker on a conversation. It is pending until its status is
terminal, and then it stays as it is: every further observation is refused.
-/

namespace AzcRepair.Worker

inductive Status where
  | queued
  | running
  | completed
  | failed
  /-- Given up on this side. -/
  | timedOut
  deriving DecidableEq, Repr

namespace Status

def isPending : Status → Bool
  | queued | running => true
  | _ => false

def isTerminal (status : Status) : Bool :=
  !status.isPending

def name : Status → String
  | queued => "queued"
  | running => "running"
  | completed => "completed"
  | failed => "failed"
  | timedOut => "timed_out"

def all : List Status :=
  [queued, running, completed, failed, timedOut]

def ofName? (name : String) : Option Status :=
  all.find? (·.name == name)

/-- What a status word of the service stands for, in any ASCII case. A job that waits for an action
or is being cancelled is still in flight. -/
def ofRemote? (word : String) : Option Status :=
  match Text.lowerAscii word with
  | "queued" => some queued
  -- these may still become anything, so the job is polled on
  | "in_progress" | "running" | "requires_action" | "cancelling" => some running
  | "completed" | "succeeded" => some completed
  | "failed" | "cancelled" | "expired" | "incomplete" => some failed
  -- a word that is not known is no status, rather than a failed job
  | _ => none

end Status

/-- One observation of a job or an index. -/
structure Snapshot where
  status : Status
  /-- Why it failed, if it did and said so. -/
  reason : Option String
  deriving DecidableEq, Repr

/-- A job and what is known about it. -/
structure Job where
  id : String
  session : String
  status : Status
  reason : Option String
  deriving DecidableEq, Repr

namespace Job

def start (id session : String) : Job :=
  ⟨id, session, .queued, none⟩

/-- Takes note of an observation; a terminal job refuses it. So a job ends once: an observation
that comes late, or twice, does not change how it ended. -/
def observe (job : Job) (snapshot : Snapshot) : Except Failure Job :=
  if job.status.isTerminal then
    .error (.unexpected ("job " ++ job.id ++ " already " ++ job.status.name ++
      ", cannot move to " ++ snapshot.status.name))
  else .ok { job with status := snapshot.status, reason := snapshot.reason }

/-- Gives up on a job that is still pending. -/
def giveUp (job : Job) : Job :=
  if job.status.isPending then { job with status := .timedOut } else job

theorem observe_of_isPending {job : Job} (snapshot : Snapshot) (h : job.status.isPending = true) :
    job.observe snapshot =
      .ok { job with status := snapshot.status, reason := snapshot.reason } := by
  simp [observe, Status.isTerminal, h]

/-- An observation that is taken note of changes the status and the reason, and nothing else. -/
theorem eq_of_observe {job seen : Job} {snapshot : Snapshot} (h : job.observe snapshot = .ok seen) :
    seen = { job with status := snapshot.status, reason := snapshot.reason } := by
  unfold observe at h
  split at h
  · cases h
  · exact (Except.ok.inj h).symm

theorem giveUp_of_isTerminal {job : Job} (h : job.status.isTerminal = true) : job.giveUp = job := by
  simp [Status.isTerminal] at h
  simp [giveUp, h]

end Job

end AzcRepair.Worker
