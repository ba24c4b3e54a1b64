import EdgeFleet.Environment.Basic
/-!
# Jobs

A job is a scheduled piece of work that agents pick up when they poll. It says for each
environment whether its logs are to be collected; what an agent receives is the job's `Schedule`.
-/

namespace EdgeFleet

structure JobId where
  number : Int32
deriving DecidableEq, Repr, Inhabited

/-- How far the collection of a job's logs has come. -/
inductive LogsStatus where
  | idle
  | pending
  | collected
deriving DecidableEq, Repr

namespace LogsStatus

def all : List LogsStatus := [idle, pending, collected]

def name : LogsStatus → String
  | idle => "Idle"
  | pending => "Pending"
  | collected => "Collected"

end LogsStatus

/-- What a job keeps for one environment. -/
structure JobLogs where
  status : LogsStatus
  collect : Bool
deriving DecidableEq, Repr

structure Job where
  id : JobId
  name : String
  cronExpression : String
  scriptPath : String
  recurring : Bool
  version : UInt32
  /-- When it was defined, in seconds from the epoch. -/
  created : Int64
  environments : Table EnvironmentId JobLogs
deriving DecidableEq, Repr

/-- What an agent receives of a job. -/
structure Schedule where
  id : JobId
  cronExpression : String
  scriptPath : String
  collectLogs : Bool
  version : UInt32
deriving DecidableEq, Repr

namespace Job

/-- A job defined now that recurs and concerns no environment yet. -/
def fresh (id : JobId) (name cronExpression : String) (created : Int64) : Job :=
  ⟨id, name, cronExpression, "", true, 1, created, ∅⟩

/-- Whether the logs of an environment are to be collected. -/
def collectsFrom (job : Job) (id : EnvironmentId) : Bool :=
  ((job.environments.get? id).map JobLogs.collect).getD false

/-- What the agent of an environment receives. -/
def scheduleFor (job : Job) (id : EnvironmentId) : Schedule :=
  ⟨job.id, job.cronExpression, job.scriptPath, job.collectsFrom id, job.version⟩

end Job

end EdgeFleet
