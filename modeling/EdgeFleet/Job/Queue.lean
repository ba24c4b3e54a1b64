import EdgeFleet.Job.Basic
/-!
# Pending jobs

Each environment has a queue of jobs that its agent has not confirmed yet, in the order in which
they were attached and each job number once. An environment without pending jobs has no entry.
-/

namespace EdgeFleet

/-- The pending jobs of every environment. -/
structure JobBoard where
  queues : Table EnvironmentId (List Job)
deriving DecidableEq

namespace JobBoard

def empty : JobBoard := ⟨∅⟩

/-- Replaces the job of the same number in place, or adds the job at the end. -/
def put (job : Job) : List Job → List Job
  | [] => [job]
  | j :: r => if j.id = job.id then job :: r else j :: put job r

/-- The jobs of other numbers. -/
def drop (id : JobId) (jobs : List Job) : List Job := jobs.filter (fun j => j.id ≠ id)

def pending (b : JobBoard) (e : EnvironmentId) : List Job := (b.queues.get? e).getD []

/-- Queues a job for an environment. -/
def attach (b : JobBoard) (e : EnvironmentId) (job : Job) : JobBoard :=
  ⟨b.queues.insert e (put job (b.pending e))⟩

/-- Takes a job away from every environment. -/
def detach (b : JobBoard) (id : JobId) : JobBoard :=
  ⟨(b.queues.mapValues (fun _ jobs => drop id jobs)).filter (fun _ jobs => !jobs.isEmpty)⟩

/-- Takes a job away from an environment; the answer says whether it was pending there. -/
def acknowledge (b : JobBoard) (e : EnvironmentId) (id : JobId) : Bool × JobBoard :=
  let left := drop id (b.pending e)
  ((b.pending e).any (fun j => j.id = id),
    ⟨if left.isEmpty then b.queues.erase e else b.queues.insert e left⟩)

/-- Takes every job away from an environment. -/
def forget (b : JobBoard) (e : EnvironmentId) : JobBoard := ⟨b.queues.erase e⟩

end JobBoard

end EdgeFleet
