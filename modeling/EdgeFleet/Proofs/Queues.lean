import EdgeFleet.Proofs.Accounting
import EdgeFleet.Proofs.Service
/-!
# Queues of jobs

What is pending for an environment is the replay of what happened to its jobs: jobs that were attached
stand in the order in which they came, until they are detached, acknowledged or deleted with their
environment. The board of jobs keeps its queues in a table without empty entries; `pending_attach` and its
siblings say what each write does to every queue, and no other event of the service touches the board.
-/

namespace EdgeFleet

/-- What happens to the jobs of environments. -/
inductive JobEvent where
  | attached (id : EnvironmentId) (job : Job)
  | detached (job : JobId)
  | acknowledged (id : EnvironmentId) (job : JobId)
  /-- The environment was deleted. -/
  | deleted (id : EnvironmentId)
  /-- The service was started anew. -/
  | restarted
deriving DecidableEq

namespace JobEvent

variable {id : EnvironmentId} {queue : List Job}

/-- What an event makes of the queue of an environment: a job that is attached takes the place of the one
with its number, or else the last place. -/
def apply (id : EnvironmentId) (queue : List Job) : JobEvent → List Job
  | attached e job =>
    if e ≠ id then queue
    else if ∃ j ∈ queue, j.id = job.id then queue.map (fun j => if j.id = job.id then job else j)
    else queue ++ [job]
  | detached job => queue.filter (fun j => j.id ≠ job)
  | acknowledged e job => if e = id then queue.filter (fun j => j.id ≠ job) else queue
  | deleted e => if e = id then [] else queue
  | restarted => []

/-- The queue of an environment as events tell it, the first one first. -/
def replay (id : EnvironmentId) (events : List JobEvent) : List Job := events.foldl (apply id) []

theorem nodup_apply (h : (queue.map Job.id).Nodup) (event : JobEvent) : ((apply id queue event).map Job.id).Nodup := by
  have hfilter : ∀ job : JobId, ((queue.filter (fun j => j.id ≠ job)).map Job.id).Nodup :=
    fun _ => h.sublist (List.filter_sublist.map _)
  cases event with
  | attached e job =>
    simp only [apply]
    split
    · exact h
    split
    · -- The job that is put in place of another one has the same number.
      have hids : Job.id ∘ (fun j => if j.id = job.id then job else j) = Job.id := by
        funext j
        by_cases hj : j.id = job.id <;> simp [hj]
      rwa [List.map_map, hids]
    · rename_i hnew
      rw [List.map_append, List.nodup_append']
      simp only [not_exists, not_and] at hnew
      simpa [List.disjoint_singleton, h] using hnew
  | detached job => exact hfilter job
  | acknowledged e job =>
    simp only [apply]
    split
    · exact hfilter job
    · exact h
  | deleted e =>
    simp only [apply]
    split
    · exact List.nodup_nil
    · exact h
  | restarted => exact List.nodup_nil

theorem nodup_foldl (events : List JobEvent) (h : (queue.map Job.id).Nodup) :
    ((events.foldl (apply id) queue).map Job.id).Nodup := by
  induction events generalizing queue with
  | nil => exact h
  | cons event events ih => exact ih (nodup_apply h event)

theorem nodup_replay (id : EnvironmentId) (events : List JobEvent) : ((replay id events).map Job.id).Nodup :=
  nodup_foldl events List.nodup_nil

end JobEvent

namespace JobBoard

variable {queue : List Job}

/-! ## What each write does to every queue -/

/-- Where each number occurs once, a job is put in the place of the one with its number, or else last. -/
theorem put_eq (job : Job) (h : (queue.map Job.id).Nodup) :
    put job queue = if ∃ j ∈ queue, j.id = job.id then queue.map (fun j => if j.id = job.id then job else j)
      else queue ++ [job] := by
  induction queue with
  | nil => rfl
  | cons j r ih =>
    obtain ⟨hj, hr⟩ := List.nodup_cons.1 h
    rw [put]
    by_cases hid : j.id = job.id
    · -- No other job has its number.
      have hrest : r.map (fun k => if k.id = job.id then job else k) = r := by
        refine (List.map_congr_left (fun k hk => if_neg (fun hkid => hj ?_))).trans (List.map_id' r)
        exact List.mem_map.2 ⟨k, hk, hkid.trans hid.symm⟩
      simp [hid, hrest]
    · rw [if_neg hid, ih hr]
      simp only [List.mem_cons, exists_eq_or_imp, hid, false_or, List.map_cons, if_false]
      split <;> rfl

theorem pending_attach (b : JobBoard) (e i : EnvironmentId) (job : Job) :
    (b.attach e job).pending i = if i = e then put job (b.pending e) else b.pending i := by
  unfold pending attach
  rw [Table.get?_insert_eq]
  split <;> rfl

theorem pending_detach (b : JobBoard) (i : EnvironmentId) (job : JobId) :
    (b.detach job).pending i = drop job (b.pending i) := by
  unfold pending detach
  rw [Table.get?_filter, Table.get?_mapValues]
  cases b.queues.get? i with
  | none => rfl
  | some queue =>
    -- A queue that becomes empty has no entry, and that is an empty queue again.
    cases hd : drop job queue <;> simp [hd, Option.filter]

theorem pending_acknowledge (b : JobBoard) (e i : EnvironmentId) (job : JobId) :
    (b.acknowledge e job).2.pending i = if i = e then drop job (b.pending e) else b.pending i := by
  unfold acknowledge
  cases hleft : drop job (b.pending e) with
  | nil =>
    simp only [pending, List.isEmpty_nil, if_true, Table.get?_erase_eq]
    split <;> rfl
  | cons j r =>
    simp only [pending, List.isEmpty_cons, Bool.false_eq_true, if_false, Table.get?_insert_eq]
    split <;> rfl

theorem pending_forget (b : JobBoard) (e i : EnvironmentId) :
    (b.forget e).pending i = if i = e then [] else b.pending i := by
  unfold pending forget
  rw [Table.get?_erase_eq]
  split <;> rfl

/-- What an event does to the board. -/
def withEvent (b : JobBoard) : JobEvent → JobBoard
  | .attached id job => b.attach id job
  | .detached job => b.detach job
  | .acknowledged id job => (b.acknowledge id job).2
  | .deleted id => b.forget id
  | .restarted => .empty

/-- It does to every queue of the board what it does to a queue. -/
theorem pending_withEvent (b : JobBoard) (id : EnvironmentId) (event : JobEvent)
    (h : ((b.pending id).map Job.id).Nodup) : (b.withEvent event).pending id = event.apply id (b.pending id) := by
  cases event with
  | attached e job =>
    rw [withEvent, JobEvent.apply, pending_attach]
    by_cases he : id = e
    · subst he
      rw [if_pos rfl, if_neg (not_not.2 rfl), put_eq job h]
    · rw [if_neg he, if_pos (Ne.symm he)]
  | detached job => exact b.pending_detach id job
  | acknowledged e job =>
    rw [withEvent, JobEvent.apply, pending_acknowledge]
    by_cases he : id = e
    · subst he
      rw [if_pos rfl, if_pos rfl]
      rfl
    · rw [if_neg he, if_neg (Ne.symm he)]
  | deleted e =>
    rw [withEvent, JobEvent.apply, pending_forget]
    simp only [eq_comm]
  | restarted => rfl

end JobBoard

/-- Something that happened if a step answered. -/
def Outcome.noting {ε α β : Type} (o : Outcome ε α) (happened : β) : Option β :=
  match o with
  | done _ => some happened
  | refused _ | crashed => none

namespace Service

open Attempt

variable {s s' : Service} {now : Instant} {id : EnvironmentId}

/-! ## What the events of a service do to jobs -/

/-- What an event does to jobs. Attaching, deleting and starting anew count where they are answered. -/
def Event.jobEvent? (s : Service) : Event → Option JobEvent
  | attachJob id job => ((Service.attachJob id job).run s).1.noting (.attached id job)
  | detachJob job => some (.detached job)
  | acknowledgeJob id job => some (.acknowledged id job)
  | delete id => ((Service.delete id).run s).1.noting (.deleted id)
  | restart => (Service.restart.run s).1.noting .restarted
  | _ => none

/-- The board of jobs that an event leaves. -/
def jobsAfter (s : Service) (event : Event) : JobBoard := ((event.jobEvent? s).map s.jobs.withEvent).getD s.jobs

theorem partlyClosed_jobs (jobs : JobBoard) : PartlyClosed (fun s => s.jobs = jobs) where
  registry _ _ hs := hs
  tunnels hx s hs := (hx s.issuer s.coordinator).2.trans hs
  settings _ hs := hs
  store hs _ := hs

theorem jobs_attachJob (id : EnvironmentId) (job : Job) (s : Service) :
    ((attachJob id job).run s).2.jobs = s.jobsAfter (.attachJob id job) := by
  rw [jobsAfter, Event.jobEvent?, run_attachJob]
  split <;> rfl

theorem jobs_delete (id : EnvironmentId) (s : Service) : ((delete id).run s).2.jobs = s.jobsAfter (.delete id) := by
  have hregistry : ((onRegistry (Registry.delete id)).run s).2.jobs = s.jobs := rfl
  rw [jobsAfter, Event.jobEvent?]
  unfold delete
  rcases hr : (onRegistry (Registry.delete id)).run s with ⟨_ | _ | _, s'⟩ <;> rw [hr] at hregistry
  · rw [run_bind_done hr]
    exact congrArg (·.forget id) hregistry
  · rw [run_bind_refused hr]
    exact hregistry
  · rw [run_bind_crashed hr]
    exact hregistry

/-- A service that is started anew has no jobs, and one whose start fails keeps them. -/
theorem jobs_restart (s : Service) : (restart.run s).2.jobs = s.jobsAfter .restart := by
  have hstart : (start.run s.restarted).2.jobs = .empty :=
    (partlyClosed_jobs .empty).toCoreClosed.start (fun _ _ hs => hs) s.restarted rfl
  rw [jobsAfter, Event.jobEvent?, run_restart]
  rcases hr : start.run s.restarted with ⟨_ | _ | _, fresh⟩ <;> rw [hr] at hstart
  · exact hstart
  · rfl
  · rfl

/-- Whatever is not noted as an event of jobs leaves them. -/
theorem jobs_step (s : Service) (now : Instant) (event : Event) :
    ((event.step now).run s).2.jobs = s.jobsAfter event := by
  cases event with
  | create e =>
    rw [Event.step, snd_run_ignored]
    exact keeps_create (I := fun u => u.jobs = s.jobs) (fun _ _ hs => hs) e s rfl
  | attachJob id job => exact jobs_attachJob id job s
  | delete id => exact jobs_delete id s
  | restart =>
    rw [Event.step, snd_run_ignored]
    exact jobs_restart s
  | detachJob | acknowledgeJob => rfl
  | _ =>
    refine (partlyClosed_jobs s.jobs).step now ?_ ?_ s rfl
    · trivial
    · exact not_false

/-! ## Replaying what happened -/

/-- What events, carried out one after the other, do to jobs. -/
def jobEvents (s : Service) : List (Instant × Event) → List JobEvent
  | [] => []
  | (now, event) :: events => (event.jobEvent? s).toList ++ jobEvents ((event.step now).run s).2 events

/-- Every event carries a queue on as the replay does. -/
theorem pending_step (now : Instant) (event : Event) (h : ((s.jobs.pending id).map Job.id).Nodup) :
    ((event.step now).run s).2.jobs.pending id =
      (event.jobEvent? s).toList.foldl (JobEvent.apply id) (s.jobs.pending id) := by
  rw [jobs_step, jobsAfter]
  cases event.jobEvent? s with
  | none => rfl
  | some job => exact s.jobs.pending_withEvent id job h

/-- A queue in which each number occurs once is carried on by any events as the replay does. -/
theorem pending_after (s : Service) (events : List (Instant × Event)) (h : ((s.jobs.pending id).map Job.id).Nodup) :
    (after Event.step s events).jobs.pending id =
      (jobEvents s events).foldl (JobEvent.apply id) (s.jobs.pending id) := by
  induction events generalizing s with
  | nil => rfl
  | cons op events ih =>
    obtain ⟨now, event⟩ := op
    have hstep := pending_step now event h
    have hnodup : ((((event.step now).run s).2.jobs.pending id).map Job.id).Nodup := by
      rw [hstep]
      exact JobEvent.nodup_foldl _ h
    rw [jobEvents, List.foldl_append, ← hstep]
    exact ih _ hnodup

/-- What an answered poll delivers is what is pending when it is made. -/
theorem schedules_of_poll {edgeId : String} {agent : Option Agent} {a : PollAnswer}
    (h : (poll now edgeId agent).run s = (.done a, s')) :
    a.schedules = (s.jobs.pending a.environmentId).map (·.scheduleFor a.environmentId) := by
  obtain ⟨e, s₁, s₂, d, -, hrecord, hadvance, hdetails, -, -, hschedules⟩ := answered_poll h
  obtain ⟨r, -, rfl⟩ := run_onRegistry_eq_done hrecord
  obtain ⟨c, hrun, -⟩ := run_onTunnels_eq_done hdetails
  have hjobs : s₂.jobs = s.jobs := by
    have hk :=
      (partlyClosed_jobs s.jobs).onTunnels (moves_advanceTunnel · now a.environmentId) { s with registry := r } rfl
    rwa [hadvance] at hk
  rw [hschedules, Coordinator.jobs_of_details hrun]
  exact congrArg (fun jobs : JobBoard => (jobs.pending a.environmentId).map (·.scheduleFor a.environmentId)) hjobs

/-- Whether a service shows, delivers and acknowledges a queue of jobs as the one of an environment. -/
structure Queues (s : Service) (id : EnvironmentId) (queue : List Job) : Prop where
  pending : (pendingJobs id).run s = (.done queue, s)
  /-- Every answered poll of the environment delivers one schedule for each job, in the same order. -/
  delivered : ∀ now edgeId agent a s', (poll now edgeId agent).run s = (.done a, s') → a.environmentId = id →
    a.schedules = queue.map (fun job => ⟨job.id, job.cronExpression, job.scriptPath,
      ((job.environments.get? id).map JobLogs.collect).getD false, job.version⟩)
  acknowledged : ∀ job, ((acknowledgeJob id job).run s).1 = .done (decide (∃ j ∈ queue, j.id = job))
  nodup : (queue.map Job.id).Nodup

/-- From any start without jobs, whatever events follow: the queue of every environment is the replay of what
they did to jobs, and an event that is not noted there leaves every queue as it is. -/
theorem queues_of_run {s₀ : Service} (h₀ : s₀.jobs = .empty) (events : List (Instant × Event)) :
    (∀ id, (after Event.step s₀ events).Queues id (JobEvent.replay id (jobEvents s₀ events))) ∧
    ∀ (now : Instant) (event : Event), event.jobEvent? (after Event.step s₀ events) = none →
      ((event.step now).run (after Event.step s₀ events)).2.jobs = (after Event.step s₀ events).jobs := by
  refine ⟨fun id => ?_, fun now event h => ?_⟩
  · have hempty : s₀.jobs.pending id = [] := by
      rw [h₀]
      rfl
    have hqueue : (after Event.step s₀ events).jobs.pending id = JobEvent.replay id (jobEvents s₀ events) := by
      rw [pending_after s₀ events (by rw [hempty]; exact List.nodup_nil), hempty]
      rfl
    rw [← hqueue]
    refine ⟨rfl, ?_, fun job => ?_, ?_⟩
    · rintro now edgeId agent a s' h rfl
      exact schedules_of_poll h
    · refine congrArg Outcome.done (Bool.eq_iff_iff.2 ?_)
      simp [List.any_eq_true]
    · rw [hqueue]
      exact JobEvent.nodup_replay id _
  · rw [jobs_step, jobsAfter, h]
    rfl

/-- A job whose logs the first environment collects. -/
def backup (cronExpression : String) : Job :=
  { Job.fresh ⟨5⟩ "backup" cronExpression 0 with environments := Table.insert ∅ ⟨1⟩ ⟨.idle, true⟩ }

def cleanup : Job := .fresh ⟨6⟩ "cleanup" "0 4 * * *" 0

/-- A run that attaches both jobs, and one of them again. -/
def attaching : List (Instant × Event) :=
  [(.ofSeconds 10, .create (edge ⟨0⟩ "A")), (.ofSeconds 20, .attachJob ⟨1⟩ (backup "0 1 * * *")),
    (.ofSeconds 20, .attachJob ⟨1⟩ cleanup), (.ofSeconds 30, .attachJob ⟨1⟩ (backup "0 2 * * *"))]

/-- A job that is attached again keeps its place, and a poll delivers it as it is then. -/
theorem queues_of_attaching : ∃ s a s', s = after Event.step (overFresh Coordinator.hourly) attaching ∧
    (poll (.ofSeconds 40) "A" none).run s = (.done a, s') ∧
    a.schedules = [⟨⟨5⟩, "0 2 * * *", "", true, 1⟩, ⟨⟨6⟩, "0 4 * * *", "", false, 1⟩] ∧
    s.Queues ⟨1⟩ [backup "0 2 * * *", cleanup] := by
  have hreplay :
      JobEvent.replay ⟨1⟩ (jobEvents (overFresh Coordinator.hourly) attaching) = [backup "0 2 * * *", cleanup] := by
    decide +kernel
  have hpoll :
      ((poll (.ofSeconds 40) "A" none).run (after Event.step (overFresh Coordinator.hourly) attaching)).1.rename
      (fun _ => ()) PollAnswer.environmentId = .done ⟨1⟩ := by decide +kernel
  obtain ⟨a, ha, hid⟩ := Outcome.rename_eq_done_iff.1 hpoll
  have hempty : (overFresh Coordinator.hourly).jobs = .empty := rfl
  have hqueues := (queues_of_run hempty attaching).1 ⟨1⟩
  rw [hreplay] at hqueues
  refine ⟨_, a, _, rfl, Prod.ext ha rfl, ?_, hqueues⟩
  rw [hqueues.delivered _ _ _ _ _ (Prod.ext ha rfl) hid]
  decide +kernel

end Service

end EdgeFleet
