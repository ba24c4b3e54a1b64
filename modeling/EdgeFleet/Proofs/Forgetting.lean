import EdgeFleet.Proofs.Lending
import EdgeFleet.Proofs.Neighbours
import EdgeFleet.Proofs.Waiters
/-!
# Environments that are forgotten meanwhile

Asking for a tunnel, or opening it, looks the environment up twice. Where the first look-up does not find it, nothing
was done yet. Where only the second does not, all was done already, and is undone: whatever tunnel and port the
environment had before, it has none afterwards, and nothing else is touched (`undone_of_run`).
-/

namespace EdgeFleet

namespace TunnelBoard

variable {b b' : TunnelBoard} {id : EnvironmentId} {t : Tunnel} {port : UInt16}

theorem tunnel?_without (b : TunnelBoard) (id i : EnvironmentId) :
    (b.without id).tunnel? i = if i = id then none else b.tunnel? i :=
  Table.get?_erase_eq b.tunnels i id

/-- A port that was reserved for a tunnel is gone with all else. -/
theorem without_of_reserve? (hr : b.reserve? id t = some (port, b')) : b'.without id = b.without id := by
  cases reserved hr with
  | held | lent => rfl
  | lends => simp only [without, PortPool.takeBack, Table.erase_insert]

end TunnelBoard

namespace Coordinator

open Attempt
open Script (OnlyLooked Refusal Waiter tunnelPlane)

variable {issuer : Issuer} {now : Instant} {id : EnvironmentId} {s s' : Coordinator} {call : Call}

/-! ## The first look-up -/

theorem run_ignored_of_refused {α : Type} {x : Step α} {err : TunnelError} (h : x.run s = (.refused err, s')) :
    x.ignored.run s = (.refused err, s') := by
  unfold ignored
  rw [run_map, h]
  rfl

/-- A call about an environment that is not found ends with that look-up. Only a drop does not look. -/
theorem step_of_not_sees (hs : s.sees id = false) (hsubject : call.subject? = some id) (hdrop : call ≠ .drop id) :
    (call.step issuer now).run s = (.refused (.unknownEnvironment id), s.looked id) := by
  have hknown := run_ensureKnown_of_not_sees hs
  cases call with
  | drop =>
    cases hsubject
    exact absurd rfl hdrop
  | sweep | sweepAt | setKeepAlive | setCensus => cases hsubject
  | require | activate | stop =>
    cases hsubject
    exact run_bind_refused hknown
  | keepAlive | details =>
    cases hsubject
    exact run_ignored_of_refused (run_bind_refused hknown)
  | status =>
    cases hsubject
    exact run_ignored_of_refused (run_status_of_not_sees hs)
  | await =>
    cases hsubject
    exact run_bind_refused (run_status_of_not_sees hs)
  | look =>
    cases hsubject
    exact run_ignored_of_refused (run_bind_refused (run_status_of_not_sees hs))

/-! ## The second look-up -/

/-- The coordinator after both look-ups, with all undone. -/
def undone (s : Coordinator) (id : EnvironmentId) : Coordinator :=
  ((s.looked id).looked id).withBoard (s.board.without id)

theorem undone_of_require (hs : s.sees id = true)
    (h : (require issuer now id).run s = (.refused (.unknownEnvironment id), s')) : s' = s.undone id := by
  have hr := requiring issuer now id s
  rw [h] at hr
  cases hr with
  | unknown hs' => cases hs.symm.trans hs'
  | forgotten _ _ _ hr =>
    rw [TunnelBoard.drop_keep rfl, TunnelBoard.without_of_reserve? hr]
    rfl

theorem undone_of_activate (hs : s.sees id = true)
    (h : (activate now id).run s = (.refused (.unknownEnvironment id), s')) : s' = s.undone id := by
  have hr := activating now id s
  rw [h] at hr
  cases hr with
  | unknown hs' => cases hs.symm.trans hs'
  | forgotten _ _ _ hr =>
    rw [TunnelBoard.drop_keep rfl, TunnelBoard.without_of_reserve? hr]
    rfl

/-- A request that is answered though the second look-up would find nothing is one that was made before. -/
theorem standing_of_require (hs : (s.looked id).sees id = false) (h : ((require issuer now id).run s).1 = .done ()) :
    s.board.status id = .required ∧ OnlyLooked s ((require issuer now id).run s).2 := by
  have hr := requiring issuer now id s
  generalize (require issuer now id).run s = r at h hr
  cases hr with
  | standing _ ht hp =>
    refine ⟨?_, .looked s id⟩
    rw [TunnelBoard.status_of_tunnel? ht, hp]
    rfl
  | asked _ _ _ _ _ hs' => cases hs.symm.trans hs'
  | _ => cases h

theorem activate_ne_done (hs : (s.looked id).sees id = false) : ((activate now id).run s).1 ≠ .done () := by
  have hr := activating now id s
  generalize (activate now id).run s = r at hr
  cases hr with
  | opened _ _ _ _ hs' => cases hs.symm.trans hs'
  | _ => exact nofun

/-! ## What is left -/

/-- Whether nothing is left of what was kept for an environment, and all else is as it was. -/
structure Undone (issuer : Issuer) (id : EnvironmentId) (s s' : Coordinator) : Prop where
  board : s'.board = s.board.without id
  /-- The environment has no tunnel, and so no credentials. -/
  tunnels : ∀ i, s'.board.tunnel? i = if i = id then none else s.board.tunnel? i
  /-- The port of the environment is free, with all that were. -/
  pool : s.board.pool.Returned id s'.board.pool
  jobs : s'.jobs = s.jobs
  known : s'.census.known = s.census.known
  /-- Nobody who waits is woken. -/
  asleep : ∀ w : Waiter Refusal, w.isWoken (tunnelPlane issuer) s' = w.isWoken (tunnelPlane issuer) s

theorem Undone.of_eq (hpool : s.board.pool.Sound) (h : s' = s.undone id) : Undone issuer id s s' := by
  subst h
  refine ⟨rfl, s.board.tunnel?_without id, hpool.returned id, rfl, ?_, fun _ => rfl⟩
  exact (known_looked (s.looked id) id).trans (known_looked s id)

/-- In every run from a coordinator without tunnels, whatever was cut off or stranded in it: a call about an
environment that its first look-up does not find is refused, and nothing has changed. A request, or the opening of a
tunnel, that is refused because of its second look-up leaves nothing of what was kept for the environment, and all
else as it was; and where that look-up would find nothing, only a tunnel that is asked for already is answered. -/
theorem undone_of_run (range : PortRange) (keepAlive : Nat) (census : Census) (jobs : JobBoard)
    {calls : List (Instant × Call)}
    (h : Run (Call.step issuer) (fun _ _ _ => True) ⟨census, .empty range keepAlive, jobs⟩ calls s)
    (now : Instant) (id : EnvironmentId) :
    (s.sees id = false → ∀ call : Call, call.subject? = some id → call ≠ .drop id →
      ∃ s', (call.step issuer now).run s = (.refused (.unknownEnvironment id), s') ∧ OnlyLooked s s') ∧
    (s.sees id = true → ∀ call ∈ [Call.require id, .activate id], ∀ s',
      (call.step issuer now).run s = (.refused (.unknownEnvironment id), s') → Undone issuer id s s') ∧
    ((s.looked id).sees id = false → ∀ call ∈ [Call.require id, .activate id],
      ((call.step issuer now).run s).1 = .done () →
        s.board.status id = .required ∧ OnlyLooked s ((call.step issuer now).run s).2) := by
  have hpool : s.board.pool.Sound := (backed_after h (TunnelBoard.backed_empty range keepAlive)).pool
  refine ⟨fun hs call hsubject hdrop => ?_, fun hs call hcall s' hrun => ?_, fun hs call hcall hdone => ?_⟩
  · exact ⟨_, step_of_not_sees hs hsubject hdrop, .looked s id⟩
  · simp only [List.mem_cons, List.not_mem_nil, or_false] at hcall
    rcases hcall with rfl | rfl
    · exact .of_eq hpool (undone_of_require hs hrun)
    · exact .of_eq hpool (undone_of_activate hs hrun)
  · simp only [List.mem_cons, List.not_mem_nil, or_false] at hcall
    rcases hcall with rfl | rfl
    · exact standing_of_require hs hdone
    · exact absurd hdone (activate_ne_done hs)

/-- An open tunnel is asked for while its environment is forgotten: the port that it held is free again, its neighbour
keeps what it has, and a later use of it is refused. -/
theorem undone_of_vanished : ∃ s s' s'',
    Run (Call.step hourly) (fun _ _ _ => True) (sharing ⟨9000, 9009, by decide⟩)
      [(.ofSeconds 10, .activate ⟨7⟩), (.ofSeconds 20, .activate ⟨17⟩),
        (.ofSeconds 30, .setCensus ⟨Table.insert ∅ ⟨7⟩ (), some 1⟩)] s ∧
    s.board.status ⟨7⟩ = .active ∧ s.board.pool.port? ⟨7⟩ = some 9007 ∧
    ((Call.require ⟨7⟩).step hourly (.ofSeconds 40)).run s = (.refused (.unknownEnvironment ⟨7⟩), s') ∧
    s'.board.tunnel? ⟨7⟩ = none ∧ s'.board.pool.isFree 9007 = true ∧ s'.board.tunnel? ⟨17⟩ = s.board.tunnel? ⟨17⟩ ∧
    ((Call.keepAlive ⟨7⟩ 600).step hourly (.ofSeconds 50)).run s' = (.refused (.unknownEnvironment ⟨7⟩), s'') ∧
    s''.board = s'.board := by
  have hrun : Run (Call.step hourly) (fun _ _ _ => True) (sharing ⟨9000, 9009, by decide⟩)
      [(.ofSeconds 10, .activate ⟨7⟩), (.ofSeconds 20, .activate ⟨17⟩),
        (.ofSeconds 30, .setCensus ⟨Table.insert ∅ ⟨7⟩ (), some 1⟩)] _ :=
    ((Run.nil.snoc _ _ trivial).snoc _ _ trivial).snoc _ _ trivial
  have hlater := hrun.snoc (.ofSeconds 40) (.require ⟨7⟩) trivial
  obtain ⟨-, hsecond, -⟩ := undone_of_run _ _ _ _ hrun (.ofSeconds 40) ⟨7⟩
  obtain ⟨hfirst, -, -⟩ := undone_of_run _ _ _ _ hlater (.ofSeconds 50) ⟨7⟩
  have hundone := hsecond (by decide +kernel) (.require ⟨7⟩) (by simp) _ (Prod.ext (by decide +kernel) rfl)
  obtain ⟨s'', hrefused, hsame⟩ := hfirst (by decide +kernel) (.keepAlive ⟨7⟩ 600) rfl nofun
  have hport := (hundone.pool.frees 9007).2 (.inr (by decide +kernel))
  exact ⟨_, _, s'', hrun, by decide +kernel, by decide +kernel, Prod.ext (by decide +kernel) rfl, hundone.tunnels ⟨7⟩,
    hport, hundone.tunnels ⟨17⟩, hrefused, hsame.board⟩

end Coordinator

end EdgeFleet
