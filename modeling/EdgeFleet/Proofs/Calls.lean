import EdgeFleet.Proofs.Changes
/-!
# Calls of the coordinator

A `Call` is anything that may be asked of the coordinator, or done to the census it looks
environments up in. It leaves the board alone or is one of a few acts on it (`Acting`), and what it does
to the board is a sequence of changes.
-/

namespace EdgeFleet

namespace Coordinator

open Attempt
open TunnelBoard (Changes)

/-- What may be asked of a coordinator. -/
inductive Call where
  | require (id : EnvironmentId)
  | activate (id : EnvironmentId)
  | stop (id : EnvironmentId)
  | drop (id : EnvironmentId)
  | keepAlive (id : EnvironmentId) (seconds : Nat)
  | status (id : EnvironmentId)
  | details (id : EnvironmentId)
  | sweep
  | sweepAt (moment : Instant)
  | await (id : EnvironmentId)
  | look (id : EnvironmentId)
  | setKeepAlive (seconds : Nat)
  /-- Other environments become the known ones, or the number of look-ups that find them is limited. -/
  | setCensus (census : Census)

namespace Call

/-- Carries out a call. -/
def step (issuer : Issuer) (now : Instant) : Call → Step Unit
  | require id => Coordinator.require issuer now id
  | activate id => Coordinator.activate now id
  | stop id => Coordinator.stop id
  | drop id => Coordinator.drop id
  | keepAlive id seconds => (Coordinator.keepAlive now id seconds).ignored
  | status id => (Coordinator.status id).ignored
  | details id => (Coordinator.details now id).ignored
  | sweep => (Coordinator.sweep now).ignored
  | sweepAt moment => (Coordinator.sweepAt moment).ignored
  | await id => Coordinator.await issuer now id
  | look id => (Coordinator.look now id).ignored
  | setKeepAlive seconds => onBoard (fun b => { b with keepAlive := seconds })
  | setCensus census => Attempt.change (fun s => { s with census })

/-- The environment that a call is about, if it is about one alone. -/
def subject? : Call → Option EnvironmentId
  | require id | activate id | stop id | drop id | keepAlive id _ | status id | details id | await id
  | look id => some id
  | sweep | sweepAt _ | setKeepAlive _ | setCensus _ => none

/-- The environment whose tunnel a call asks for. -/
def asks? : Call → Option EnvironmentId
  | require id | await id => some id
  | _ => none

theorem subject?_of_asks? {call : Call} {id : EnvironmentId} (h : call.asks? = some id) : call.subject? = some id := by
  cases call with
  | require | await => exact h
  | _ => cases h

/-- Whether a call strands the port of a tunnel that it asks for. -/
def Strands (issuer : Issuer) (now : Instant) (call : Call) (s : Coordinator) : Prop :=
  ∃ id, call.asks? = some id ∧ s.Strands now id ((call.step issuer now).run s).1

end Call

/-- The board after a call. One who begins to wait asks for a tunnel that is idle, after a look-up of its own. -/
inductive Acting (issuer : Issuer) (now : Instant) (s : Coordinator) : Call → TunnelBoard → Prop
  | rests (call : Call) : Acting issuer now s call s.board
  | requires (id : EnvironmentId) : Acting issuer now s (.require id) ((require issuer now id).run s).2.board
  | awaits {id : EnvironmentId} (hs : s.sees id = true) (hidle : s.board.status id = .idle) :
      Acting issuer now s (.await id) ((require issuer now id).run (s.looked id)).2.board
  | activates (id : EnvironmentId) : Acting issuer now s (.activate id) ((activate now id).run s).2.board
  | prolongs (id : EnvironmentId) (seconds : Nat) :
      Acting issuer now s (.keepAlive id seconds) ((keepAlive now id seconds).run s).2.board
  | stops (id : EnvironmentId) : Acting issuer now s (.stop id) (s.board.close id)
  | drops (id : EnvironmentId) : Acting issuer now s (.drop id) (s.board.drop id)
  | sweeps {call : Call} (hcall : call.subject? = none) (moment : Instant) :
      Acting issuer now s call (s.board.sweep moment).2
  | sets (seconds : Nat) : Acting issuer now s (.setKeepAlive seconds) { s.board with keepAlive := seconds }

theorem acting (issuer : Issuer) (now : Instant) (call : Call) (s : Coordinator) :
    Acting issuer now s call ((call.step issuer now).run s).2.board := by
  cases call with
  | require id => exact .requires id
  | activate id => exact .activates id
  | stop id =>
    rw [Call.step, run_stop]
    split
    · exact .stops id
    · exact .rests _
  | drop id => exact .drops id
  | keepAlive id seconds =>
    rw [Call.step, snd_run_ignored]
    exact .prolongs id seconds
  | status id =>
    rw [Call.step, snd_run_ignored, run_status]
    exact .rests _
  | details id =>
    rw [Call.step, snd_run_ignored, snd_run_details]
    exact .rests _
  | sweep =>
    rw [Call.step, snd_run_ignored, sweep]
    cases hc : now.isReadable with
    | false =>
      rw [run_bind_crashed (run_clock_of_not_isReadable hc s)]
      exact .rests _
    | true =>
      rw [run_bind_done (run_clock_of_isReadable hc s)]
      exact .sweeps rfl now
  | sweepAt moment =>
    rw [Call.step, snd_run_ignored]
    exact .sweeps rfl moment
  | await id =>
    rw [Call.step, run_await]
    split
    · rename_i hs
      exact .awaits hs.1 hs.2
    · exact .rests _
  | look id =>
    rw [Call.step, snd_run_ignored, board_run_look]
    exact .rests _
  | setKeepAlive seconds => exact .sets seconds
  | setCensus census => exact .rests _

theorem changes_step (issuer : Issuer) (now : Instant) (call : Call) (s : Coordinator) :
    Changes issuer s.knows (call.Strands issuer now s) s.board ((call.step issuer now).run s).2.board := by
  cases call with
  | require id => exact (changes_require issuer now id s).imp (fun hs => ⟨id, rfl, hs⟩)
  | activate id => exact changes_activate now id
  | stop id => exact changes_stop id
  | drop id => exact .single (.drop id)
  | keepAlive id seconds =>
    rw [Call.step, snd_run_ignored]
    exact changes_keepAlive now id seconds
  | status id =>
    rw [Call.step, snd_run_ignored, run_status]
    exact .refl
  | details id =>
    rw [Call.step, snd_run_ignored, snd_run_details]
    exact .refl
  | sweep =>
    rw [Call.step, snd_run_ignored]
    exact changes_sweep now
  | sweepAt moment =>
    rw [Call.step, snd_run_ignored]
    exact TunnelBoard.changes_sweep s.board moment
  | await id => exact (changes_await issuer now id s).imp (fun hs => ⟨id, rfl, hs⟩)
  | look id =>
    rw [Call.step, snd_run_ignored, board_run_look]
  | setKeepAlive seconds => exact .single (.setKeepAlive seconds)
  | setCensus census => exact .refl

end Coordinator

end EdgeFleet
