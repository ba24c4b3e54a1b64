import EdgeFleet.Proofs.Glimpses
/-!
# Environments that share a coordinator

Environments share the pool, the sweeps and the census. What is told about one of them in a run is nevertheless what
its own calls make of it alone (`alone_of_run`), by what each look-up that they could make would answer, as long as it
is refused nothing for want of a port. How many look-ups a call makes is a result of this, not a condition on it. Two
runs with the same calls about it are then told apart by nothing but its ports (`told_alike`).
-/

namespace EdgeFleet

namespace Coordinator

open Attempt

variable {issuer : Issuer} {now : Instant} {id : EnvironmentId} {s s' : Coordinator}

/-- What is told about an environment in a run: for each call that concerns it the answers to its look-ups, and what
it answers. -/
def told (issuer : Issuer) (id : EnvironmentId) :
    Coordinator → List (Instant × Call) → List (List Bool × Outcome TunnelError Answer)
  | _, [] => []
  | s, (now, call) :: calls =>
    let rest := told issuer id ((call.step issuer now).run s).2 calls
    if call.concerns id then (looks id (call.lookUps issuer now s) s, ((call.tell issuer now id).run s).1) :: rest
    else rest

/-- The answers to the look-ups of an environment that the calls which concern it make in a run. -/
def asked (issuer : Issuer) (id : EnvironmentId) (s : Coordinator) (calls : List (Instant × Call)) :
    List (List Bool) :=
  (told issuer id s calls).map Prod.fst

/-- The answers that were read of those to look-ups that a call could make. -/
def Ending.read (e : Ending) (looks : List Bool) : List Bool := looks.take (looks.length - e.unread.length)

/-- The run of an environment on its own, by the calls that concern it and, for each of them, what the look-ups that it
can make are known to answer. -/
def Glimpse.told (issuer : Issuer) (id : EnvironmentId) :
    Glimpse → List (Instant × Call) → List (List Bool) → List (List Bool × Outcome TunnelError Answer) × Glimpse
  | g, (now, call) :: calls, looks :: known =>
    let ending := call.alone issuer now id g looks
    let rest := ending.glimpse.told issuer id calls known
    ((ending.read looks, ending.outcome) :: rest.1, rest.2)
  | g, _, _ => ([], g)

variable {calls calls' : List (Instant × Call)}

theorem told_cons_of_concerns {call : Call} (hc : call.concerns id = true) :
    told issuer id s ((now, call) :: calls) =
      (looks id (call.lookUps issuer now s) s, ((call.tell issuer now id).run s).1) ::
        told issuer id ((call.step issuer now).run s).2 calls :=
  if_pos hc

theorem told_cons_of_not_concerns {call : Call} (hc : call.concerns id = false) :
    told issuer id s ((now, call) :: calls) = told issuer id ((call.step issuer now).run s).2 calls :=
  if_neg (by simp [hc])

/-- In every run in which an environment is refused nothing for want of a port, it is told, and left with, what its
calls alone make of it, whatever else the look-ups would answer that a call does not come to. -/
theorem alone_of_run {known : List (List Bool)} (hlooks : List.Forall₂ (· <+: ·) (asked issuer id s calls) known)
    (hports : ∀ r ∈ told issuer id s calls, ∀ range, r.2 ≠ .refused (.noFreePort range)) :
    (s.glimpse id).told issuer id (calls.filter (fun c => c.2.concerns id)) known =
      (told issuer id s calls, (after (Call.step issuer) s calls).glimpse id) := by
  induction calls generalizing s known with
  | nil =>
    cases hlooks
    rfl
  | cons c calls ih =>
    obtain ⟨now, call⟩ := c
    unfold asked at hlooks
    cases hc : call.concerns id with
    | false =>
      rw [told_cons_of_not_concerns hc] at hlooks hports ⊢
      have hsame : ((call.step issuer now).run s).2.glimpse id = s.glimpse id := glimpse_of_not_concerns hc
      rw [List.filter_cons_of_neg (by simp [hc]), ← hsame]
      exact ih hlooks hports
    | true =>
      rw [told_cons_of_concerns hc] at hlooks
      rw [told_cons_of_concerns hc, List.forall_mem_cons] at hports
      obtain _ | ⟨⟨more, rfl⟩, hlooks⟩ := hlooks
      have hmatches := matches_of_concerns hc hports.1 more
      rw [snd_run_tell] at hmatches
      rw [told_cons_of_concerns hc, List.filter_cons_of_pos (by simp [hc]), Glimpse.told, hmatches,
        ih hlooks hports.2, Ending.read, List.length_append, Nat.add_sub_cancel, List.take_left]
      rfl

/-- Two runs, from coordinators that agree on an environment, with the same calls that concern it at the same
instants, in which the look-ups of each such call would be given the same answers, tell the same about the environment,
by the same look-ups, and leave the same of it but for ports, whatever else is done, and for whomever, as long as
neither refuses it anything for want of a port. -/
theorem told_alike (known : List (List Bool)) (hstart : s.glimpse id = s'.glimpse id)
    (hsame : calls.filter (fun c => c.2.concerns id) = calls'.filter (fun c => c.2.concerns id))
    (hlooks : List.Forall₂ (· <+: ·) (asked issuer id s calls) known)
    (hlooks' : List.Forall₂ (· <+: ·) (asked issuer id s' calls') known)
    (hports : ∀ r ∈ told issuer id s calls, ∀ range, r.2 ≠ .refused (.noFreePort range))
    (hports' : ∀ r ∈ told issuer id s' calls', ∀ range, r.2 ≠ .refused (.noFreePort range)) :
    told issuer id s calls = told issuer id s' calls' ∧
      (after (Call.step issuer) s calls).glimpse id = (after (Call.step issuer) s' calls').glimpse id := by
  have halone := alone_of_run hlooks hports
  rw [hstart, hsame, alone_of_run hlooks' hports'] at halone
  exact ⟨(congrArg Prod.fst halone).symm, (congrArg Prod.snd halone).symm⟩

/-- Whether a step is refused for want of a port. -/
def isExhausted {α : Type} : Outcome TunnelError α → Bool
  | .refused (.noFreePort _) => true
  | _ => false

theorem ne_noFreePort_of_any {rs : List (List Bool × Outcome TunnelError Answer)}
    (h : rs.any (fun r => isExhausted r.2) = false) : ∀ r ∈ rs, ∀ range, r.2 ≠ .refused (.noFreePort range) := by
  intro r hr range he
  have hr' := List.any_eq_false.1 h r hr
  rw [he] at hr'
  exact hr' rfl

/-- An environment is told the same whether or not another one takes the port that it would get, and its tunnel
is open on different ports. Its second request finds the tunnel asked for already and looks up the environment once,
though a second look-up would not find it. -/
theorem told_alike_beside_another : ∃ calls calls' : List (Instant × Call),
    told hourly ⟨7⟩ (knowing ⟨7⟩) calls = told hourly ⟨7⟩ (knowing ⟨7⟩) calls' ∧
    asked hourly ⟨7⟩ (knowing ⟨7⟩) calls = [[true, true], [true], [true, true], [], [true]] ∧
    ((after (Call.step hourly) (knowing ⟨7⟩) calls).board.tunnel? ⟨7⟩).bind Tunnel.port = some 9007 ∧
    ((after (Call.step hourly) (knowing ⟨7⟩) calls').board.tunnel? ⟨7⟩).bind Tunnel.port = some 9000 := by
  refine ⟨[(.ofSeconds 10, .require ⟨7⟩), (.ofSeconds 15, .require ⟨7⟩), (.ofSeconds 20, .activate ⟨7⟩),
      (.ofSeconds 30, .sweep), (.ofSeconds 40, .details ⟨7⟩)],
    [(.ofSeconds 5, .setCensus ⟨(Table.insert ∅ ⟨7⟩ ()).insert ⟨17⟩ (), none⟩), (.ofSeconds 6, .activate ⟨17⟩),
      (.ofSeconds 10, .require ⟨7⟩), (.ofSeconds 15, .require ⟨7⟩), (.ofSeconds 20, .activate ⟨7⟩),
      (.ofSeconds 25, .stop ⟨17⟩), (.ofSeconds 30, .sweep), (.ofSeconds 40, .details ⟨7⟩)],
    ?_, by decide +kernel, by decide +kernel, by decide +kernel⟩
  exact (told_alike [[true, true], [true, false], [true, true], [], [true]] rfl rfl (by decide +kernel)
    (by decide +kernel) (ne_noFreePort_of_any (by decide +kernel)) (ne_noFreePort_of_any (by decide +kernel))).1

end Coordinator

end EdgeFleet
