import EdgeFleet.Proofs.Staleness
import EdgeFleet.Script.Tunnels
/-!
# Those who wait while a script runs

A script is cut at its checks: `checks` are the worlds in which those who wait check while steps are carried out, those
of nested waits among them. Whoever waits looks at its own `turns` and at nothing else (`waiters_steps`), and where the
checks are quiet the steps go without it as they go with it (`steps_without`). On tunnels a check only looks
(`onlyLooked_checkAll`), and from one check to the next either time passes or tunnels are activated, not both
(`leads_steps`).
-/

namespace EdgeFleet

namespace TunnelBoard

variable {b b' : TunnelBoard} {id : EnvironmentId} {t : Tunnel} {port : UInt16}

/-! ## How often tunnels were activated -/

theorem activations_of_reserve? (h : b.reserve? id t = some (port, b')) : b'.activations = b.activations := by
  cases reserved h <;> rfl

theorem activations_close (b : TunnelBoard) (id : EnvironmentId) : (b.close id).activations = b.activations := by
  unfold close
  cases b.tunnel? id <;> rfl

theorem activations_drop (b : TunnelBoard) (id : EnvironmentId) : (b.drop id).activations = b.activations := by
  unfold drop
  cases b.tunnel? id <;> rfl

end TunnelBoard

namespace Script

section Checks

variable {ω ε α σ : Type} (p : Plane ω ε α σ)

/-! ## The beginning of a wait -/

/-- For how many seconds one waits, by what the beginning of the wait came to. -/
def lengthOf : Outcome ε (Nat × Option TunnelDetails) → Nat
  | .done (length, _) => length
  | _ => 0

/-- How a wait ends that ends with its beginning. -/
def endOf : Outcome ε (Nat × Option TunnelDetails) → Option (Outcome ε TunnelDetails)
  | .done (_, d?) => d?.map .done
  | .refused e => some (.refused e)
  | .crashed => some .crashed

/-- One who waits, by what the beginning of the wait came to and the world that it left. -/
def newcomer (id : EnvironmentId) (o : Outcome ε (Nat × Option TunnelDetails)) (w : World ε σ) : Waiter ε :=
  { id, deadline := w.timer + 1000 * lengthOf o + 1, restarts := p.restarts w.state,
    seen := (p.board w.state).activations, ended := endOf o }

/-- What the beginning of a wait comes to. -/
def opening (id : EnvironmentId) (seconds : Option Nat) (w : World ε σ) :
    Outcome ε (Nat × Option TunnelDetails) × World ε σ :=
  w.perform (beginWait p w.now w.timer id seconds)

/-- The world in which one has begun to wait. -/
def begun (id : EnvironmentId) (seconds : Option Nat) (w : World ε σ) : World ε σ :=
  { (opening p id seconds w).2 with
    waiters :=
      newcomer p id (opening p id seconds w).1 (opening p id seconds w).2 :: (opening p id seconds w).2.waiters }

/-- The end of a wait, by what its beginning came to and by the steps that were carried out meanwhile. -/
def closing (id : EnvironmentId) (o : Outcome ε (Nat × Option TunnelDetails)) (r : List (Answer ε α) × World ε σ) :
    Answer ε α × World ε σ :=
  match r.2.waiters with
  | [] => (.crashed, r.2)
  | x :: waiters =>
    match x.ended with
    | some outcome => (.awaited (endOf o).isSome r.1 0 outcome, { r.2 with waiters })
    | none =>
      (.awaited false r.1 (lengthOf o) (.refused (p.inVain id)),
        { r.2 with waiters, timer := max r.2.timer x.deadline })

theorem step_await (id : EnvironmentId) (seconds : Option Nat) (during : List (Step ω)) (w : World ε σ) :
    step p (.await id seconds during) w =
      closing p id (opening p id seconds w).1 (steps p during (begun p id seconds w)) := by
  rw [step, begun, opening]
  generalize w.perform (beginWait p w.now w.timer id seconds) = r
  rcases r with ⟨⟨length, d?⟩ | e | _, u⟩ <;> rfl

/-! ## Checks -/

/-- Those who wait after a check. -/
def checked (waiters : List (Waiter ε)) (c : World ε σ) : List (Waiter ε) :=
  (checkAll p c.now c.timer waiters c.state).1

mutual

/-- The worlds in which those who wait check while a step is carried out. -/
def checksIn : Step ω → World ε σ → List (World ε σ)
  | .await id seconds during, w => checks during (begun p id seconds w)
  | _, _ => []

/-- The worlds in which those who wait check while steps are carried out, one after each of them. -/
def checks : List (Step ω) → World ε σ → List (World ε σ)
  | [], _ => []
  | s :: r, w => checksIn s w ++ (step p s w).2 :: checks r (settle p (step p s w).2)

end

/-- One who waits and the state after a look, if a tunnel was activated since the last one. -/
def glance (now : Instant) (x : Waiter ε) (s : σ) : Waiter ε × σ :=
  if x.isWoken p s then
    ({ x with
        seen := (p.board s).activations
        ended := ending (p.onTunnels (Coordinator.look now x.id) s).1 },
      (p.onTunnels (Coordinator.look now x.id) s).2)
  else (x, s)

/-- One who waits gives up when the time has come. -/
def expired (timer : Nat) (x : Waiter ε) : Waiter ε :=
  if x.ended.isNone ∧ x.deadline ≤ timer then { x with ended := some (.refused (p.inVain x.id)) } else x

/-- The worlds in which one who waits gets to look: those of the checks, with those who began earlier done. -/
def turns (older : List (Waiter ε)) : List (World ε σ) → List (World ε σ)
  | [] => []
  | c :: cs => { c with state := (checkAll p c.now c.timer older c.state).2 } :: turns (checked p older c) cs

/-- One who waits after a look, if there is cause for one. -/
def looked (x : Waiter ε) (c : World ε σ) : Waiter ε := (x.check p c.now c.timer c.state).1

variable {p}

theorem check_of_ended {x : Waiter ε} {o : Outcome ε TunnelDetails} (h : x.ended = some o) (now : Instant) (timer : Nat)
    (s : σ) : x.check p now timer s = (x, s) := by
  rw [Waiter.check, h]

theorem check_of_waiting {x : Waiter ε} (h : x.ended = none) (now : Instant) (timer : Nat) (s : σ) :
    x.check p now timer s = (expired p timer (glance p now x s).1, (glance p now x s).2) := by
  rw [Waiter.check, h]
  unfold glance expired
  by_cases hw : x.isWoken p s = true
  · simp only [if_pos hw]
    split <;> rfl
  · simp only [if_neg hw]
    split <;> rfl

theorem checked_cons (x : Waiter ε) (older : List (Waiter ε)) (c : World ε σ) :
    checked p (x :: older) c =
      looked p x { c with state := (checkAll p c.now c.timer older c.state).2 } :: checked p older c := rfl

/-- One who waits looks at each turn, and those who began earlier check without regard to it. -/
theorem foldl_checked_cons (x : Waiter ε) (older : List (Waiter ε)) (cs : List (World ε σ)) :
    cs.foldl (checked p) (x :: older) = (turns p older cs).foldl (looked p) x :: cs.foldl (checked p) older := by
  induction cs generalizing x older with
  | nil => rfl
  | cons c cs ih =>
    rw [List.foldl_cons, checked_cons, ih]
    rfl

theorem waiters_sweepOver (ids : List EnvironmentId) (times : List Nat) (sweeping : Sweeping) (w : World ε σ) :
    (sweepOver p ids times sweeping w).2.2.waiters = w.waiters := by
  induction times generalizing sweeping w with
  | nil => rfl
  | cons ms times ih => exact ih _ _

theorem closing_eq {id : EnvironmentId} {o : Outcome ε (Nat × Option TunnelDetails)} {r : List (Answer ε α) × World ε σ}
    {x : Waiter ε} {waiters : List (Waiter ε)} (h : r.2.waiters = x :: waiters) :
    closing p id o r =
      match x.ended with
      | some outcome => (.awaited (endOf o).isSome r.1 0 outcome, { r.2 with waiters })
      | none =>
        (.awaited false r.1 (lengthOf o) (.refused (p.inVain id)),
          { r.2 with waiters, timer := max r.2.timer x.deadline }) := by
  rw [closing, h]

theorem waiters_settle (w : World ε σ) : (settle p w).waiters = checked p w.waiters w := rfl

mutual

theorem waiters_step (s : Step ω) (w : World ε σ) :
    (step p s w).2.waiters = (checksIn p s w).foldl (checked p) w.waiters := by
  match s with
  | .act op => rfl
  | .advance ms => rfl
  | .unreadable field => rfl
  | .sweeper interval ids times stopFirst => exact waiters_sweepOver ids times _ _
  | .await id seconds during =>
    have h := waiters_steps during (begun p id seconds w)
    rw [step_await, checksIn]
    change _ = (checks p during _).foldl (checked p) (newcomer p id _ _ :: w.waiters) at h
    rw [foldl_checked_cons] at h
    rw [closing_eq h]
    split <;> rfl

theorem waiters_steps (l : List (Step ω)) (w : World ε σ) :
    (steps p l w).2.waiters = (checks p l w).foldl (checked p) w.waiters := by
  match l with
  | [] => rfl
  | s :: r =>
    have hr := waiters_steps r (settle p (step p s w).2)
    rw [waiters_settle, waiters_step s w] at hr
    rw [checks, List.foldl_append, List.foldl_cons]
    exact hr

end

/-! ## Those who wait do not disturb -/

/-- A world without one of those who wait. -/
def World.without (w : World ε σ) (n : Nat) : World ε σ := { w with waiters := w.waiters.eraseIdx n }

variable (p) in
/-- Whether a check in a world leaves the control plane alone, whoever waits. -/
def Quiet (c : World ε σ) : Prop := ∀ x : Waiter ε, (x.check p c.now c.timer c.state).2 = c.state

theorem checkAll_of_quiet {c : World ε σ} (h : Quiet p c) (ws : List (Waiter ε)) :
    checkAll p c.now c.timer ws c.state = (ws.map (fun x => (x.check p c.now c.timer c.state).1), c.state) := by
  induction ws with
  | nil => rfl
  | cons x ws ih =>
    rw [checkAll, ih]
    exact Prod.ext rfl (h x)

theorem settle_without {c : World ε σ} (h : Quiet p c) (n : Nat) : settle p (c.without n) = (settle p c).without n := by
  have hall := checkAll_of_quiet h
  unfold settle World.without
  dsimp only
  rw [hall, hall, List.eraseIdx_map]

theorem sweepOver_without (ids : List EnvironmentId) (times : List Nat) (sweeping : Sweeping) (n : Nat)
    (w : World ε σ) :
    sweepOver p ids times sweeping (w.without n) =
      ((sweepOver p ids times sweeping w).1, (sweepOver p ids times sweeping w).2.1,
        (sweepOver p ids times sweeping w).2.2.without n) := by
  induction times generalizing sweeping w with
  | nil => rfl
  | cons ms times ih =>
    let after := (Sweeper.mk sweeping w.now w.timer (p.board w.state) false).step ms
    have hrest := ih after.sweeping
      { w with
        state := (statuses p ids (p.withBoard after.board w.state)).2
        now := after.now
        timer := after.timer }
    exact congrArg (fun r => (_ :: r.1, r.2.1, r.2.2)) hrest

theorem closing_without (id : EnvironmentId) (o : Outcome ε (Nat × Option TunnelDetails))
    (r : List (Answer ε α) × World ε σ) (n : Nat) :
    closing p id o (r.1, r.2.without (n + 1)) = ((closing p id o r).1, (closing p id o r).2.without n) := by
  obtain ⟨answers, state, now, timer, waiters⟩ := r
  cases waiters with
  | nil => rfl
  | cons x waiters =>
    obtain ⟨_, _, _, _, ended⟩ := x
    cases ended <;> rfl

mutual

/-- As long as the checks are quiet, steps go without one of those who wait as they go with it. -/
theorem step_without (s : Step ω) (n : Nat) (w : World ε σ) (h : ∀ c ∈ checksIn p s w, Quiet p c) :
    step p s (w.without n) = ((step p s w).1, (step p s w).2.without n) := by
  match s with
  | .act op => rfl
  | .advance ms => rfl
  | .unreadable field => rfl
  | .sweeper interval ids times stopFirst =>
    let started := Sweeper.start interval w.now w.timer (p.board (statuses p ids w.state).2) stopFirst
    have hsweep := sweepOver_without (p := p) ids times started.sweeping n
      { w with state := p.withBoard started.board (statuses p ids w.state).2 }
    exact congrArg (fun r => (Answer.swept ((statuses p ids w.state).1 :: r.1) r.2.1.endsWell, r.2.2)) hsweep
  | .await id seconds during =>
    have hsteps := steps_without during (n + 1) (begun p id seconds w) h
    rw [step_await, step_await, ← closing_without, ← hsteps]
    rfl

theorem steps_without (l : List (Step ω)) (n : Nat) (w : World ε σ) (h : ∀ c ∈ checks p l w, Quiet p c) :
    steps p l (w.without n) = ((steps p l w).1, (steps p l w).2.without n) := by
  match l with
  | [] => rfl
  | s :: r =>
    rw [checks] at h
    have hs := step_without s n w (fun c hc => h c (List.mem_append_left _ hc))
    have hsettle := settle_without (h _ (List.mem_append_right _ List.mem_cons_self)) n
    have hr := steps_without r n (settle p (step p s w).2)
      (fun c hc => h c (List.mem_append_right _ (List.mem_cons_of_mem _ hc)))
    rw [steps, steps, hs]
    dsimp only
    rw [hsettle, hr]

end

end Checks

/-! ## What a look leaves alone -/

open Attempt
open TunnelBoard (Changes)

/-- Whether a coordinator is another one after some look-ups. -/
structure OnlyLooked (s s' : Coordinator) : Prop where
  board : s'.board = s.board
  jobs : s'.jobs = s.jobs
  known : s'.census.known = s.census.known

namespace OnlyLooked

variable {s s' s'' : Coordinator}

theorem refl (s : Coordinator) : OnlyLooked s s := ⟨rfl, rfl, rfl⟩

theorem trans (h : OnlyLooked s s') (h' : OnlyLooked s' s'') : OnlyLooked s s'' :=
  ⟨h'.board.trans h.board, h'.jobs.trans h.jobs, h'.known.trans h.known⟩

theorem looked (s : Coordinator) (id : EnvironmentId) : OnlyLooked s (s.looked id) :=
  ⟨rfl, rfl, Coordinator.known_looked s id⟩

theorem status (s : Coordinator) (id : EnvironmentId) : OnlyLooked s ((Coordinator.status id).run s).2 := by
  rw [Coordinator.run_status]
  exact looked s id

theorem look (now : Instant) (id : EnvironmentId) (s : Coordinator) :
    OnlyLooked s ((Coordinator.look now id).run s).2 := by
  unfold Coordinator.look
  cases hs : s.sees id with
  | false =>
    rw [run_bind_refused (Coordinator.run_status_of_not_sees hs)]
    exact looked s id
  | true =>
    rw [run_bind_done (Coordinator.run_status_of_sees hs)]
    split
    · change OnlyLooked s ((some <$> Coordinator.details now id : Coordinator.Step _).run (s.looked id)).2
      rw [run_map, Coordinator.snd_run_details]
      exact (looked s id).trans (looked _ id)
    · exact looked s id

end OnlyLooked

section Tunnels

variable {issuer : Issuer} {w w' u v : World Refusal Coordinator} {cs cs' : List (World Refusal Coordinator)}

theorem onlyLooked_check (x : Waiter Refusal) (now : Instant) (timer : Nat) (s : Coordinator) :
    OnlyLooked s (x.check (tunnelPlane issuer) now timer s).2 := by
  cases hx : x.ended with
  | some o =>
    rw [check_of_ended hx]
    exact .refl s
  | none =>
    rw [check_of_waiting hx, glance]
    split
    · exact .look now x.id s
    · exact .refl s

theorem onlyLooked_checkAll (ws : List (Waiter Refusal)) (now : Instant) (timer : Nat) (s : Coordinator) :
    OnlyLooked s (checkAll (tunnelPlane issuer) now timer ws s).2 := by
  induction ws with
  | nil => exact .refl s
  | cons x ws ih => exact ih.trans (onlyLooked_check x now timer _)

/-! ## What steps do to the board -/

/-- Whether a board has the tunnels of another one at a later time: none was opened unnoticed, and they still hold
what their phases say. -/
structure Later (issuer : Issuer) (b b' : TunnelBoard) : Prop where
  activations : b.activations ≤ b'.activations
  issued : b.Issued issuer → b'.Issued issuer

namespace Later

variable {b b' b'' : TunnelBoard} {known : EnvironmentId → Bool} {strands : Prop}

theorem refl (b : TunnelBoard) : Later issuer b b := ⟨Nat.le_refl _, fun h => h⟩

theorem trans (h : Later issuer b b') (h' : Later issuer b' b'') : Later issuer b b'' :=
  ⟨Nat.le_trans h.activations h'.activations, fun hb => h'.issued (h.issued hb)⟩

theorem change (h : TunnelBoard.Change issuer known strands b b') : Later issuer b b' := by
  refine ⟨?_, fun hb => hb.change h⟩
  cases h with
  | begin | use | setKeepAlive => exact Nat.le_refl _
  | count => exact Nat.le_succ _
  | lend _ _ hr | ask _ _ hr | activate _ _ _ hr => exact Nat.le_of_eq (TunnelBoard.activations_of_reserve? hr).symm
  | close id => exact Nat.le_of_eq (b.activations_close id).symm
  | drop id => exact Nat.le_of_eq (b.activations_drop id).symm

theorem changes (h : Changes issuer known strands b b') : Later issuer b b' := by
  induction h with
  | refl => exact .refl b
  | tail _ hc ih => exact ih.trans (.change hc)

/-- The pool has no part in it. -/
theorem withPool (b : TunnelBoard) (pool : PortPool) : Later issuer b { b with pool } :=
  ⟨Nat.le_refl _, fun h => ⟨h.tunnel, h.credentials⟩⟩

end Later

theorem snd_run_tunnels {β : Type} (reply : β → Reply) (x : Coordinator.Step β) (s : Coordinator) :
    ((TunnelOp.tunnels reply x).run s).2 = (x.run s).2 := by
  rw [TunnelOp.tunnels, run_map, run_renamed]

theorem later_act (issuer : Issuer) (now : Instant) (op : TunnelOp) (s : Coordinator) :
    Later issuer s.board ((op.act issuer now).run s).2.board := by
  have hchanges : ∀ {b}, Changes issuer s.knows False s.board b → Later issuer s.board b := fun h => .changes h
  cases op with
  | require id =>
    rw [TunnelOp.act, snd_run_tunnels]
    exact .changes (Coordinator.changes_require issuer now id s)
  | activate id =>
    rw [TunnelOp.act, snd_run_tunnels]
    exact hchanges (Coordinator.changes_activate now id)
  | stop id =>
    rw [TunnelOp.act, snd_run_tunnels]
    exact hchanges (Coordinator.changes_stop id)
  | drop id =>
    rw [TunnelOp.act, snd_run_tunnels]
    exact hchanges (.single (.drop id))
  | keepAlive id seconds =>
    rw [TunnelOp.act, snd_run_tunnels]
    exact hchanges (Coordinator.changes_keepAlive now id seconds)
  | status id =>
    rw [TunnelOp.act, snd_run_tunnels, Coordinator.run_status]
    exact .refl s.board
  | details id =>
    rw [TunnelOp.act, snd_run_tunnels, Coordinator.snd_run_details]
    exact .refl s.board
  | sweep =>
    rw [TunnelOp.act, snd_run_tunnels]
    exact hchanges (Coordinator.changes_sweep now)
  | sweepAt moment =>
    rw [TunnelOp.act, snd_run_tunnels]
    exact hchanges (TunnelBoard.changes_sweep s.board moment)
  | setKeepAlive seconds => exact hchanges (.single (.setKeepAlive seconds))
  | lendPort id wanted =>
    cases hl : s.board.pool.lend id wanted with
    | some q =>
      have hrun : ((TunnelOp.lendPort id wanted).act issuer now).run s =
          (.done (.number q.1.toNat), { s with board := { s.board with pool := q.2 } }) := by
        simp only [TunnelOp.act, Attempt.run, hl]
      rw [hrun]
      exact .withPool s.board q.2
    | none =>
      have hrun : ((TunnelOp.lendPort id wanted).act issuer now).run s =
          (.refused (.noFreePort s.board.pool.range), s) := by
        simp only [TunnelOp.act, Attempt.run, hl]
      rw [hrun]
      exact .refl s.board
  | takePortBack id => exact .withPool s.board _
  | issue id =>
    rw [TunnelOp.act]
    split <;> exact .refl s.board
  | verify id token =>
    rw [TunnelOp.act, run_bind, run_ofOutcome]
    cases (issuer.verify now token id).rename Refusal.credentials (fun c => c) <;> exact .refl s.board
  | keepAliveSeconds | port | available | attach | detach | pending | acknowledge | forgetJobs | know | unknow
    | limitLookups => exact .refl s.board

/-- The beginning of a wait: the tunnel is asked for if it is idle, and then looked at for the first time. -/
theorem run_beginWait (issuer : Issuer) (now : Instant) (timer : Nat) (id : EnvironmentId) (seconds : Option Nat)
    (s : Coordinator) :
    (beginWait (tunnelPlane issuer) now timer id seconds).run s =
      match (Coordinator.await issuer now id).run s with
      | (.refused e, s') => (.refused (.tunnel e), s')
      | (.crashed, s') => (.crashed, s')
      | (.done _, s') =>
        if lastSecond < timer / 1000 + seconds.getD 0 then (.crashed, s')
        else
          (((Coordinator.look now id).run s').1.rename .tunnel (fun d? => (seconds.getD 0, d?)),
            ((Coordinator.look now id).run s').2) := by
  have hawait : ((tunnelPlane issuer).await now id seconds).run s =
      (((Coordinator.await issuer now id).run s).1.rename .tunnel (fun _ => seconds.getD 0),
        ((Coordinator.await issuer now id).run s).2) := by
    change ((Coordinator.await issuer now id).renamed .tunnel >>= fun _ => pure (seconds.getD 0) :
      Attempt Coordinator Refusal Nat).run s = _
    rw [run_bind, run_renamed]
    rcases (Coordinator.await issuer now id).run s with ⟨_ | e | _, s'⟩ <;> rfl
  rw [beginWait, run_bind, hawait]
  rcases (Coordinator.await issuer now id).run s with ⟨_ | e | _, s'⟩
  · change (if _ then Attempt.crash else _ : Attempt Coordinator Refusal _).run s' = _
    by_cases hl : lastSecond < timer / 1000 + seconds.getD 0
    · simp only [if_pos hl, run_crash]
    · simp only [if_neg hl]
      change ((Coordinator.look now id).renamed .tunnel >>= fun d? => pure (seconds.getD 0, d?) :
        Attempt Coordinator Refusal _).run s' = _
      rw [run_bind, run_renamed]
      rcases (Coordinator.look now id).run s' with ⟨_ | _ | _, _⟩ <;> rfl
  · rfl
  · rfl

/-- The beginning of a wait leaves what its request for the tunnel left, but for look-ups. -/
theorem onlyLooked_opening (issuer : Issuer) (id : EnvironmentId) (seconds : Option Nat)
    (w : World Refusal Coordinator) :
    OnlyLooked ((Coordinator.await issuer w.now id).run w.state).2
      (opening (tunnelPlane issuer) id seconds w).2.state := by
  have hrun := run_beginWait issuer w.now w.timer id seconds w.state
  change OnlyLooked _ ((beginWait (tunnelPlane issuer) w.now w.timer id seconds).run w.state).2
  rw [hrun]
  rcases (Coordinator.await issuer w.now id).run w.state with ⟨_ | e | _, s'⟩
  · dsimp only
    split
    · exact .refl s'
    · exact .look w.now id s'
  · exact .refl s'
  · exact .refl s'

/-- A request for a tunnel activates none. -/
theorem activations_await (issuer : Issuer) (now : Instant) (id : EnvironmentId) (s : Coordinator) :
    ((Coordinator.await issuer now id).run s).2.board.activations = s.board.activations := by
  rw [Coordinator.run_await]
  split
  · have hr := Coordinator.requiring issuer now id (s.looked id)
    generalize (Coordinator.require issuer now id).run (s.looked id) = r at hr
    cases hr with
    | unknown | unread | standing | exhausted => rfl
    | cutOff _ _ _ hr | asked _ _ _ hr =>
      have hsame := TunnelBoard.activations_of_reserve? hr
      exact hsame
    | forgotten _ _ _ hr =>
      have hsame := TunnelBoard.activations_of_reserve? hr
      exact (TunnelBoard.activations_drop _ id).trans hsame
  · rfl

/-! ## What follows what -/

/-- Whether a world comes right after another one: what activates a tunnel takes no time. -/
structure Follows (issuer : Issuer) (w w' : World Refusal Coordinator) : Prop where
  timer : w.timer ≤ w'.timer
  board : Later issuer w.state.board w'.state.board
  still : w.state.board.activations < w'.state.board.activations → w'.timer = w.timer

/-- Where time passes, no tunnel is activated. -/
theorem Follows.of_activations (ht : w.timer ≤ w'.timer) (hb : Later issuer w.state.board w'.state.board)
    (ha : w'.state.board.activations = w.state.board.activations) : Follows issuer w w' :=
  ⟨ht, hb, fun h => absurd h (by rw [ha]; exact Nat.lt_irrefl _)⟩

theorem Follows.of_timer (ht : w'.timer = w.timer) (hb : Later issuer w.state.board w'.state.board) :
    Follows issuer w w' :=
  ⟨Nat.le_of_eq ht.symm, hb, fun _ => ht⟩

/-- What follows a world follows every one that has the same time and the same tunnels, or less of them. -/
theorem Follows.of_same (h : Follows issuer u v) (ht : u.timer = w.timer)
    (hb : Later issuer w.state.board u.state.board)
    (ha : u.state.board.activations = w.state.board.activations) : Follows issuer w v := by
  refine ⟨ht ▸ h.timer, hb.trans h.board, fun hlt => ?_⟩
  rw [h.still (by rw [ha]; exact hlt), ht]

theorem onlyLooked_statuses (ids : List EnvironmentId) (s : Coordinator) :
    OnlyLooked s (statuses (tunnelPlane issuer) ids s).2 := by
  have hall : ∀ acc : List (Outcome Refusal TunnelStatus) × Coordinator, OnlyLooked s acc.2 →
      OnlyLooked s (ids.foldl (fun (acc : List (Outcome Refusal TunnelStatus) × Coordinator) id =>
        let (o, s) := (tunnelPlane issuer).onTunnels (Coordinator.status id) acc.2
        (acc.1 ++ [o], s)) acc).2 := by
    induction ids with
    | nil => exact fun _ h => h
    | cons id ids ih => exact fun acc h => ih _ (h.trans (.status acc.2 id))
  exact hall ([], s) (.refl s)

/-- A sweeper activates no tunnel. -/
theorem later_sweeper (s : Sweeper) (ms : Nat) :
    Later issuer s.board (s.step ms).board ∧ (s.step ms).board.activations = s.board.activations := by
  have hstep := s.stepping ms
  generalize s.step ms = s' at hstep
  cases hstep with
  | stopped | told | early | broke => exact ⟨.refl _, rfl⟩
  | swept =>
    have hc : Changes issuer (fun _ => true) False s.board (s.board.sweep (s.now.later ms)).2 :=
      TunnelBoard.changes_sweep s.board _
    exact ⟨.changes hc, (TunnelBoard.foldl_close_rest _ s.board).2.2⟩

theorem sweepOver_spec (ids : List EnvironmentId) (times : List Nat) (sweeping : Sweeping)
    (w : World Refusal Coordinator) :
    w.timer ≤ (sweepOver (tunnelPlane issuer) ids times sweeping w).2.2.timer ∧
      Later issuer w.state.board (sweepOver (tunnelPlane issuer) ids times sweeping w).2.2.state.board ∧
      (sweepOver (tunnelPlane issuer) ids times sweeping w).2.2.state.board.activations =
        w.state.board.activations := by
  induction times generalizing sweeping w with
  | nil => exact ⟨Nat.le_refl _, .refl _, rfl⟩
  | cons ms times ih =>
    let after := (Sweeper.mk sweeping w.now w.timer w.state.board false).step ms
    let state := (statuses (tunnelPlane issuer) ids { w.state with board := after.board }).2
    have hboard : state.board = after.board := (onlyLooked_statuses ids _).board
    obtain ⟨hlater, hsame⟩ : Later issuer w.state.board after.board ∧ _ :=
      later_sweeper (Sweeper.mk sweeping w.now w.timer w.state.board false) ms
    have htimer : after.timer = w.timer + ms := Sweeper.timer_step _ ms
    obtain ⟨ht, hl, ha⟩ := ih after.sweeping { w with state, now := after.now, timer := after.timer }
    refine ⟨?_, ?_, ?_⟩
    · exact Nat.le_trans (htimer ▸ Nat.le_add_right _ _) ht
    · exact (hboard ▸ hlater).trans hl
    · exact ha.trans ((congrArg _ hboard).trans hsame)

theorem follows_step_of_act (op : TunnelOp) (w : World Refusal Coordinator) :
    Follows issuer w (step (tunnelPlane issuer) (.act op) w).2 :=
  .of_timer rfl (later_act issuer w.now op w.state)

theorem follows_sweeper (interval : Nat) (ids : List EnvironmentId) (times : List Nat) (stopFirst : Bool)
    (w : World Refusal Coordinator) :
    Follows issuer w (step (tunnelPlane issuer) (.sweeper interval ids times stopFirst) w).2 := by
  let state := (statuses (tunnelPlane issuer) ids w.state).2
  let started := Sweeper.start interval w.now w.timer state.board stopFirst
  have hboard : started.board = w.state.board :=
    (Sweeper.board_start interval w.now w.timer state.board stopFirst).trans (onlyLooked_statuses ids w.state).board
  obtain ⟨ht, hl, ha⟩ := @sweepOver_spec issuer ids times started.sweeping
    { w with state := { state with board := started.board } }
  exact .of_activations ht (hboard ▸ hl) (ha.trans (congrArg _ hboard))

/-! ## From one check to the next -/

/-- Whether the checks in some worlds lead from one world to another: each follows what the check before left. -/
inductive Leads (issuer : Issuer) :
    World Refusal Coordinator → List (World Refusal Coordinator) → World Refusal Coordinator → Prop
  | done {w v : World Refusal Coordinator} (h : Follows issuer w v) : Leads issuer w [] v
  | check {w c v : World Refusal Coordinator} {cs : List (World Refusal Coordinator)} (h : Follows issuer w c)
      (hr : Leads issuer (settle (tunnelPlane issuer) c) cs v) : Leads issuer w (c :: cs) v

namespace Leads

theorem append {c : World Refusal Coordinator} (h : Leads issuer w cs c)
    (h' : Leads issuer (settle (tunnelPlane issuer) c) cs' v) : Leads issuer w (cs ++ c :: cs') v := by
  induction h with
  | done hf => exact .check hf h'
  | check hf _ ih => exact .check hf (ih h')

theorem of_same (h : Leads issuer u cs v) (ht : u.timer = w.timer) (hb : Later issuer w.state.board u.state.board)
    (ha : u.state.board.activations = w.state.board.activations) : Leads issuer w cs v := by
  cases h with
  | done hf => exact .done (hf.of_same ht hb ha)
  | check hf hr => exact .check (hf.of_same ht hb ha) hr

/-- The timer does not go back between the checks. -/
theorem timer_le (h : Leads issuer w cs v) : ∀ c ∈ cs, w.timer ≤ c.timer := by
  induction h with
  | done => exact nofun
  | check hf _ ih =>
    refine List.forall_mem_cons.2 ⟨hf.timer, fun c hc => Nat.le_trans hf.timer (ih c hc)⟩

/-- Whoever checks finds tunnels that hold what their phases say. -/
theorem issued (h : Leads issuer w cs v) (hw : w.state.board.Issued issuer) :
    ∀ c ∈ cs, c.state.board.Issued issuer := by
  induction h with
  | done => exact nofun
  | @check w c v cs hf _ ih =>
    have hc := hf.board.issued hw
    have hsettled : (settle (tunnelPlane issuer) c).state.board = c.state.board :=
      (onlyLooked_checkAll c.waiters c.now c.timer c.state).board
    exact List.forall_mem_cons.2 ⟨hc, ih (hsettled ▸ hc)⟩

end Leads

theorem later_begun (issuer : Issuer) (id : EnvironmentId) (seconds : Option Nat) (w : World Refusal Coordinator) :
    Later issuer w.state.board (begun (tunnelPlane issuer) id seconds w).state.board ∧
      (begun (tunnelPlane issuer) id seconds w).state.board.activations = w.state.board.activations := by
  have hopening : (begun (tunnelPlane issuer) id seconds w).state.board = _ :=
    (onlyLooked_opening issuer id seconds w).board
  rw [hopening]
  exact ⟨.changes (Coordinator.changes_await issuer w.now id w.state), activations_await issuer w.now id w.state⟩

/-- The end of a wait takes time at most. -/
theorem follows_closing (id : EnvironmentId) (o : Outcome Refusal (Nat × Option TunnelDetails))
    (r : List (Answer Refusal Reply) × World Refusal Coordinator) :
    Follows issuer r.2 (closing (tunnelPlane issuer) id o r).2 := by
  unfold closing
  split
  · exact .of_timer rfl (.refl _)
  · split
    · exact .of_timer rfl (.refl _)
    · exact .of_activations (Nat.le_max_left _ _) (.refl _) rfl

mutual

/-- The checks while a step is carried out lead from the world before it to the one after it. -/
theorem leads_step (issuer : Issuer) (s : Step TunnelOp) (w : World Refusal Coordinator) :
    Leads issuer w (checksIn (tunnelPlane issuer) s w) (step (tunnelPlane issuer) s w).2 := by
  match s with
  | .act op => exact .done (follows_step_of_act op w)
  | .advance ms => exact .done (.of_timer rfl (.refl _))
  | .unreadable field => exact .done (.of_timer rfl (.refl _))
  | .sweeper interval ids times stopFirst => exact .done (follows_sweeper interval ids times stopFirst w)
  | .await id seconds during =>
    obtain ⟨hb, ha⟩ := later_begun issuer id seconds w
    rw [step_await, checksIn]
    exact (leads_steps issuer during _ _ (follows_closing id _ _)).of_same rfl hb ha

theorem leads_steps (issuer : Issuer) (l : List (Step TunnelOp)) (w v : World Refusal Coordinator)
    (h : Follows issuer (steps (tunnelPlane issuer) l w).2 v) : Leads issuer w (checks (tunnelPlane issuer) l w) v := by
  match l with
  | [] => exact .done h
  | s :: r => exact (leads_step issuer s w).append (leads_steps issuer r _ v h)

end

end Tunnels

end Script

end EdgeFleet
