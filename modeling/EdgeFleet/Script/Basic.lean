import EdgeFleet.Tunnel.Coordinator
import EdgeFleet.Tunnel.Sweeper
/-!
# Scripts

A script is a list of steps on a control plane whose clock is set by the script. Beside single
operations there are steps that take time: waiting for a tunnel while other steps happen, and
running a sweeper. Those who wait look again after every step in which a tunnel was activated, the
one who waits longest first, and give up when the timer reaches their deadline. The timer moves
only with a sweeper, or when one who waits gives up. It has run for some time when a script starts,
and there is a last second that it can show.
-/

namespace EdgeFleet

namespace Script

/-- A step of a script over some operations. -/
inductive Step (ω : Type) where
  /-- Carries out an operation. -/
  | act (op : ω)
  /-- Moves the clock by some milliseconds, also backwards. -/
  | advance (ms : Int)
  /-- Waits for a tunnel while other steps happen, for some seconds or as long as the control
  plane says. -/
  | await (id : EnvironmentId) (seconds : Option Nat) (during : List (Step ω))
  /-- Runs a sweeper over some steps of time and shows the status of some tunnels after each. -/
  | sweeper (interval : Nat) (ids : List EnvironmentId) (steps : List Nat) (stopFirst : Bool)
  /-- A step that could not be read, by the field that is to blame. -/
  | unreadable (field : String)

/-- The answer to a step. -/
inductive Answer (ε α : Type) where
  | act (outcome : Outcome ε α)
  | moved
  | awaited (immediate : Bool) (during : List (Answer ε α)) (seconds : Nat)
      (outcome : Outcome ε TunnelDetails)
  /-- What a sweeper left of some tunnels, and whether it ended when it was told to. -/
  | swept (shown : List (List (Outcome ε TunnelStatus))) (endedWell : Bool)
  | crashed
  | unreadable (field : String)

/-- A control plane that scripts can run on. -/
structure Plane (ω ε α σ : Type) where
  /-- Carries out an operation. -/
  act : Instant → ω → Attempt σ ε α
  /-- Carries out a step on tunnels. -/
  onTunnels : {β : Type} → Coordinator.Step β → Attempt σ ε β
  /-- Begins to wait for a tunnel, and tells for how many seconds. -/
  await : Instant → EnvironmentId → Option Nat → Attempt σ ε Nat
  /-- The refusal of one who waited in vain. -/
  inVain : EnvironmentId → ε
  board : σ → TunnelBoard
  withBoard : TunnelBoard → σ → σ
  /-- How often the control plane was started anew; those who wait are left behind then. -/
  restarts : σ → Nat

/-- One who waits for a tunnel. -/
structure Waiter (ε : Type) where
  id : EnvironmentId
  /-- When to give up, by the timer. -/
  deadline : Nat
  restarts : Nat
  /-- The activations that were looked at. -/
  seen : Nat
  /-- How the wait ended, once it did. -/
  ended : Option (Outcome ε TunnelDetails)

/-- A control plane with the clock, the timer and those who wait, the one who began last first. -/
structure World (ε σ : Type) where
  state : σ
  now : Instant
  /-- In milliseconds from where the timer counts. -/
  timer : Nat
  waiters : List (Waiter ε)

/-- The last second that a timer can show, which counts seconds in 64 bits with a sign. -/
def lastSecond : Nat := 0x7fffffffffffffff

section Run

variable {ω ε α σ : Type} (p : Plane ω ε α σ)

/-- What a look at a tunnel tells one who waits. -/
def ending : Outcome ε (Option TunnelDetails) → Option (Outcome ε TunnelDetails)
  | .done none => none
  | .done (some d) => some (.done d)
  | .refused e => some (.refused e)
  | .crashed => some .crashed

/-- Whether a tunnel was activated that one who waits has not looked at. -/
def Waiter.isWoken (w : Waiter ε) (s : σ) : Bool :=
  w.restarts = p.restarts s && w.seen < (p.board s).activations

/-- One who waits looks again if a tunnel was activated, and gives up if the time has come. -/
def Waiter.check (w : Waiter ε) (now : Instant) (timer : Nat) (s : σ) : Waiter ε × σ :=
  match w.ended with
  | some _ => (w, s)
  | none =>
    let (w, s) :=
      if w.isWoken p s then
        let (o, s') := p.onTunnels (Coordinator.look now w.id) s
        ({ w with seen := (p.board s).activations, ended := ending o }, s')
      else (w, s)
    if w.ended.isNone ∧ w.deadline ≤ timer then
      ({ w with ended := some (.refused (p.inVain w.id)) }, s)
    else (w, s)

/-- All who wait check, the one who began first before the others. -/
def checkAll (now : Instant) (timer : Nat) : List (Waiter ε) → σ → List (Waiter ε) × σ
  | [], s => ([], s)
  | w :: r, s =>
    let (r, s) := checkAll now timer r s
    let (w, s) := w.check p now timer s
    (w :: r, s)

/-- The world after all who wait have checked. -/
def settle (w : World ε σ) : World ε σ :=
  let (waiters, state) := checkAll p w.now w.timer w.waiters w.state
  { w with state, waiters }

/-- Carries out a step on the control plane alone. -/
def World.perform {β : Type} (w : World ε σ) (x : Attempt σ ε β) : Outcome ε β × World ε σ :=
  let (o, state) := x w.state
  (o, { w with state })

/-- The beginning of a wait: the first look at the tunnel, and for how long. It is cut off if the
timer cannot show the second at which the wait is to end. -/
def beginWait (now : Instant) (timer : Nat) (id : EnvironmentId) (seconds : Option Nat) :
    Attempt σ ε (Nat × Option TunnelDetails) := do
  let seconds ← p.await now id seconds
  if lastSecond < timer / 1000 + seconds then Attempt.crash
  else
    let d? ← p.onTunnels (Coordinator.look now id)
    pure (seconds, d?)

/-- Shows the status of some tunnels. -/
def statuses (ids : List EnvironmentId) (s : σ) : List (Outcome ε TunnelStatus) × σ :=
  ids.foldl (fun (acc : List (Outcome ε TunnelStatus) × σ) id =>
    let (o, s) := p.onTunnels (Coordinator.status id) acc.2
    (acc.1 ++ [o], s)) ([], s)

/-- Lets time pass with a sweeper, and shows the status of some tunnels after each step. -/
def sweepOver (ids : List EnvironmentId) : List Nat → Sweeping → World ε σ →
    List (List (Outcome ε TunnelStatus)) × Sweeping × World ε σ
  | [], sweeping, w => ([], sweeping, w)
  | ms :: r, sweeping, w =>
    let after := (Sweeper.mk sweeping w.now w.timer (p.board w.state) false).step ms
    let (shown, state) := statuses p ids (p.withBoard after.board w.state)
    let w := { w with state, now := after.now, timer := after.timer }
    let (more, sweeping, w) := sweepOver ids r after.sweeping w
    (shown :: more, sweeping, w)

mutual

/-- Carries out a step. -/
def step : Step ω → World ε σ → Answer ε α × World ε σ
  | .act op, w =>
    let (o, w) := w.perform (p.act w.now op)
    (.act o, w)
  | .advance ms, w => (.moved, { w with now := w.now.moved ms })
  | .await id seconds during, w =>
    let (o, w) := w.perform (beginWait p w.now w.timer id seconds)
    let (length, ended) : Nat × Option (Outcome ε TunnelDetails) := match o with
      | .done (length, d?) => (length, d?.map .done)
      | .refused e => (0, some (.refused e))
      | .crashed => (0, some .crashed)
    let waiter : Waiter ε :=
      { id, deadline := w.timer + 1000 * length + 1, restarts := p.restarts w.state,
        seen := (p.board w.state).activations, ended }
    let (answers, w) := steps during { w with waiters := waiter :: w.waiters }
    match w.waiters with
    | [] => (.crashed, w)
    | waiter :: waiters =>
      match waiter.ended with
      | some outcome => (.awaited ended.isSome answers 0 outcome, { w with waiters })
      | none =>
        (.awaited false answers length (.refused (p.inVain id)),
          { w with waiters, timer := max w.timer waiter.deadline })
  | .sweeper interval ids times stopFirst, w =>
    let (shown, state) := statuses p ids w.state
    let started := Sweeper.start interval w.now w.timer (p.board state) stopFirst
    let (more, sweeping, w) :=
      sweepOver p ids times started.sweeping { w with state := p.withBoard started.board state }
    (.swept (shown :: more) sweeping.endsWell, w)
  | .unreadable field, w => (.unreadable field, w)

/-- Carries out steps one after the other; after each, all who wait check. -/
def steps : List (Step ω) → World ε σ → List (Answer ε α) × World ε σ
  | [], w => ([], w)
  | s :: r, w =>
    let (a, w) := step s w
    let (as, w) := steps r (settle p w)
    (a :: as, w)

end

/-- The answers of a script that starts at an instant, with a timer that has run for some
milliseconds. -/
def runFrom (timer : Nat) (script : List (Step ω)) (now : Instant) (s : σ) : List (Answer ε α) :=
  (steps p script ⟨s, now, timer, []⟩).1

/-- The answers of a script that starts at an instant, with a timer that has run for a second. -/
def run (script : List (Step ω)) (now : Instant) (s : σ) : List (Answer ε α) :=
  runFrom p 1000 script now s

end Run

end Script

end EdgeFleet
