import EdgeFleet.Tunnel.Board
/-!
# Sweeping at intervals

A ticker fires at intervals of a timer that counts milliseconds. Its first tick is due as soon as
the timer moves. A tick that fires on time sets the next by the schedule; one that fires late
sets it by the moment of firing. The sweeper is a loop that in each of its turns takes up a stored
signal to end, or else a tick that is due, at which it closes overdue tunnels; what breaks it leaves
the tunnels as they are.
-/

namespace EdgeFleet

/-- When the next tick is due, and how far apart ticks are, in milliseconds. -/
structure Ticker where
  interval : Nat
  next : Nat
deriving DecidableEq, Repr

namespace Ticker

/-- A ticker started at a moment of the timer. -/
def start (interval timer : Nat) : Ticker := ⟨interval, timer + 1⟩

/-- How late a tick may fire and still count as on time. -/
def tolerance : Nat := 5

/-- Whether the next tick is due. -/
def isDue (t : Ticker) (timer : Nat) : Bool := t.next ≤ timer

/-- The ticker after a tick that fired at a moment of the timer. -/
def fired (t : Ticker) (timer : Nat) : Ticker :=
  { t with next := (if timer ≤ t.next + tolerance then t.next else timer) + t.interval }

end Ticker

/-- How a sweeper stands. -/
inductive Sweeping where
  | at (ticker : Ticker)
  /-- It was told to end, and did. -/
  | ended
  /-- It was cut off. -/
  | broken
deriving DecidableEq, Repr

/-- How a sweeper starts: without an interval it breaks at once. -/
def Sweeping.start (interval timer : Nat) : Sweeping :=
  if interval = 0 then broken else .at (.start interval timer)

/-- Whether a sweeper ends when it is told to. -/
def Sweeping.endsWell : Sweeping → Bool
  | broken => false
  | _ => true

/-- A sweeper with the clock and the timer, which move together, and the board. -/
structure Sweeper where
  sweeping : Sweeping
  now : Instant
  timer : Nat
  board : TunnelBoard
  /-- Whether it was told to end and has not taken that up. -/
  signalled : Bool
deriving DecidableEq

namespace Sweeper

/-- Fires a tick: the clock is read, which breaks the sweeper where it cannot be, and the board is
swept. -/
def tick (s : Sweeper) (ticker : Ticker) : Sweeper :=
  if s.now.isReadable then
    { s with sweeping := .at (ticker.fired s.timer), board := (s.board.sweep s.now).2 }
  else { s with sweeping := .broken }

/-- A turn of the loop: a stored signal to end comes before a tick that is due. -/
def turn (s : Sweeper) : Sweeper :=
  match s.sweeping with
  | .at ticker =>
    if s.signalled then { s with sweeping := .ended, signalled := false }
    else if ticker.isDue s.timer then s.tick ticker
    else s
  | _ => s

/-- A sweeper after the first turn of its loop. -/
def start (interval : Nat) (now : Instant) (timer : Nat) (board : TunnelBoard) (signalled : Bool) :
    Sweeper :=
  turn ⟨.start interval timer, now, timer, board, signalled⟩

/-- The same sweeper some milliseconds later, before its next turn. -/
def waited (s : Sweeper) (ms : Nat) : Sweeper :=
  { s with now := s.now.later ms, timer := s.timer + ms }

/-- Lets some milliseconds pass, and the loop take a turn at their end. -/
def step (s : Sweeper) (ms : Nat) : Sweeper := (s.waited ms).turn

end Sweeper

end EdgeFleet
