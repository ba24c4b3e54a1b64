import EdgeFleet.Attempt
import EdgeFleet.Time.Instant
/-!
# Reading the clock

A clock may be set to any instant, but it can be read only from the epoch to the last instant of
the calendar. A step that reads it anywhere else is cut off at that point, and what it wrote before
stays written; a step that does not come to read it goes on as ever.
-/

namespace EdgeFleet

variable {σ ε : Type}

/-- Reads a clock that shows an instant. -/
def Attempt.clock (now : Instant) : Attempt σ ε Instant := if now.isReadable then pure now else crash

theorem Attempt.run_clock_of_isReadable {now : Instant} (h : now.isReadable = true) (s : σ) :
    (clock now : Attempt σ ε Instant).run s = (.done now, s) := by
  simp [clock, h]

theorem Attempt.run_clock_of_not_isReadable {now : Instant} (h : now.isReadable = false) (s : σ) :
    (clock now : Attempt σ ε Instant).run s = (.crashed, s) := by
  simp [clock, h]

end EdgeFleet
