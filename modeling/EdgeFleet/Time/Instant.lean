/-!
# Instants

An instant is a count of nanoseconds from 1970-01-01T00:00:00Z, a span a count of nanoseconds
between two of them. The calendar has a first and a last instant; sums beyond them are refused
(`Instant.plus?`) or capped at the last (`Instant.plusCapped`). Clocks are readable from the epoch
to the last instant.
-/

namespace EdgeFleet

/-- A length of time in nanoseconds, which may be negative. -/
structure Span where
  nanos : Int
deriving DecidableEq, Repr, Inhabited

namespace Span

def ofSeconds (n : Int) : Span := ⟨n * 1000000000⟩

def ofMillis (n : Int) : Span := ⟨n * 1000000⟩

/-- A span of whole milliseconds, if it keeps to the longest of either sign. -/
def ofMillis? (n : Int) : Option Span := if n.natAbs < 0x8000000000000000 then some (ofMillis n) else none

/-- The milliseconds of a span, rounded toward zero. -/
def millis (d : Span) : Int := Int.tdiv d.nanos 1000000

/-- The most whole seconds that a span of signed 64-bit milliseconds holds. -/
def mostSeconds : Nat := 0x7fffffffffffffff / 1000

end Span

/-- A point in time, in nanoseconds from the epoch. -/
structure Instant where
  nanos : Int
deriving DecidableEq, Repr, Inhabited

namespace Instant

instance : LT Instant := ⟨fun s t => s.nanos < t.nanos⟩
instance : LE Instant := ⟨fun s t => s.nanos ≤ t.nanos⟩
instance (s t : Instant) : Decidable (s < t) := inferInstanceAs (Decidable (s.nanos < t.nanos))
instance (s t : Instant) : Decidable (s ≤ t) := inferInstanceAs (Decidable (s.nanos ≤ t.nanos))
instance : Max Instant := ⟨fun s t => if s ≤ t then t else s⟩
instance : Min Instant := ⟨fun s t => if s ≤ t then s else t⟩

/-- The instant some whole seconds from the epoch. -/
def ofSeconds (n : Int) : Instant := ⟨n * 1000000000⟩

/-- The instant some whole milliseconds from the epoch. -/
def ofMillis (n : Int) : Instant := ⟨n * 1000000⟩

/-- Whole seconds from the epoch, rounded down. -/
def seconds (t : Instant) : Int := t.nanos / 1000000000

/-- The nanoseconds into the current second. -/
def fraction (t : Instant) : Nat := (t.nanos % 1000000000).toNat

/-- The first instant of the calendar, at the start of the year -262143. -/
def earliest : Instant := ofSeconds (-8334601228800)

/-- The last instant of the calendar, at the end of the year 262142. -/
def latest : Instant := ⟨8210266876799999999999⟩

/-- The instant from which seconds are counted. -/
def epoch : Instant := ⟨0⟩

/-- Whether a clock that shows the instant can be read. -/
def isReadable (t : Instant) : Bool := epoch ≤ t && t ≤ latest

/-- Whether the calendar has the instant. -/
def onCalendar (t : Instant) : Bool := earliest ≤ t && t ≤ latest

/-- The instant a span later, if the calendar has it. -/
def plus? (t : Instant) (d : Span) : Option Instant :=
  let u : Instant := ⟨t.nanos + d.nanos⟩
  if u.onCalendar then some u else none

/-- The instant some milliseconds later. -/
def later (t : Instant) (ms : Nat) : Instant := ⟨t.nanos + ms * 1000000⟩

/-- What a clock of whole milliseconds shows that is set forward or back by some of them: it counts
them in 64 bits and comes round. -/
def moved (t : Instant) (ms : Int) : Instant := ofMillis ((t.nanos / 1000000 + ms).bmod 0x10000000000000000)

/-- The instant a span later, at most the last one of the calendar. -/
def plusCapped (t : Instant) (d : Span) : Instant := min ⟨t.nanos + d.nanos⟩ latest

theorem lt_iff {s t : Instant} : s < t ↔ s.nanos < t.nanos := Iff.rfl
theorem le_iff {s t : Instant} : s ≤ t ↔ s.nanos ≤ t.nanos := Iff.rfl

theorem nanos_max (s t : Instant) : (max s t).nanos = max s.nanos t.nanos := by
  show (if s ≤ t then t else s).nanos = _
  split <;> rename_i h <;> rw [le_iff] at h <;> omega

end Instant

end EdgeFleet
