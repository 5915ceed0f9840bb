/-!
# Timers counted in cycles

A timer counts transfer cycles, not time. The channel that reads a timer and the
stream action that advances it once per cycle hold the same counter, so counters
live in a bank and a timer is a threshold and the number of its counter. Copies
of a timer share the counter.

A count stops at `Counter.limit`; an expired timer never runs again by itself.
-/

namespace SlimInterface

/-- A counter of cycles, counting only while enabled. -/
structure Counter where
  count : Nat
  enabled : Bool
  deriving DecidableEq, Repr

namespace Counter

/-- The largest count. -/
def limit : Nat := 65535

/-- A counter that was never started. -/
def idle : Counter := ⟨0, false⟩

/-- Count again from zero. -/
def start (_ : Counter) : Counter := ⟨0, true⟩

/-- Stop counting and forget the count. -/
def stop (_ : Counter) : Counter := ⟨0, false⟩

/-- One cycle passed. -/
def increment (c : Counter) : Counter :=
  if c.enabled then { c with count := min (c.count + 1) limit } else c

end Counter

/-- Counters, each known by its position. -/
abbrev CounterBank := List Counter

/-- What a timer shows. -/
inductive TimerState
  | stopped
  | running
  | expired
  deriving DecidableEq, Repr

/-- The word a timer state is written with. -/
def TimerState.name : TimerState → String
  | stopped => "Stopped"
  | running => "Running"
  | expired => "Expired"

/-- A timer: its threshold and the position of its counter. -/
structure Timer where
  threshold : Nat
  counter : Nat
  deriving DecidableEq, Repr

namespace Timer

/-- A new timer with a counter of its own at the end of the bank. -/
def create (threshold : Nat) (bank : CounterBank) : Timer × CounterBank :=
  (⟨threshold, bank.length⟩, bank ++ [Counter.idle])

/-- The counter of a timer. -/
def read (t : Timer) (bank : CounterBank) : Counter :=
  bank[t.counter]?.getD Counter.idle

/-- Count again from zero. -/
def start (t : Timer) (bank : CounterBank) : CounterBank :=
  bank.modify t.counter Counter.start

/-- Stop and forget the count. -/
def stop (t : Timer) (bank : CounterBank) : CounterBank :=
  bank.modify t.counter Counter.stop

/-- One cycle passed. -/
def increment (t : Timer) (bank : CounterBank) : CounterBank :=
  bank.modify t.counter Counter.increment

/-- Cycles since the start. -/
def elapsed (t : Timer) (bank : CounterBank) : Nat :=
  (t.read bank).count

/-- A started timer expires once its threshold is reached. -/
def state (t : Timer) (bank : CounterBank) : TimerState :=
  if (t.read bank).enabled then
    if t.threshold ≤ t.elapsed bank then .expired else .running
  else .stopped

end Timer

end SlimInterface
