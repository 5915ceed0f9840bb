import SlimInterface.Cycle.Stream
import SlimInterface.Cycle.Timer
import SlimInterface.Wire.TimeStamp

/-!
# Stations

Channels share more than the image: the status registers that an action of the
stream fills and the channels read, and the counters of their timers. Both live
on a bench around the stream, each known by its position, so that whoever holds
the position sees the same register or counter. Beside them stands the world, the
state of everything the application brings along: handlers, callbacks, the
network.

A station is a stream with its bench.
-/

namespace SlimInterface

/-- The registers of one status channel. -/
structure Registers where
  /-- Whether the remote side's internal channels are busy. -/
  icc : UInt8
  /-- The logbook acknowledges of the remote side. -/
  logTx : UInt8
  /-- The SSDO acknowledges of the remote side. -/
  ssdoTx : UInt16
  /-- The SSDO acknowledges to the remote side. -/
  ssdoRx : UInt16
  /-- The relative time of the latest cycle. -/
  time : TimeStamp
  deriving DecidableEq, Repr

/-- Registers nobody has written. -/
def Registers.clear : Registers := ⟨0, 0, 0, 0, .zero⟩

/-- What the channels of a stream share, and the world of the application. -/
structure Bench (ω : Type) where
  registers : List Registers
  counters : CounterBank
  world : ω

namespace Bench

variable {ω α : Type}

/-- A bench with nothing on it. -/
def empty (world : ω) : Bench ω := ⟨[], [], world⟩

/-- The registers at a position. -/
def registersAt (b : Bench ω) (i : Nat) : Registers := b.registers[i]?.getD .clear

/-- Change the registers at a position. -/
def setRegisters (i : Nat) (f : Registers → Registers) (b : Bench ω) : Bench ω :=
  { b with registers := b.registers.modify i f }

/-- Put down new registers and answer with their position. -/
def addRegisters : Op (Bench ω) Nat := fun b =>
  ⟨.ok b.registers.length, { b with registers := b.registers ++ [.clear] }, []⟩

/-- Put down a new timer. -/
def addTimer (threshold : Nat) : Op (Bench ω) Timer := fun b =>
  let (timer, counters) := Timer.create threshold b.counters
  ⟨.ok timer, { b with counters }, []⟩

/-- Change the counters. -/
def setCounters (f : CounterBank → CounterBank) (b : Bench ω) : Bench ω :=
  { b with counters := f b.counters }

/-- Run an operation on the world. -/
def onWorld (op : Op ω α) : Op (Bench ω) α :=
  op.within (·.world) fun world b => { b with world }

/-- The action that advances a timer once per cycle. -/
def tick (timer : Timer) : Action (Bench ω) :=
  Op.onSecond (Op.update (setCounters timer.increment))

end Bench

/-- A stream and its bench. -/
abbrev Station (ω : Type) := Site (Bench ω)

namespace Station

variable {ω κ α : Type}

/-- Run an operation on the bench. -/
def onBench (op : Op (Bench ω) α) : Op (Station ω) α := Site.onAround op

/-- Run an operation of a channel that needs the bench only. -/
def withBench (op : Op (κ × Bench ω) α) : Op (κ × Station ω) α :=
  op.within (fun p => (p.1, p.2.around)) fun q p => (q.1, { p.2 with around := q.2 })

/-- Run an operation on the world. -/
def onWorld (op : Op ω α) : Op (Station ω) α := onBench (Bench.onWorld op)

/-- The world of the application. -/
def world (s : Station ω) : ω := s.around.world

/-- Replace the world of the application. -/
def setWorld (s : Station ω) (world : ω) : Station ω :=
  { s with around := { s.around with world } }

end Station

end SlimInterface
