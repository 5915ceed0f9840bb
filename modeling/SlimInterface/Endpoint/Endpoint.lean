import SlimInterface.Channel.Logbook.Channel
import SlimInterface.Endpoint.Config
import SlimInterface.Endpoint.Snapshot

/-!
# Endpoints

An endpoint is a stream with its status channel, its logbook channel and its SSDO
channel. `processSync` and `processPost` are the two halves of a cycle;
`processAsync` belongs to the background loop and lets every channel make a step.

A fault is posted to the tally once, by the entry point that saw it.
-/

namespace SlimInterface

/-- What the application brings along. -/
structure Hooks (ω : Type) where
  transfer : Transfer (Bench ω)
  timeSync : TimeSync ω
  incidents : IncidentHandler ω

/-- An endpoint, together with the world of its application. -/
structure Endpoint (ω : Type) where
  station : Station ω
  status : Status
  log : LogChannel
  ssdo : SsdoChannel
  tally : Tally
  incidents : IncidentHandler ω

namespace Endpoint

variable {ω α : Type}

/-! ## Opening and closing -/

/-- Run an operation on a new station and post its fault; the tally is empty before. -/
def checked (hooks : Hooks ω) (source : Source) (r : Except Fault α) :
    Op (Tally × Station ω) α :=
  (Tally.check hooks.incidents source r).within
    (fun p => (p.1, Station.world p.2))
    fun q p => (q.1, Station.setWorld p.2 q.2)

/-- Run one step of the construction; a fault is posted under the unit it came from. -/
def opening (hooks : Hooks ω) (source : Source) (op : Op (Station ω) α) :
    Op (Tally × Station ω) α := do
  checked hooks source (← Op.attempt (Op.onSecond op))

/-- Open the channels of a configuration on a station. -/
def openChannels (config : Config) (hooks : Hooks ω) :
    Op (Tally × Station ω) (Status × LogChannel × SsdoChannel) := do
  let status ← opening hooks .status
    (Status.create config.statusOut config.statusIn hooks.timeSync)
  let log ← opening hooks .logbook (LogChannel.create 0 config.logBuffer status)
  let ssdo ← opening hooks .ssdo
    (SsdoChannel.create 0 config.ssdoConsumer config.ssdoProducer status)
  Op.log (.tagged .info "PSI" ("Initialised: " ++ toString logChannelCount ++
    " logbook channel(s), " ++ toString ssdoChannelCount ++ " SSDO channel(s)"))
  pure (status, log, ssdo)

/-- Open the stream of a configuration. -/
def openStream (config : Config) (hooks : Hooks ω) : Op (Tally × ω) (Stream (Bench ω)) := do
  Tally.check hooks.incidents .internal config.validate
  let stream ← Op.attempt
    (Stream.create config.descriptors hooks.transfer config.consAck config.prodAck)
  Tally.check hooks.incidents .stream stream

/-- Open an endpoint. On failure only the world remains. -/
def create (config : Config) (hooks : Hooks ω) : Op ω (Endpoint ω) := fun w =>
  match openStream config hooks (.empty, w) with
  | ⟨.error e, (_, w'), lines⟩ => ⟨.error e, w', lines⟩
  | ⟨.ok stream, (tally, w'), lines⟩ =>
    match openChannels config hooks (tally, ⟨stream, .empty w'⟩) with
    | ⟨.error e, (_, station), more⟩ => ⟨.error e, station.around.world, lines ++ more⟩
    | ⟨.ok (status, log, ssdo), (tally, station), more⟩ =>
      ⟨.ok { station, status, log, ssdo, tally, incidents := hooks.incidents },
        station.around.world, lines ++ more⟩

/-! ## Parts of an endpoint -/

/-- The world of the application. -/
def world (e : Endpoint ω) : ω := Station.world e.station

/-- Replace the world of the application. -/
def setWorld (e : Endpoint ω) (world : ω) : Endpoint ω :=
  { e with station := Station.setWorld e.station world }

/-- Run an operation on the station. -/
def onStation (op : Op (Station ω) α) : Op (Endpoint ω) α :=
  op.within (·.station) fun station e => { e with station }

/-- Run an operation on the logbook channel and the station. -/
def onLog (op : Op (LogChannel × Station ω) α) : Op (Endpoint ω) α :=
  op.within (fun e => (e.log, e.station)) fun p e => { e with log := p.1, station := p.2 }

/-- Run an operation on the SSDO channel and the station. -/
def onSsdo (op : Op (SsdoChannel × Station ω) α) : Op (Endpoint ω) α :=
  op.within (fun e => (e.ssdo, e.station)) fun p e => { e with ssdo := p.1, station := p.2 }

/-- Run an operation on the tally and the world. -/
def onTally (op : Op (Tally × ω) α) : Op (Endpoint ω) α :=
  op.within (fun e => (e.tally, e.world)) fun p e => { e.setWorld p.2 with tally := p.1 }

/-- Run an operation and post its fault. -/
def posting (source : Source) (op : Op (Endpoint ω) α) : Op (Endpoint ω) α := do
  let r ← Op.attempt op
  let e ← Op.read
  onTally (Tally.check e.incidents source r)

/-! ## Entry points -/

/-- The first half of a cycle. -/
def processSync : Op (Endpoint ω) Unit := posting .stream (onStation Site.processSync)

/-- The second half of a cycle. -/
def processPost : Op (Endpoint ω) Unit := posting .stream (onStation Site.processPost)

/-- One step of every channel. -/
def processAsync (net : Transport ω) : Op (Endpoint ω) Unit := do
  posting .logbook (onLog (Station.withBench LogChannel.process))
  posting .ssdo <| Op.reporting
    (fun e => .tagged .error "PSI" ("SSDO channel processing failed: " ++ e.message))
    id
    (onSsdo (SsdoChannel.process net))

/-- Post an entry on a logbook channel. -/
def postLogEntry (channel : UInt8) (entry : LogEntry) : Op (Endpoint ω) Posting :=
  if logChannelCount ≤ channel.toNat then Op.fail .invalidParameter
  else onLog (LogChannel.post entry)

/-- Queue a frame the network received on an SSDO channel. -/
def receiveFrame (channel : UInt8) (payload : Bytes) : Op (Endpoint ω) Unit :=
  if ssdoChannelCount ≤ channel.toNat then Op.fail .invalidParameter
  else onSsdo (SsdoChannel.onRx (Op.onFirst (Receive.accept payload)))

/-- Set the local acknowledge of an SSDO channel. -/
def setSsdoRxFlag (channel : UInt8) (seq : SeqNr) : Op (Endpoint ω) Unit := do
  let e ← Op.read
  onStation (Station.onBench (e.status.setSsdoRxFlag channel seq))

/-- Set the callback that ends every cycle. -/
def setSyncCallback (callback : Op ω Unit) (e : Endpoint ω) : Endpoint ω :=
  { e with station :=
    { e.station with stream := e.station.stream.setSyncCallback (Bench.onWorld callback) } }

/-- The state of the endpoint. -/
def snapshot (e : Endpoint ω) : Snapshot where
  time := e.status.time e.station.around
  icc := e.status.icc e.station.around
  logbook := [⟨e.log.id, e.log.locked, e.log.seq⟩]
  ssdo := [⟨0, e.ssdo.tx.state, e.ssdo.rx.state, e.ssdo.rx.queue.length⟩]
  errors := e.tally.count
  last := e.tally.last

/-- Close every channel. -/
def exit : Op (Endpoint ω) Unit := do
  onLog (Station.withBench (do
    let (c, _) ← Op.read
    Op.onSecond c.destroy))
  onSsdo (Station.withBench SsdoChannel.destroy)
  Status.exit
  Op.log (.tagged .info "PSI" "Exit")

end Endpoint

end SlimInterface
