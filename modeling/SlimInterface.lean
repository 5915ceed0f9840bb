import SlimInterface.Channel.Logbook.Channel
import SlimInterface.Channel.Logbook.Entry
import SlimInterface.Channel.Ssdo.Channel
import SlimInterface.Channel.Ssdo.Frame
import SlimInterface.Channel.Ssdo.Receive
import SlimInterface.Channel.Ssdo.Transmit
import SlimInterface.Channel.Station
import SlimInterface.Channel.Status
import SlimInterface.Checksum
import SlimInterface.Cycle.Layout
import SlimInterface.Cycle.Stream
import SlimInterface.Cycle.Timer
import SlimInterface.Dictionary.ConfigChannel
import SlimInterface.Dictionary.Object
import SlimInterface.Dictionary.Shelf
import SlimInterface.Dictionary.TripleBuffer
import SlimInterface.Endpoint.Config
import SlimInterface.Endpoint.Endpoint
import SlimInterface.Endpoint.Snapshot
import SlimInterface.Fault
import SlimInterface.Incident
import SlimInterface.Journal
import SlimInterface.Monitor.Channel
import SlimInterface.Monitor.Document
import SlimInterface.Monitor.Json
import SlimInterface.Monitor.MessageQueue
import SlimInterface.Monitor.Serializer
import SlimInterface.Operation
import SlimInterface.Pins
import SlimInterface.Proofs.Checksum.Burst
import SlimInterface.Proofs.Checksum.Division
import SlimInterface.Proofs.Checksum.Erased
import SlimInterface.Proofs.Checksum.Residue
import SlimInterface.Proofs.Checksum.Serial
import SlimInterface.Proofs.Cycle.Copies
import SlimInterface.Proofs.Cycle.Counters
import SlimInterface.Proofs.Cycle.Course
import SlimInterface.Proofs.Cycle.Deeds
import SlimInterface.Proofs.Cycle.Opening
import SlimInterface.Proofs.Cycle.Partition
import SlimInterface.Proofs.Cycle.Slots
import SlimInterface.Proofs.Dictionary.Alternation
import SlimInterface.Proofs.Dictionary.Forwarding
import SlimInterface.Proofs.Dictionary.Reader
import SlimInterface.Proofs.Dictionary.Send
import SlimInterface.Proofs.Dictionary.Shelf
import SlimInterface.Proofs.Endpoint.Accounts
import SlimInterface.Proofs.Endpoint.Admission
import SlimInterface.Proofs.Endpoint.Background
import SlimInterface.Proofs.Endpoint.Call
import SlimInterface.Proofs.Endpoint.Callback
import SlimInterface.Proofs.Endpoint.Cycle
import SlimInterface.Proofs.Endpoint.Image
import SlimInterface.Proofs.Endpoint.Live
import SlimInterface.Proofs.Endpoint.Opening
import SlimInterface.Proofs.Endpoint.Posted
import SlimInterface.Proofs.Endpoint.Use
import SlimInterface.Proofs.Layout
import SlimInterface.Proofs.Logbook.Acknowledge
import SlimInterface.Proofs.Logbook.Codec
import SlimInterface.Proofs.Logbook.Delivery
import SlimInterface.Proofs.Logbook.Lock
import SlimInterface.Proofs.Logbook.Order
import SlimInterface.Proofs.Logbook.Timely
import SlimInterface.Proofs.Monitor.Balance
import SlimInterface.Proofs.Monitor.Channel
import SlimInterface.Proofs.Monitor.Document
import SlimInterface.Proofs.Monitor.Json
import SlimInterface.Proofs.Numeral
import SlimInterface.Proofs.Operation
import SlimInterface.Proofs.Remote.Agreement
import SlimInterface.Proofs.Remote.Bounds
import SlimInterface.Proofs.Remote.Link
import SlimInterface.Proofs.Remote.Linked
import SlimInterface.Proofs.Remote.Take
import SlimInterface.Proofs.Remote.Time
import SlimInterface.Proofs.Run
import SlimInterface.Proofs.Span
import SlimInterface.Proofs.Ssdo.Attempts
import SlimInterface.Proofs.Ssdo.Codec
import SlimInterface.Proofs.Ssdo.Handover
import SlimInterface.Proofs.Ssdo.Independence
import SlimInterface.Proofs.Ssdo.Malformed
import SlimInterface.Proofs.Ssdo.Offer
import SlimInterface.Proofs.Ssdo.ReceiveStep
import SlimInterface.Proofs.Ssdo.Reception
import SlimInterface.Proofs.Ssdo.Resending
import SlimInterface.Proofs.Ssdo.Retention
import SlimInterface.Proofs.Ssdo.Screening
import SlimInterface.Proofs.Ssdo.Transmission
import SlimInterface.Proofs.Ssdo.TransmitStep
import SlimInterface.Proofs.Station.Gap
import SlimInterface.Proofs.Station.Residue
import SlimInterface.Proofs.Storage.Completion
import SlimInterface.Proofs.Storage.Corruption
import SlimInterface.Proofs.Storage.Device
import SlimInterface.Proofs.Storage.Failure
import SlimInterface.Proofs.Storage.Flip
import SlimInterface.Proofs.Storage.Mirror
import SlimInterface.Proofs.Storage.Resize
import SlimInterface.Proofs.Storage.Restart
import SlimInterface.Proofs.Storage.Sessions
import SlimInterface.Proofs.Storage.Steps
import SlimInterface.Proofs.Wire
import SlimInterface.Remote.Link
import SlimInterface.Storage.Device
import SlimInterface.Storage.FileStore
import SlimInterface.Storage.Memory
import SlimInterface.Storage.ParameterStore
import SlimInterface.Text.Glyph
import SlimInterface.Text.Inspect
import SlimInterface.Text.Numeral
import SlimInterface.Wire.BufferId
import SlimInterface.Wire.Bytes
import SlimInterface.Wire.Field
import SlimInterface.Wire.SeqNr
import SlimInterface.Wire.TimeStamp
