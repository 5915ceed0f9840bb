import SlimInterface.Text.Inspect

/-!
# Faults

Everything that can go wrong in the interface, as causes. A fault carries the
numbers that explain it and no wording; `Fault.message` is the one place where a
fault becomes a sentence, and `Fault.inspect` shows its structure.
-/

namespace SlimInterface

/-- Why an operation of the interface failed. -/
inductive Fault
  /-- A parameter of an entry point is invalid: an empty list, a bad id. -/
  | invalidParameter
  /-- A buffer has no backing memory or breaks the contiguous layout. -/
  | invalidBuffer
  /-- A buffer does not have the size its channel needs. -/
  | bufferSizeMismatch (expected actual : Nat)
  /-- An access reaches past the end of a buffer. -/
  | outOfBounds
  /-- An action list has no free slot left. -/
  | noFreeActionSlot
  /-- A registered action reported a failure. -/
  | actionFailed
  /-- The images could not be moved. -/
  | transferError
  /-- The synchronous callback reported a failure. -/
  | syncCallbackFailed
  /-- The time synchronisation callback reported a failure. -/
  | timeSyncFailed
  /-- The transmit slot of a channel is still occupied. -/
  | channelBusy
  /-- An object of the configuration channel is not 1, 2, 4 or 8 bytes wide. -/
  | invalidSizeOfObject (size : UInt16)
  /-- A dictionary write is wider than an object of the configuration channel. -/
  | objectLengthError (length : Nat)
  /-- A receive queue is full. -/
  | fifoFull
  /-- A state machine is in a state it cannot process. -/
  | invalidState
  /-- A raw byte is no sequence number. -/
  | invalidSeqNr (value : UInt8)
  /-- The non-volatile memory reported a failure. -/
  | storageError (text : String)
  /-- A stored image failed its checksum. -/
  | crcError
  /-- Something was used before it was opened. -/
  | notInitialized
  /-- A number could not be read from a slice. -/
  | sliceConversion
  deriving DecidableEq, Repr

namespace Fault

/-- The name of a fault's cause, without its numbers. -/
def name : Fault → String
  | invalidParameter => "InvalidParameter"
  | invalidBuffer => "InvalidBuffer"
  | bufferSizeMismatch .. => "BufferSizeMismatch"
  | outOfBounds => "OutOfBounds"
  | noFreeActionSlot => "NoFreeActionSlot"
  | actionFailed => "ActionFailed"
  | transferError => "TransferError"
  | syncCallbackFailed => "SyncCallbackFailed"
  | timeSyncFailed => "TimeSyncFailed"
  | channelBusy => "ChannelBusy"
  | invalidSizeOfObject _ => "InvalidSizeOfObject"
  | objectLengthError _ => "ObjectLengthError"
  | fifoFull => "FifoFull"
  | invalidState => "InvalidState"
  | invalidSeqNr _ => "InvalidSeqNr"
  | storageError _ => "StorageError"
  | crcError => "CrcError"
  | notInitialized => "NotInitialized"
  | sliceConversion => "SliceConversion"

/-- The sentence a fault is reported with. -/
def message : Fault → String
  | invalidParameter => "Invalid parameter"
  | invalidBuffer => "Invalid buffer descriptor"
  | bufferSizeMismatch expected actual =>
    "Buffer size mismatch: expected " ++ toString expected ++ " bytes, got " ++ toString actual
  | outOfBounds => "Access exceeds the buffer size"
  | noFreeActionSlot => "No free element in the action list"
  | actionFailed => "A buffer action failed"
  | transferError => "Stream transfer failed"
  | syncCallbackFailed => "Synchronous callback failed"
  | timeSyncFailed => "Time synchronisation callback failed"
  | channelBusy => "Channel is busy"
  | invalidSizeOfObject size => "Invalid size of object: " ++ toString size.toNat ++ " bytes"
  | objectLengthError length => "Object length " ++ toString length ++ " exceeds 8 bytes"
  | fifoFull => "Receive FIFO is full"
  | invalidState => "Invalid state machine state"
  | invalidSeqNr value => "Invalid sequence number value: " ++ Numeral.hex 2 value.toNat
  | storageError text => "Storage error: " ++ text
  | crcError => "CRC verification failed"
  | notInitialized => "Module is not initialized"
  | sliceConversion => "Failed to convert slice to a fixed-size array"

/-- The inspection form of a fault. -/
def inspect : Fault → String
  | bufferSizeMismatch expected actual =>
    Inspect.record "BufferSizeMismatch"
      [("expected", toString expected), ("actual", toString actual)]
  | invalidSizeOfObject size => Inspect.tagged "InvalidSizeOfObject" (toString size.toNat)
  | objectLengthError length => Inspect.tagged "ObjectLengthError" (toString length)
  | invalidSeqNr value => Inspect.tagged "InvalidSeqNr" (toString value.toNat)
  | storageError text => Inspect.tagged "StorageError" (Inspect.quoted text)
  | fault => fault.name

end Fault

end SlimInterface
