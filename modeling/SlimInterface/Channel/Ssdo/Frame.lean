import SlimInterface.Wire.Field
import SlimInterface.Wire.SeqNr

/-!
# SSDO frames

An SSDO channel buffer holds one frame: the sequence number in byte 0, the length
of the payload as a word at 2, and the payload from byte 4 on. Byte 1 is reserved.
A payload has at most 252 bytes, whatever the size of the buffer.
-/

namespace SlimInterface

/-- A frame of an SSDO channel. -/
structure Frame where
  seq : SeqNr
  payload : Bytes
  deriving DecidableEq, Repr

namespace Frame

/-! ## The layout of a channel buffer -/

def bufferSize : Nat := 256
def maxPayload : Nat := 252
def seqOffset : Nat := 0
def lengthOffset : Nat := 2
def payloadOffset : Nat := 4

/-- Read the frame of a buffer. A bad sequence number is reported before a bad length. -/
def read (b : Bytes) : Except Fault Frame := do
  let seq ← SeqNr.ofByte (← b.byteAt seqOffset)
  let length ← b.wordAt lengthOffset
  if maxPayload < length.toNat then throw .outOfBounds
  else
    match b.slice? payloadOffset length.toNat with
    | some payload => return { seq, payload }
    | none => throw .outOfBounds

/-- Write a frame into a buffer, whole or not at all. The bytes behind the payload stay. -/
def write (f : Frame) : Op Bytes Unit :=
  if maxPayload < f.payload.length then Op.fail .outOfBounds
  else do
    Field.put payloadOffset f.payload
    Field.putWord lengthOffset (UInt16.ofNat f.payload.length)
    Field.putByte seqOffset f.seq.toByte

end Frame

end SlimInterface
