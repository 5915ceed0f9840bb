import Mathlib.Algebra.Group.Nat.Defs
import SlimInterface.Dictionary.ConfigChannel
import SlimInterface.Proofs.Operation
import SlimInterface.Proofs.Span

/-!
# What sending an object does

An object lies in the buffer of the channel behind four bytes that name it: `ConfigObject.header`
are these, `ConfigObject.field` is its value, as wide as the object says. An object that was made
from a write to the dictionary carries the bytes of that write (`ConfigObject.ofValue_eq`).

`SendStep` lists what a call that sends can do, and `eval_send` says that there is nothing else. The
header is written in any case; only then the width of the object decides whether it is sent.
-/

namespace SlimInterface

/-! ## Acknowledge bits -/

namespace AckRegister

variable {r : AckRegister} {id : BufferId}

theorem toNat_mask (h : id.index < TripleBuffer.idLimit) : (mask id).toNat = 2 ^ id.index := by
  have hlt : id.index < 32 := h
  have hpow : 2 ^ id.index < 2 ^ 32 := Nat.pow_lt_pow_right (by decide) hlt
  have hid : (UInt32.ofNat id.index).toNat % 32 = id.index := by
    rw [UInt32.toNat_ofNat']
    omega
  have hone : (1 : UInt32).toNat = 1 := rfl
  unfold mask
  rw [UInt32.toNat_shiftLeft, hid, hone, Nat.shiftLeft_eq, Nat.one_mul, Nat.mod_eq_of_lt hpow]

theorem testBit_raise (h : id.index < TripleBuffer.idLimit) (i : Nat) :
    (r.raise id).bits.toNat.testBit i = (decide (i = id.index) || r.bits.toNat.testBit i) := by
  unfold raise
  rw [UInt32.toNat_or, Nat.testBit_or, toNat_mask h, Nat.testBit_two_pow, Bool.or_comm]
  simp [eq_comm]

theorem testBit_clear (h : id.index < TripleBuffer.idLimit) {i : Nat}
    (hi : i < TripleBuffer.idLimit) :
    (r.clear id).bits.toNat.testBit i = (decide (i ≠ id.index) && r.bits.toNat.testBit i) := by
  have hlt : i < 32 := hi
  have hmask := (mask id).toNat_lt
  unfold clear
  rw [UInt32.toNat_and, Nat.testBit_and, UInt32.toNat_not,
    show UInt32.size - 1 - (mask id).toNat = 2 ^ 32 - ((mask id).toNat + 1) by
      show 4294967296 - 1 - _ = 4294967296 - _
      omega,
    Nat.testBit_two_pow_sub_succ hmask, toNat_mask h, Nat.testBit_two_pow, Bool.and_comm]
  simp [hlt, eq_comm]

/-- An acknowledge is pending if its bit is set. -/
theorem isPending_eq (h : id.index < TripleBuffer.idLimit) :
    r.isPending id = r.bits.toNat.testBit id.index := by
  have hbit (i : Nat) : (r.bits &&& mask id).toNat.testBit i =
      (r.bits.toNat.testBit i && decide (id.index = i)) := by
    rw [UInt32.toNat_and, Nat.testBit_and, toNat_mask h, Nat.testBit_two_pow]
  unfold isPending
  rw [Bool.eq_iff_iff, bne_iff_ne]
  constructor
  · intro hne
    apply Decidable.byContradiction
    intro hclear
    apply hne
    apply UInt32.toNat_inj.mp
    apply Nat.eq_of_testBit_eq
    intro i
    rw [hbit, show (0 : UInt32).toNat = 0 from rfl, Nat.zero_testBit]
    by_cases hi : id.index = i
    · rw [← hi, Bool.eq_false_iff.mpr hclear, Bool.false_and]
    · rw [decide_eq_false hi, Bool.and_false]
  · intro hset hzero
    have hown := hbit id.index
    rw [hzero, hset, decide_eq_true rfl, show (0 : UInt32).toNat = 0 from rfl,
      Nat.zero_testBit] at hown
    cases hown

theorem isPending_raise (h : id.index < TripleBuffer.idLimit) :
    (r.raise id).isPending id = true := by
  rw [isPending_eq h, testBit_raise h]
  simp

theorem isPending_clear (h : id.index < TripleBuffer.idLimit) {other : BufferId}
    (ho : other.index < TripleBuffer.idLimit) (hp : (r.clear other).isPending id = true) :
    r.isPending id = true := by
  rw [isPending_eq h] at hp ⊢
  rw [testBit_clear ho h] at hp
  simp_all

end AckRegister

/-! ## Objects -/

namespace ConfigObject

/-- The value of an object as one number. -/
def value (o : ConfigObject) : Nat := o.high.toNat * 2 ^ 32 + o.low.toNat

/-- The value as it lies in the buffer: as many of its lower bytes as the object is wide. -/
def field (o : ConfigObject) : Bytes := Bytes.littleEndian o.size.toNat o.value

/-- What names an object in the buffer, behind the number it is sent with. -/
def header (seq : SeqNr) (o : ConfigObject) : Bytes :=
  seq.toByte :: o.subIndex :: Bytes.littleEndian 2 o.index.toNat

/-- The widths that can be sent. -/
def Sendable (o : ConfigObject) : Prop := o.size = 1 ∨ o.size = 2 ∨ o.size = 4 ∨ o.size = 8

instance (o : ConfigObject) : Decidable o.Sendable :=
  inferInstanceAs (Decidable (o.size = 1 ∨ o.size = 2 ∨ o.size = 4 ∨ o.size = 8))

variable {o : ConfigObject} {seq : SeqNr}

@[simp] theorem length_header : (header seq o).length = 4 := by
  unfold header
  rw [List.length_cons, List.length_cons, Bytes.length_littleEndian]

@[simp] theorem length_field : o.field.length = o.size.toNat := Bytes.length_littleEndian _ _

theorem Sendable.size_le (h : o.Sendable) : o.size.toNat ≤ 8 := by
  rcases h with h | h | h | h <;> rw [h] <;> decide

/-- The value may be taken from any number with the same lower bytes. -/
theorem field_eq {width n : Nat} (hw : o.size.toNat = width)
    (hn : n % 256 ^ width = o.value % 256 ^ width) : o.field = Bytes.littleEndian width n := by
  unfold field
  rw [hw]
  exact Bytes.littleEndian_congr hn.symm

theorem field_byte (h : o.size = 1) : o.field = [o.low.toUInt8] := by
  have hvalue : o.value = o.high.toNat * 2 ^ 32 + o.low.toNat := rfl
  rw [← Bytes.littleEndian_byte]
  apply field_eq (by rw [h]; rfl)
  rw [UInt32.toNat_toUInt8, hvalue]
  omega

theorem field_word (h : o.size = 2) : o.field = Bytes.littleEndian 2 o.low.toUInt16.toNat := by
  have hvalue : o.value = o.high.toNat * 2 ^ 32 + o.low.toNat := rfl
  apply field_eq (by rw [h]; rfl)
  rw [UInt32.toNat_toUInt16, hvalue]
  omega

theorem field_dword (h : o.size = 4) : o.field = Bytes.littleEndian 4 o.low.toNat := by
  have hvalue : o.value = o.high.toNat * 2 ^ 32 + o.low.toNat := rfl
  apply field_eq (by rw [h]; rfl)
  rw [hvalue]
  omega

/-- The widest value consists of its two halves. -/
theorem field_halves (h : o.size = 8) :
    o.field = Bytes.littleEndian 4 o.low.toNat ++ Bytes.littleEndian 4 o.high.toNat := by
  have hlow := o.low.toNat_lt
  have hvalue : o.value = o.high.toNat * 2 ^ 32 + o.low.toNat := rfl
  have hdiv : o.value / 256 ^ 4 = o.high.toNat := by
    rw [hvalue]
    omega
  have hmod : Bytes.littleEndian 4 o.value = Bytes.littleEndian 4 o.low.toNat := by
    apply Bytes.littleEndian_congr
    rw [hvalue]
    omega
  rw [field_eq (show o.size.toNat = 4 + 4 by rw [h]; rfl) rfl, Bytes.littleEndian_add, hmod, hdiv]

/-- An object made from a write carries the bytes of that write. -/
theorem ofValue_eq (index : UInt16) (subIndex : UInt8) {data : Bytes}
    (h : data.length ≤ maxSize) :
    ∃ o, ofValue index subIndex data = .ok o ∧ o.index = index ∧ o.subIndex = subIndex ∧
      o.size.toNat = data.length ∧ o.field = data := by
  have hlen : data.length ≤ 8 := h
  have hlt : data.value < 2 ^ 64 := by
    have hpow : 256 ^ data.length ≤ 256 ^ 8 := Nat.pow_le_pow_right (by decide) hlen
    exact Nat.lt_of_lt_of_le data.value_lt hpow
  let o : ConfigObject := ⟨index, subIndex, UInt16.ofNat data.length,
    UInt32.ofNat (data.value % UInt32.size), UInt32.ofNat (data.value / UInt32.size)⟩
  have hsize : o.size.toNat = data.length := by
    rw [UInt16.toNat_ofNat']
    omega
  have hvalue : o.value = data.value := by
    show (UInt32.ofNat (data.value / 2 ^ 32)).toNat * 2 ^ 32 +
      (UInt32.ofNat (data.value % 2 ^ 32)).toNat = data.value
    rw [UInt32.toNat_ofNat', UInt32.toNat_ofNat']
    omega
  refine ⟨o, ?_, rfl, rfl, hsize, ?_⟩
  · unfold ofValue
    rw [if_neg (Nat.not_lt.mpr h)]
  · unfold field
    rw [hsize, hvalue, Bytes.littleEndian_value]

end ConfigObject

/-! ## Writing into the buffer -/

namespace TripleBuffer

variable {b : TripleBuffer} {off : Nat} {d : Bytes}

theorem eval_put (h : off + d.length ≤ b.data.length) :
    (put off d).eval b = (.ok (), { b with data := b.data.overwrite off d }) := by
  have hrun : (put off d).run b = ⟨.ok (), { b with data := b.data.overwrite off d }, []⟩ := by
    show put off d b = _
    unfold put Bytes.put?
    rw [if_pos h]
  exact Op.eval_of_run hrun

theorem eval_putByte {v : UInt8} (h : off < b.data.length) :
    (putByte off v).eval b = (.ok (), { b with data := b.data.overwrite off [v] }) :=
  eval_put h

theorem eval_putWord {v : UInt16} (h : off + 2 ≤ b.data.length) :
    (putWord off v).eval b =
      (.ok (), { b with data := b.data.overwrite off (Bytes.littleEndian 2 v.toNat) }) :=
  eval_put (by rw [Bytes.length_littleEndian]; exact h)

theorem eval_putDword {v : UInt32} (h : off + 4 ≤ b.data.length) :
    (putDword off v).eval b =
      (.ok (), { b with data := b.data.overwrite off (Bytes.littleEndian 4 v.toNat) }) :=
  eval_put (by rw [Bytes.length_littleEndian]; exact h)

end TripleBuffer

namespace ConfigOutput

variable {b : TripleBuffer} {o : ConfigObject}

theorem eval_putValue (hb : b.data.length = bufferSize) (h : o.Sendable) :
    (putValue o).eval b = (.ok (), { b with data := b.data.overwrite lowOffset o.field }) := by
  have hlen : b.data.length = 12 := hb
  unfold putValue
  rcases h with h | h | h | h
  · rw [if_pos h, ConfigObject.field_byte h]
    exact TripleBuffer.eval_putByte (by rw [hlen]; decide)
  · rw [if_neg (by rw [h]; decide), if_pos h, ConfigObject.field_word h]
    exact TripleBuffer.eval_putWord (by rw [hlen]; decide)
  · rw [if_neg (by rw [h]; decide), if_neg (by rw [h]; decide), if_pos h,
      ConfigObject.field_dword h]
    exact TripleBuffer.eval_putDword (by rw [hlen]; decide)
  · rw [if_neg (by rw [h]; decide), if_neg (by rw [h]; decide), if_neg (by rw [h]; decide),
      if_pos h, Op.eval_bind_ok (TripleBuffer.eval_putDword (by rw [hlen]; decide)),
      TripleBuffer.eval_putDword (by rw [Bytes.length_overwrite, hlen]; decide),
      ConfigObject.field_halves h, ← Bytes.overwrite_overwrite, Bytes.length_littleEndian]
    · rfl
    · rw [hlen, Bytes.length_littleEndian, Bytes.length_littleEndian]
      decide

theorem eval_putValue_of_not (h : ¬ o.Sendable) :
    (putValue o).eval b = (.error (.invalidSizeOfObject o.size), b) := by
  unfold ConfigObject.Sendable at h
  simp only [not_or] at h
  obtain ⟨h1, h2, h4, h8⟩ := h
  unfold putValue
  rw [if_neg h1, if_neg h2, if_neg h4, if_neg h8, Op.eval_bind_ok (Op.eval_log _ _), Op.eval_fail]

/-- The header is written field by field, whatever the object. -/
theorem eval_putObject (seq : SeqNr) (o : ConfigObject) (hb : b.data.length = bufferSize) :
    (putObject seq o).eval b =
      (putValue o).eval { b with data := b.data.overwrite 0 (o.header seq) } := by
  have hlen : b.data.length = 12 := hb
  have hheader : b.data.overwrite 0 (o.header seq) = ((b.data.overwrite seqOffset
      [seq.toByte]).overwrite subIndexOffset [o.subIndex]).overwrite indexOffset
        (Bytes.littleEndian 2 o.index.toNat) := by
    have hparts : o.header seq =
        [seq.toByte] ++ ([o.subIndex] ++ Bytes.littleEndian 2 o.index.toNat) := rfl
    rw [hparts, ← Bytes.overwrite_overwrite, ← Bytes.overwrite_overwrite]
    · rfl
    · rw [Bytes.length_overwrite, hlen, Bytes.length_littleEndian]
      exact show 4 ≤ 12 by decide
    · rw [hlen, List.length_append, Bytes.length_littleEndian]
      exact show 4 ≤ 12 by decide
  unfold putObject
  rw [hheader, Op.eval_bind_ok (TripleBuffer.eval_putByte (by rw [hlen]; decide)),
    Op.eval_bind_ok (TripleBuffer.eval_putByte (by rw [Bytes.length_overwrite, hlen]; decide)),
    Op.eval_bind_ok (TripleBuffer.eval_putWord (by
      rw [Bytes.length_overwrite, Bytes.length_overwrite, hlen]
      decide))]

end ConfigOutput

/-! ## Calls -/

namespace ConfigChannel

/-- The channel after an object was written into the buffer and announced. -/
def sent (o : ConfigObject) (c : ConfigChannel) : ConfigChannel where
  output :=
    { buffer := { c.output.buffer with
        data := o.header c.output.seq.flip ++ o.field ++
          c.output.buffer.data.drop (ConfigOutput.lowOffset + o.size.toNat) }
      seq := c.output.seq.flip }
  ack := c.ack.raise c.output.buffer.id
  queue := c.queue.tail

/-- The channel after an object was given up that cannot be sent: its header has been written. -/
def refused (o : ConfigObject) (c : ConfigChannel) : ConfigChannel :=
  { c with
    output :=
      { buffer := { c.output.buffer with
          data := o.header c.output.seq.flip ++
            c.output.buffer.data.drop ConfigOutput.lowOffset }
        seq := c.output.seq.flip } }

end ConfigChannel

/-- What a call that sends can do. -/
inductive SendStep (c : ConfigChannel) : Except Fault Unit → ConfigChannel → Prop
  | idle (hq : c.queue = []) : SendStep c (.ok ()) c
  | sent {o : ConfigObject} {rest : ObjectQueue} (hq : c.queue = o :: rest) (h : o.Sendable) :
      SendStep c (.ok ()) (c.sent o)
  | refused {o : ConfigObject} {rest : ObjectQueue} (hq : c.queue = o :: rest)
      (h : ¬ o.Sendable) :
      SendStep c (.error (.invalidSizeOfObject o.size)) (c.refused o)

namespace ConfigChannel

variable {c : ConfigChannel} {o : ConfigObject} {rest : ObjectQueue}

/-- With nothing in the queue nothing happens. -/
theorem eval_send_idle (hq : c.queue = []) : send.eval c = (.ok (), c) := by
  unfold send
  rw [Op.eval_bind_ok (Op.eval_read _), hq]
  rfl

/-- The number flips, and the object is written into the buffer with it. -/
theorem eval_send_cons {r : Except Fault Unit} {b : TripleBuffer} (hq : c.queue = o :: rest)
    (hput : (ConfigOutput.putObject c.output.seq.flip o).eval c.output.buffer = (r, b)) :
    send.eval c =
      match r with
      | .ok () => (.ok (), ⟨⟨b, c.output.seq.flip⟩, c.ack.raise c.output.buffer.id, c.queue.tail⟩)
      | .error e => (.error e, ⟨⟨b, c.output.seq.flip⟩, c.ack, c.queue⟩) := by
  let flipped : ConfigChannel := { c with output := { c.output with seq := c.output.seq.flip } }
  have hhead : c.queue.head? = some o := by
    rw [hq]
    rfl
  have hon : (onBuffer (ConfigOutput.putObject c.output.seq.flip o)).eval flipped =
      (r, ⟨⟨b, c.output.seq.flip⟩, c.ack, c.queue⟩) :=
    Op.eval_within_of hput
  unfold send
  rw [Op.eval_bind_ok (Op.eval_read _), hhead]
  dsimp only
  rw [Op.eval_bind_ok (Op.eval_update _ _)]
  cases r with
  | error e => rw [Op.eval_bind_error hon]
  | ok =>
    rw [Op.eval_bind_ok hon]
    rfl

theorem eval_send_sent (hlen : c.output.buffer.data.length = ConfigOutput.bufferSize)
    (hq : c.queue = o :: rest) (h : o.Sendable) : send.eval c = (.ok (), c.sent o) := by
  have hb : c.output.buffer.data.length = 12 := hlen
  have hsize := h.size_le
  -- the value follows the header at once, so that the two are one write
  have hdata : (c.output.buffer.data.overwrite 0 (o.header c.output.seq.flip)).overwrite
      ConfigOutput.lowOffset o.field = o.header c.output.seq.flip ++ o.field ++
        c.output.buffer.data.drop (ConfigOutput.lowOffset + o.size.toNat) := by
    have hboth : (c.output.buffer.data.overwrite 0 (o.header c.output.seq.flip)).overwrite
        (0 + (o.header c.output.seq.flip).length) o.field =
          c.output.buffer.data.overwrite 0 (o.header c.output.seq.flip ++ o.field) :=
      Bytes.overwrite_overwrite (by simp; omega)
    have hwhole := Bytes.overwrite_zero (b := c.output.buffer.data)
      (d := o.header c.output.seq.flip ++ o.field) (by simp; omega)
    rw [List.length_append, ConfigObject.length_header, ConfigObject.length_field] at hwhole
    rw [ConfigObject.length_header] at hboth
    exact hboth.trans hwhole
  have hput := ConfigOutput.eval_putObject c.output.seq.flip o hlen
  rw [ConfigOutput.eval_putValue (by rw [Bytes.length_overwrite]; exact hlen) h, hdata] at hput
  exact eval_send_cons hq hput

theorem eval_send_refused (hlen : c.output.buffer.data.length = ConfigOutput.bufferSize)
    (hq : c.queue = o :: rest) (h : ¬ o.Sendable) :
    send.eval c = (.error (.invalidSizeOfObject o.size), c.refused o) := by
  have hb : c.output.buffer.data.length = 12 := hlen
  have hput := ConfigOutput.eval_putObject c.output.seq.flip o hlen
  rw [ConfigOutput.eval_putValue_of_not h, Bytes.overwrite_zero (by simp; omega),
    ConfigObject.length_header] at hput
  exact eval_send_cons hq hput

theorem eval_send (hlen : c.output.buffer.data.length = ConfigOutput.bufferSize) :
    ∃ r c', send.eval c = (r, c') ∧ SendStep c r c' := by
  cases hq : c.queue with
  | nil => exact ⟨_, _, eval_send_idle hq, .idle hq⟩
  | cons o rest =>
    by_cases h : o.Sendable
    · exact ⟨_, _, eval_send_sent hlen hq h, .sent hq h⟩
    · exact ⟨_, _, eval_send_refused hlen hq h, .refused hq h⟩

/-- A value that is too wide is refused at every event. -/
theorem eval_access_wide {event : DictionaryEvent} {index : UInt16} {subIndex : UInt8}
    {data : Bytes} (h : ConfigObject.maxSize < data.length) :
    (access event index subIndex data).eval c = (.error (.objectLengthError data.length), c) := by
  unfold access ObjectQueue.access
  rw [if_pos h]
  rfl

/-- Any other value is queued when it was written, and at no other event. -/
theorem eval_access {event : DictionaryEvent} {index : UInt16} {subIndex : UInt8}
    {data : Bytes} {o : ConfigObject} (hdata : data.length ≤ ConfigObject.maxSize)
    (h : ConfigObject.ofValue index subIndex data = .ok o) :
    (access event index subIndex data).eval c =
      (.ok (), if event = .postWrite then { c with queue := c.queue ++ [o] } else c) := by
  unfold access ObjectQueue.access
  rw [if_neg (Nat.not_lt.mpr hdata)]
  by_cases he : event = .postWrite
  · rw [if_pos he, if_pos he, h]
    rfl
  · rw [if_neg he, if_neg he]
    rfl

end ConfigChannel

end SlimInterface
