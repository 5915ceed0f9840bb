import Mathlib.Algebra.Group.Nat.Defs
import SlimInterface.Channel.Logbook.Channel
import SlimInterface.Channel.Ssdo.Frame
import SlimInterface.Proofs.Operation
import SlimInterface.Proofs.Span

/-!
# What is written into a buffer

A channel fills its buffer field by field. `LogEntry.imprint` and `Frame.imprint` are the
buffers that result, and the two statements that matter about each are that writing ends
with it (`eval_stage`, `Frame.eval_write`) and that reading it gives back what was written
(`LogEntry.read_imprint`, `Frame.read_imprint`).

The acknowledges are single bits: `SeqNr.ofLowBit` is the sequence number a register shows
for the only channel there is.
-/

namespace SlimInterface

/-! ## Fields -/

namespace Bytes

variable {b d : Bytes} {off off' len : Nat}

theorem take_drop_overwrite_of_apart (h : off + len ≤ off' ∨ off' + d.length ≤ off) :
    ((b.overwrite off' d).drop off).take len = (b.drop off).take len := by
  apply List.ext_getElem?
  intro i
  rw [List.getElem?_take, List.getElem?_take, List.getElem?_drop, List.getElem?_drop]
  by_cases hi : i < len
  · rw [if_pos hi, if_pos hi, getElem?_overwrite, if_neg (by omega)]
  · rw [if_neg hi, if_neg hi]

/-- What was written behind `n` bytes is read back behind them. -/
theorem take_drop_overwrite {n : Nat} (h : off + n + d.length ≤ b.length) :
    ((b.overwrite (off + n) d).drop off).take (n + d.length) = (b.drop off).take n ++ d := by
  have hd := slice?_overwrite h
  unfold slice? at hd
  rw [if_pos (by rw [length_overwrite]; exact h)] at hd
  rw [List.take_add, take_drop_overwrite_of_apart (.inl (Nat.le_refl _)), List.drop_drop,
    Option.some.inj hd]

theorem slice?_overwrite_of_apart (h : off + len ≤ off' ∨ off' + d.length ≤ off) :
    (b.overwrite off' d).slice? off len = b.slice? off len := by
  unfold slice?
  rw [length_overwrite, take_drop_overwrite_of_apart h]

theorem byteAt_overwrite_of_apart {v : UInt8} (h : off ≠ off') :
    (b.overwrite off' [v]).byteAt off = b.byteAt off := by
  unfold byteAt
  rw [getElem?_overwrite, if_neg (by rw [List.length_singleton]; omega)]

theorem byteAt_overwrite {v : UInt8} (h : off < b.length) :
    (b.overwrite off [v]).byteAt off = .ok v := by
  unfold byteAt
  rw [getElem?_overwrite, if_pos ⟨Nat.le_refl _, by rw [List.length_singleton]; omega, h⟩,
    Nat.sub_self]
  rfl

theorem byteAt_overwrite_of_before (h : off < off') :
    (b.overwrite off' d).byteAt off = b.byteAt off := by
  unfold byteAt
  rw [getElem?_overwrite, if_neg (by omega)]

/-! ### Fields as slices

A field that can be read is a slice of the buffer, so what `slice?` says of a write it says of
every field. -/

theorem length_of_slice? (h : b.slice? off len = some d) :
    d.length = len ∧ off + len ≤ b.length := by
  unfold slice? at h
  split at h
  · next hle =>
    refine ⟨?_, hle⟩
    rw [← Option.some.inj h, List.length_take, List.length_drop]
    omega
  · cases h

/-- Writing what is there already changes nothing. -/
theorem overwrite_of_slice? (h : b.slice? off len = some d) : b.overwrite off d = b := by
  obtain ⟨rfl, hle⟩ := length_of_slice? h
  have hd : (b.drop off).take d.length = d := by
    unfold slice? at h
    rw [if_pos hle] at h
    exact Option.some.inj h
  apply List.ext_getElem?
  intro i
  rw [getElem?_overwrite]
  by_cases hi : off ≤ i ∧ i < off + d.length ∧ i < b.length
  · rw [if_pos hi, ← hd, List.getElem?_take_of_lt (by omega), List.getElem?_drop,
      show off + (i - off) = i by omega]
  · rw [if_neg hi]

theorem byteAt_eq_ok {v : UInt8} : b.byteAt off = .ok v ↔ b[off]? = some v := by
  unfold byteAt
  cases b[off]? <;> simp

theorem slice?_one {v : UInt8} (h : b[off]? = some v) : b.slice? off 1 = some [v] := by
  obtain ⟨hlt, rfl⟩ := List.getElem?_eq_some_iff.mp h
  unfold slice?
  rw [if_pos (Nat.succ_le_of_lt hlt), List.drop_eq_getElem_cons hlt]
  rfl

theorem wordAt_eq_ok {v : UInt16} :
    b.wordAt off = .ok v ↔ b.slice? off 2 = some (littleEndian 2 v.toNat) := by
  unfold wordAt
  cases hs : b.slice? off 2 with
  | none => simp
  | some field =>
    have hlen := (length_of_slice? hs).1
    have hlt := value_lt field
    rw [hlen] at hlt
    rw [Option.some_inj, eq_littleEndian_iff hlen v.toNat_lt, Except.ok.injEq, ← UInt16.toNat_inj,
      UInt16.toNat_ofNat_of_lt' hlt]

theorem dwordAt_eq_ok {v : UInt32} :
    b.dwordAt off = .ok v ↔ b.slice? off 4 = some (littleEndian 4 v.toNat) := by
  unfold dwordAt
  cases hs : b.slice? off 4 with
  | none => simp
  | some field =>
    have hlen := (length_of_slice? hs).1
    have hlt := value_lt field
    rw [hlen] at hlt
    rw [Option.some_inj, eq_littleEndian_iff hlen v.toNat_lt, Except.ok.injEq, ← UInt32.toNat_inj,
      UInt32.toNat_ofNat_of_lt' hlt]

theorem wordAt_overwrite {v : UInt16} (h : off + 2 ≤ b.length) :
    (b.overwrite off (littleEndian 2 v.toNat)).wordAt off = .ok v := by
  rw [wordAt_eq_ok, ← length_littleEndian 2 v.toNat]
  exact slice?_overwrite (by rw [length_littleEndian]; exact h)

theorem dwordAt_overwrite {v : UInt32} (h : off + 4 ≤ b.length) :
    (b.overwrite off (littleEndian 4 v.toNat)).dwordAt off = .ok v := by
  rw [dwordAt_eq_ok, ← length_littleEndian 4 v.toNat]
  exact slice?_overwrite (by rw [length_littleEndian]; exact h)

theorem wordAt_overwrite_of_apart (h : off + 2 ≤ off' ∨ off' + d.length ≤ off) :
    (b.overwrite off' d).wordAt off = b.wordAt off := by
  unfold wordAt
  rw [slice?_overwrite_of_apart h]

theorem dwordAt_overwrite_of_apart (h : off + 4 ≤ off' ∨ off' + d.length ≤ off) :
    (b.overwrite off' d).dwordAt off = b.dwordAt off := by
  unfold dwordAt
  rw [slice?_overwrite_of_apart h]

/-- A byte of the buffer. -/
theorem byteAt_of_lt (h : off < b.length) : b.byteAt off = .ok (b[off]?.getD 0) := by
  unfold byteAt
  rw [List.getElem?_eq_getElem h]
  rfl

/-- The word at `off`, whatever of it lies in the buffer. -/
def word (b : Bytes) (off : Nat) : UInt16 := UInt16.ofNat (value ((b.drop off).take 2))

/-- The double word at `off`, whatever of it lies in the buffer. -/
def dword (b : Bytes) (off : Nat) : UInt32 := UInt32.ofNat (value ((b.drop off).take 4))

theorem wordAt_of_le (h : off + 2 ≤ b.length) : b.wordAt off = .ok (b.word off) := by
  unfold wordAt slice?
  rw [if_pos h]
  rfl

theorem dwordAt_of_le (h : off + 4 ≤ b.length) : b.dwordAt off = .ok (b.dword off) := by
  unfold dwordAt slice?
  rw [if_pos h]
  rfl

theorem dwordAt_of_lt (h : b.length < off + 4) : b.dwordAt off = .error .outOfBounds := by
  unfold dwordAt slice?
  rw [if_neg (by omega)]

/-! ### Failing to read

There is one way to fail, and a reader that goes through several fields passes it on. -/

variable {α β : Type} {f : Fault}

theorem byteAt_eq_error (h : b.byteAt off = .error f) : f = .outOfBounds := by
  unfold byteAt at h
  split at h <;> cases h
  rfl

theorem wordAt_eq_error (h : b.wordAt off = .error f) : f = .outOfBounds := by
  unfold wordAt at h
  split at h <;> cases h
  rfl

theorem dwordAt_eq_error (h : b.dwordAt off = .error f) : f = .outOfBounds := by
  unfold dwordAt at h
  split at h <;> cases h
  rfl

theorem bind_eq_ok {x : Except Fault α} {next : α → Except Fault β} {y : β} :
    (x >>= next) = .ok y ↔ ∃ a, x = .ok a ∧ next a = .ok y := by
  cases x <;> simp [bind, Except.bind]

theorem bind_eq_error {x : Except Fault α} {next : α → Except Fault β} :
    (x >>= next) = .error f ↔ x = .error f ∨ ∃ a, x = .ok a ∧ next a = .error f := by
  cases x <;> simp [bind, Except.bind]

theorem bind_outOfBounds {x : Except Fault α} {next : α → Except Fault β}
    (hx : ∀ f, x = .error f → f = .outOfBounds) (hn : ∀ a, next a = .error .outOfBounds) :
    (x >>= next) = .error .outOfBounds := by
  cases x with
  | error f => exact congrArg Except.error (hx f rfl)
  | ok a => exact hn a

theorem dword_overwrite {v : UInt32} (h : off + 4 ≤ b.length) :
    (b.overwrite off (littleEndian 4 v.toNat)).dword off = v := by
  have hat : (b.overwrite off (littleEndian 4 v.toNat)).dwordAt off = .ok _ :=
    dwordAt_of_le (by rw [length_overwrite]; exact h)
  rw [dwordAt_overwrite h] at hat
  exact (Except.ok.inj hat).symm

theorem dword_overwrite_of_apart (h : off + 4 ≤ off' ∨ off' + d.length ≤ off) :
    (b.overwrite off' d).dword off = b.dword off := by
  unfold dword
  rw [take_drop_overwrite_of_apart h]

end Bytes

namespace Field

theorem eval_put {off : Nat} {d b : Bytes} (h : off + d.length ≤ b.length) :
    (put off d).eval b = (.ok (), b.overwrite off d) :=
  Op.eval_of_run (put_of_le h)

theorem eval_put_of_lt {off : Nat} {d b : Bytes} (h : b.length < off + d.length) :
    (put off d).eval b = (.error .outOfBounds, b) :=
  Op.eval_of_run (put_of_lt h)

theorem eval_putByte {off : Nat} {v : UInt8} {b : Bytes} (h : off < b.length) :
    (putByte off v).eval b = (.ok (), b.overwrite off [v]) :=
  eval_put h

theorem eval_putWord {off : Nat} {v : UInt16} {b : Bytes} (h : off + 2 ≤ b.length) :
    (putWord off v).eval b = (.ok (), b.overwrite off (Bytes.littleEndian 2 v.toNat)) :=
  eval_put (by rw [Bytes.length_littleEndian]; exact h)

theorem eval_putDword {off : Nat} {v : UInt32} {b : Bytes} (h : off + 4 ≤ b.length) :
    (putDword off v).eval b = (.ok (), b.overwrite off (Bytes.littleEndian 4 v.toNat)) :=
  eval_put (by rw [Bytes.length_littleEndian]; exact h)

/-- A write that may or may not fit, and one behind it that does not: they fail together. -/
theorem eval_put_bind_outOfBounds {α : Type} {off n : Nat} {d b : Bytes} {next : Unit → Op Bytes α}
    (hb : b.length < n)
    (hnext : ∀ b' : Bytes, b'.length < n → ((next ()).eval b').1 = .error .outOfBounds) :
    ((put off d >>= next).eval b).1 = .error .outOfBounds := by
  by_cases h : off + d.length ≤ b.length
  · rw [Op.eval_bind_ok (eval_put h)]
    exact hnext _ (by rw [Bytes.length_overwrite]; exact hb)
  · rw [Op.eval_bind_error (eval_put_of_lt (Nat.lt_of_not_le h))]

end Field

/-! ## Logbook entries -/

namespace LogEntry

/-- A logbook buffer after the fields of an entry were written. -/
def fill (e : LogEntry) (b : Bytes) : Bytes :=
  ((((b.overwrite levelOffset [e.level]).overwrite entryTypeOffset [e.entryType]).overwrite
    codeOffset (Bytes.littleEndian 2 e.code.toNat)).overwrite
    timestampOffset (Bytes.littleEndian 4 e.timestamp.toNat)).overwrite
    valueOffset (Bytes.littleEndian 4 e.value.toNat)

/-- A logbook buffer after an entry was put into it behind a sequence number. -/
def imprint (seq : SeqNr) (e : LogEntry) (b : Bytes) : Bytes :=
  (fill e b).overwrite seqOffset [seq.toByte]

variable {seq : SeqNr} {e : LogEntry} {b : Bytes}

@[simp] theorem length_fill : (fill e b).length = b.length := by
  unfold fill
  simp only [Bytes.length_overwrite]

@[simp] theorem length_imprint : (imprint seq e b).length = b.length := by
  unfold imprint
  rw [Bytes.length_overwrite, length_fill]

/-- The places of the fields. -/
def IsField (i : Nat) : Prop := i = 1 ∨ i = 2 ∨ i = 4 ∨ i = 5 ∨ 8 ≤ i ∧ i < 16

/-- The other places keep what they held. -/
theorem getElem?_fill {i : Nat} (hi : ¬ IsField i) : (fill e b)[i]? = b[i]? := by
  unfold IsField at hi
  unfold fill levelOffset entryTypeOffset codeOffset timestampOffset valueOffset
  simp only [Bytes.getElem?_overwrite, Bytes.length_overwrite, Bytes.length_littleEndian,
    List.length_singleton]
  rw [if_neg (by omega), if_neg (by omega), if_neg (by omega), if_neg (by omega),
    if_neg (by omega)]

theorem eval_write_of_le (h : bufferSize ≤ b.length) : e.write.eval b = (.ok (), fill e b) := by
  have hb : 16 ≤ b.length := h
  unfold write fill levelOffset entryTypeOffset codeOffset timestampOffset valueOffset
  rw [Op.eval_bind_ok (Field.eval_putByte (by omega)),
    Op.eval_bind_ok (Field.eval_putByte (by simp only [Bytes.length_overwrite]; omega)),
    Op.eval_bind_ok (Field.eval_putWord (by simp only [Bytes.length_overwrite]; omega)),
    Op.eval_bind_ok (Field.eval_putDword (by simp only [Bytes.length_overwrite]; omega)),
    Field.eval_putDword (by simp only [Bytes.length_overwrite]; omega)]

/-- A buffer that is too short ends before the value, and may end before other fields. -/
theorem eval_write_of_lt (h : b.length < bufferSize) :
    (e.write.eval b).1 = .error .outOfBounds := by
  unfold write
  refine Field.eval_put_bind_outOfBounds h fun _ h => ?_
  refine Field.eval_put_bind_outOfBounds h fun _ h => ?_
  refine Field.eval_put_bind_outOfBounds h fun _ h => ?_
  refine Field.eval_put_bind_outOfBounds h fun _ h => ?_
  exact congrArg Prod.fst (Field.eval_put_of_lt h)

theorem eval_stage_of_le (h : bufferSize ≤ b.length) :
    (LogChannel.stage seq e).eval b = (.ok (), imprint seq e b) := by
  have hb : 16 ≤ b.length := h
  unfold LogChannel.stage imprint
  rw [Op.eval_bind_ok (eval_write_of_le h),
    Field.eval_putByte (by rw [length_fill, seqOffset]; omega)]

theorem eval_stage_of_lt (h : b.length < bufferSize) :
    ((LogChannel.stage seq e).eval b).1 = .error .outOfBounds := by
  have hr := eval_write_of_lt (e := e) h
  rcases hw : e.write.eval b with ⟨r, b'⟩
  rw [hw] at hr
  subst hr
  unfold LogChannel.stage
  rw [Op.eval_bind_error hw]

theorem eval_stage (h : b.length = bufferSize) :
    (LogChannel.stage seq e).eval b = (.ok (), imprint seq e b) :=
  eval_stage_of_le (Nat.le_of_eq h.symm)

theorem getElem?_imprint_of_le (h : bufferSize ≤ b.length) :
    (imprint seq e b)[0]? = some seq.toByte := by
  have hb : 16 ≤ b.length := h
  unfold imprint
  rw [Bytes.getElem?_overwrite, if_pos ⟨Nat.le_refl _, show 0 < 1 by decide,
    by rw [length_fill]; omega⟩]
  rfl

theorem getElem?_imprint (h : b.length = bufferSize) : (imprint seq e b)[0]? = some seq.toByte :=
  getElem?_imprint_of_le (Nat.le_of_eq h.symm)

/-- An entry is read field by field. -/
theorem read_eq_ok : read b = .ok e ↔
    b.byteAt levelOffset = .ok e.level ∧ b.byteAt entryTypeOffset = .ok e.entryType ∧
      b.wordAt codeOffset = .ok e.code ∧ b.dwordAt timestampOffset = .ok e.timestamp ∧
      b.dwordAt valueOffset = .ok e.value := by
  unfold read
  simp only [Bytes.bind_eq_ok]
  constructor
  · rintro ⟨_, hlevel, _, htype, _, hcode, _, htime, _, hvalue, he⟩
    cases he
    exact ⟨hlevel, htype, hcode, htime, hvalue⟩
  · rintro ⟨hlevel, htype, hcode, htime, hvalue⟩
    exact ⟨_, hlevel, _, htype, _, hcode, _, htime, _, hvalue, rfl⟩

/-- What was written into a buffer is the entry that is read from it. -/
theorem read_fill (h : bufferSize ≤ b.length) : read (fill e b) = .ok e := by
  have hb : 16 ≤ b.length := h
  unfold fill
  refine read_eq_ok.mpr ⟨?_, ?_, ?_, ?_, ?_⟩
  -- each field is written behind the ones before it
  · rw [Bytes.byteAt_overwrite_of_before (by decide), Bytes.byteAt_overwrite_of_before (by decide),
      Bytes.byteAt_overwrite_of_before (by decide), Bytes.byteAt_overwrite_of_before (by decide),
      Bytes.byteAt_overwrite (by rw [levelOffset]; omega)]
  · rw [Bytes.byteAt_overwrite_of_before (by decide), Bytes.byteAt_overwrite_of_before (by decide),
      Bytes.byteAt_overwrite_of_before (by decide),
      Bytes.byteAt_overwrite (by simp only [Bytes.length_overwrite, entryTypeOffset]; omega)]
  · rw [Bytes.wordAt_overwrite_of_apart (.inl (by decide)),
      Bytes.wordAt_overwrite_of_apart (.inl (by decide)),
      Bytes.wordAt_overwrite (by simp only [Bytes.length_overwrite, codeOffset]; omega)]
  · rw [Bytes.dwordAt_overwrite_of_apart (.inl (by decide)),
      Bytes.dwordAt_overwrite (by simp only [Bytes.length_overwrite, timestampOffset]; omega)]
  · rw [Bytes.dwordAt_overwrite (by simp only [Bytes.length_overwrite, valueOffset]; omega)]

/-- And writing what was read changes nothing. -/
theorem fill_of_read (h : read b = .ok e) : fill e b = b := by
  obtain ⟨hlevel, htype, hcode, htime, hvalue⟩ := read_eq_ok.mp h
  unfold fill
  rw [Bytes.overwrite_of_slice? (Bytes.slice?_one (Bytes.byteAt_eq_ok.mp hlevel)),
    Bytes.overwrite_of_slice? (Bytes.slice?_one (Bytes.byteAt_eq_ok.mp htype)),
    Bytes.overwrite_of_slice? (Bytes.wordAt_eq_ok.mp hcode),
    Bytes.overwrite_of_slice? (Bytes.dwordAt_eq_ok.mp htime),
    Bytes.overwrite_of_slice? (Bytes.dwordAt_eq_ok.mp hvalue)]

/-- The sequence number stands in front of every field. -/
theorem read_overwrite_seq {x : UInt8} : read (b.overwrite seqOffset [x]) = read b := by
  unfold read
  rw [Bytes.byteAt_overwrite_of_apart (by decide), Bytes.byteAt_overwrite_of_apart (by decide),
    Bytes.wordAt_overwrite_of_apart (.inr (show 1 ≤ 4 by decide)),
    Bytes.dwordAt_overwrite_of_apart (.inr (show 1 ≤ 8 by decide)),
    Bytes.dwordAt_overwrite_of_apart (.inr (show 1 ≤ 12 by decide))]

theorem read_imprint_of_le (h : bufferSize ≤ b.length) : read (imprint seq e b) = .ok e := by
  unfold imprint
  rw [read_overwrite_seq, read_fill h]

/-- What was put into a logbook buffer is the entry that is read from it. -/
theorem read_imprint (h : b.length = bufferSize) : read (imprint seq e b) = .ok e :=
  read_imprint_of_le (Nat.le_of_eq h.symm)

/-- Every buffer that is long enough reads as some entry. -/
theorem read_of_le (h : bufferSize ≤ b.length) : ∃ e, read b = .ok e := by
  have hb : 16 ≤ b.length := h
  unfold read levelOffset entryTypeOffset codeOffset timestampOffset valueOffset
  rw [Bytes.byteAt_of_lt (by omega), Bytes.byteAt_of_lt (by omega), Bytes.wordAt_of_le (by omega),
    Bytes.dwordAt_of_le (by omega), Bytes.dwordAt_of_le (by omega)]
  exact ⟨_, rfl⟩

/-- Every logbook buffer reads as some entry. -/
theorem read_of_length (h : b.length = bufferSize) : ∃ e, read b = .ok e :=
  read_of_le (Nat.le_of_eq h.symm)

/-- A shorter one does not: at the latest the value of the entry reaches past its end. -/
theorem read_of_lt (h : b.length < bufferSize) : read b = .error .outOfBounds := by
  have hb : b.length < 16 := h
  unfold read
  refine Bytes.bind_outOfBounds (fun _ => Bytes.byteAt_eq_error) fun _ => ?_
  refine Bytes.bind_outOfBounds (fun _ => Bytes.byteAt_eq_error) fun _ => ?_
  refine Bytes.bind_outOfBounds (fun _ => Bytes.wordAt_eq_error) fun _ => ?_
  refine Bytes.bind_outOfBounds (fun _ => Bytes.dwordAt_eq_error) fun _ => ?_
  rw [Bytes.dwordAt_of_lt (by unfold valueOffset; omega)]
  rfl

end LogEntry

/-! ## Frames -/

namespace SeqNr

theorem toNat_toByte_le (s : SeqNr) : s.toByte.toNat ≤ 1 := by
  cases s <;> decide

/-- The bytes up to one are the sequence numbers. -/
theorem ofByte_of_le {x : UInt8} (h : x.toNat ≤ 1) : ∃ s : SeqNr, ofByte x = .ok s := by
  rcases Nat.le_one_iff_eq_zero_or_eq_one.mp h with h0 | h1
  · obtain rfl : x = 0 := UInt8.toNat_inj.mp h0
    exact ⟨.first, rfl⟩
  · obtain rfl : x = 1 := UInt8.toNat_inj.mp h1
    exact ⟨.second, rfl⟩

/-- The others are refused. -/
theorem ofByte_of_lt {x : UInt8} (h : 1 < x.toNat) : ofByte x = .error (.invalidSeqNr x) := by
  have h0 : x ≠ 0 := by
    rintro rfl
    exact absurd h (by decide)
  have h1 : x ≠ 1 := by
    rintro rfl
    exact absurd h (by decide)
  unfold ofByte
  rw [if_neg h0, if_neg h1]

theorem one_lt_of_ofByte {x : UInt8} {e : Fault} (h : ofByte x = .error e) :
    1 < x.toNat := by
  apply Decidable.byContradiction
  intro hle
  obtain ⟨seq, hseq⟩ := ofByte_of_le (Nat.not_lt.mp hle)
  rw [hseq] at h
  cases h

end SeqNr

namespace Frame

/-- A channel buffer after a frame was put into it. -/
def imprint (f : Frame) (b : Bytes) : Bytes :=
  ((b.overwrite payloadOffset f.payload).overwrite lengthOffset
    (Bytes.littleEndian 2 (UInt16.ofNat f.payload.length).toNat)).overwrite
    seqOffset [f.seq.toByte]

variable {f : Frame} {b : Bytes}

@[simp] theorem length_imprint : (imprint f b).length = b.length := by
  unfold imprint
  simp only [Bytes.length_overwrite]

/-- A frame is written if it is short enough and the buffer has room for it. -/
theorem eval_write_of_le (hp : f.payload.length ≤ maxPayload)
    (h : payloadOffset + f.payload.length ≤ b.length) : f.write.eval b = (.ok (), imprint f b) := by
  have hroom : 4 + f.payload.length ≤ b.length := h
  unfold write imprint
  rw [if_neg (Nat.not_lt.mpr hp), Op.eval_bind_ok (Field.eval_put h),
    Op.eval_bind_ok (Field.eval_putWord (by rw [Bytes.length_overwrite, lengthOffset]; omega)),
    Field.eval_putByte (by simp only [Bytes.length_overwrite, seqOffset]; omega)]

/-- Otherwise nothing is written. -/
theorem eval_write_of_not
    (h : ¬ (f.payload.length ≤ maxPayload ∧ payloadOffset + f.payload.length ≤ b.length)) :
    f.write.eval b = (.error .outOfBounds, b) := by
  unfold write
  by_cases hp : f.payload.length ≤ maxPayload
  · have hroom : b.length < payloadOffset + f.payload.length :=
      Nat.lt_of_not_le fun hroom => h ⟨hp, hroom⟩
    rw [if_neg (Nat.not_lt.mpr hp), Op.eval_bind_error (Field.eval_put_of_lt hroom)]
  · rw [if_pos (Nat.lt_of_not_le hp), Op.eval_fail]

/-- The reserved byte and everything behind the payload keep what they held. -/
theorem getElem?_imprint {i : Nat} (hi : i = 1 ∨ payloadOffset + f.payload.length ≤ i) :
    (imprint f b)[i]? = b[i]? := by
  unfold payloadOffset at hi
  unfold imprint seqOffset lengthOffset payloadOffset
  simp only [Bytes.getElem?_overwrite, Bytes.length_overwrite, Bytes.length_littleEndian,
    List.length_singleton]
  rw [if_neg (by omega), if_neg (by omega), if_neg (by omega)]

/-- What a buffer has that is read as a frame. -/
theorem read_eq_ok : read b = .ok f ↔
    b.byteAt seqOffset = .ok f.seq.toByte ∧
      ∃ length : UInt16, b.wordAt lengthOffset = .ok length ∧ length.toNat ≤ maxPayload ∧
        b.slice? payloadOffset length.toNat = some f.payload := by
  unfold read
  simp only [Bytes.bind_eq_ok]
  constructor
  · rintro ⟨byte, hbyte, seq, hseq, length, hlength, hrest⟩
    by_cases hlong : maxPayload < length.toNat
    · rw [if_pos hlong] at hrest
      cases hrest
    · rw [if_neg hlong] at hrest
      cases hslice : b.slice? payloadOffset length.toNat with
      | none =>
        rw [hslice] at hrest
        cases hrest
      | some payload =>
        rw [hslice] at hrest
        cases hrest
        exact ⟨by rw [hbyte, SeqNr.toByte_of_ofByte hseq], length, hlength,
          Nat.le_of_not_lt hlong, hslice⟩
  · rintro ⟨hbyte, length, hlength, hle, hslice⟩
    refine ⟨_, hbyte, _, SeqNr.ofByte_toByte f.seq, length, hlength, ?_⟩
    rw [if_neg (Nat.not_lt.mpr hle), hslice]
    rfl

/-- What was put into a buffer is the frame that is read from it. -/
theorem read_imprint_of_le (hp : f.payload.length ≤ maxPayload)
    (h : payloadOffset + f.payload.length ≤ b.length) : read (imprint f b) = .ok f := by
  have hroom : 4 + f.payload.length ≤ b.length := h
  have hlen : f.payload.length ≤ 252 := hp
  -- the length of a payload that fits is not cut off
  have hword : (UInt16.ofNat f.payload.length).toNat = f.payload.length :=
    UInt16.toNat_ofNat_of_lt' (Nat.lt_of_le_of_lt hlen (by decide))
  refine read_eq_ok.mpr ⟨?_, UInt16.ofNat f.payload.length, ?_, by rw [hword]; exact hp, ?_⟩
  · exact Bytes.byteAt_overwrite (by simp only [Bytes.length_overwrite, seqOffset]; omega)
  · unfold imprint
    rw [Bytes.wordAt_overwrite_of_apart (.inr (show 1 ≤ 2 by decide)),
      Bytes.wordAt_overwrite (by rw [Bytes.length_overwrite, lengthOffset]; omega)]
  · unfold imprint
    rw [hword, Bytes.slice?_overwrite_of_apart (.inr (show 1 ≤ 4 by decide)),
      Bytes.slice?_overwrite_of_apart (.inr (by rw [Bytes.length_littleEndian]; decide)),
      Bytes.slice?_overwrite h]

/-- And putting in what was read changes nothing. -/
theorem imprint_of_read (h : read b = .ok f) : imprint f b = b := by
  obtain ⟨hseq, length, hlength, -, hpayload⟩ := read_eq_ok.mp h
  unfold imprint
  rw [Bytes.overwrite_of_slice? hpayload, (Bytes.length_of_slice? hpayload).1, UInt16.ofNat_toNat,
    Bytes.overwrite_of_slice? (Bytes.wordAt_eq_ok.mp hlength),
    Bytes.overwrite_of_slice? (Bytes.slice?_one (Bytes.byteAt_eq_ok.mp hseq))]

theorem room_of_length (h : b.length = bufferSize) (hp : f.payload.length ≤ maxPayload) :
    payloadOffset + f.payload.length ≤ b.length := by
  rw [h]
  exact Nat.add_le_add_left hp payloadOffset

/-- A channel buffer has room for every frame. -/
theorem eval_write (h : b.length = bufferSize) (hp : f.payload.length ≤ maxPayload) :
    f.write.eval b = (.ok (), imprint f b) :=
  eval_write_of_le hp (room_of_length h hp)

/-- What was put into a channel buffer is the frame that is read from it. -/
theorem read_imprint (h : b.length = bufferSize) (hp : f.payload.length ≤ maxPayload) :
    read (imprint f b) = .ok f :=
  read_imprint_of_le hp (room_of_length h hp)

theorem length_payload_of_read (h : read b = .ok f) : f.payload.length ≤ maxPayload := by
  obtain ⟨-, length, -, hle, hslice⟩ := read_eq_ok.mp h
  rw [(Bytes.length_of_slice? hslice).1]
  exact hle

/-- An untouched channel buffer holds an empty frame. -/
theorem read_replicate : read (List.replicate bufferSize 0) = .ok ⟨.first, []⟩ := by
  have hb : (List.replicate bufferSize (0 : UInt8)).length = 256 := List.length_replicate
  refine read_eq_ok.mpr ⟨?_, 0, ?_, by decide, ?_⟩
  · rw [Bytes.byteAt_of_lt (by rw [hb]; decide), List.getElem?_replicate, if_pos (by decide)]
    rfl
  · rw [Bytes.wordAt_of_le (by rw [hb]; decide), Bytes.word, List.drop_replicate,
      List.take_replicate]
    rfl
  · unfold Bytes.slice?
    rw [if_pos (by rw [hb]; decide)]
    rfl

end Frame

/-! ## Numbers -/

namespace SeqNr

/-- The number that the `n`-th attempt is made with. -/
def ofCount (n : Nat) : SeqNr := .ofBit (decide (n % 2 = 1))

theorem ofCount_succ (n : Nat) : ofCount (n + 1) = (ofCount n).flip := by
  unfold ofCount
  rcases Nat.mod_two_eq_zero_or_one n with h | h
  · rw [h, show (n + 1) % 2 = 1 by omega]
    rfl
  · rw [h, show (n + 1) % 2 = 0 by omega]
    rfl

end SeqNr

/-! ## Acknowledge bits -/

namespace SeqNr

/-- The sequence number of channel zero in a register. -/
def ofLowBit (register : Nat) : SeqNr := ofBit (register.testBit 0)

@[simp] theorem ofLowBit_toByte (s : SeqNr) : ofLowBit s.toByte.toNat = s := by
  cases s <;> rfl

theorem ofLowBit_add_mul (n m : Nat) : ofLowBit (n + 256 * m) = ofLowBit n := by
  unfold ofLowBit
  rw [Nat.testBit_zero, Nat.testBit_zero, show (n + 256 * m) % 2 = n % 2 by omega]

theorem ofLowBit_mod (n : Nat) : ofLowBit (n % 256) = ofLowBit n := by
  unfold ofLowBit
  rw [Nat.testBit_zero, Nat.testBit_zero, show n % 256 % 2 = n % 2 by omega]

theorem eq_flip_of_ne {s t : SeqNr} (h : s ≠ t) : s = t.flip := by
  cases s <;> cases t <;> first | rfl | exact absurd rfl h

end SeqNr

namespace Bytes

/-- The sequence number that the register at `off` shows for channel zero. -/
def flagAt (b : Bytes) (off : Nat) : SeqNr := SeqNr.ofLowBit (b[off]?.getD 0).toNat

variable {b d : Bytes} {off : Nat}

theorem ofLowBit_word (b : Bytes) (off : Nat) :
    SeqNr.ofLowBit (b.word off).toNat = b.flagAt off := by
  have hv := value_lt ((b.drop off).take 2)
  have hl : ((b.drop off).take 2).length ≤ 2 := by rw [List.length_take]; omega
  have hp : 256 ^ ((b.drop off).take 2).length ≤ 256 ^ 2 := Nat.pow_le_pow_right (by decide) hl
  unfold word flagAt
  rw [UInt16.toNat_ofNat', Nat.mod_eq_of_lt (by omega), ← Nat.add_zero off, ← List.getElem?_drop,
    Nat.add_zero]
  cases b.drop off with
  | nil => rfl
  | cons x rest =>
    rw [List.take_succ_cons, value, SeqNr.ofLowBit_add_mul]
    rfl

/-- The register shows what was written into it. -/
theorem flagAt_overwrite_word {w : UInt16} (h : off < b.length) :
    (b.overwrite off (littleEndian 2 w.toNat)).flagAt off = SeqNr.ofLowBit w.toNat := by
  unfold flagAt
  rw [getElem?_overwrite, if_pos ⟨Nat.le_refl _, by rw [length_littleEndian]; omega, h⟩,
    Nat.sub_self]
  show SeqNr.ofLowBit (UInt8.ofNat (w.toNat % 256)).toNat = _
  rw [UInt8.toNat_ofNat', show 2 ^ 8 = 256 from rfl, Nat.mod_mod, SeqNr.ofLowBit_mod]

theorem flagAt_replicate (n : Nat) : flagAt (List.replicate n 0) off = .first := by
  unfold flagAt
  rw [List.getElem?_replicate]
  split <;> rfl

end Bytes

theorem LogEntry.flagAt_imprint {seq : SeqNr} {e : LogEntry} {b : Bytes}
    (h : b.length = bufferSize) : (imprint seq e b).flagAt seqOffset = seq := by
  unfold Bytes.flagAt
  rw [show seqOffset = 0 from rfl, getElem?_imprint h]
  exact SeqNr.ofLowBit_toByte seq

namespace Status

theorem flag_zero (register : UInt32) : flag register 0 = .ok (SeqNr.ofLowBit register.toNat) := rfl

/-- Setting the flag of channel zero makes the register show it. -/
theorem ofLowBit_withFlag (register : UInt16) (seq : SeqNr) :
    SeqNr.ofLowBit (withFlag register 0 seq).toNat = seq := by
  unfold SeqNr.ofLowBit withFlag
  cases seq with
  | first => simp [UInt16.toNat_and, SeqNr.ofBit]
  | second => simp [UInt16.toNat_or, SeqNr.ofBit]

end Status

end SlimInterface
