import SlimInterface.Proofs.Wire

/-!
# Frames in buffers of any length

Writing and reading a frame are each other's inverse, both ways round: what was written is what is
read, and writing what was read changes no byte. Which buffers hold a frame is a matter of four of
their bytes and of their length (`Frame.Framed`), and so is the fault of those that do not
(`Frame.unreadable`).

Two limits meet in the length: a payload has at most 252 bytes, and it ends where the buffer does.
-/

namespace SlimInterface

namespace Bytes

variable {b : Bytes} {off : Nat} {low high : UInt8}

theorem slice?_two (hlow : b[off]? = some low) (hhigh : b[off + 1]? = some high) :
    b.slice? off 2 = some [low, high] := by
  obtain ⟨hlt, rfl⟩ := List.getElem?_eq_some_iff.mp hlow
  obtain ⟨hlt', rfl⟩ := List.getElem?_eq_some_iff.mp hhigh
  unfold slice?
  rw [if_pos (Nat.succ_le_of_lt hlt'), List.drop_eq_getElem_cons hlt,
    List.drop_eq_getElem_cons hlt']
  rfl

/-- The word that two bytes make. -/
theorem wordAt_of_bytes (hlow : b[off]? = some low) (hhigh : b[off + 1]? = some high) :
    ∃ v : UInt16, b.wordAt off = .ok v ∧ v.toNat = low.toNat + 256 * high.toNat := by
  have hl := low.toNat_lt
  have hh := high.toNat_lt
  refine ⟨UInt16.ofNat (low.toNat + 256 * high.toNat), ?_,
    UInt16.toNat_ofNat_of_lt' (show _ < 65536 by omega)⟩
  unfold wordAt
  rw [slice?_two hlow hhigh]
  rfl

theorem bytes_of_wordAt {v : UInt16} (h : b.wordAt off = .ok v) :
    ∃ low high : UInt8, b[off]? = some low ∧ b[off + 1]? = some high ∧
      v.toNat = low.toNat + 256 * high.toNat := by
  have hle := (length_of_slice? (wordAt_eq_ok.mp h)).2
  have hlow : b[off]? = some b[off] := List.getElem?_eq_getElem (by omega)
  have hhigh : b[off + 1]? = some b[off + 1] := List.getElem?_eq_getElem (by omega)
  obtain ⟨w, hw, hvalue⟩ := wordAt_of_bytes hlow hhigh
  rw [h] at hw
  cases hw
  exact ⟨_, _, hlow, hhigh, hvalue⟩

end Bytes

namespace Frame

/-- A buffer that holds a frame: its first byte is a sequence number, and the length in bytes 2
and 3 is one that a payload may have and that the buffer has room for. -/
structure Framed (b : Bytes) : Prop where
  seq : ∃ x, b[0]? = some x ∧ x.toNat ≤ 1
  length : ∃ low high : UInt8, b[2]? = some low ∧ b[3]? = some high ∧
    low.toNat + 256 * high.toNat ≤ 252 ∧ 4 + (low.toNat + 256 * high.toNat) ≤ b.length

/-- Why a buffer is not read. A first byte that is no sequence number comes before everything
else. -/
def unreadable (b : Bytes) : Fault :=
  match b[0]? with
  | some x => if 1 < x.toNat then .invalidSeqNr x else .outOfBounds
  | none => .outOfBounds

variable {b : Bytes} {f : Frame} {e : Fault}

theorem Framed.read (h : Framed b) : ∃ f, read b = .ok f := by
  obtain ⟨x, hx, hle⟩ := h.seq
  obtain ⟨low, high, hlow, hhigh, hmax, hroom⟩ := h.length
  obtain ⟨seq, hseq⟩ := SeqNr.ofByte_of_le hle
  obtain ⟨length, hlength, hvalue⟩ := Bytes.wordAt_of_bytes hlow hhigh
  refine ⟨⟨seq, (b.drop 4).take length.toNat⟩, read_eq_ok.mpr ⟨?_, length, hlength, ?_, ?_⟩⟩
  · rw [Bytes.byteAt_eq_ok, SeqNr.toByte_of_ofByte hseq]
    exact hx
  · rw [hvalue]
    exact hmax
  · unfold Bytes.slice?
    rw [if_pos (by rw [hvalue]; exact hroom)]
    rfl

theorem framed_of_read (h : read b = .ok f) : Framed b := by
  obtain ⟨hseq, length, hlength, hmax, hslice⟩ := read_eq_ok.mp h
  obtain ⟨low, high, hlow, hhigh, hvalue⟩ := Bytes.bytes_of_wordAt hlength
  refine ⟨⟨_, Bytes.byteAt_eq_ok.mp hseq, f.seq.toNat_toByte_le⟩, low, high, hlow, hhigh, ?_, ?_⟩
  · rw [← hvalue]
    exact hmax
  · rw [← hvalue]
    exact (Bytes.length_of_slice? hslice).2

theorem eq_unreadable_of_read (h : read b = .error e) : e = unreadable b := by
  unfold read at h
  rcases Bytes.bind_eq_error.mp h with hbyte | ⟨x, hbyte, h⟩
  -- the buffer is empty
  · unfold unreadable
    cases hx : b[0]? with
    | none => exact Bytes.byteAt_eq_error hbyte
    | some x =>
      have hok : b.byteAt seqOffset = .ok x := Bytes.byteAt_eq_ok.mpr hx
      rw [hok] at hbyte
      cases hbyte
  · have hx : b[0]? = some x := Bytes.byteAt_eq_ok.mp hbyte
    rw [unreadable, hx]
    dsimp only
    rcases Bytes.bind_eq_error.mp h with hseq | ⟨seq, hseq, h⟩
    -- the first byte is no sequence number
    · have hone := SeqNr.one_lt_of_ofByte hseq
      rw [SeqNr.ofByte_of_lt hone] at hseq
      rw [if_pos hone]
      exact (Except.error.inj hseq).symm
    -- the length is missing, too large, or too large for the buffer
    · have hone : ¬ 1 < x.toNat := by
        rw [← SeqNr.toByte_of_ofByte hseq]
        exact Nat.not_lt.mpr seq.toNat_toByte_le
      rw [if_neg hone]
      rcases Bytes.bind_eq_error.mp h with hlength | ⟨length, -, h⟩
      · exact Bytes.wordAt_eq_error hlength
      · split at h
        · exact (Except.error.inj h).symm
        · split at h
          · cases h
          · exact (Except.error.inj h).symm

/-- What writing a frame into a buffer does, what reading the result gives, and which buffers
read as a frame at all: for all buffers, of whatever length. -/
theorem codec_outcome (b : Bytes) (f : Frame) :
    (if f.payload.length ≤ 252 ∧ 4 + f.payload.length ≤ b.length then
      ∃ b', f.write.eval b = (.ok (), b') ∧ read b' = .ok f ∧ b'.length = b.length ∧
        ∀ i, i = 1 ∨ 4 + f.payload.length ≤ i → b'[i]? = b[i]?
    else f.write.eval b = (.error .outOfBounds, b)) ∧
    (match read b with
    | .ok g => Framed b ∧ g.write.eval b = (.ok (), b)
    | .error e => ¬ Framed b ∧ e = unreadable b) := by
  constructor
  · split
    · next h =>
      exact ⟨imprint f b, eval_write_of_le h.1 h.2, read_imprint_of_le h.1 h.2, length_imprint,
        fun i hi => getElem?_imprint hi⟩
    · next h => exact eval_write_of_not h
  · cases hread : read b with
    | ok g =>
      have hroom : g.payload.length ≤ 252 ∧ 4 + g.payload.length ≤ b.length := by
        obtain ⟨-, length, -, hmax, hslice⟩ := read_eq_ok.mp hread
        obtain ⟨hlen, hle⟩ := Bytes.length_of_slice? hslice
        rw [hlen]
        exact ⟨hmax, hle⟩
      refine ⟨framed_of_read hread, ?_⟩
      rw [eval_write_of_le hroom.1 hroom.2, imprint_of_read hread]
    | error e =>
      refine ⟨fun h => ?_, eq_unreadable_of_read hread⟩
      obtain ⟨g, hg⟩ := h.read
      rw [hread] at hg
      cases hg

end Frame

end SlimInterface
