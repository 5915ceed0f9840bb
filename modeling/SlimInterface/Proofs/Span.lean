import Mathlib.Algebra.Group.Nat.Defs
import SlimInterface.Cycle.Layout

/-!
# Spans of an image

A span is read and placed; everything the stream and the link do to an image is made of
these two. This module says how they go together: what was placed is what is read
(`read_place`), a span that lies apart is not touched (`read_place_of_apart`), and a span
inside a larger one moves with it (`read_place_of_within`, `read_shift_read`).

All of it comes from one fact about single bytes, `getElem?_overwrite`.
-/

namespace SlimInterface

namespace Bytes

/-- Writing replaces the bytes it covers and no other. -/
theorem getElem?_overwrite (b : Bytes) (off : Nat) (d : Bytes) (i : Nat) :
    (b.overwrite off d)[i]? =
      if off ≤ i ∧ i < off + d.length ∧ i < b.length then d[i - off]? else b[i]? := by
  unfold overwrite
  rcases Nat.lt_or_ge i b.length with hib | hib
  · rcases Nat.lt_or_ge i off with hio | hio
    -- before the bytes that are written
    · rw [if_neg (by omega), List.append_assoc, List.getElem?_append_left
        (by rw [List.length_take]; omega), List.getElem?_take_of_lt hio]
    · have hto : (b.take off).length = off := by rw [List.length_take]; omega
      -- among them, or behind them
      rcases Nat.lt_or_ge i (off + d.length) with hid | hid
      · rw [if_pos ⟨hio, hid, hib⟩, List.append_assoc, List.getElem?_append_right (by omega), hto,
          List.getElem?_append_left (by rw [List.length_take]; omega),
          List.getElem?_take_of_lt (by omega)]
      · have htd : (b.take off ++ d.take (b.length - off)).length = off + d.length := by
          rw [List.length_append, hto, List.length_take]; omega
        rw [if_neg (by omega), List.getElem?_append_right (by omega), htd, List.getElem?_drop]
        congr 1
        omega
  · have hl := length_overwrite b off d
    unfold overwrite at hl
    rw [if_neg (by omega), List.getElem?_eq_none (by omega), List.getElem?_eq_none hib]

/-- Two writes, the second one where the first one ended. -/
theorem overwrite_overwrite {b d e : Bytes} {off : Nat}
    (h : off + d.length + e.length ≤ b.length) :
    (b.overwrite off d).overwrite (off + d.length) e = b.overwrite off (d ++ e) := by
  apply List.ext_getElem?
  intro i
  rw [getElem?_overwrite, getElem?_overwrite, getElem?_overwrite, length_overwrite,
    List.length_append]
  by_cases hd : off + d.length ≤ i
  · by_cases he : i < off + d.length + e.length
    · rw [if_pos (by omega), if_pos (by omega), List.getElem?_append_right (by omega)]
      congr 1
      omega
    · rw [if_neg (by omega), if_neg (by omega), if_neg (by omega)]
  · by_cases ho : off ≤ i
    · rw [if_neg (by omega), if_pos (by omega), if_pos (by omega),
        List.getElem?_append_left (by omega)]
    · rw [if_neg (by omega), if_neg (by omega), if_neg (by omega)]

/-- A write at the start. -/
theorem overwrite_zero {b d : Bytes} (h : d.length ≤ b.length) :
    b.overwrite 0 d = d ++ b.drop d.length := by
  unfold overwrite
  rw [List.take_zero, List.nil_append, Nat.sub_zero, List.take_of_length_le h, Nat.zero_add]

/-- Writing one byte. -/
theorem set_eq_overwrite (b : Bytes) (off : Nat) (v : UInt8) :
    b.set off v = b.overwrite off [v] := by
  apply List.ext_getElem?
  intro i
  rw [getElem?_overwrite, List.getElem?_set, List.length_singleton]
  by_cases hi : off = i
  · subst hi
    by_cases hlt : off < b.length
    · rw [if_pos rfl, if_pos hlt, if_pos (by omega), Nat.sub_self]
      rfl
    · rw [if_pos rfl, if_neg hlt, if_neg (by omega), List.getElem?_eq_none (by omega)]
  · rw [if_neg hi, if_neg (by omega)]

/-! ## Little-endian numbers -/

theorem value_lt (b : Bytes) : value b < 256 ^ b.length := by
  induction b with
  | nil => simp [value]
  | cons x rest ih =>
    have hx := x.toNat_lt
    rw [value, List.length_cons, Nat.pow_succ]
    omega

theorem value_littleEndian (width n : Nat) : value (littleEndian width n) = n % 256 ^ width := by
  induction width generalizing n with
  | zero => simp [littleEndian, value, Nat.mod_one]
  | succ width ih =>
    have hp : 256 ^ (width + 1) = 256 * 256 ^ width := by rw [Nat.pow_succ, Nat.mul_comm]
    rw [littleEndian, value, ih, UInt8.toNat_ofNat', hp, Nat.mod_mul]
    omega

/-- A run of bytes is the little-endian form of one number of that width. -/
theorem eq_littleEndian_iff {b : Bytes} {width n : Nat} (hb : b.length = width)
    (hn : n < 256 ^ width) : b = littleEndian width n ↔ value b = n := by
  constructor
  · intro h
    rw [h, value_littleEndian, Nat.mod_eq_of_lt hn]
  · intro h
    rw [← h, ← hb, littleEndian_value]

/-- The bits of a number are those of its bytes. -/
theorem testBit_value (b : Bytes) (k : Nat) :
    (value b).testBit k = (b[k / 8]?.getD 0).toNat.testBit (k % 8) := by
  induction b generalizing k with
  | nil => exact (Nat.zero_testBit _).trans (Nat.zero_testBit _).symm
  | cons x b ih =>
    have hvalue : value (x :: b) = 2 ^ 8 * value b + x.toNat := Nat.add_comm _ _
    rw [hvalue, Nat.testBit_two_pow_mul_add _ x.toNat_lt]
    by_cases hk : k < 8
    · rw [if_pos hk, Nat.div_eq_of_lt hk, Nat.mod_eq_of_lt hk]
      rfl
    · rw [if_neg hk, ih, show k / 8 = (k - 8) / 8 + 1 by omega, List.getElem?_cons_succ,
        show (k - 8) % 8 = k % 8 by omega]

/-- Only so many of the lower bytes of a number are written. -/
theorem littleEndian_congr {width m n : Nat} (h : m % 256 ^ width = n % 256 ^ width) :
    littleEndian width m = littleEndian width n := by
  have hm := littleEndian_value (littleEndian width m)
  have hn := littleEndian_value (littleEndian width n)
  rw [length_littleEndian, value_littleEndian] at hm hn
  rw [← hm, ← hn, h]

theorem littleEndian_add (m k n : Nat) :
    littleEndian (m + k) n = littleEndian m n ++ littleEndian k (n / 256 ^ m) := by
  induction m generalizing n with
  | zero => rw [Nat.zero_add, Nat.pow_zero, Nat.div_one]; rfl
  | succ m ih =>
    have hpow : 256 ^ (m + 1) = 256 * 256 ^ m := Nat.pow_succ'
    rw [Nat.add_right_comm, littleEndian, ih, littleEndian, List.cons_append, hpow,
      Nat.div_div_eq_div_mul]

theorem littleEndian_byte (v : UInt8) : littleEndian 1 v.toNat = [v] := by
  rw [littleEndian, littleEndian, Nat.mod_eq_of_lt v.toNat_lt, UInt8.ofNat_toNat]

end Bytes

namespace Span

/-- The span ends before the image does. -/
def Fits (s : Span) (image : Bytes) : Prop := s.start + s.size ≤ image.length

/-- No byte belongs to both spans. -/
def Apart (s t : Span) : Prop := s.start + s.size ≤ t.start ∨ t.start + t.size ≤ s.start

/-- Every byte of `s` belongs to `t`. -/
def Within (s t : Span) : Prop := t.start ≤ s.start ∧ s.start + s.size ≤ t.start + t.size

/-- The byte at `i` belongs to the span. -/
def Covers (s : Span) (i : Nat) : Prop := s.start ≤ i ∧ i < s.start + s.size

/-- The span as seen from `base` on. -/
def shift (s : Span) (base : Nat) : Span := ⟨s.start - base, s.size⟩

theorem getElem?_read (s : Span) (image : Bytes) (i : Nat) :
    (s.read image)[i]? = if i < s.size then image[s.start + i]? else none := by
  unfold read
  rw [List.getElem?_take, List.getElem?_drop]

theorem length_read {s : Span} {image : Bytes} (h : s.Fits image) :
    (s.read image).length = s.size := by
  unfold Fits at h
  unfold read
  rw [List.length_take, List.length_drop]
  omega

theorem read_replicate {s : Span} {n : Nat} {v : UInt8} (h : s.Fits (List.replicate n v)) :
    s.read (List.replicate n v) = List.replicate s.size v := by
  unfold Fits at h
  rw [List.length_replicate] at h
  unfold read
  rw [List.drop_replicate, List.take_replicate]
  congr 1
  omega

theorem getElem?_place {s : Span} {bytes image : Bytes} (hb : bytes.length = s.size)
    (h : s.Fits image) (i : Nat) :
    (s.place bytes image)[i]? =
      if s.start ≤ i ∧ i < s.start + s.size then bytes[i - s.start]? else image[i]? := by
  unfold Fits at h
  unfold place
  rw [List.take_of_length_le (by omega), Bytes.getElem?_overwrite, hb]
  by_cases hi : s.start ≤ i ∧ i < s.start + s.size
  · rw [if_pos ⟨hi.1, hi.2, by omega⟩, if_pos hi]
  · rw [if_neg (fun hc => hi ⟨hc.1, hc.2.1⟩), if_neg hi]

/-- Placing touches no byte outside the span. -/
theorem getElem?_place_of_not_covers {s : Span} {bytes image : Bytes} {i : Nat}
    (h : ¬ s.Covers i) : (s.place bytes image)[i]? = image[i]? := by
  unfold Covers at h
  have hl : (bytes.take s.size).length ≤ s.size := by
    rw [List.length_take]
    exact Nat.min_le_left _ _
  unfold place
  rw [Bytes.getElem?_overwrite, if_neg (by omega)]

/-- What is as long as the bytes it replaces is read back, also from a span that reaches past
the end of the image. -/
theorem read_place_of_length {s : Span} {bytes image : Bytes}
    (hb : bytes.length = (s.read image).length) : s.read (s.place bytes image) = bytes := by
  have hlen : (s.read image).length = min s.size (image.length - s.start) := by
    unfold read
    rw [List.length_take, List.length_drop]
  apply List.ext_getElem?
  intro i
  rw [getElem?_read, place, List.take_of_length_le (by omega), Bytes.getElem?_overwrite]
  rcases Nat.lt_or_ge i bytes.length with hi | hi
  · rw [if_pos (by omega), if_pos (by omega), Nat.add_sub_cancel_left]
  · rw [List.getElem?_eq_none hi]
    by_cases hs : i < s.size
    · rw [if_pos hs, if_neg (by omega), List.getElem?_eq_none (by omega)]
    · rw [if_neg hs]

theorem read_place {s : Span} {bytes image : Bytes} (hb : bytes.length = s.size)
    (h : s.Fits image) : s.read (s.place bytes image) = bytes :=
  read_place_of_length (hb.trans (length_read h).symm)

/-- Placing what was read changes nothing. -/
theorem place_read (s : Span) (image : Bytes) : s.place (s.read image) image = image := by
  have hlen : (s.read image).length = min s.size (image.length - s.start) := by
    unfold read
    rw [List.length_take, List.length_drop]
  apply List.ext_getElem?
  intro i
  rw [place, List.take_of_length_le (by omega), Bytes.getElem?_overwrite, getElem?_read]
  by_cases hi : s.start ≤ i ∧ i < s.start + (s.read image).length ∧ i < image.length
  · rw [if_pos hi, if_pos (by omega)]
    congr 1
    omega
  · rw [if_neg hi]

theorem read_place_of_apart {s t : Span} {bytes image : Bytes} (h : s.Apart t) :
    s.read (t.place bytes image) = s.read image := by
  unfold Apart at h
  apply List.ext_getElem?
  intro i
  rw [getElem?_read, getElem?_read]
  by_cases hi : i < s.size
  · have hl : (bytes.take t.size).length ≤ t.size := by rw [List.length_take]; omega
    rw [if_pos hi, if_pos hi, place, Bytes.getElem?_overwrite, if_neg (by omega)]
  · rw [if_neg hi, if_neg hi]

/-- Bytes written within a span show in the span as they were written. -/
theorem read_overwrite {s : Span} {image d : Bytes} {off : Nat} (h : off + d.length ≤ s.size)
    (hf : s.Fits image) :
    s.read (image.overwrite (s.start + off) d) = (s.read image).overwrite off d := by
  have hlen := length_read hf
  unfold Fits at hf
  apply List.ext_getElem?
  intro i
  rw [getElem?_read, Bytes.getElem?_overwrite, Bytes.getElem?_overwrite, getElem?_read, hlen]
  by_cases hi : off ≤ i ∧ i < off + d.length
  · rw [if_pos (by omega), if_pos (by omega), if_pos (by omega)]
    congr 1
    omega
  · rw [if_neg (by omega : ¬ (off ≤ i ∧ i < off + d.length ∧ i < s.size))]
    by_cases hs : i < s.size
    · rw [if_pos hs, if_pos hs, if_neg (by omega)]
    · rw [if_neg hs, if_neg hs]

/-- And in no span that lies apart. -/
theorem read_overwrite_of_apart {s t : Span} {image d : Bytes} {off : Nat} (h : s.Apart t)
    (ht : off + d.length ≤ t.size) : s.read (image.overwrite (t.start + off) d) = s.read image := by
  unfold Apart at h
  apply List.ext_getElem?
  intro i
  rw [getElem?_read, getElem?_read, Bytes.getElem?_overwrite]
  by_cases hi : i < s.size
  · rw [if_pos hi, if_pos hi, if_neg (by omega)]
  · rw [if_neg hi, if_neg hi]

/-- Spans that lie apart do so wherever they are seen from. -/
theorem Apart.shift {s t : Span} {base : Nat} (h : s.Apart t) (hs : base ≤ s.start)
    (ht : base ≤ t.start) : (s.shift base).Apart (t.shift base) := by
  unfold Apart at h ⊢
  unfold Span.shift
  dsimp only
  omega

theorem read_place_of_within {s t : Span} {bytes image : Bytes} (h : s.Within t)
    (hb : bytes.length = t.size) (hf : t.Fits image) :
    s.read (t.place bytes image) = (s.shift t.start).read bytes := by
  obtain ⟨hstart, hend⟩ := h
  apply List.ext_getElem?
  intro i
  rw [getElem?_read, getElem?_read, getElem?_place hb hf, shift]
  dsimp only
  by_cases hi : i < s.size
  · rw [if_pos hi, if_pos hi, if_pos ⟨by omega, by omega⟩]
    congr 1
    omega
  · rw [if_neg hi, if_neg hi]

theorem read_shift_read {s t : Span} {image : Bytes} (h : s.Within t) :
    (s.shift t.start).read (t.read image) = s.read image := by
  obtain ⟨hstart, hend⟩ := h
  apply List.ext_getElem?
  intro i
  rw [getElem?_read, getElem?_read, getElem?_read, shift]
  dsimp only
  by_cases hi : i < s.size
  · rw [if_pos hi, if_pos hi, if_pos (by omega)]
    congr 1
    omega
  · rw [if_neg hi, if_neg hi]

end Span

end SlimInterface
