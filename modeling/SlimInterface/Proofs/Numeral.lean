import SlimInterface.Text.Numeral
import Mathlib.Data.Nat.Digits.Defs

/-!
# Reading numerals

A numeral is read back by taking digits as long as there are any. `toDigits_append_inj` says
that a decimal numeral with other text behind it determines both; `hexDigits_inj` that hexadecimal
digits determine their number, whatever zeros stand in front.
-/

namespace SlimInterface.Numeral

variable {m n width : Nat} {r s digits : List Char}

/-! ## Decimal -/

/-- The text does not go on with a digit, so that a numeral before it has ended. -/
def Ended (rest : List Char) : Prop := ∀ c ∈ rest.head?, c.isDigit = false

theorem ended_nil : Ended [] := fun _ hc => by cases hc

theorem ended_cons {c : Char} (h : c.isDigit = false) : Ended (c :: r) := by
  intro d hd
  cases hd
  exact h

/-- The digits at the front of a text are the numeral it begins with. -/
theorem takeWhile_isDigit_append (n : Nat) (hr : Ended r) :
    (Nat.toDigits 10 n ++ r).takeWhile Char.isDigit = Nat.toDigits 10 n := by
  rw [List.takeWhile_append_of_pos fun c hc =>
    Nat.isDigit_of_mem_toDigits (by decide) (by decide) hc]
  cases r with
  | nil => exact List.append_nil _
  | cons c r =>
    rw [List.takeWhile_cons_of_neg (Bool.not_eq_true _ ▸ hr c rfl), List.append_nil]

theorem toDigits_append_inj (hr : Ended r) (hs : Ended s)
    (h : Nat.toDigits 10 m ++ r = Nat.toDigits 10 n ++ s) : m = n ∧ r = s := by
  have hdigits : Nat.toDigits 10 m = Nat.toDigits 10 n := by
    rw [← takeWhile_isDigit_append m hr, h, takeWhile_isDigit_append n hs]
  have hnumber : m = n := by
    rw [← Nat.ofDigitChars_ten_toDigits (n := m), hdigits, Nat.ofDigitChars_ten_toDigits]
  rw [hdigits] at h
  exact ⟨hnumber, List.append_cancel_left h⟩

theorem ended_append {c : Char} {front : List Char} (text rest : String)
    (htext : text.toList = c :: front) (hc : c.isDigit = false) : Ended (text ++ rest).toList := by
  rw [String.toList_append, htext]
  exact ended_cons hc

theorem toString_append_inj {a b : String} (ha : Ended a.toList) (hb : Ended b.toList)
    (h : toString m ++ a = toString n ++ b) : m = n ∧ a = b := by
  have hlist := congrArg String.toList h
  rw [String.toList_append, String.toList_append, Nat.toString_eq_ofList_toDigits,
    Nat.toString_eq_ofList_toDigits, String.toList_ofList, String.toList_ofList] at hlist
  obtain ⟨hnumber, hrest⟩ := toDigits_append_inj ha hb hlist
  exact ⟨hnumber, String.toList_inj.mp hrest⟩

/-! ## Hexadecimal -/

/-- The value of a hexadecimal digit. -/
def digitValue (c : Char) : Nat :=
  if c.isDigit then c.toNat - '0'.toNat else c.toNat - 'a'.toNat + 10

/-- The number with the given hexadecimal digits. -/
def ofHexDigits (digits : List Char) : Nat :=
  digits.foldl (fun n c => 16 * n + digitValue c) 0

theorem digitValue_digitChar : ∀ d < 16, digitValue d.digitChar = d := by decide

theorem ofHexDigits_toDigits (n : Nat) : ofHexDigits (Nat.toDigits 16 n) = n := by
  induction n using Nat.strongRecOn with
  | _ n ih =>
    rw [Nat.toDigits_eq_if (by decide)]
    split
    · next hn =>
      show 16 * 0 + digitValue n.digitChar = n
      rw [digitValue_digitChar n hn]
      omega
    · next hn =>
      have hfront : ofHexDigits (Nat.toDigits 16 (n / 16)) = n / 16 := ih _ (by omega)
      unfold ofHexDigits at hfront ⊢
      rw [List.foldl_append, hfront]
      show 16 * (n / 16) + digitValue (n % 16).digitChar = n
      rw [digitValue_digitChar _ (Nat.mod_lt _ (by decide))]
      omega

/-- Zeros in front do not count. -/
theorem ofHexDigits_hexDigits (width n : Nat) : ofHexDigits (hexDigits width n) = n := by
  have hzeros (k : Nat) :
      (List.replicate k '0').foldl (fun n c => 16 * n + digitValue c) 0 = 0 := by
    induction k with
    | zero => rfl
    | succ k ih => exact ih
  unfold hexDigits ofHexDigits
  rw [List.foldl_append, hzeros]
  exact ofHexDigits_toDigits n

theorem hexDigits_inj (h : hexDigits width m = hexDigits width n) : m = n := by
  rw [← ofHexDigits_hexDigits width m, h, ofHexDigits_hexDigits]

theorem hex_inj (h : hex width m = hex width n) : m = n :=
  hexDigits_inj (String.ofList_inj.mp ((String.append_right_inj _).mp h))

theorem length_hexDigits (hwidth : 0 < width) (h : n < 16 ^ width) :
    (hexDigits width n).length = width := by
  have hlen := Nat.toDigits_length 16 n width hwidth h
  unfold hexDigits
  rw [List.length_append, List.length_replicate]
  omega

end SlimInterface.Numeral
