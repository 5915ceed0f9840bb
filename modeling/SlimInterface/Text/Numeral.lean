/-!
# Hexadecimal numerals

Registers, indices and addresses are written in lower-case hexadecimal behind
`0x`, filled with zeros to a fixed count of digits; a longer value keeps all its
digits.
-/

namespace SlimInterface.Numeral

/-- The lower-case hexadecimal digits of `n`, at least `width` of them. -/
def hexDigits (width n : Nat) : List Char :=
  let digits := Nat.toDigits 16 n
  List.replicate (width - digits.length) '0' ++ digits

/-- `n` as `0x` and at least `width` hexadecimal digits. -/
def hex (width n : Nat) : String :=
  "0x" ++ String.ofList (hexDigits width n)

end SlimInterface.Numeral
