/-! Hexadecimal numerals: lower-case digits after `0x`, with an optional least number of digits. -/

namespace InterruptCaps.Text

/-- The hexadecimal digits of `n`, most significant first; zero has one digit. -/
def hexDigits (n : Nat) : List Char := Nat.toDigits 16 n

/-- `n` as `0x…` with no leading zeros. -/
def hex (n : Nat) : String := "0x" ++ String.ofList (hexDigits n)

/-- `n` as `0x…` with at least `width` digits, filled up with zeros on the left. -/
def hexWide (width n : Nat) : String :=
  let digits := hexDigits n
  "0x" ++ String.ofList (List.replicate (width - digits.length) '0' ++ digits)

/-- `n` in decimal, filled up with blanks on the left to at least `width` characters. -/
def decimalWide (width n : Nat) : String :=
  let digits := Nat.toDigits 10 n
  String.ofList (List.replicate (width - digits.length) ' ' ++ digits)

end InterruptCaps.Text
