/-!
# Numerals in messages

Messages show numbers in two ways: in plain decimal, and in upper-case
hexadecimal with a fixed number of digits.  A hexadecimal numeral is built
digit by digit from the right, so that a number below `16 ^ width` is shown in
full.
-/

namespace ScsiInitiator

/-- A number in decimal, without leading zeros. -/
def decimal (n : Nat) : String := n.repr

/-- An integer in decimal, with a minus sign if it is negative. -/
def decimalInt (i : Int) : String := i.repr

/-- The hexadecimal digit of a number below sixteen, in upper case. -/
def hexDigit (n : Nat) : Char := Char.ofNat (if n < 10 then 48 + n else 55 + n)

/-- The last `width` hexadecimal digits of a number, most significant first. -/
def hexDigits : (width n : Nat) → List Char
  | 0, _ => []
  | width + 1, n => hexDigits width (n / 16) ++ [hexDigit (n % 16)]

/-- A number in hexadecimal, padded with zeros to `width` digits. -/
def hexadecimal (width n : Nat) : String := String.ofList (hexDigits width n)

@[simp] theorem length_hexDigits (width n : Nat) : (hexDigits width n).length = width := by
  induction width generalizing n with
  | zero => rfl
  | succ width ih => simp [hexDigits, ih]

/-- Small numbers are padded. -/
example : hexDigits 4 0xBEE = ['0', 'B', 'E', 'E'] := by decide

end ScsiInitiator
