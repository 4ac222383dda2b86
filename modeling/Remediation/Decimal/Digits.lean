/-!
# Decimal digits of integers

Integers in decimal.  Texts of more than `digitLimit` digits are neither written nor read, because
the time for that grows with the square of their length.
-/

set_option autoImplicit false

namespace Remediation.Decimal

/-- The most digits that an integer may have to be written or read. -/
def digitLimit : Nat := 4300

/-- The least number that is too long to be written. -/
def digitBound : Nat := Nat.pow 10 digitLimit

/-- Whether an integer is short enough to be written in decimal. -/
def isWritable (n : Int) : Bool := n.natAbs < digitBound

/-- The decimal digits of a natural number. -/
def natDigits (n : Nat) : List Char := Nat.toDigits 10 n

/-- An integer in decimal. -/
def intDigits : Int → List Char
  | .ofNat n => natDigits n
  | .negSucc n => '-' :: natDigits (n + 1)

/-- An integer in decimal. -/
def intText (n : Int) : String := String.ofList (intDigits n)

/-- The number that ASCII digits spell. -/
def natOfDigits (digits : List Char) : Nat := Nat.ofDigitChars 10 digits 0

theorem natOfDigits_natDigits (n : Nat) : natOfDigits (natDigits n) = n := by
  simp [natOfDigits, natDigits]

/-- The integer that an optional sign and ASCII digits spell. -/
def intOfDigits : List Char → Int
  | '-' :: digits => -(natOfDigits digits : Int)
  | '+' :: digits => natOfDigits digits
  | digits => natOfDigits digits

end Remediation.Decimal
