/-!
# Signed decimal numbers

A number is written with the fewest digits, a minus sign in front if it is negative. Reading also
takes a plus sign and leading zeros, but one sign at most and at least one digit, ASCII digits only.
`word?` reads a number that fits a 32-bit register.
-/

namespace TankDuel.Text

/-- Read one or more ASCII digits. -/
def natural? (cs : List Char) : Option Nat :=
  if !cs.isEmpty && cs.all Char.isDigit then some (Nat.ofDigitChars 10 cs 0) else none

/-- Read digits with at most one sign in front. -/
def integer? : List Char → Option Int
  | '-' :: digits => (natural? digits).map fun n => -(n : Int)
  | '+' :: digits => (natural? digits).map fun n => (n : Int)
  | digits => (natural? digits).map fun n => (n : Int)

/-- Whether a number fits a 32-bit register. -/
def fitsWord (n : Int) : Bool := -2147483648 ≤ n && n ≤ 2147483647

/-- Read a number that fits a 32-bit register. -/
def word? (cs : List Char) : Option Int := (integer? cs).filter fitsWord

end TankDuel.Text
