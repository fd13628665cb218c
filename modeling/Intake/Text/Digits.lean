import Intake.Powers

/-! # Decimal and hexadecimal numerals

Numerals are read from a whole list of characters: `natural?` and `integer?` leave nothing over.
`decimal` and `hexadecimal` are the written forms; `padded` fixes a least width.
-/

namespace Intake.Text

/-- ASCII digits only. -/
def isDigit (c : Char) : Bool := '0' ≤ c && c ≤ '9'

def digitValue (c : Char) : Nat := c.toNat - '0'.toNat

/-- The value of a run of decimal digits, read from `start`. -/
def digitsFrom (start : Nat) (digits : List Char) : Nat :=
  digits.foldl (fun value c => value * 10 + digitValue c) start

def natural? (text : List Char) : Option Nat :=
  if text ≠ [] ∧ text.all isDigit then some (digitsFrom 0 text) else none

/-- An optional single sign before a numeral. -/
def integer? : List Char → Option Int
  | '+' :: digits => (natural? digits).map Int.ofNat
  | '-' :: digits => (natural? digits).map fun n => -Int.ofNat n
  | digits => (natural? digits).map Int.ofNat

/-- Numerals of a word of 64 bits admit a plus sign and no minus sign. -/
def word64? : List Char → Option Nat
  | '+' :: digits => (natural? digits).filter (· < 2 ^ 64)
  | digits => (natural? digits).filter (· < 2 ^ 64)

def hexValue? (c : Char) : Option Nat :=
  if isDigit c then some (digitValue c)
  else if 'a' ≤ c && c ≤ 'f' then some (c.toNat - 'a'.toNat + 10)
  else if 'A' ≤ c && c ≤ 'F' then some (c.toNat - 'A'.toNat + 10)
  else none

def hexFrom? (start : Nat) : List Char → Option Nat
  | [] => some start
  | c :: rest => (hexValue? c).bind fun digit => hexFrom? (start * 16 + digit) rest

/-- The decimal digits of `n`, most significant first. -/
def decimal (n : Nat) : List Char := Nat.toDigits 10 n

def hexadecimal (n : Nat) : List Char := Nat.toDigits 16 n

/-- Zeros in front up to `width` characters. -/
def padded (width : Nat) (digits : List Char) : List Char :=
  List.replicate (width - digits.length) '0' ++ digits

def signedDecimal : Int → List Char
  | .ofNat n => decimal n
  | .negSucc n => '-' :: decimal (n + 1)

end Intake.Text
