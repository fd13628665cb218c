import Intake.Text.Digits

/-! # Addresses to listen at

A server listens at a numeric address: four parts between points, or eight groups between colons
in brackets, where one gap of two colons stands for the groups that are left out. Names are not
looked up.
-/

namespace Intake.Http.Address
open Text

/-- A number below 256 without zeros in front. -/
def isOctet (part : List Char) : Bool :=
  part ≠ [] && part.length ≤ 3 && part.all isDigit && digitsFrom 0 part < 256 &&
    (part.head? ≠ some '0' || part.length = 1)

def isDotted (text : List Char) : Bool :=
  let parts := text.splitOn '.'
  parts.length = 4 && parts.all isOctet

/-- One to four hexadecimal digits. -/
def isGroup (part : List Char) : Bool :=
  part ≠ [] && part.length ≤ 4 && part.all fun c => (hexValue? c).isSome

/-- How many groups the parts make; a dotted part counts twice and can only be the last. -/
def groups? (dotted : Bool) : List (List Char) → Option Nat
  | [] => some 0
  | [part] =>
    if isGroup part then some 1 else if dotted && isDotted part then some 2 else none
  | part :: rest => if isGroup part then (groups? dotted rest).map (· + 1) else none

/-- The groups of a text between colons. The empty text has none. -/
def groupsIn? (dotted : Bool) (text : List Char) : Option Nat :=
  if text = [] then some 0 else groups? dotted (text.splitOn ':')

/-- What stands before the first gap, and what stands behind it if there is one. -/
def cutAtGap : List Char → List Char × Option (List Char)
  | ':' :: ':' :: rest => ([], some rest)
  | [] => ([], none)
  | c :: rest => (c :: (cutAtGap rest).1, (cutAtGap rest).2)

/-- A gap stands for one group at least. -/
def isGrouped (text : List Char) : Bool :=
  match cutAtGap text with
  | (whole, none) => groupsIn? true whole = some 8
  | (front, some back) =>
    match groupsIn? false front, groupsIn? true back with
    | some m, some n => m + n ≤ 7
    | _, _ => false

/-- A zone is a number of 32 bits behind a percent sign. -/
def isZone : List Char → Bool
  | [] => true
  | '%' :: digits => (natural? digits).any (· < 2 ^ 32)
  | _ => false

def isBracketed : List Char → Bool
  | '[' :: rest =>
    let inside := rest.dropLast
    rest.getLast? = some ']' && isGrouped (inside.takeWhile (· ≠ '%')) &&
      isZone (inside.dropWhile (· ≠ '%'))
  | _ => false

/-- Whether a server can listen at this host. -/
def isNumeric (host : String) : Bool := isDotted host.toList || isBracketed host.toList

end Intake.Http.Address
