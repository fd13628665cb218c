/-! # Bytes of texts

`next` reads one character from bytes, or passes over the longest part of one that begins there;
`decode?` refuses such parts and `decodeLossy` puts a replacement character for each.
-/

namespace Intake.Text.Utf8

/-- The bytes of a character. -/
def encode (c : Char) : List Nat :=
  let n := c.toNat
  if n < 0x80 then [n]
  else if n < 0x800 then [0xC0 + n / 64, 0x80 + n % 64]
  else if n < 0x10000 then [0xE0 + n / 4096, 0x80 + n / 64 % 64, 0x80 + n % 64]
  else [0xF0 + n / 262144, 0x80 + n / 4096 % 64, 0x80 + n / 64 % 64, 0x80 + n % 64]

/-- How many bytes follow a leading byte, the bounds of the first of them, and the value so far. -/
def lead? (b : Nat) : Option (Nat × Nat × Nat × Nat) :=
  if b < 0x80 then some (0, 0, 0, b)
  else if 0xC2 ≤ b && b ≤ 0xDF then some (1, 0x80, 0xBF, b - 0xC0)
  else if b == 0xE0 then some (2, 0xA0, 0xBF, 0)
  else if b == 0xED then some (2, 0x80, 0x9F, 0xD)
  else if 0xE1 ≤ b && b ≤ 0xEF then some (2, 0x80, 0xBF, b - 0xE0)
  else if b == 0xF0 then some (3, 0x90, 0xBF, 0)
  else if 0xF1 ≤ b && b ≤ 0xF3 then some (3, 0x80, 0xBF, b - 0xF0)
  else if b == 0xF4 then some (3, 0x80, 0x8F, 4)
  else none

/-- Reads the bytes that follow, the first of them between bounds of its own. -/
def follow (low high value : Nat) : Nat → List Nat → Option Char × List Nat
  | 0, bytes => (some (Char.ofNat value), bytes)
  | _ + 1, [] => (none, [])
  | count + 1, b :: rest =>
    if low ≤ b && b ≤ high then follow 0x80 0xBF (value * 64 + (b - 0x80)) count rest
    else (none, b :: rest)

/-- Reads one character behind its leading byte. -/
def next (b : Nat) (rest : List Nat) : Option Char × List Nat :=
  match lead? b with
  | none => (none, rest)
  | some (count, low, high, value) => follow low high value count rest

theorem follow_length (low high value count : Nat) (bytes : List Nat) :
    (follow low high value count bytes).2.length ≤ bytes.length := by
  induction bytes generalizing low high value count with
  | nil => cases count <;> simp [follow]
  | cons b rest ih =>
    cases count with
    | zero => simp [follow]
    | succ count =>
      simp only [follow]
      split
      · exact Nat.le_succ_of_le (ih ..)
      · simp

theorem next_length (b : Nat) (rest : List Nat) : (next b rest).2.length ≤ rest.length := by
  unfold next
  split
  · simp
  · exact follow_length ..

/-- Reads characters onto those that have been read, which are in reverse. -/
def charsOnto (reversed : List (Option Char)) (bytes : List Nat) : List (Option Char) :=
  match bytes with
  | [] => reversed.reverse
  | b :: rest =>
    have := next_length b rest
    charsOnto ((next b rest).1 :: reversed) (next b rest).2
termination_by bytes.length
decreasing_by
  simp only [List.length_cons]
  omega

/-- The characters in bytes, with nothing for each part that makes none. -/
def chars (bytes : List Nat) : List (Option Char) := charsOnto [] bytes

def decode? (bytes : List Nat) : Option (List Char) := (chars bytes).mapM id

def decodeLossy (bytes : List Nat) : List Char := (chars bytes).map fun c => c.getD '\uFFFD'

end Intake.Text.Utf8
