import Intake.Text.Utf8

/-! # Payloads

The body of a request is bytes, which a reader of JSON takes for a text. Bytes that make no
character fit no token and no escape, but between quotes they may be skipped, as half of a surrogate
pair may. So they are spelled as a letter that begins neither, and such a half.
-/

namespace Intake.Http

structure Payload where
  bytes : List UInt8
deriving DecidableEq

namespace Payload

/-- The bytes of longer payloads are not taken in. -/
def greatestLength : Nat := 2097152

def ofText (s : String) : Payload := ⟨(s.toList.flatMap Text.Utf8.encode).map UInt8.ofNat⟩

instance : Coe String Payload := ⟨ofText⟩

def spelled : Option Char → List Char
  | some c => [c]
  | none => ['x', '\\', 'u', 'D', 'C', '0', '0']

/-- The text that a reader of JSON takes a payload for. -/
def text (p : Payload) : String :=
  String.ofList ((Text.Utf8.chars (p.bytes.map UInt8.toNat)).flatMap spelled)

end Payload

end Intake.Http
