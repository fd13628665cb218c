import Intake.Json
import Intake.Text.Digits
import Intake.Text.Utf8

/-! # Targets of requests

A target has a path and perhaps a query. Escapes of a percent sign and two digits stand for bytes;
what only looks like an escape stands for itself.
-/

namespace Intake.Http.Target

/-- The bytes of a text with its escapes resolved. -/
def bytes (text : List Char) : List Nat :=
  match text with
  | [] => []
  | '%' :: a :: b :: rest =>
    match Text.hexValue? a, Text.hexValue? b with
    | some x, some y => (16 * x + y) :: bytes rest
    | _, _ => 0x25 :: bytes (a :: b :: rest)
  | c :: rest => Text.Utf8.encode c ++ bytes rest
termination_by text.length

/-- A part of a path with its escapes resolved, if that makes a text. -/
def decode? (part : String) : Option String :=
  (Text.Utf8.decode? (bytes part.toList)).map String.ofList

/-- A name or value of a form: a plus sign is a blank. -/
def formText (text : List Char) : String :=
  String.ofList (Text.Utf8.decodeLossy (bytes (text.map fun c => if c = '+' then ' ' else c)))

/-- The parameters of a query; of repeated names the last counts. -/
def params (query : List Char) : List (String × String) :=
  (query.splitOn '&').foldl (fun done part =>
    if part = [] then done
    else
      put done (formText (part.takeWhile (· ≠ '=')))
        (formText ((part.dropWhile (· ≠ '=')).drop 1)))
    []

/-- What stands before the fragment. -/
def trimmed (target : String) : List Char := target.toList.takeWhile (· ≠ '#')

/-- The parts of the path behind its first slash. -/
def segments (target : String) : List String :=
  let path := (trimmed target).takeWhile (· ≠ '?')
  ((path.splitOn '/').drop 1).map String.ofList

def query (target : String) : List (String × String) :=
  params (((trimmed target).dropWhile (· ≠ '?')).drop 1)

end Intake.Http.Target
