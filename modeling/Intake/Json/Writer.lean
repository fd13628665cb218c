import Intake.Json
import Intake.Double.Text

/-! # Writing documents

`text` is the compact form and `indentedText` the form of record files, with two spaces for each
level and one member or item on a line. What is no finite number is written as `null`.
-/

namespace Intake.Json
open Text

def escapedChar (c : Char) : List Char :=
  if c = '"' then ['\\', '"']
  else if c = '\\' then ['\\', '\\']
  else if c = '\x08' then ['\\', 'b']
  else if c = '\x0c' then ['\\', 'f']
  else if c = '\n' then ['\\', 'n']
  else if c = '\r' then ['\\', 'r']
  else if c = '\t' then ['\\', 't']
  else if c.toNat < 0x20 then '\\' :: 'u' :: padded 4 (hexadecimal c.toNat)
  else [c]

def quoted (s : String) : List Char := '"' :: s.toList.flatMap escapedChar ++ ['"']

def doubleText (x : Double) : List Char :=
  if x.isFinite then x.text .document else "null".toList

/-- The text of what holds no other value. -/
def scalarText : Json → List Char
  | null => "null".toList
  | bool true => "true".toList
  | bool false => "false".toList
  | int n => signedDecimal n
  | float x => doubleText x
  | str s => quoted s
  | arr _ | obj _ => []

mutual

def text : Json → List Char
  | arr items => '[' :: itemsText items ++ [']']
  | obj members => '{' :: membersText members ++ ['}']
  | scalar => scalarText scalar

def itemsText : List Json → List Char
  | [] => []
  | [item] => text item
  | item :: rest => text item ++ ',' :: itemsText rest

def membersText : List (String × Json) → List Char
  | [] => []
  | [(key, value)] => quoted key ++ ':' :: text value
  | (key, value) :: rest => quoted key ++ ':' :: text value ++ ',' :: membersText rest

end

def newLine (depth : Nat) : List Char := '\n' :: List.replicate (2 * depth) ' '

mutual

def indented (depth : Nat) : Json → List Char
  | arr [] => ['[', ']']
  | obj [] => ['{', '}']
  | arr items => '[' :: indentedItems (depth + 1) items ++ newLine depth ++ [']']
  | obj members => '{' :: indentedMembers (depth + 1) members ++ newLine depth ++ ['}']
  | scalar => scalarText scalar

def indentedItems (depth : Nat) : List Json → List Char
  | [] => []
  | [item] => newLine depth ++ indented depth item
  | item :: rest => newLine depth ++ indented depth item ++ ',' :: indentedItems depth rest

def indentedMembers (depth : Nat) : List (String × Json) → List Char
  | [] => []
  | [(key, value)] => newLine depth ++ quoted key ++ ':' :: ' ' :: indented depth value
  | (key, value) :: rest =>
    newLine depth ++ quoted key ++ ':' :: ' ' :: indented depth value ++
      ',' :: indentedMembers depth rest

end

def compact (j : Json) : String := String.ofList j.text

def pretty (j : Json) : String := String.ofList (j.indented 0)

end Intake.Json
