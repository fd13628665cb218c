import Intake.Unicode.Property
import Intake.Unicode.Script

/-! # Queries for sets of code points

A query names a property, a category or a script, or gives a category or a script as the value of a
named property. Names are compared without case, blanks, underscores, hyphens and a leading "is".
-/

namespace Intake.Unicode

/-- Two letters that begin a name and add nothing to it. -/
def dropIs : List Char → List Char
  | i :: s :: rest => if i.toLower == 'i' && s.toLower == 's' then rest else i :: s :: rest
  | name => name

/-- The letters that count when names are compared; "isc" is a name and not a "c" with "is" before
it. -/
def plainName (name : List Char) : String :=
  let kept (text : List Char) := (text.filter fun c =>
    c.toNat ≤ 0x7F && !(c == ' ' || c == '_' || c == '-')).map Char.toLower
  let short := kept (dropIs name)
  String.ofList (if short == ['c'] && dropIs name != name then kept name else short)

/-- Three short names belong to categories although properties have them too. -/
def namedSet? (name : String) : Option CharSet :=
  let asProperty := if ["cf", "sc", "lc"].contains name then none else property? name
  asProperty <|> category? name <|> script? name

def valueSet? (property value : String) : Option CharSet :=
  if ["gc", "generalcategory"].contains property then category? value
  else if ["sc", "script"].contains property then script? value
  else none

/-- Cuts a text at the first place where `mark` stands. -/
def cutAt? (mark : List Char) : List Char → Option (List Char × List Char)
  | [] => none
  | c :: rest =>
    if mark.isPrefixOf (c :: rest) then some ([], (c :: rest).drop mark.length)
    else (cutAt? mark rest).map fun (before, after) => (c :: before, after)

/-- The set a query stands for, and whether the query asks for its complement. -/
def query? (query : List Char) : Option (CharSet × Bool) :=
  let byValue (parts : List Char × List Char) := valueSet? (plainName parts.1) (plainName parts.2)
  match cutAt? ['!', '='] query, cutAt? [':'] query, cutAt? ['='] query with
  | some parts, _, _ => (byValue parts).map fun set => (set, true)
  | none, some parts, _ => (byValue parts).map fun set => (set, false)
  | none, none, some parts => (byValue parts).map fun set => (set, false)
  | none, none, none => (namedSet? (plainName query)).map fun set => (set, false)

end Intake.Unicode
