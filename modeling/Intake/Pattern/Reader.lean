import Intake.Pattern.Bracket

/-! # Reading patterns

`read?` reads the notation from left to right and keeps the groups that are open. It refuses what
is not well formed or nests too deeply.
-/

namespace Intake.Pattern

/-- An expression, how deeply its notation is nested, and whether it may be repeated. -/
structure Piece where
  regex : Regex
  height : Nat := 0
  repeatable : Bool := true

/-- A group under way, with the flags to return to at its end. Pieces and choices are in reverse. -/
structure Group where
  outerFlags : Flags
  choices : List Piece := []
  pieces : List Piece := []

/-- The state between two pieces of notation. -/
structure Reading where
  flags : Flags := {}
  names : List (List Char) := []
  group : Group
  outer : List Group := []

/-- Notation may be nested no deeper. -/
def greatestHeight : Nat := 250

def tallest (pieces : List Piece) : Nat := pieces.foldl (fun h p => max h p.height) 0

namespace Group

def add (g : Group) (p : Piece) : Group := { g with pieces := p :: g.pieces }

/-- The pieces of a choice in sequence; a single piece adds no level. -/
def sequence (g : Group) : Piece :=
  match g.pieces with
  | [] => { regex := .empty }
  | [p] => { p with repeatable := true }
  | ps => { regex := Regex.seqs (ps.reverse.map Piece.regex), height := tallest ps + 1 }

def bar (g : Group) : Group := { g with choices := g.sequence :: g.choices, pieces := [] }

def whole (g : Group) : Piece :=
  match g.choices with
  | [] => g.sequence
  | choices =>
    let all := g.sequence :: choices
    { regex := Regex.alts (all.reverse.map Piece.regex), height := tallest all + 1 }

/-- Repeats the last piece, unless there is none or it only sets flags. -/
def repeated? (g : Group) (least : Nat) (most : Option Nat) : Option Group :=
  match g.pieces with
  | [] => none
  | p :: ps =>
    if p.repeatable then
      some { g with pieces :=
        { regex := Regex.repeated p.regex least most, height := p.height + 1 } :: ps }
    else none

end Group

/-- A numeral of 32 bits, with blanks around it. -/
def count? (text : List Char) : Option Nat :=
  (Text.natural? (Text.trim text)).filter (· < 2 ^ 32)

/-- Reads the inside of the braces of a repetition. -/
def counts? (inner : List Char) : Option (Nat × Option Nat) :=
  match inner.dropWhile (· != ',') with
  | [] => (count? inner).map fun n => (n, some n)
  | _ :: most => do
    let least ← count? (inner.takeWhile (· != ','))
    if most.isEmpty then some (least, none)
    else
      let most ← count? most
      if least ≤ most then some (least, some most) else none

/-- A mark that asks for shorter matches changes nothing. -/
def dropLazy : List Char → List Char
  | '?' :: rest => rest
  | text => text

/-- Names begin with a letter or an underscore. -/
def isNameChar (first : Bool) (c : Char) : Bool :=
  c == '_' || Unicode.alphabetic.contains c.toNat ||
    (!first && (c == '.' || c == '[' || c == ']' || (Unicode.ofGroup 'n').contains c.toNat))

def isName : List Char → Bool
  | [] => false
  | c :: rest => isNameChar true c && rest.all (isNameChar false)

namespace Reading

def add (r : Reading) (p : Piece) : Reading := { r with group := r.group.add p }

def regex (r : Reading) (x : Regex) : Reading := r.add { regex := x }

def enter (r : Reading) (flags : Flags) : Reading :=
  { r with flags := flags, group := { outerFlags := r.flags }, outer := r.group :: r.outer }

def leave? (r : Reading) : Option Reading :=
  match r.outer with
  | [] => none
  | around :: outer =>
    let whole := r.group.whole
    some { r with
      flags := r.group.outerFlags
      group := around.add { whole with height := whole.height + 1 }
      outer := outer }

def named? (r : Reading) (text : List Char) : Option (Reading × List Char) :=
  let name := text.takeWhile (· != '>')
  match text.dropWhile (· != '>') with
  | [] => none
  | _ :: rest =>
    if isName name && !r.names.contains name then
      some ({ r with names := name :: r.names }.enter r.flags, rest)
    else none

/-- Reads on behind an opening parenthesis. Parentheses that look around are not known. -/
def parenthesis? (r : Reading) (text : List Char) : Option (Reading × List Char) :=
  match text with
  | '?' :: '<' :: '=' :: _ => none
  | '?' :: '<' :: '!' :: _ => none
  | '?' :: 'P' :: '<' :: rest => r.named? rest
  | '?' :: '<' :: rest => r.named? rest
  | '?' :: ')' :: _ => none
  | '?' :: rest =>
    match r.flags.letters? true [] rest with
    | some (flags, ':' :: rest) => some (r.enter flags, rest)
    | some (flags, ')' :: rest) =>
      some ({ r with flags := flags }.add { regex := .empty, repeatable := false }, rest)
    | _ => none
  | text => some (r.enter r.flags, text)

def repeated? (r : Reading) (least : Nat) (most : Option Nat) (rest : List Char) :
    Option (Reading × List Char) :=
  (r.group.repeated? least most).map fun group => ({ r with group := group }, dropLazy rest)

/-- Reads one piece of notation. -/
def step? (r : Reading) (text : List Char) : Option (Reading × List Char) :=
  match text with
  | [] => none
  | '(' :: rest => r.parenthesis? (r.flags.skip rest)
  | ')' :: rest => r.leave?.map fun r => (r, rest)
  | '|' :: rest => some ({ r with group := r.group.bar }, rest)
  | '[' :: rest =>
    (Bracket.ofText? r.flags rest).map fun (o, rest) =>
      (r.add { regex := .chars o.set, height := o.height }, rest)
  | '?' :: rest => r.repeated? 0 (some 1) rest
  | '*' :: rest => r.repeated? 0 none rest
  | '+' :: rest => r.repeated? 1 none rest
  | '{' :: rest =>
    (r.flags.braced? false rest).bind fun (inner, rest) =>
      (counts? inner).bind fun (least, most) => r.repeated? least most (r.flags.skip rest)
  | '.' :: rest => r.flags.dot?.map fun dot => (r.regex dot, rest)
  | '^' :: rest => some (r.regex (.anchor r.flags.caret), rest)
  | '$' :: rest => some (r.regex (.anchor r.flags.dollar), rest)
  | '\\' :: rest =>
    (Escape.read? r.flags rest).map fun (escape, rest) =>
      match escape with
      | .literal c => (r.regex (r.flags.literal c), rest)
      | .oneOf set => (r.regex (.chars set), rest)
      | .anchor a => (r.regex (.anchor a), rest)
  | c :: rest => some (r.regex (r.flags.literal c), rest)

/-- Reads to the end, where no group may be open. -/
def run? (r : Reading) (text : List Char) : Option Piece :=
  match r.flags.skip text with
  | [] => if r.outer.isEmpty then some r.group.whole else none
  | c :: rest =>
    match r.step? (c :: rest) with
    | none => none
    | some (r, rest) => if rest.length < text.length then run? r rest else none
termination_by text.length

end Reading

end Intake.Pattern

namespace Intake

/-- Reads the notation of a pattern. -/
def Regex.read? (source : String) : Option Regex :=
  match Pattern.Reading.run? { group := { outerFlags := {} } } source.toList with
  | none => none
  | some piece =>
    if piece.height ≤ Pattern.greatestHeight then some piece.regex else none

end Intake
