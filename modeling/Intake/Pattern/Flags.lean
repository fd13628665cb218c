import Intake.Pattern.Regex
import Intake.Text.Blank
import Intake.Unicode.Folding

/-! # Flags of a pattern

Flags say how the notation that follows them is read. Their letters are i, m, s, u, R and x; the
letter U, which only prefers shorter matches, is known and changes nothing here.
-/

namespace Intake.Pattern

structure Flags where
  ignoreCase : Bool := false
  multiLine : Bool := false
  dotAll : Bool := false
  unicode : Bool := true
  crlf : Bool := false
  spaced : Bool := false

namespace Flags

def set? (flags : Flags) (on : Bool) : Char → Option Flags
  | 'i' => some { flags with ignoreCase := on }
  | 'm' => some { flags with multiLine := on }
  | 's' => some { flags with dotAll := on }
  | 'u' => some { flags with unicode := on }
  | 'R' => some { flags with crlf := on }
  | 'x' => some { flags with spaced := on }
  | 'U' => some flags
  | _ => none

/-- Reads letters up to `:` or `)`, which it leaves; those behind a hyphen are switched off. The
hyphen and the letters may each stand once, and the hyphen not at the end. -/
def letters? (flags : Flags) (on : Bool) (seen : List Char) :
    List Char → Option (Flags × List Char)
  | [] => none
  | c :: rest =>
    if c = ':' || c = ')' then
      if seen.head? = some '-' then none else some (flags, c :: rest)
    else if seen.contains c then none
    else if c = '-' then letters? flags false (c :: seen) rest
    else (flags.set? on c).bind fun flags => letters? flags on (c :: seen) rest

/-- Passes over blanks, and over comments from `#` to the end of the line. -/
def dropSpace (comment : Bool) : List Char → List Char
  | [] => []
  | c :: rest =>
    if comment then dropSpace (c != '\n') rest
    else if c == '#' then dropSpace true rest
    else if Text.isBlank c then dropSpace false rest
    else c :: rest

/-- Passes over what spaced notation ignores. -/
def skip (flags : Flags) (text : List Char) : List Char :=
  if flags.spaced then dropSpace false text else text

/-- What stands before the closing brace, and what follows it. -/
def braced? (flags : Flags) (comment : Bool) : List Char → Option (List Char × List Char)
  | [] => none
  | c :: rest =>
    if comment then braced? flags (c != '\n') rest
    else if flags.spaced && c == '#' then braced? flags true rest
    else if flags.spaced && Text.isBlank c then braced? flags false rest
    else if c == '}' then some ([], rest)
    else (braced? flags false rest).map fun (inner, rest) => (c :: inner, rest)

def folded (flags : Flags) (set : CharSet) : CharSet :=
  if !flags.ignoreCase then set
  else if flags.unicode then Unicode.variants set else Unicode.asciiVariants set

/-- Takes the complement if asked to. Without Unicode a set holds bytes, and one that goes beyond
ASCII would match parts of characters and is refused. -/
def negated? (flags : Flags) (negate : Bool) (set : CharSet) : Option CharSet :=
  let result := if negate then set.complUpTo (if flags.unicode then CharSet.last else 0xFF) else set
  if flags.unicode || result.isAscii then some result else none

/-- Cases are added before the complement is taken. -/
def finished? (flags : Flags) (negate : Bool) (set : CharSet) : Option CharSet :=
  flags.negated? negate (flags.folded set)

def literal (flags : Flags) (c : Char) : Regex :=
  .chars (flags.folded (.single c.toNat))

def dot? (flags : Flags) : Option Regex :=
  if !flags.unicode then none
  else if flags.dotAll then some (.chars .all)
  else if flags.crlf then some (.chars (CharSet.compl ⟨[(0x0A, 0x0A), (0x0D, 0x0D)]⟩))
  else some (.chars (CharSet.compl ⟨[(0x0A, 0x0A)]⟩))

def caret (flags : Flags) : Anchor :=
  if flags.multiLine then .lineStart flags.crlf else .textStart

def dollar (flags : Flags) : Anchor :=
  if flags.multiLine then .lineEnd flags.crlf else .textEnd

end Flags

end Intake.Pattern
