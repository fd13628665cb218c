import Intake.Pattern.Flags
import Intake.Unicode.Query

/-! # Escapes

What follows a backslash: a character, a class of characters, or an anchor.
-/

namespace Intake.Pattern

inductive Escape where
  | literal (c : Char)
  | oneOf (set : CharSet)
  | anchor (a : Anchor)

namespace Escape

/-- ASCII characters other than letters and digits stand for themselves, but angle brackets do
not. -/
def isPlain (c : Char) : Bool :=
  c.toNat ≤ 0x7F && !c.isAlphanum && c != '<' && c != '>'

def control? : Char → Option Char
  | 'a' => some '\x07'
  | 'f' => some '\x0c'
  | 'n' => some '\n'
  | 'r' => some '\r'
  | 't' => some '\t'
  | 'v' => some '\x0b'
  | _ => none

def char? (code : Nat) : Option Char :=
  if code.isValidChar then some (Char.ofNat code) else none

/-- Exactly `count` hexadecimal digits. -/
def digits? (flags : Flags) (value : Nat) : Nat → List Char → Option (Nat × List Char)
  | 0, text => some (value, text)
  | _ + 1, [] => none
  | count + 1, c :: rest =>
    (Text.hexValue? c).bind fun digit => digits? flags (value * 16 + digit) count (flags.skip rest)

/-- Two, four or eight digits, or any number of them in braces. Two digits mean a byte where
Unicode is off, and a byte beyond ASCII is no character. -/
def hexadecimal? (flags : Flags) (width : Nat) (text : List Char) :
    Option (Escape × List Char) :=
  match flags.skip text with
  | '{' :: rest => do
    let (inner, rest) ← flags.braced? false rest
    let code ← if inner.isEmpty then none else Text.hexFrom? 0 inner
    let c ← char? code
    some (.literal c, rest)
  | text => do
    let (code, rest) ← digits? flags 0 width text
    let c ← char? code
    if width = 2 && !flags.unicode && code > 0x7F then none else some (.literal c, rest)

def property? (flags : Flags) (negate : Bool) (text : List Char) : Option (Escape × List Char) := do
  let (query, rest) ← match flags.skip text with
    | [] => none
    | '{' :: rest => flags.braced? false rest
    | '\\' :: _ => none
    | c :: rest => some ([c], rest)
  if !flags.unicode then none
  let (set, complement) ← Unicode.query? query
  let set ← flags.finished? (negate != complement) set
  some (.oneOf set, rest)

def digitSet (flags : Flags) : CharSet :=
  if flags.unicode then Unicode.ofCategories ["nd"] else ⟨[(0x30, 0x39)]⟩

def blankSet (flags : Flags) : CharSet :=
  if flags.unicode then Unicode.whiteSpace else ⟨[(0x09, 0x0D), (0x20, 0x20)]⟩

def wordSet (flags : Flags) : CharSet :=
  if flags.unicode then wordChars else asciiWordChars

def class? (flags : Flags) (negate : Bool) (set : CharSet) (rest : List Char) :
    Option (Escape × List Char) :=
  (flags.negated? negate set).map fun set => (.oneOf set, rest)

def edge? (name : List Char) : Option WordEdge :=
  match String.ofList name with
  | "start" => some .start
  | "end" => some .finish
  | "start-half" => some .startHalf
  | "end-half" => some .finishHalf
  | _ => none

/-- A brace behind the boundary names another edge if a letter or a hyphen comes first in it;
otherwise it is left to be a count. -/
def boundary? (flags : Flags) (text : List Char) : Option (Escape × List Char) :=
  let plain := some (.anchor (.word .boundary flags.unicode), text)
  match text with
  | '{' :: rest =>
    match flags.skip rest with
    | [] => none
    | c :: _ =>
      if c.isAlpha || c == '-' then do
        let (name, rest) ← flags.braced? false rest
        let edge ← edge? name
        some (.anchor (.word edge flags.unicode), rest)
      else plain
  | _ => plain

/-- Reads what follows a backslash. -/
def read? (flags : Flags) : List Char → Option (Escape × List Char)
  | [] => none
  | 'x' :: rest => hexadecimal? flags 2 rest
  | 'u' :: rest => hexadecimal? flags 4 rest
  | 'U' :: rest => hexadecimal? flags 8 rest
  | 'p' :: rest => property? flags false rest
  | 'P' :: rest => property? flags true rest
  | 'd' :: rest => class? flags false (digitSet flags) rest
  | 'D' :: rest => class? flags true (digitSet flags) rest
  | 's' :: rest => class? flags false (blankSet flags) rest
  | 'S' :: rest => class? flags true (blankSet flags) rest
  | 'w' :: rest => class? flags false (wordSet flags) rest
  | 'W' :: rest => class? flags true (wordSet flags) rest
  | 'A' :: rest => some (.anchor .textStart, rest)
  | 'z' :: rest => some (.anchor .textEnd, rest)
  | 'b' :: rest => boundary? flags rest
  | 'B' :: rest => some (.anchor (.word .inside flags.unicode), rest)
  | '<' :: rest => some (.anchor (.word .start flags.unicode), rest)
  | '>' :: rest => some (.anchor (.word .finish flags.unicode), rest)
  | c :: rest =>
    if isPlain c then some (.literal c, rest) else (control? c).map fun c => (.literal c, rest)

end Escape

end Intake.Pattern
