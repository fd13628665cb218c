import Intake.Pattern.Escape

/-! # Bracketed sets

Sets in brackets hold characters, ranges, escapes, named ASCII classes and further brackets;
`&&`, `--` and `~~` combine what stands left and right of them, all equally strong and from the
left.
-/

namespace Intake.Pattern

/-- A set and how deeply its notation is nested. -/
structure Operand where
  set : CharSet
  height : Nat

inductive SetOp where
  | inter
  | diff
  | symmDiff

/-- The members of a bracket since its beginning or since the last operator. -/
structure Members where
  set : CharSet := .empty
  height : Nat := 0
  count : Nat := 0

/-- A bracket under way. -/
structure Bracket where
  negate : Bool
  left : Option (SetOp × Operand) := none
  members : Members := {}

namespace Members

def add (m : Members) (o : Operand) : Members :=
  ⟨m.set.union o.set, max m.height o.height, m.count + 1⟩

def addSet (m : Members) (set : CharSet) : Members := m.add ⟨set, 0⟩

def operand (m : Members) : Operand := ⟨m.set, if m.count ≤ 1 then m.height else m.height + 1⟩

end Members

def SetOp.apply : SetOp → CharSet → CharSet → CharSet
  | .inter, a, b => a.inter b
  | .diff, a, b => a.diff b
  | .symmDiff, a, b => a.symmDiff b

namespace Bracket

def asciiClass? (name : List Char) : Option CharSet :=
  match String.ofList name with
  | "alnum" => some ⟨[(0x30, 0x39), (0x41, 0x5A), (0x61, 0x7A)]⟩
  | "alpha" => some ⟨[(0x41, 0x5A), (0x61, 0x7A)]⟩
  | "ascii" => some .ascii
  | "blank" => some ⟨[(0x09, 0x09), (0x20, 0x20)]⟩
  | "cntrl" => some ⟨[(0x00, 0x1F), (0x7F, 0x7F)]⟩
  | "digit" => some ⟨[(0x30, 0x39)]⟩
  | "graph" => some ⟨[(0x21, 0x7E)]⟩
  | "lower" => some ⟨[(0x61, 0x7A)]⟩
  | "print" => some ⟨[(0x20, 0x7E)]⟩
  | "punct" => some ⟨[(0x21, 0x2F), (0x3A, 0x40), (0x5B, 0x60), (0x7B, 0x7E)]⟩
  | "space" => some ⟨[(0x09, 0x0D), (0x20, 0x20)]⟩
  | "upper" => some ⟨[(0x41, 0x5A)]⟩
  | "word" => some asciiWordChars
  | "xdigit" => some ⟨[(0x30, 0x39), (0x41, 0x46), (0x61, 0x66)]⟩
  | _ => none

/-- Reads a named class behind its `[`: the name stands between colons, a caret before it takes the
complement. -/
def named? (text : List Char) : Option (CharSet × Bool × List Char) :=
  match text with
  | ':' :: text =>
    let (negate, text) := match text with
      | '^' :: rest => (true, rest)
      | _ => (false, text)
    match text.dropWhile (· != ':') with
    | ':' :: ']' :: rest =>
      (asciiClass? (text.takeWhile (· != ':'))).map fun set => (set, negate, rest)
    | _ => none
  | _ => none

/-- Takes what has been read since the last operator together with what stands left of it. -/
def operand (flags : Flags) (b : Bracket) : Operand :=
  let right := b.members.operand
  match b.left with
  | none => right
  | some (op, left) =>
    ⟨op.apply (flags.folded left.set) (flags.folded right.set), max left.height right.height + 1⟩

def withOp (flags : Flags) (op : SetOp) (b : Bracket) : Bracket :=
  { b with left := some (op, b.operand flags), members := {} }

/-- The set of a closed bracket. -/
def closed? (flags : Flags) (b : Bracket) : Option Operand :=
  let whole := b.operand flags
  (flags.finished? b.negate whole.set).map fun set => ⟨set, whole.height + 1⟩

/-- Hyphens at the beginning stand for themselves. -/
def hyphens (flags : Flags) (members : Members) (text : List Char) : Members × List Char :=
  match text with
  | '-' :: rest =>
    if (flags.skip rest).length < rest.length + 1 then
      hyphens flags (members.addSet (.single '-'.toNat)) (flags.skip rest)
    else (members, text)
  | _ => (members, text)
termination_by text.length

/-- Begins a bracket behind its `[`; a `]` that comes first stands for itself. -/
def begin (flags : Flags) (text : List Char) : Bracket × List Char :=
  let (negate, text) := match flags.skip text with
    | '^' :: rest => (true, flags.skip rest)
    | text => (false, text)
  let (members, text) := hyphens flags {} text
  match members.count, text with
  | 0, ']' :: rest => (⟨negate, none, members.addSet (.single ']'.toNat)⟩, rest)
  | _, text => (⟨negate, none, members⟩, text)

/-- A single member: a character, or a set when `inl` holds none. -/
def member? (flags : Flags) : List Char → Option ((Char ⊕ CharSet) × List Char)
  | [] => none
  | '\\' :: rest =>
    match Escape.read? flags rest with
    | some (.literal c, rest) => some (.inl c, rest)
    | some (.oneOf set, rest) => some (.inr set, rest)
    | _ => none
  | c :: rest => some (.inl c, rest)

/-- Characters in brackets are bytes where Unicode is off, and then ASCII. -/
def admits (flags : Flags) (c : Char) : Bool := flags.unicode || c.toNat ≤ 0x7F

/-- Reads a member or a range. A hyphen before `]` or before another hyphen makes no range. -/
def range? (flags : Flags) (text : List Char) : Option (CharSet × List Char) := do
  let (first, rest) ← member? flags text
  let rest := flags.skip rest
  let isRange := match rest with
    | '-' :: after =>
      match flags.skip after with
      | ']' :: _ => false
      | '-' :: _ => false
      | _ => true
    | _ => false
  if isRange then
    let (second, rest) ← member? flags (flags.skip rest.tail)
    match first, second with
    | .inl low, .inl high =>
      if low ≤ high && admits flags low && admits flags high then
        some (⟨[(low.toNat, high.toNat)]⟩, rest)
      else none
    | _, _ => none
  else
    match first with
    | .inl c => if admits flags c then some (.single c.toNat, rest) else none
    | .inr set => some (set, rest)

/-- Reads on within a bracket whose enclosing brackets are `outer`, up to the end of the outermost
one. -/
def read? (flags : Flags) (outer : List Bracket) (b : Bracket) (text : List Char) :
    Option (Operand × List Char) :=
  match flags.skip text with
  | [] => none
  | '[' :: rest =>
    match named? rest with
    | some (set, negate, rest) =>
      match flags.finished? negate set with
      | none => none
      | some set =>
        if rest.length < text.length then
          read? flags outer { b with members := b.members.addSet set } rest
        else none
    | none =>
      let (inner, rest) := begin flags rest
      if rest.length < text.length then read? flags (b :: outer) inner rest else none
  | ']' :: rest =>
    match b.closed? flags, outer with
    | none, _ => none
    | some whole, [] => some (whole, rest)
    | some whole, around :: outer =>
      if rest.length < text.length then
        read? flags outer { around with members := around.members.add whole } rest
      else none
  | '&' :: '&' :: rest =>
    if rest.length < text.length then read? flags outer (b.withOp flags .inter) rest else none
  | '-' :: '-' :: rest =>
    if rest.length < text.length then read? flags outer (b.withOp flags .diff) rest else none
  | '~' :: '~' :: rest =>
    if rest.length < text.length then read? flags outer (b.withOp flags .symmDiff) rest else none
  | text' =>
    match range? flags text' with
    | none => none
    | some (set, rest) =>
      if rest.length < text.length then
        read? flags outer { b with members := b.members.addSet set } rest
      else none
termination_by text.length

/-- Reads a set behind its opening bracket. -/
def ofText? (flags : Flags) (text : List Char) : Option (Operand × List Char) :=
  let (b, rest) := begin flags text
  read? flags [] b rest

end Bracket

end Intake.Pattern
