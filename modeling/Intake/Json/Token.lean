import Intake.Json
import Intake.Double.Arithmetic
import Intake.Text.Digits

/-! # Tokens of JSON texts

`tokens` cuts a text into tokens and stops with `broken` at the first character that fits none, so
that a reader sees everything before a fault. A numeral too large for a double, or a text with
half of a surrogate pair, is `unreadable`: it may be skipped but not read.
-/

namespace Intake.Json

inductive Token where
  | openObject
  | closeObject
  | openArray
  | closeArray
  | comma
  | colon
  | atom (value : Json)
  | text (s : String)
  | unreadable
  | broken
deriving Inhabited

/-- A half of a surrogate pair that waits for its other half. -/
def isHighHalf (unit : Nat) : Bool := 0xD800 ≤ unit && unit ≤ 0xDBFF

def isLowHalf (unit : Nat) : Bool := 0xDC00 ≤ unit && unit ≤ 0xDFFF

def joinHalves (high low : Nat) : Char :=
  Char.ofNat (0x10000 + (high - 0xD800) * 0x400 + (low - 0xDC00))

def escaped? : Char → Option Char
  | '"' => some '"'
  | '\\' => some '\\'
  | '/' => some '/'
  | 'b' => some '\x08'
  | 'f' => some '\x0c'
  | 'n' => some '\n'
  | 'r' => some '\r'
  | 't' => some '\t'
  | _ => none

/-- What has been read of a text: its characters in reverse, a waiting high half, and whether every
half found its partner. -/
structure Scanned where
  reversed : List Char
  high : Option Nat
  paired : Bool

def Scanned.start : Scanned := ⟨[], none, true⟩

def Scanned.char (s : Scanned) (c : Char) : Scanned :=
  ⟨c :: s.reversed, none, s.paired && s.high.isNone⟩

def Scanned.unit (s : Scanned) (unit : Nat) : Scanned :=
  match s.high with
  | some high =>
    if isLowHalf unit then ⟨joinHalves high unit :: s.reversed, none, s.paired⟩
    else ⟨s.reversed, none, false⟩
  | none =>
    if isHighHalf unit then ⟨s.reversed, some unit, s.paired⟩
    else if isLowHalf unit then ⟨s.reversed, none, false⟩
    else ⟨Char.ofNat unit :: s.reversed, none, s.paired⟩

def Scanned.token (s : Scanned) : Token :=
  if s.paired && s.high.isNone then .text (String.ofList s.reversed.reverse) else .unreadable

/-- Reads on after the opening quote, up to and including the closing one. -/
def scanText (s : Scanned) : List Char → Option (Token × List Char)
  | [] => none
  | '"' :: rest => some (s.token, rest)
  | '\\' :: 'u' :: a :: b :: c :: d :: rest =>
    match Text.hexFrom? 0 [a, b, c, d] with
    | some unit => scanText (s.unit unit) rest
    | none => none
  | '\\' :: e :: rest =>
    match escaped? e with
    | some c => scanText (s.char c) rest
    | none => none
  | c :: rest => if c = '\\' ∨ c.toNat < 0x20 then none else scanText (s.char c) rest

theorem scanText_length {s : Scanned} {text : List Char} {token : Token} {rest : List Char}
    (h : scanText s text = some (token, rest)) : rest.length < text.length := by
  fun_induction scanText s text with
  | case1 => simp at h
  | case2 s r => simp only [Option.some.injEq, Prod.mk.injEq] at h; simp [h.2]
  | case3 s a b c d r unit hx ih => have := ih h; simp only [List.length_cons]; omega
  | case4 => simp at h
  | case5 s e r hn c hc ih => have := ih h; simp only [List.length_cons]; omega
  | case6 => simp at h
  | case7 => simp at h
  | case8 s c r _ _ _ hc ih => have := ih h; simp only [List.length_cons]; omega

/-- A numeral in its parts; `fraction` and `power` are absent from the integers. -/
structure Numeral where
  negative : Bool
  whole : List Char
  fraction : Option (List Char)
  power : Option Int

/-- Digits, at least one. -/
def digits? (text : List Char) : Option (List Char × List Char) :=
  let run := text.takeWhile Text.isDigit
  if run = [] then none else some (run, text.dropWhile Text.isDigit)

/-- No zero stands before another digit. -/
def whole? (text : List Char) : Option (List Char × List Char) :=
  match digits? text with
  | some ('0' :: _ :: _, _) => none
  | other => other

def fraction? : List Char → Option (Option (List Char) × List Char)
  | '.' :: rest => (digits? rest).map fun (run, rest) => (some run, rest)
  | rest => some (none, rest)

def signedPower? : List Char → Option (Int × List Char)
  | '-' :: rest => (digits? rest).map fun (run, rest) => (-(Text.digitsFrom 0 run : Int), rest)
  | '+' :: rest => (digits? rest).map fun (run, rest) => (Text.digitsFrom 0 run, rest)
  | rest => (digits? rest).map fun (run, rest) => (Text.digitsFrom 0 run, rest)

def power? : List Char → Option (Option Int × List Char)
  | 'e' :: rest => (signedPower? rest).map fun (power, rest) => (some power, rest)
  | 'E' :: rest => (signedPower? rest).map fun (power, rest) => (some power, rest)
  | rest => some (none, rest)

def unsigned? (negative : Bool) (text : List Char) : Option (Numeral × List Char) := do
  let (whole, text) ← whole? text
  let (fraction, text) ← fraction? text
  let (power, text) ← power? text
  some (⟨negative, whole, fraction, power⟩, text)

def numeral? : List Char → Option (Numeral × List Char)
  | '-' :: rest => unsigned? true rest
  | text => unsigned? false text

/-- Appends digits to a number for as long as it fits into a word of 64 bits; gives it back with the
digits for which there was no room. -/
def appendDigits (word : Nat) : List Char → Nat × List Char
  | [] => (word, [])
  | c :: rest =>
    let next := word * 10 + Text.digitValue c
    if next < 2 ^ 64 then appendDigits next rest else (word, c :: rest)

/-- A numeral as a double: a word of its first digits, times a power of ten. Digits without room
count before the point, as zeros, and not behind it. The result need not be the nearest double. -/
def Numeral.double? (n : Numeral) : Option Double :=
  let fraction := n.fraction.getD []
  let (word, beyond) := appendDigits 0 n.whole
  let (word, ignored) := appendDigits word fraction
  let power := n.power.getD 0 + beyond.length - (fraction.length - ignored.length : Nat)
  ((Double.ofInt word).scaled? power).map fun x => { x with negative := n.negative }

/-- Integers of 64 bits, with or without a sign, are kept as they are; `-0` is a double. -/
def Numeral.integer? (n : Numeral) : Option Int :=
  let size := Text.digitsFrom 0 n.whole
  if n.fraction.isSome || n.power.isSome then none
  else if n.negative then if 0 < size ∧ size ≤ 2 ^ 63 then some (-(size : Int)) else none
  else if size < 2 ^ 64 then some size else none

def Numeral.token (n : Numeral) : Token :=
  match n.integer? with
  | some i => .atom (.int i)
  | none =>
    match n.double? with
    | some x => .atom (.float x)
    | none => .unreadable

theorem digits?_length {text run rest : List Char} (h : digits? text = some (run, rest)) :
    rest.length < text.length := by
  simp only [digits?] at h
  split at h
  · simp at h
  · next hne =>
    simp only [Option.some.injEq, Prod.mk.injEq] at h
    have hl :=
      congrArg List.length (List.takeWhile_append_dropWhile (p := Text.isDigit) (l := text))
    have := List.length_pos_iff.2 hne
    simp only [List.length_append] at hl
    rw [← h.2]
    omega

theorem whole?_length {text run rest : List Char} (h : whole? text = some (run, rest)) :
    rest.length < text.length := by
  simp only [whole?] at h
  split at h
  · simp at h
  · exact digits?_length h

theorem fraction?_length {text rest : List Char} {f : Option (List Char)}
    (h : fraction? text = some (f, rest)) : rest.length ≤ text.length := by
  simp only [fraction?] at h
  split at h
  · obtain ⟨⟨run, r⟩, hd, he⟩ := Option.map_eq_some_iff.1 h
    have := digits?_length hd
    simp only [Prod.mk.injEq] at he
    simp only [List.length_cons, ← he.2]
    omega
  · simp only [Option.some.injEq, Prod.mk.injEq] at h
    simp [h.2]

theorem signedPower?_length {text rest : List Char} {p : Int}
    (h : signedPower? text = some (p, rest)) : rest.length ≤ text.length := by
  simp only [signedPower?] at h
  split at h <;>
  · obtain ⟨⟨run, r⟩, hd, he⟩ := Option.map_eq_some_iff.1 h
    have := digits?_length hd
    simp only [Prod.mk.injEq] at he
    simp only [List.length_cons, ← he.2]
    omega

theorem power?_length {text rest : List Char} {p : Option Int}
    (h : power? text = some (p, rest)) : rest.length ≤ text.length := by
  simp only [power?] at h
  split at h
  · obtain ⟨⟨q, r⟩, hd, he⟩ := Option.map_eq_some_iff.1 h
    have := signedPower?_length hd
    simp only [Prod.mk.injEq] at he
    simp only [List.length_cons, ← he.2]
    omega
  · obtain ⟨⟨q, r⟩, hd, he⟩ := Option.map_eq_some_iff.1 h
    have := signedPower?_length hd
    simp only [Prod.mk.injEq] at he
    simp only [List.length_cons, ← he.2]
    omega
  · simp only [Option.some.injEq, Prod.mk.injEq] at h
    simp [h.2]

theorem unsigned?_length {negative : Bool} {text rest : List Char} {n : Numeral}
    (h : unsigned? negative text = some (n, rest)) : rest.length < text.length := by
  simp only [unsigned?, Option.bind_eq_bind, Option.bind_eq_some_iff] at h
  obtain ⟨⟨w, r₁⟩, h₁, ⟨f, r₂⟩, h₂, ⟨p, r₃⟩, h₃, he⟩ := h
  have : r₁.length < text.length := whole?_length h₁
  have : r₂.length ≤ r₁.length := fraction?_length h₂
  have : r₃.length ≤ r₂.length := power?_length h₃
  simp only [Option.some.injEq, Prod.mk.injEq] at he
  rw [← he.2]
  omega

theorem numeral?_length {text rest : List Char} {n : Numeral}
    (h : numeral? text = some (n, rest)) : rest.length < text.length := by
  simp only [numeral?] at h
  split at h
  · have := unsigned?_length h
    simp only [List.length_cons]
    omega
  · exact unsigned?_length h

def isSpace (c : Char) : Bool := c = ' ' || c = '\t' || c = '\n' || c = '\r'

/-- The token at the head of a text without leading space. -/
def scan : List Char → Option (Token × List Char)
  | '{' :: rest => some (.openObject, rest)
  | '}' :: rest => some (.closeObject, rest)
  | '[' :: rest => some (.openArray, rest)
  | ']' :: rest => some (.closeArray, rest)
  | ',' :: rest => some (.comma, rest)
  | ':' :: rest => some (.colon, rest)
  | '"' :: rest => scanText .start rest
  | 'n' :: 'u' :: 'l' :: 'l' :: rest => some (.atom .null, rest)
  | 't' :: 'r' :: 'u' :: 'e' :: rest => some (.atom (.bool true), rest)
  | 'f' :: 'a' :: 'l' :: 's' :: 'e' :: rest => some (.atom (.bool false), rest)
  | text => (numeral? text).map fun (n, rest) => (n.token, rest)

theorem scan_length {text rest : List Char} {token : Token}
    (h : scan text = some (token, rest)) : rest.length < text.length := by
  unfold scan at h
  split at h
  case h_7 => have := scanText_length h; simp only [List.length_cons]; omega
  case h_11 =>
    obtain ⟨⟨n, r⟩, hn, he⟩ := Option.map_eq_some_iff.1 h
    simp only [Prod.mk.injEq] at he
    rw [← he.2]
    exact numeral?_length hn
  all_goals
    simp only [Option.some.injEq, Prod.mk.injEq] at h
    simp only [List.length_cons, ← h.2]
    omega

/-- All tokens of a text, up to the first fault. -/
def tokens (text : List Char) : List Token :=
  match text with
  | [] => []
  | c :: rest =>
    if isSpace c then tokens rest
    else
      match _h : scan (c :: rest) with
      | some (token, tail) => token :: tokens tail
      | none => [.broken]
termination_by text.length
decreasing_by
  · simp
  · exact scan_length _h

end Intake.Json
