import Intake.CharSet
import Intake.Unicode.Property

/-! # Regular expressions

What a pattern stands for once its notation has been read. Groups leave no trace, since only the
question whether a text matches is ever asked.
-/

namespace Intake

/-- Places between two characters, told by which of the two belong to a word. -/
inductive WordEdge where
  | boundary
  | inside
  | start
  | finish
  | startHalf
  | finishHalf
deriving DecidableEq

inductive Anchor where
  | textStart
  | textEnd
  | lineStart (crlf : Bool)
  | lineEnd (crlf : Bool)
  | word (edge : WordEdge) (unicode : Bool)
deriving DecidableEq

inductive Regex where
  | empty
  | chars (set : CharSet)
  | anchor (a : Anchor)
  | seq (first second : Regex)
  | alt (left right : Regex)
  | rep (body : Regex) (least : Nat) (most : Option Nat)

/-- The characters words are made of. -/
def wordChars : CharSet :=
  CharSet.unions [Unicode.alphabetic, Unicode.ofCategories ["mn", "mc", "me", "nd", "pc"],
    Unicode.joinControl]

def asciiWordChars : CharSet := ⟨[(0x30, 0x39), (0x41, 0x5A), (0x5F, 0x5F), (0x61, 0x7A)]⟩

namespace WordEdge

def holds (before after : Bool) : WordEdge → Bool
  | .boundary => before != after
  | .inside => before == after
  | .start => !before && after
  | .finish => before && !after
  | .startHalf => !before
  | .finishHalf => !after

end WordEdge

namespace Anchor

/-- Whether the place between two neighbours is one the anchor admits; a missing neighbour is an
end of the text. -/
def holds (before after : Option Char) : Anchor → Bool
  | .textStart => before.isNone
  | .textEnd => after.isNone
  | .lineStart false => before.isNone || before == some '\n'
  | .lineStart true =>
    before.isNone || before == some '\n' || (before == some '\r' && after != some '\n')
  | .lineEnd false => after.isNone || after == some '\n'
  | .lineEnd true =>
    after.isNone || after == some '\r' || (after == some '\n' && before != some '\r')
  | .word edge unicode =>
    let set := if unicode then wordChars else asciiWordChars
    let inWord (c : Option Char) := c.any fun c => set.contains c.toNat
    edge.holds (inWord before) (inWord after)

end Anchor

namespace Regex

def seqs (parts : List Regex) : Regex := parts.foldr .seq .empty

/-- The empty list of choices matches nothing. -/
def alts : List Regex → Regex
  | [] => .chars .empty
  | [r] => r
  | r :: rest => .alt r (alts rest)

/-- Whether nothing but the empty text can match. -/
def isWeightless : Regex → Bool
  | .empty => true
  | .chars _ => false
  | .anchor _ => true
  | .seq a b => a.isWeightless && b.isWeightless
  | .alt a b => a.isWeightless && b.isWeightless
  | .rep r _ most => r.isWeightless || most == some 0

/-- A weightless body is repeated once at most: more would match the same. -/
def repeated (body : Regex) (least : Nat) (most : Option Nat) : Regex :=
  if body.isWeightless then .rep body (min least 1) (some (min (most.getD 1) 1))
  else .rep body least most

end Regex

end Intake
