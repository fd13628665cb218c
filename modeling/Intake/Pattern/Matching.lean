import Intake.Pattern.Regex

/-! # Matching

A set of places in a text is a number whose binary digit `i` says whether the place before the
character `i` belongs to it. An expression moves such sets forward: from the places where a match
may begin to those where it may end. All places move together, so the work grows with the sizes of
text and expression and never with the number of ways to match.
-/

namespace Intake

namespace Matching

/-- The places in front of a character of the set. -/
def before (set : CharSet) (text : List Char) : Nat :=
  text.foldr (fun c mask => 2 * mask + (set.contains c.toNat).toNat) 0

/-- The places an anchor admits, where `previous` is the character before the text. -/
def anchored (a : Anchor) (previous : Option Char) : List Char → Nat
  | [] => (a.holds previous none).toNat
  | c :: rest => 2 * anchored a (some c) rest + (a.holds previous (some c)).toNat

/-- Applies a function `n` times, or until it changes nothing. -/
def settle (f : Nat → Nat) : Nat → Nat → Nat
  | 0, places => places
  | n + 1, places =>
    let next := f places
    if next == places then places else settle f n next

end Matching

/-- An expression whose sets and anchors have been looked up in one text. -/
inductive Regex.Plan where
  | stay (places : Nat)
  | cross (places : Nat)
  | seq (first second : Plan)
  | alt (left right : Plan)
  | rep (body : Plan) (least : Nat) (more : Nat)

namespace Regex

/-- Past the least count, one round for each place of the text and one beyond reaches every place
that more rounds would. -/
def plan (text : List Char) : Regex → Plan
  | .empty => .stay (2 ^ (text.length + 1) - 1)
  | .chars set => .cross (Matching.before set text)
  | .anchor a => .stay (Matching.anchored a none text)
  | .seq a b => .seq (a.plan text) (b.plan text)
  | .alt a b => .alt (a.plan text) (b.plan text)
  | .rep r least none => .rep (r.plan text) least (text.length + 1)
  | .rep r least (some most) => .rep (r.plan text) least (most - least)

def Plan.advance : Plan → Nat → Nat
  | .stay places, start => start &&& places
  | .cross places, start => (start &&& places) <<< 1
  | .seq a b, start => b.advance (a.advance start)
  | .alt a b, start => a.advance start ||| b.advance start
  | .rep r least more, start =>
    let reached := Matching.settle r.advance least start
    Matching.settle (fun places => reached ||| r.advance places) more reached

/-- Whether a part of the text matches. -/
def matchesIn (r : Regex) (text : List Char) : Bool :=
  (r.plan text).advance (2 ^ (text.length + 1) - 1) != 0

end Regex

end Intake
