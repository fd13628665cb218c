import Intake.Double.Text
import Intake.Pattern

/-! # Limits on texts and numbers

Bounds are inclusive. A text is measured in characters, and its pattern is asked before its length.
`TextLimits.check` and `Bounds.check` name the first limit that is broken.
-/

namespace Intake

structure TextLimits where
  pattern : Option Pattern := none
  minLength : Option Nat := none
  maxLength : Option Nat := none
deriving DecidableEq

structure Bounds where
  minimum : Option Double := none
  maximum : Option Double := none
deriving DecidableEq

/-- A broken limit, with the bound that was set. -/
inductive Limit where
  | pattern (source : String)
  | minLength (n : Nat)
  | maxLength (n : Nat)
  | minimum (x : Double)
  | maximum (x : Double)
deriving DecidableEq

namespace Limit

/-- The key under which a definition sets the limit. -/
def key : Limit → String
  | pattern _ => "pattern"
  | minLength _ => "minLength"
  | maxLength _ => "maxLength"
  | minimum _ => "minimum"
  | maximum _ => "maximum"

def numeral (n : Nat) : String := String.ofList (Text.decimal n)

def boundText (x : Double) : String := String.ofList (x.text .message)

def message : Limit → String
  | pattern source => "does not match pattern '" ++ source ++ "'"
  | minLength n => "must be at least " ++ numeral n ++ " characters long"
  | maxLength n => "must be at most " ++ numeral n ++ " characters long"
  | minimum x => "must be greater than or equal to " ++ boundText x
  | maximum x => "must be less than or equal to " ++ boundText x

end Limit

namespace TextLimits

def checkPattern (limits : TextLimits) (s : String) : Except Limit Unit :=
  match limits.pattern with
  | some p => if p.matchesIn s then .ok () else .error (.pattern p.source)
  | none => .ok ()

def checkMin (limits : TextLimits) (s : String) : Except Limit Unit :=
  match limits.minLength with
  | some n => if s.length < n then .error (.minLength n) else .ok ()
  | none => .ok ()

def checkMax (limits : TextLimits) (s : String) : Except Limit Unit :=
  match limits.maxLength with
  | some n => if n < s.length then .error (.maxLength n) else .ok ()
  | none => .ok ()

def check (limits : TextLimits) (s : String) : Except Limit Unit := do
  limits.checkPattern s
  limits.checkMin s
  limits.checkMax s

end TextLimits

namespace Bounds

def checkMin (bounds : Bounds) (x : Double) : Except Limit Unit :=
  match bounds.minimum with
  | some b => if x.lt b then .error (.minimum b) else .ok ()
  | none => .ok ()

def checkMax (bounds : Bounds) (x : Double) : Except Limit Unit :=
  match bounds.maximum with
  | some b => if b.lt x then .error (.maximum b) else .ok ()
  | none => .ok ()

def check (bounds : Bounds) (x : Double) : Except Limit Unit := do
  bounds.checkMin x
  bounds.checkMax x

def sameBound : Option Double → Option Double → Bool
  | none, none => true
  | some a, some b => a.same b
  | _, _ => false

/-- Bounds are compared as numbers. -/
def same (a b : Bounds) : Bool := sameBound a.minimum b.minimum && sameBound a.maximum b.maximum

end Bounds
end Intake
