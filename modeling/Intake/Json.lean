import Intake.Double

/-! # JSON documents

Integers stay apart from doubles, and the members of an object keep their order. `put` is how a
repeated key is settled: it keeps the first place and takes the last value.
-/

namespace Intake

inductive Json where
  | null
  | bool (b : Bool)
  | int (n : Int)
  | float (x : Double)
  | str (s : String)
  | arr (items : List Json)
  | obj (members : List (String × Json))
deriving Inhabited

/-- An association list with the value of `key` replaced in place, or added at the end. -/
def put {α : Type} (members : List (String × α)) (key : String) (value : α) : List (String × α) :=
  match members with
  | [] => [(key, value)]
  | (k, v) :: rest => if k = key then (k, value) :: rest else (k, v) :: put rest key value

theorem lookup_cons_of_ne {α : Type} {key k : String} {v : α} {rest : List (String × α)}
    (h : key ≠ k) : List.lookup key ((k, v) :: rest) = rest.lookup key := by
  simp [List.lookup_cons, beq_eq_false_iff_ne.2 h]

theorem lookup_put {α : Type} (members : List (String × α)) (key other : String) (value : α) :
    (put members key value).lookup other =
      if other = key then some value else members.lookup other := by
  induction members with
  | nil =>
    by_cases h : other = key
    · simp [put, h]
    · simp [put, lookup_cons_of_ne h, h]
  | cons m rest ih =>
    obtain ⟨k, v⟩ := m
    by_cases hk : k = key
    · subst hk
      by_cases h : other = k
      · simp [put, h]
      · simp [put, lookup_cons_of_ne h, h]
    · by_cases h : other = k
      · subst h
        simp [put, hk]
      · simp [put, hk, lookup_cons_of_ne h, ih]

namespace Json

def text? : Json → Option String
  | .str s => some s
  | _ => none

def int? : Json → Option Int
  | .int n => some n
  | _ => none

def bool? : Json → Option Bool
  | .bool b => some b
  | _ => none

/-- A natural number below 2 to the 32. -/
def word32? : Json → Option UInt32
  | .int n => if 0 ≤ n ∧ n < 2 ^ 32 then some (UInt32.ofNat n.toNat) else none
  | _ => none

end Json
end Intake
