import Intake.Json
import Intake.Instant

/-! # Values

The dynamic values that schemas speak about. Integers of 64 bits and doubles are different values,
and so are texts, native dates and store timestamps. `same` is the equality of values: numeric on
doubles, and blind to the order of members.
-/

namespace Intake

/-- Seconds from the start of 1970 and an ordinal within the second. -/
structure StoreTimestamp where
  time : UInt32
  increment : UInt32
deriving DecidableEq

inductive Value where
  | null
  | bool (b : Bool)
  | int (n : Int64)
  | float (x : Double)
  | text (s : String)
  | date (t : Instant)
  | timestamp (t : StoreTimestamp)
  | array (items : List Value)
  | object (members : List (String × Value))
deriving Inhabited

namespace Value

section Identity

mutual

/-- Whether two values are one and the same, down to the order of members. -/
def identical : Value → Value → Bool
  | null, null => true
  | bool b, bool c => b == c
  | int n, int m => n == m
  | float x, float y => x == y
  | text s, text t => s == t
  | date t, date u => t == u
  | timestamp t, timestamp u => t == u
  | array vs, array ws => identicalItems vs ws
  | object ms, object ns => identicalMembers ms ns
  | _, _ => false

def identicalItems : List Value → List Value → Bool
  | [], [] => true
  | v :: vs, w :: ws => identical v w && identicalItems vs ws
  | _, _ => false

def identicalMembers : List (String × Value) → List (String × Value) → Bool
  | [], [] => true
  | (k, v) :: ms, (l, w) :: ns => k == l && identical v w && identicalMembers ms ns
  | _, _ => false

end

mutual

theorem identical_iff : (v w : Value) → (identical v w = true ↔ v = w)
  | array vs, w => by cases w <;> simp [identical, identicalItems_iff vs]
  | object ms, w => by cases w <;> simp [identical, identicalMembers_iff ms]
  | null, w | bool _, w | int _, w | float _, w | text _, w | date _, w | timestamp _, w => by
    cases w <;> simp [identical]

theorem identicalItems_iff : (vs ws : List Value) → (identicalItems vs ws = true ↔ vs = ws)
  | [], ws => by cases ws <;> simp [identicalItems]
  | v :: vs, ws => by cases ws <;> simp [identicalItems, identical_iff v, identicalItems_iff vs]

theorem identicalMembers_iff :
    (ms ns : List (String × Value)) → (identicalMembers ms ns = true ↔ ms = ns)
  | [], ns => by cases ns <;> simp [identicalMembers]
  | (_, _) :: _, [] => by simp [identicalMembers]
  | (_, v) :: ms, (_, _) :: _ => by
    simp [identicalMembers, identical_iff v, identicalMembers_iff ms]

end

instance : DecidableEq Value := fun v w => decidable_of_iff _ (identical_iff v w)

end Identity

/-- The name of a value's representation. -/
def representation : Value → String
  | null => "null"
  | bool _ => "boolean"
  | int _ => "integer"
  | float _ => "float"
  | text _ => "string"
  | date _ => "date"
  | timestamp _ => "timestamp"
  | array _ => "array"
  | object _ => "object"

def text? : Value → Option String
  | text s => some s
  | _ => none

def object? : Value → Option (List (String × Value))
  | object members => some members
  | _ => none

/-- The member of an object under `key`. -/
def get? (v : Value) (key : String) : Option Value :=
  match v with
  | object members => members.lookup key
  | _ => none

/-- An object of members in order, where a repeated key is settled by `put`. -/
def ofMembers (members : List (String × Value)) : Value :=
  object (members.foldl (fun done (key, value) => put done key value) [])

theorem lookup_sizeOf {key : String} {v : Value} {members : List (String × Value)}
    (h : members.lookup key = some v) : sizeOf v < sizeOf members := by
  induction members with
  | nil => simp at h
  | cons m rest ih =>
    obtain ⟨k, w⟩ := m
    by_cases hk : key = k
    · subst hk
      simp only [List.lookup_cons_self, Option.some.injEq] at h
      subst h
      simp only [List.cons.sizeOf_spec, Prod.mk.sizeOf_spec]
      omega
    · rw [lookup_cons_of_ne hk] at h
      have := ih h
      simp only [List.cons.sizeOf_spec]
      omega

mutual

def same : Value → Value → Bool
  | null, null => true
  | bool a, bool b => a == b
  | int a, int b => a == b
  | float a, float b => a.same b
  | text a, text b => a == b
  | date a, date b => decide (a = b)
  | timestamp a, timestamp b => decide (a = b)
  | array as, array bs => sameItems as bs
  | object as, object bs => as.length == bs.length && sameMembers as bs
  | _, _ => false

def sameItems : List Value → List Value → Bool
  | [], [] => true
  | a :: as, b :: bs => same a b && sameItems as bs
  | _, _ => false

/-- Each member of the first list has the same value under its key in the second. -/
def sameMembers : List (String × Value) → List (String × Value) → Bool
  | [], _ => true
  | (key, a) :: as, bs =>
    (match bs.lookup key with
      | some b => same a b
      | none => false) && sameMembers as bs

end

end Value
end Intake
