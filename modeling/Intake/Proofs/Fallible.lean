/-! # Results that may fail

How a success or a failure of a composed computation comes from its parts.
-/

namespace Intake

variable {ε α β : Type}

theorem map_eq_ok_iff {x : Except ε α} {f : α → β} {b : β} :
    x.map f = .ok b ↔ ∃ a, x = .ok a ∧ f a = b := by
  cases x <;> simp [Except.map]

theorem bind_eq_ok_iff {x : Except ε α} {f : α → Except ε β} {b : β} :
    (do let a ← x; f a) = .ok b ↔ ∃ a, x = .ok a ∧ f a = .ok b := by
  cases x <;> simp [bind, Except.bind]

theorem seq_eq_ok_iff {x y : Except ε Unit} :
    (do x; y) = .ok () ↔ x = .ok () ∧ y = .ok () := by
  cases x <;> simp [bind, Except.bind]

/-- Fails with the first of some errors, if there are any. -/
def firstOf : List ε → Except ε Unit
  | [] => .ok ()
  | e :: _ => .error e

theorem firstOf_append (xs ys : List ε) :
    firstOf (xs ++ ys) = (do firstOf xs; firstOf ys) := by
  cases xs <;> rfl

theorem firstOf_eq_ok_iff {xs : List ε} : firstOf xs = .ok () ↔ xs = [] := by
  cases xs <;> simp [firstOf]

theorem firstOf_eq_error_iff {xs : List ε} {e : ε} :
    firstOf xs = .error e ↔ xs.head? = some e := by
  cases xs <;> simp [firstOf]

theorem mem_of_firstOf {xs : List ε} {e : ε} (h : firstOf xs = .error e) : e ∈ xs :=
  List.mem_of_head? (firstOf_eq_error_iff.mp h)

/-- Whether a computation fails and with what, whatever its result. -/
def settled (x : Except ε α) : Except ε Unit := x.map fun _ => ()

theorem settled_eq_ok_iff {x : Except ε α} : settled x = .ok () ↔ ∃ a, x = .ok a := by
  cases x <;> simp [settled, Except.map]

theorem settled_eq_error_iff {x : Except ε α} {e : ε} : settled x = .error e ↔ x = .error e := by
  cases x <;> simp [settled, Except.map]

theorem settled_map (f : α → β) (x : Except ε α) : settled (x.map f) = settled x := by
  cases x <;> rfl

end Intake
