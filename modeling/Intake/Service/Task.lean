import Intake.Event
import Intake.Service.Error
import Intake.Store

/-! # Tasks

A task is what an operation does, step by step: calls to the store, notices to the log, counts and
looks at the counters.
`Task.run` does all the steps of one task in a row; tasks that run at the same time take turns
between steps.
-/

namespace Intake

/-- A line of the log. -/
inductive Notice where
  | done (event : Event)
  | rejected (event : Event) (code : String)
  | failed (event : Event) (code : String)
  | definition (notice : DefinitionNotice)
deriving DecidableEq

inductive Task (α : Type) : Type 1 where
  | done (a : α)
  | call {β : Type} (call : StoreCall β) (next : Except StorageError β → Task α)
  | note (notice : Notice) (next : Task α)
  | count (counter : Counter) (next : Task α)
  | read (next : Counters → Task α)

/-- A service: its store and the counters of its work. -/
structure Service where
  store : Store := {}
  counters : Counters := .zero

/-- The result of a task that has run to its end. -/
structure Ran (α : Type) where
  result : α
  service : Service
  log : List Notice

namespace Task

def bind {α β : Type} : Task α → (α → Task β) → Task β
  | done a, f => f a
  | call c next, f => call c fun r => (next r).bind f
  | note n next, f => note n (next.bind f)
  | count c next, f => count c (next.bind f)
  | read next, f => read fun c => (next c).bind f

instance : Monad Task where
  pure := done
  bind := bind

theorem bind_done {α : Type} (t : Task α) : t.bind done = t := by
  induction t with
  | done a => rfl
  | call c next ih => simp [bind, ih]
  | note n next ih => simp [bind, ih]
  | count c next ih => simp [bind, ih]
  | read next ih => simp [bind, ih]

theorem bind_assoc {α β γ : Type} (t : Task α) (f : α → Task β) (g : β → Task γ) :
    (t.bind f).bind g = t.bind fun a => (f a).bind g := by
  induction t with
  | done a => rfl
  | call c next ih => simp [bind, ih]
  | note n next ih => simp [bind, ih]
  | count c next ih => simp [bind, ih]
  | read next ih => simp [bind, ih]

instance : LawfulMonad Task where
  map_const := rfl
  id_map := bind_done
  seqLeft_eq t u := by
    simp only [SeqLeft.seqLeft, Seq.seq, Functor.map, bind_assoc]
    rfl
  seqRight_eq t u := by
    simp [SeqRight.seqRight, Seq.seq, Functor.map, bind_assoc, bind, bind_done]
  pure_seq _ _ := rfl
  bind_pure_comp _ _ := rfl
  bind_map _ _ := rfl
  pure_bind _ _ := rfl
  bind_assoc := bind_assoc

def run {α : Type} : Task α → Service → Ran α
  | done a, s => ⟨a, s, []⟩
  | call c next, s =>
    let (r, store) := Store.perform c s.store
    (next r).run { s with store := store }
  | note n next, s =>
    let ran := next.run s
    { ran with log := n :: ran.log }
  | count c next, s => next.run { s with counters := s.counters.bump c }
  | read next, s => (next s.counters).run s

end Task

end Intake
