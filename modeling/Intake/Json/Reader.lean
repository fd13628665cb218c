import Intake.Json.Token

/-! # Reading documents

A document is read by a machine with a stack of unfinished containers, one token at a time. The
height of the stack is bounded by `deepest`. `read?` wants the whole text to be one document.
-/

namespace Intake.Json

/-- A container that has been opened and not yet closed; what it holds is kept in order for
members and in reverse for items. -/
inductive Frame where
  | items (reversed : List Json)
  | members (done : List (String × Json))
  | member (done : List (String × Json)) (key : String)

/-- What the next token has to be. -/
inductive Want where
  | value
  | firstItem
  | firstKey
  | key
  | colon
  | separator
deriving DecidableEq

/-- Containers nested deeper than this are refused. -/
def deepest : Nat := 127

/-- A finished value goes to the container around it, or is the document itself. -/
def complete (value : Json) : List Frame → Json ⊕ (Want × List Frame)
  | [] => .inl value
  | .items reversed :: stack => .inr (.separator, .items (value :: reversed) :: stack)
  | .member done key :: stack => .inr (.separator, .members (put done key value) :: stack)
  | .members done :: stack => .inr (.separator, .members done :: stack)

/-- The effect of one token: a finished document or the next state; `none` is a fault. -/
def step (limit : Nat) (want : Want) (stack : List Frame) (token : Token) :
    Option (Json ⊕ (Want × List Frame)) :=
  match want, stack, token with
  | .value, _, .atom value => some (complete value stack)
  | .value, _, .text s => some (complete (.str s) stack)
  | .value, _, .openArray =>
    if stack.length < limit then some (.inr (.firstItem, .items [] :: stack)) else none
  | .value, _, .openObject =>
    if stack.length < limit then some (.inr (.firstKey, .members [] :: stack)) else none
  | .firstItem, .items [] :: outer, .closeArray => some (complete (.arr []) outer)
  | .firstItem, _, .atom value => some (complete value stack)
  | .firstItem, _, .text s => some (complete (.str s) stack)
  | .firstItem, _, .openArray =>
    if stack.length < limit then some (.inr (.firstItem, .items [] :: stack)) else none
  | .firstItem, _, .openObject =>
    if stack.length < limit then some (.inr (.firstKey, .members [] :: stack)) else none
  | .firstKey, .members [] :: outer, .closeObject => some (complete (.obj []) outer)
  | .firstKey, .members done :: outer, .text key => some (.inr (.colon, .member done key :: outer))
  | .key, .members done :: outer, .text key => some (.inr (.colon, .member done key :: outer))
  | .colon, _, .colon => some (.inr (.value, stack))
  | .separator, .items _ :: _, .comma => some (.inr (.value, stack))
  | .separator, .items reversed :: outer, .closeArray =>
    some (complete (.arr reversed.reverse) outer)
  | .separator, .members _ :: _, .comma => some (.inr (.key, stack))
  | .separator, .members done :: outer, .closeObject => some (complete (.obj done) outer)
  | _, _, _ => none

/-- Reads one document and gives back the tokens behind it. -/
def run (limit : Nat) (want : Want) (stack : List Frame) :
    List Token → Option (Json × List Token)
  | [] => none
  | token :: rest =>
    match step limit want stack token with
    | some (.inl value) => some (value, rest)
    | some (.inr (want, stack)) => run limit want stack rest
    | none => none

theorem run_length {limit : Nat} {want : Want} {stack : List Frame} {tokens rest : List Token}
    {value : Json} (h : run limit want stack tokens = some (value, rest)) :
    rest.length < tokens.length := by
  induction tokens generalizing want stack with
  | nil => simp [run] at h
  | cons t ts ih =>
    simp only [run] at h
    split at h
    · simp only [Option.some.injEq, Prod.mk.injEq] at h
      simp [h.2]
    · have := ih h
      simp only [List.length_cons]
      omega
    · simp at h

def readTokens? (tokens : List Token) : Option Json :=
  match run deepest .value [] tokens with
  | some (value, []) => some value
  | _ => none

def read? (text : List Char) : Option Json := readTokens? (tokens text)

end Intake.Json
