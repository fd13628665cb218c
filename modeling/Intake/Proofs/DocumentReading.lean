import Intake.Proofs.DocumentTokens
import Intake.Proofs.Members

/-! # Written documents read back

A document whose objects have no key twice is read from its tokens, if the reader admits as many
containers inside each other as it has. Whatever the reader gives back is such a document.
-/

namespace Intake.Json

/-- Containers lie at most `depth` deep in each other, and no object has a key twice. -/
inductive Regular : Nat → Json → Prop where
  | null {depth : Nat} : Regular depth .null
  | bool {depth : Nat} (b : Bool) : Regular depth (.bool b)
  | int {depth : Nat} (n : Int) : Regular depth (.int n)
  | float {depth : Nat} (x : Double) : Regular depth (.float x)
  | str {depth : Nat} (s : String) : Regular depth (.str s)
  | arr {depth : Nat} {items : List Json} (each : ∀ j ∈ items, Regular depth j) :
    Regular (depth + 1) (.arr items)
  | obj {depth : Nat} {members : List (String × Json)} (each : ∀ m ∈ members, Regular depth m.2)
    (distinct : (members.map Prod.fst).Nodup) : Regular (depth + 1) (.obj members)

/-- What is read of a document's text has the shape of the document. -/
theorem Regular.reparsed {depth : Nat} {j : Json} (regular : j.Regular depth) :
    j.reparsed.Regular depth := by
  induction regular with
  | null => exact .null
  | bool b => exact .bool b
  | int n => exact .int n
  | float x => exact .float _
  | str s => exact .str s
  | arr each ih =>
    rw [Json.reparsed, reparsedItems_eq_map]
    exact .arr (List.forall_mem_map.mpr ih)
  | obj each distinct ih =>
    rw [Json.reparsed, reparsedMembers_eq_map]
    refine .obj (List.forall_mem_map.mpr ih) ?_
    rwa [List.map_map]

section Runs

variable {limit depth : Nat} {outer stack : List Frame}

/-- How the reader goes on after a step. -/
def goOn (limit : Nat) : Json ⊕ (Want × List Frame) → List Token → Option (Json × List Token)
  | .inl value, rest => some (value, rest)
  | .inr (want, stack), rest => run limit want stack rest

theorem run_of_step {want : Want} {token : Token} (next : Json ⊕ (Want × List Frame))
    (h : step limit want stack token = some next) (rest : List Token) :
    run limit want stack (token :: rest) = goOn limit next rest := by
  rw [run, h]
  rcases next with value | ⟨want', stack'⟩ <;> rfl

/-- A value may stand here, at the beginning of an array or elsewhere. -/
def Want.admitsValue (want : Want) : Prop := want = .value ∨ want = .firstItem

/-- The tokens of a document bring the reader to where the document is complete. -/
def Readable (depth : Nat) (j : Json) : Prop :=
  ∀ (limit : Nat) (want : Want) (stack : List Frame) (rest : List Token), want.admitsValue →
    stack.length + depth ≤ limit →
    run limit want stack (tokensOf j ++ rest) = goOn limit (complete j stack) rest

theorem readable_atom (j : Json) (scalar : tokensOf j = [.atom j]) : Readable depth j := by
  intro limit want stack rest begins _
  rw [scalar]
  refine run_of_step _ ?_ rest
  rcases begins with rfl | rfl <;> rw [step]

theorem readable_str (s : String) : Readable depth (.str s) := by
  intro limit want stack rest begins _
  rw [tokensOf]
  refine run_of_step _ ?_ rest
  rcases begins with rfl | rfl <;> rw [step]

theorem run_openArray {want : Want} (begins : want.admitsValue) (room : stack.length < limit)
    (rest : List Token) :
    run limit want stack (.openArray :: rest) =
      run limit .firstItem (.items [] :: stack) rest := by
  refine run_of_step (.inr (.firstItem, .items [] :: stack)) ?_ rest
  rcases begins with rfl | rfl <;> rw [step, if_pos room]

theorem run_openObject {want : Want} (begins : want.admitsValue) (room : stack.length < limit)
    (rest : List Token) :
    run limit want stack (.openObject :: rest) =
      run limit .firstKey (.members [] :: stack) rest := by
  refine run_of_step (.inr (.firstKey, .members [] :: stack)) ?_ rest
  rcases begins with rfl | rfl <;> rw [step, if_pos room]

theorem itemTokens_cons_cons (item next : Json) (others : List Json) :
    itemTokens (item :: next :: others) =
      tokensOf item ++ .comma :: itemTokens (next :: others) := by
  rw [itemTokens]
  exact List.cons_ne_nil _ _

theorem memberTokens_cons_cons (key : String) (value : Json) (next : String × Json)
    (others : List (String × Json)) :
    memberTokens ((key, value) :: next :: others) =
      .text key :: .colon :: tokensOf value ++ .comma :: memberTokens (next :: others) := by
  rw [memberTokens]
  exact List.cons_ne_nil _ _

theorem run_items {items : List Json} (each : ∀ j ∈ items, Readable depth j)
    (room : outer.length + 1 + depth ≤ limit) {want : Want} (begins : want.admitsValue)
    (nonempty : items ≠ []) (reversed : List Json) (rest : List Token) :
    run limit want (.items reversed :: outer) (itemTokens items ++ .closeArray :: rest) =
      goOn limit (complete (.arr (reversed.reverse ++ items)) outer) rest := by
  induction items generalizing want reversed with
  | nil => exact absurd rfl nonempty
  | cons item others ih =>
    have hItem (rest : List Token) :
        run limit want (.items reversed :: outer) (tokensOf item ++ rest) =
          run limit .separator (.items (item :: reversed) :: outer) rest :=
      each item List.mem_cons_self limit want (.items reversed :: outer) rest begins
        (by simpa using room)
    cases others with
    | nil =>
      rw [itemTokens, hItem, run_of_step (complete _ outer) rfl, List.reverse_cons]
    | cons next others =>
      have hOthers := ih (fun j hj => each j (List.mem_cons_of_mem _ hj)) (.inl rfl)
        (List.cons_ne_nil _ _) (item :: reversed)
      rw [itemTokens_cons_cons, List.append_assoc, hItem, List.cons_append,
        run_of_step (.inr (.value, _)) rfl, goOn, hOthers, List.reverse_cons,
        List.append_assoc, List.singleton_append]

theorem put_append {α : Type} {members : List (String × α)} {key : String} {value : α}
    (fresh : key ∉ members.map Prod.fst) :
    put members key value = members ++ [(key, value)] := by
  induction members with
  | nil => rfl
  | cons m rest ih =>
    obtain ⟨k, v⟩ := m
    rw [List.map_cons, List.mem_cons, not_or] at fresh
    rw [put, if_neg (Ne.symm fresh.1), ih fresh.2, List.cons_append]

theorem run_members {members : List (String × Json)} (each : ∀ m ∈ members, Readable depth m.2)
    (room : outer.length + 1 + depth ≤ limit) {want : Want}
    (begins : want = .firstKey ∨ want = .key) (nonempty : members ≠ [])
    (done : List (String × Json)) (distinct : ((done ++ members).map Prod.fst).Nodup)
    (rest : List Token) :
    run limit want (.members done :: outer) (memberTokens members ++ .closeObject :: rest) =
      goOn limit (complete (.obj (done ++ members)) outer) rest := by
  induction members generalizing want done with
  | nil => exact absurd rfl nonempty
  | cons m others ih =>
    obtain ⟨key, value⟩ := m
    have hFresh : key ∉ done.map Prod.fst := by
      rw [List.map_append, List.nodup_append] at distinct
      intro hMem
      exact distinct.2.2 key hMem key (by simp) rfl
    have hKey (rest : List Token) :
        run limit want (.members done :: outer) (.text key :: .colon :: rest) =
          run limit .value (.member done key :: outer) rest := by
      rw [run_of_step (.inr (.colon, .member done key :: outer)), goOn,
        run_of_step (.inr (.value, .member done key :: outer)) rfl, goOn]
      rcases begins with rfl | rfl <;> rw [step]
    have hValue (rest : List Token) :
        run limit .value (.member done key :: outer) (tokensOf value ++ rest) =
          run limit .separator (.members (done ++ [(key, value)]) :: outer) rest := by
      rw [← put_append hFresh]
      exact each (key, value) List.mem_cons_self limit .value (.member done key :: outer) rest
        (.inl rfl) (by simpa using room)
    cases others with
    | nil =>
      rw [memberTokens, List.cons_append, List.cons_append, hKey, hValue,
        run_of_step (complete _ outer) rfl]
    | cons next others =>
      have hSplit : done ++ (key, value) :: next :: others =
          done ++ [(key, value)] ++ next :: others := by simp
      have hOthers := ih (fun m hm => each m (List.mem_cons_of_mem _ hm)) (.inr rfl)
        (List.cons_ne_nil _ _) (done ++ [(key, value)]) (hSplit ▸ distinct)
      rw [memberTokens_cons_cons]
      simp only [List.append_assoc, List.cons_append]
      rw [hKey, hValue, run_of_step (.inr (.key, _)) rfl, goOn, hOthers]
      simp

theorem readable_of_regular {j : Json} (regular : Regular depth j) : Readable depth j := by
  induction regular with
  | null => exact readable_atom _ rfl
  | bool b => exact readable_atom _ rfl
  | int n => exact readable_atom _ rfl
  | float x => exact readable_atom _ rfl
  | str s => exact readable_str s
  | @arr depth items each ih =>
    intro limit want stack rest begins room
    have hOpen : stack.length < limit := by omega
    rw [tokensOf, List.cons_append, List.cons_append, List.append_assoc,
      run_openArray begins hOpen]
    by_cases hItems : items = []
    · rw [hItems]
      exact run_of_step (complete (.arr []) stack) rfl rest
    · exact run_items ih (by omega) (.inr rfl) hItems [] rest
  | @obj depth members each distinct ih =>
    intro limit want stack rest begins room
    have hOpen : stack.length < limit := by omega
    rw [tokensOf, List.cons_append, List.cons_append, List.append_assoc,
      run_openObject begins hOpen]
    by_cases hMembers : members = []
    · rw [hMembers]
      exact run_of_step (complete (.obj []) stack) rfl rest
    · exact run_members ih (by omega) (.inl rfl) hMembers [] distinct rest

/-- The tokens of a document are read as the document. -/
theorem run_tokensOf {j : Json} (regular : Regular limit j) (rest : List Token) :
    run limit .value [] (tokensOf j ++ rest) = some (j, rest) :=
  readable_of_regular regular limit .value [] rest (.inl rfl) (by simp)

end Runs

section Results

variable {limit : Nat}

theorem ne_atom_of_scanText {s : Scanned} {text rest : List Char} {token : Token}
    (h : scanText s text = some (token, rest)) (value : Json) : token ≠ .atom value := by
  fun_induction scanText s text with
  | case1 | case4 | case6 | case7 => cases h
  | case2 s =>
    cases h
    unfold Scanned.token
    intro hSame
    split at hSame <;> cases hSame
  | case3 _ _ _ _ _ _ _ _ ih => exact ih h
  | case5 _ _ _ _ _ _ ih => exact ih h
  | case8 _ _ _ _ _ _ _ ih => exact ih h

/-- A token that stands for a value stands for one that holds no other. -/
theorem regular_of_scan {text rest : List Char} {value : Json}
    (h : scan text = some (.atom value, rest)) (depth : Nat) : Regular depth value := by
  unfold scan at h
  split at h
  case h_7 => exact absurd rfl (ne_atom_of_scanText h value)
  case h_8 =>
    cases h
    exact .null
  case h_9 | h_10 =>
    cases h
    exact .bool _
  case h_11 =>
    obtain ⟨⟨n, tail⟩, -, hEq⟩ := Option.map_eq_some_iff.mp h
    simp only [Prod.mk.injEq] at hEq
    have hToken := hEq.1
    unfold Numeral.token at hToken
    split at hToken
    · cases hToken
      exact .int _
    · split at hToken
      · cases hToken
        exact .float _
      · cases hToken
  all_goals cases h

theorem regular_of_mem_tokens {text : List Char} {value : Json} (h : .atom value ∈ tokens text)
    (depth : Nat) : Regular depth value := by
  fun_induction tokens text with
  | case1 => cases h
  | case2 c rest hSpace ih => exact ih h
  | case3 c rest hSpace found tail hScan ih =>
    rcases List.mem_cons.mp h with rfl | h
    · exact regular_of_scan hScan depth
    · exact ih h
  | case4 c rest hSpace hScan => cases List.mem_singleton.mp h

/-- What an unfinished container holds may stand in a container at its depth. -/
def Frame.Regular (depth : Nat) : Frame → Prop
  | .items reversed => ∀ j ∈ reversed, j.Regular depth
  | .members done => (∀ m ∈ done, m.2.Regular depth) ∧ (done.map Prod.fst).Nodup
  | .member done _ => (∀ m ∈ done, m.2.Regular depth) ∧ (done.map Prod.fst).Nodup

/-- The open containers are not too many, and each has the less room the more are around it. -/
def StackRegular (limit : Nat) : List Frame → Prop
  | [] => True
  | frame :: outer =>
    (∃ depth, limit = outer.length + 1 + depth ∧ frame.Regular depth) ∧ StackRegular limit outer

def StepRegular (limit : Nat) : Json ⊕ (Want × List Frame) → Prop
  | .inl value => value.Regular limit
  | .inr (_, stack) => StackRegular limit stack

theorem complete_regular {value : Json} {stack : List Frame} {depth : Nat}
    (room : limit = stack.length + depth) (hValue : value.Regular depth)
    (hStack : StackRegular limit stack) : StepRegular limit (complete value stack) := by
  match stack with
  | [] =>
    obtain rfl : limit = depth := by simpa using room
    exact hValue
  | frame :: outer =>
    obtain ⟨⟨depth', hRoom, hFrame⟩, hOuter⟩ := hStack
    obtain rfl : depth = depth' := by
      rw [List.length_cons] at room
      omega
    match frame with
    | .items reversed =>
      exact ⟨⟨depth, hRoom, List.forall_mem_cons.mpr ⟨hValue, hFrame⟩⟩, hOuter⟩
    | .members done => exact ⟨⟨depth, hRoom, hFrame⟩, hOuter⟩
    | .member done key =>
      refine ⟨⟨depth, hRoom, fun m hm => ?_, nodup_keys_put hFrame.2 key value⟩, hOuter⟩
      rcases mem_put hm with hm | hm
      · exact hFrame.1 m hm
      · exact hm ▸ hValue

theorem step_regular {want : Want} {stack : List Frame} {token : Token}
    {next : Json ⊕ (Want × List Frame)}
    (hToken : ∀ value, token = .atom value → ∀ depth, value.Regular depth)
    (hStack : StackRegular limit stack) (hRoom : stack.length ≤ limit)
    (h : step limit want stack token = some next) : StepRegular limit next := by
  obtain ⟨depth, hDepth⟩ := Nat.exists_eq_add_of_le hRoom
  unfold step at h
  split at h
  case h_1 | h_6 =>
    cases h
    exact complete_regular hDepth (hToken _ rfl depth) hStack
  case h_2 | h_7 =>
    cases h
    exact complete_regular hDepth (.str _) hStack
  case h_3 | h_8 =>
    split at h
    · next hOpen =>
      cases h
      obtain ⟨inner, hInner⟩ := Nat.exists_eq_add_of_lt hOpen
      exact ⟨⟨inner, by omega, nofun⟩, hStack⟩
    · cases h
  case h_4 | h_9 =>
    split at h
    · next hOpen =>
      cases h
      obtain ⟨inner, hInner⟩ := Nat.exists_eq_add_of_lt hOpen
      exact ⟨⟨inner, by omega, nofun, List.nodup_nil⟩, hStack⟩
    · cases h
  case h_5 =>
    cases h
    obtain ⟨⟨inner, hInner, -⟩, hOuter⟩ := hStack
    exact complete_regular (by omega : limit = _ + (inner + 1)) (.arr nofun) hOuter
  case h_15 =>
    cases h
    obtain ⟨⟨inner, hInner, hItems⟩, hOuter⟩ := hStack
    exact complete_regular (by omega : limit = _ + (inner + 1))
      (.arr fun j hj => hItems j (List.mem_reverse.mp hj)) hOuter
  case h_10 | h_17 =>
    cases h
    obtain ⟨⟨inner, hInner, hMembers, hDistinct⟩, hOuter⟩ := hStack
    exact complete_regular (by omega : limit = _ + (inner + 1)) (.obj hMembers hDistinct) hOuter
  case h_11 | h_12 =>
    cases h
    exact hStack
  case h_13 | h_14 | h_16 =>
    cases h
    exact hStack
  case h_18 => cases h

theorem length_le_of_stackRegular {stack : List Frame} (h : StackRegular limit stack) :
    stack.length ≤ limit := by
  cases stack with
  | nil => exact Nat.zero_le _
  | cons frame outer =>
    obtain ⟨⟨depth, hRoom, -⟩, -⟩ := h
    rw [List.length_cons]
    omega

theorem run_regular {want : Want} {stack : List Frame} {tokens rest : List Token} {value : Json}
    (hTokens : ∀ value, .atom value ∈ tokens → ∀ depth, value.Regular depth)
    (hStack : StackRegular limit stack)
    (h : run limit want stack tokens = some (value, rest)) : value.Regular limit := by
  induction tokens generalizing want stack with
  | nil => cases h
  | cons token tokens ih =>
    -- The limit is spent by the open containers, so that a value inside them may be less deep.
    have hStep {next} (hNext : step limit want stack token = some next) : StepRegular limit next :=
      step_regular (fun value hToken => hTokens value (hToken ▸ List.mem_cons_self)) hStack
        (length_le_of_stackRegular hStack) hNext
    rw [run] at h
    split at h
    · next value' hNext =>
      cases h
      exact hStep hNext
    · next want' stack' hNext =>
      exact ih (fun value hMem => hTokens value (List.mem_cons_of_mem _ hMem)) (hStep hNext) h
    · cases h

end Results

end Intake.Json
