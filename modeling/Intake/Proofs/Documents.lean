import Intake.Json.Reader

/-! # Documents that are read

Whatever the reader gives back is a document that a text can hold. The reader keeps that of every
container that is not finished.
-/

namespace Intake.Json

/-- The documents that a text can hold: integers of 64 bits, with or without a sign, and doubles
that are finite numbers. -/
inductive IsDocument : Json → Prop where
  | null : IsDocument .null
  | bool (b : Bool) : IsDocument (.bool b)
  | int {n : Int} (lower : -2 ^ 63 ≤ n) (upper : n < 2 ^ 64) : IsDocument (.int n)
  | float {x : Double} (finite : x.isFinite = true) : IsDocument (.float x)
  | str (s : String) : IsDocument (.str s)
  | arr {items : List Json} (each : ∀ j ∈ items, IsDocument j) : IsDocument (.arr items)
  | obj {members : List (String × Json)} (each : ∀ m ∈ members, IsDocument m.2) :
    IsDocument (.obj members)

/-- A token that stands for a value stands for a document. -/
def Token.IsDocument (token : Token) : Prop := ∀ value, token = .atom value → value.IsDocument

theorem Numeral.integer?_bounds {n : Numeral} {i : Int} (h : n.integer? = some i) :
    -2 ^ 63 ≤ i ∧ i < 2 ^ 64 := by
  unfold integer? at h
  dsimp only at h
  split at h
  · cases h
  · split at h
    · split at h
      · cases h
        omega
      · cases h
    · split at h
      · cases h
        omega
      · cases h

theorem Numeral.isFinite_of_double? {n : Numeral} {x : Double} (h : n.double? = some x) :
    x.isFinite = true := by
  unfold double? at h
  obtain ⟨y, hScaled, rfl⟩ := Option.map_eq_some_iff.mp h
  have hFinite : y.isFinite = true := Double.isFinite_of_scaled? hScaled
  exact hFinite

theorem Numeral.isDocument_token (n : Numeral) : n.token.IsDocument := by
  intro value h
  unfold token at h
  split at h
  · next i hInteger =>
    cases h
    obtain ⟨hLower, hUpper⟩ := integer?_bounds hInteger
    exact .int hLower hUpper
  · split at h
    · next x hDouble =>
      cases h
      exact .float (isFinite_of_double? hDouble)
    · cases h

theorem Scanned.isDocument_token (s : Scanned) : s.token.IsDocument := by
  intro value h
  unfold token at h
  split at h <;> cases h

theorem isDocument_of_scanText {s : Scanned} {text rest : List Char} {token : Token}
    (h : scanText s text = some (token, rest)) : token.IsDocument := by
  fun_induction scanText s text with
  | case1 | case4 | case6 | case7 => cases h
  | case2 s =>
    cases h
    exact s.isDocument_token
  | case3 _ _ _ _ _ _ _ _ ih => exact ih h
  | case5 _ _ _ _ _ _ ih => exact ih h
  | case8 _ _ _ _ _ _ _ ih => exact ih h

theorem isDocument_of_scan {text rest : List Char} {token : Token}
    (h : scan text = some (token, rest)) : token.IsDocument := by
  unfold scan at h
  split at h
  case h_7 => exact isDocument_of_scanText h
  case h_8 =>
    cases h
    rintro _ ⟨⟩
    exact .null
  case h_9 =>
    cases h
    rintro _ ⟨⟩
    exact .bool true
  case h_10 =>
    cases h
    rintro _ ⟨⟩
    exact .bool false
  case h_11 =>
    obtain ⟨⟨n, tail⟩, -, hEq⟩ := Option.map_eq_some_iff.mp h
    cases hEq
    exact n.isDocument_token
  all_goals
    cases h
    nofun

theorem isDocument_of_mem_tokens {text : List Char} {token : Token} (h : token ∈ tokens text) :
    token.IsDocument := by
  fun_induction tokens text with
  | case1 => cases h
  | case2 c rest hSpace ih => exact ih h
  | case3 c rest hSpace found tail hScan ih =>
    rcases List.mem_cons.mp h with rfl | h
    · exact isDocument_of_scan hScan
    · exact ih h
  | case4 c rest hSpace hScan =>
    cases List.mem_singleton.mp h
    nofun

/-- An unfinished container holds documents. -/
def Frame.IsDocument : Frame → Prop
  | .items reversed => ∀ j ∈ reversed, j.IsDocument
  | .members done => ∀ m ∈ done, m.2.IsDocument
  | .member done _ => ∀ m ∈ done, m.2.IsDocument

/-- What a step comes to: a document, or containers that hold documents. -/
def StepIsDocument : Json ⊕ (Want × List Frame) → Prop
  | .inl value => value.IsDocument
  | .inr (_, stack) => ∀ frame ∈ stack, frame.IsDocument

theorem mem_put {α : Type} {members : List (String × α)} {key : String} {value : α}
    {m : String × α} (h : m ∈ put members key value) : m ∈ members ∨ m.2 = value := by
  induction members with
  | nil =>
    cases List.mem_singleton.mp h
    exact .inr rfl
  | cons first rest ih =>
    obtain ⟨k, v⟩ := first
    rw [put] at h
    split at h
    · rcases List.mem_cons.mp h with rfl | h
      · exact .inr rfl
      · exact .inl (List.mem_cons_of_mem _ h)
    · rcases List.mem_cons.mp h with rfl | h
      · exact .inl List.mem_cons_self
      · exact (ih h).imp_left (List.mem_cons_of_mem _)

theorem complete_isDocument {value : Json} {stack : List Frame} (hValue : value.IsDocument)
    (hStack : ∀ frame ∈ stack, frame.IsDocument) : StepIsDocument (complete value stack) := by
  match stack with
  | [] => exact hValue
  | .items reversed :: outer =>
    obtain ⟨hHead, hOuter⟩ := List.forall_mem_cons.mp hStack
    exact List.forall_mem_cons.mpr ⟨List.forall_mem_cons.mpr ⟨hValue, hHead⟩, hOuter⟩
  | .member done key :: outer =>
    obtain ⟨hHead, hOuter⟩ := List.forall_mem_cons.mp hStack
    refine List.forall_mem_cons.mpr ⟨fun m hm => ?_, hOuter⟩
    rcases mem_put hm with hm | hm
    · exact hHead m hm
    · exact hm ▸ hValue
  | .members done :: outer => exact hStack

theorem step_isDocument {limit : Nat} {want : Want} {stack : List Frame} {token : Token}
    {next : Json ⊕ (Want × List Frame)} (hToken : token.IsDocument)
    (hStack : ∀ frame ∈ stack, frame.IsDocument) (h : step limit want stack token = some next) :
    StepIsDocument next := by
  unfold step at h
  split at h
  case h_1 | h_6 =>
    cases h
    exact complete_isDocument (hToken _ rfl) hStack
  case h_2 | h_7 =>
    cases h
    exact complete_isDocument (.str _) hStack
  case h_3 | h_4 | h_8 | h_9 =>
    split at h
    · cases h
      exact List.forall_mem_cons.mpr ⟨fun _ hm => absurd hm List.not_mem_nil, hStack⟩
    · cases h
  case h_5 =>
    cases h
    obtain ⟨-, hOuter⟩ := List.forall_mem_cons.mp hStack
    exact complete_isDocument (.arr fun _ hj => absurd hj List.not_mem_nil) hOuter
  case h_15 =>
    cases h
    obtain ⟨hItems, hOuter⟩ := List.forall_mem_cons.mp hStack
    exact complete_isDocument (.arr fun j hj => hItems j (List.mem_reverse.mp hj)) hOuter
  case h_10 | h_17 =>
    cases h
    obtain ⟨hMembers, hOuter⟩ := List.forall_mem_cons.mp hStack
    exact complete_isDocument (.obj hMembers) hOuter
  case h_11 | h_12 =>
    cases h
    obtain ⟨hMembers, hOuter⟩ := List.forall_mem_cons.mp hStack
    exact List.forall_mem_cons.mpr ⟨hMembers, hOuter⟩
  case h_13 | h_14 | h_16 =>
    cases h
    exact hStack
  case h_18 => cases h

theorem run_isDocument {limit : Nat} {want : Want} {stack : List Frame} {tokens rest : List Token}
    {value : Json} (hTokens : ∀ token ∈ tokens, token.IsDocument)
    (hStack : ∀ frame ∈ stack, frame.IsDocument)
    (h : run limit want stack tokens = some (value, rest)) : value.IsDocument := by
  induction tokens generalizing want stack with
  | nil => cases h
  | cons token tokens ih =>
    obtain ⟨hToken, hTokens⟩ := List.forall_mem_cons.mp hTokens
    rw [run] at h
    split at h
    · next value' hStep =>
      cases h
      exact step_isDocument hToken hStack hStep
    · next want' stack' hStep => exact ih hTokens (step_isDocument hToken hStack hStep) h
    · cases h

end Intake.Json
