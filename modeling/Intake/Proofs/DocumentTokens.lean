import Intake.Proofs.DecimalReading
import Intake.Proofs.Documents

/-! # Written documents cut into tokens

The indented and the compact form of a document are cut into the tokens that the document is made
of, whatever the characters of its texts. Only its doubles may have come to be others.
-/

namespace Intake.Json

open Text

mutual

/-- The tokens that a document is made of. -/
def tokensOf : Json → List Token
  | arr items => .openArray :: itemTokens items ++ [.closeArray]
  | obj members => .openObject :: memberTokens members ++ [.closeObject]
  | str s => [.text s]
  | scalar => [.atom scalar]

def itemTokens : List Json → List Token
  | [] => []
  | [item] => tokensOf item
  | item :: rest => tokensOf item ++ .comma :: itemTokens rest

def memberTokens : List (String × Json) → List Token
  | [] => []
  | [(key, value)] => .text key :: .colon :: tokensOf value
  | (key, value) :: rest => .text key :: .colon :: tokensOf value ++ .comma :: memberTokens rest

end

section Texts

theorem hexFrom?_control : ∀ n < 0x20, hexFrom? 0 (padded 4 (hexadecimal n)) = some n := by decide

theorem length_padded_control : ∀ n < 0x20, (padded 4 (hexadecimal n)).length = 4 := by decide

theorem scanned_unit_control {s : Scanned} {c : Char} (single : s.high = none)
    (control : c.toNat < 0x20) : s.unit c.toNat = s.char c := by
  have hHigh : isHighHalf c.toNat = false := by
    simp only [isHighHalf, Bool.and_eq_false_iff, decide_eq_false_iff_not]
    omega
  have hLow : isLowHalf c.toNat = false := by
    simp only [isLowHalf, Bool.and_eq_false_iff, decide_eq_false_iff_not]
    omega
  have hChar : Char.ofNat c.toNat = c := Char.ofNat_toNat c
  unfold Scanned.unit Scanned.char
  simp [single, hHigh, hLow, hChar]

/-- A character is read from its written form. -/
theorem scanText_escapedChar {s : Scanned} (single : s.high = none) (c : Char)
    (rest : List Char) : scanText s (escapedChar c ++ rest) = scanText (s.char c) rest := by
  unfold escapedChar
  split
  · next h => rw [h]; rfl
  split
  · next h => rw [h]; rfl
  split
  · next h => rw [h]; rfl
  split
  · next h => rw [h]; rfl
  split
  · next h => rw [h]; rfl
  split
  · next h => rw [h]; rfl
  split
  · next h => rw [h]; rfl
  split
  · next hControl =>
    have hHex := hexFrom?_control c.toNat hControl
    have hLength := length_padded_control c.toNat hControl
    generalize padded 4 (hexadecimal c.toNat) = digits at hHex hLength
    match digits, hLength with
    | [h₁, h₂, h₃, h₄], _ =>
      simp only [List.cons_append, List.nil_append]
      rw [scanText, hHex]
      exact congrArg (scanText · rest) (scanned_unit_control single hControl)
  · next hQuote hBackslash _ _ _ _ _ hControl =>
    rw [List.singleton_append, scanText]
    · rw [if_neg (by simp [hBackslash, hControl])]
    · exact hQuote
    · rintro _ _ _ _ _ rfl
      exact absurd rfl hBackslash
    · rintro _ _ rfl
      exact absurd rfl hBackslash

theorem scanText_escaped (chars reversed rest : List Char) :
    scanText ⟨reversed, none, true⟩ (chars.flatMap escapedChar ++ '"' :: rest) =
      some (.text (String.ofList (reversed.reverse ++ chars)), rest) := by
  induction chars generalizing reversed with
  | nil => simp [scanText, Scanned.token]
  | cons c chars ih =>
    rw [List.flatMap_cons, List.append_assoc, scanText_escapedChar rfl]
    have hNext := ih (c :: reversed)
    simpa [Scanned.char] using hNext

theorem scan_quoted (s : String) (rest : List Char) :
    scan (quoted s ++ rest) = some (.text s, rest) := by
  have hText : quoted s ++ rest = '"' :: (s.toList.flatMap escapedChar ++ '"' :: rest) := by
    simp [quoted]
  have hScan := scanText_escaped s.toList [] rest
  rw [List.reverse_nil, List.nil_append, String.ofList_toList] at hScan
  rw [hText]
  exact hScan

end Texts

section Scans

variable {n : Numeral} {rest : List Char}

theorem exists_cons_numeral (proper : n.Proper) :
    ∃ c tail, n.text = c :: tail ∧ (c = '-' ∨ isDigit c = true) := by
  obtain ⟨first, others, hWhole⟩ := List.exists_cons_of_ne_nil proper.whole_ne_nil
  unfold Numeral.text
  rw [hWhole]
  cases n.negative with
  | true => exact ⟨'-', _, rfl, .inl rfl⟩
  | false => exact ⟨first, _, rfl, .inr (proper.whole_digits first (hWhole ▸ List.mem_cons_self))⟩

/-- A numeral begins like no other token. -/
theorem scan_numeral (proper : n.Proper) (ends : EndsNumeral rest) :
    scan (n.text ++ rest) = some (n.token, rest) := by
  have hRead := numeral?_text proper ends
  obtain ⟨c, tail, hText, hFirst⟩ := exists_cons_numeral proper
  rw [hText, List.cons_append] at hRead ⊢
  unfold scan
  split
  case h_11 => rw [hRead]; rfl
  all_goals
    next h =>
    obtain ⟨rfl, -⟩ := List.cons.inj h
    rcases hFirst with hFirst | hFirst <;> cases hFirst

theorem tokens_of_scan {c : Char} {text tail : List Char} {token : Token}
    (visible : isSpace c = false) (h : scan (c :: text) = some (token, tail)) :
    tokens (c :: text) = token :: tokens tail := by
  rw [tokens, if_neg (by simp [visible])]
  split
  · next h' =>
    rw [h] at h'
    cases h'
    rfl
  · next h' =>
    rw [h] at h'
    cases h'

theorem tokens_space {c : Char} (space : isSpace c = true) (text : List Char) :
    tokens (c :: text) = tokens text := by
  rw [tokens, if_pos space]

theorem tokens_replicate_space (k : Nat) (text : List Char) :
    tokens (List.replicate k ' ' ++ text) = tokens text := by
  induction k with
  | zero => rfl
  | succ k ih => rw [List.replicate_succ, List.cons_append, tokens_space rfl, ih]

theorem tokens_newLine (depth : Nat) (text : List Char) :
    tokens (newLine depth ++ text) = tokens text := by
  rw [newLine, List.cons_append, tokens_space rfl, tokens_replicate_space]

theorem tokens_quoted (s : String) (rest : List Char) :
    tokens (quoted s ++ rest) = .text s :: tokens rest :=
  tokens_of_scan rfl (scan_quoted s rest)

theorem tokens_numeral (proper : n.Proper) (ends : EndsNumeral rest) :
    tokens (n.text ++ rest) = n.token :: tokens rest := by
  have hScan := scan_numeral proper ends
  obtain ⟨c, tail, hText, hFirst⟩ := exists_cons_numeral proper
  rw [hText, List.cons_append] at hScan ⊢
  refine tokens_of_scan ?_ hScan
  simp only [isSpace, Bool.or_eq_false_iff, decide_eq_false_iff_not]
  refine ⟨⟨⟨?_, ?_⟩, ?_⟩, ?_⟩ <;>
  · rintro rfl
    rcases hFirst with hFirst | hFirst <;> cases hFirst

theorem endsNumeral_nil : EndsNumeral [] := nofun

theorem read?_numeral (proper : n.Proper) : read? n.text = readTokens? [n.token] := by
  have hTokens := tokens_numeral proper endsNumeral_nil
  rw [List.append_nil, tokens] at hTokens
  rw [read?, hTokens]

/-- What the text of a double is read as. -/
def reparsedDouble (x : Double) : Double :=
  match read? (doubleText x) with
  | some (.float y) => y
  | _ => x

theorem read?_doubleText {x y : Double} (proper : n.Proper) (written : n.text = doubleText x)
    (token : n.token = .atom (.float y)) : read? (doubleText x) = some (.float y) := by
  rw [← written, read?_numeral proper, token]
  rfl

theorem reparsedDouble_of_read? {x y : Double} (h : read? (doubleText x) = some (.float y)) :
    reparsedDouble x = y := by
  rw [reparsedDouble, h]

/-- The text of a finite double is read as a double. -/
theorem exists_numeral_reparsed {x : Double} (finite : x.isFinite = true) :
    ∃ n : Numeral, n.Proper ∧ n.text = doubleText x ∧
      n.token = .atom (.float (reparsedDouble x)) := by
  obtain ⟨n, hProper, hText, hInteger, y, hDouble⟩ := exists_numeral_doubleText finite
  have hToken : n.token = .atom (.float y) := by rw [Numeral.token, hInteger, hDouble]
  have hRead : reparsedDouble x = y :=
    reparsedDouble_of_read? (read?_doubleText hProper hText hToken)
  refine ⟨n, hProper, hText, ?_⟩
  rw [hToken, hRead]

mutual

/-- What the text of a document is read as. -/
def reparsed : Json → Json
  | float x => float (reparsedDouble x)
  | arr items => arr (reparsedItems items)
  | obj members => obj (reparsedMembers members)
  | other => other

def reparsedItems : List Json → List Json
  | [] => []
  | item :: rest => reparsed item :: reparsedItems rest

def reparsedMembers : List (String × Json) → List (String × Json)
  | [] => []
  | (key, value) :: rest => (key, reparsed value) :: reparsedMembers rest

end

theorem reparsedItems_eq_map (items : List Json) : reparsedItems items = items.map reparsed := by
  induction items with
  | nil => rfl
  | cons item rest ih => rw [reparsedItems, ih, List.map_cons]

theorem reparsedMembers_eq_map (members : List (String × Json)) :
    reparsedMembers members = members.map fun m => (m.1, reparsed m.2) := by
  induction members with
  | nil => rfl
  | cons m rest ih => rw [reparsedMembers, ih, List.map_cons]

theorem tokens_scalar {j : Json} (document : j.IsDocument) (scalar : ∀ items, j ≠ .arr items)
    (plain : ∀ members, j ≠ .obj members) (ends : EndsNumeral rest) :
    tokens (scalarText j ++ rest) = tokensOf j.reparsed ++ tokens rest := by
  cases document with
  | null => exact tokens_of_scan rfl rfl
  | bool b => cases b <;> exact tokens_of_scan rfl rfl
  | @int i lower upper =>
    obtain ⟨n, hProper, hText, hInteger⟩ := exists_numeral_signedDecimal lower upper
    rw [scalarText, ← hText, tokens_numeral hProper ends, Numeral.token, hInteger]
    rfl
  | @float x finite =>
    obtain ⟨n, hProper, hText, hToken⟩ := exists_numeral_reparsed finite
    rw [scalarText, ← hText, tokens_numeral hProper ends, hToken]
    rfl
  | str s => exact tokens_quoted s rest
  | arr each => exact absurd rfl (scalar _)
  | obj each => exact absurd rfl (plain _)

end Scans

section Containers

variable {rest : List Char} {depth : Nat}

theorem endsNumeral_newLine (depth : Nat) (rest : List Char) :
    EndsNumeral (newLine depth ++ rest) := by
  rintro c ⟨⟩
  decide

theorem endsNumeral_comma (rest : List Char) : EndsNumeral (',' :: rest) := by
  rintro c ⟨⟩
  decide

theorem endsNumeral_close {c : Char} (close : c = ']' ∨ c = '\x7d') (rest : List Char) :
    EndsNumeral (c :: rest) := by
  rintro _ ⟨⟩
  rcases close with rfl | rfl <;> decide

/-- The indented form of a document is cut into the tokens of what it is read as, whatever follows
it. -/
def Cut (j : Json) : Prop :=
  ∀ (depth : Nat) (rest : List Char), EndsNumeral rest →
    tokens (indented depth j ++ rest) = tokensOf j.reparsed ++ tokens rest

theorem tokens_items {items : List Json} (each : ∀ j ∈ items, Cut j) (ends : EndsNumeral rest) :
    tokens (indentedItems depth items ++ rest) =
      itemTokens (reparsedItems items) ++ tokens rest := by
  induction items with
  | nil => rfl
  | cons item others ih =>
    have hItem := each item List.mem_cons_self depth
    cases others with
    | nil =>
      rw [indentedItems, reparsedItems, reparsedItems, itemTokens, List.append_assoc,
        tokens_newLine]
      exact hItem rest ends
    | cons next others =>
      have hOthers := ih fun j hj => each j (List.mem_cons_of_mem _ hj)
      rw [reparsedItems] at hOthers ⊢
      rw [indentedItems, reparsedItems, itemTokens]
      · simp only [List.append_assoc, List.cons_append]
        rw [tokens_newLine, hItem _ (endsNumeral_comma _), tokens_of_scan rfl rfl, hOthers]
      · exact List.cons_ne_nil _ _
      · exact List.cons_ne_nil _ _

theorem tokens_members {members : List (String × Json)} (each : ∀ m ∈ members, Cut m.2)
    (ends : EndsNumeral rest) :
    tokens (indentedMembers depth members ++ rest) =
      memberTokens (reparsedMembers members) ++ tokens rest := by
  induction members with
  | nil => rfl
  | cons m others ih =>
    obtain ⟨key, value⟩ := m
    have hValue := each (key, value) List.mem_cons_self depth
    cases others with
    | nil =>
      rw [indentedMembers, reparsedMembers, reparsedMembers, memberTokens]
      simp only [List.append_assoc, List.cons_append]
      rw [tokens_newLine, tokens_quoted, tokens_of_scan rfl rfl, tokens_space rfl, hValue _ ends]
    | cons next others =>
      obtain ⟨nextKey, nextValue⟩ := next
      have hOthers := ih fun m hm => each m (List.mem_cons_of_mem _ hm)
      rw [reparsedMembers] at hOthers ⊢
      rw [indentedMembers, reparsedMembers, memberTokens]
      · simp only [List.append_assoc, List.cons_append]
        rw [tokens_newLine, tokens_quoted, tokens_of_scan rfl rfl, tokens_space rfl,
          hValue _ (endsNumeral_comma _), tokens_of_scan rfl rfl, hOthers]
      · exact List.cons_ne_nil _ _
      · exact List.cons_ne_nil _ _

theorem cut_of_isDocument {j : Json} (document : j.IsDocument) : Cut j := by
  induction document with
  | @arr items each ih =>
    intro depth rest ends
    match items with
    | [] =>
      change tokens ('[' :: ']' :: rest) = _
      rw [tokens_of_scan rfl rfl, tokens_of_scan rfl rfl]
      rfl
    | item :: others =>
      rw [indented, reparsed, tokensOf]
      · simp only [List.append_assoc, List.cons_append, List.nil_append]
        rw [tokens_of_scan rfl rfl, tokens_items ih (endsNumeral_newLine depth _), tokens_newLine,
          tokens_of_scan rfl rfl]
      · nofun
  | @obj members each ih =>
    intro depth rest ends
    match members with
    | [] =>
      change tokens ('{' :: '}' :: rest) = _
      rw [tokens_of_scan rfl rfl, tokens_of_scan rfl rfl]
      rfl
    | m :: others =>
      rw [indented, reparsed, tokensOf]
      · simp only [List.append_assoc, List.cons_append, List.nil_append]
        rw [tokens_of_scan rfl rfl, tokens_members ih (endsNumeral_newLine depth _),
          tokens_newLine, tokens_of_scan rfl rfl]
      · nofun
  | null => exact fun _ _ ends => tokens_scalar .null nofun nofun ends
  | bool b => exact fun _ _ ends => tokens_scalar (.bool b) nofun nofun ends
  | int lower upper => exact fun _ _ ends => tokens_scalar (.int lower upper) nofun nofun ends
  | float finite => exact fun _ _ ends => tokens_scalar (.float finite) nofun nofun ends
  | str s => exact fun _ _ ends => tokens_scalar (.str s) nofun nofun ends

/-- The text of a document in its file is cut into the tokens of what it is read as. -/
theorem tokens_pretty {j : Json} (document : j.IsDocument) :
    tokens j.pretty.toList = tokensOf j.reparsed := by
  have hCut := cut_of_isDocument document 0 [] endsNumeral_nil
  rw [List.append_nil, tokens, List.append_nil] at hCut
  rw [pretty, String.toList_ofList, hCut]

/-- The compact form of a document is cut into the tokens of what it is read as, whatever follows
it. -/
def CompactCut (j : Json) : Prop :=
  ∀ rest : List Char, EndsNumeral rest →
    tokens (text j ++ rest) = tokensOf j.reparsed ++ tokens rest

theorem tokens_itemsText {items : List Json} (each : ∀ j ∈ items, CompactCut j)
    (ends : EndsNumeral rest) :
    tokens (itemsText items ++ rest) = itemTokens (reparsedItems items) ++ tokens rest := by
  induction items with
  | nil => rfl
  | cons item others ih =>
    have hItem := each item List.mem_cons_self
    cases others with
    | nil => exact hItem rest ends
    | cons next others =>
      have hOthers := ih fun j hj => each j (List.mem_cons_of_mem _ hj)
      rw [reparsedItems] at hOthers ⊢
      rw [itemsText, reparsedItems, itemTokens]
      · simp only [List.append_assoc, List.cons_append]
        rw [hItem _ (endsNumeral_comma _), tokens_of_scan rfl rfl, hOthers]
      · exact List.cons_ne_nil _ _
      · exact List.cons_ne_nil _ _

theorem tokens_membersText {members : List (String × Json)} (each : ∀ m ∈ members, CompactCut m.2)
    (ends : EndsNumeral rest) :
    tokens (membersText members ++ rest) =
      memberTokens (reparsedMembers members) ++ tokens rest := by
  induction members with
  | nil => rfl
  | cons m others ih =>
    obtain ⟨key, value⟩ := m
    have hValue := each (key, value) List.mem_cons_self
    cases others with
    | nil =>
      rw [membersText, reparsedMembers, reparsedMembers, memberTokens]
      simp only [List.append_assoc, List.cons_append]
      rw [tokens_quoted, tokens_of_scan rfl rfl, hValue _ ends]
    | cons next others =>
      obtain ⟨nextKey, nextValue⟩ := next
      have hOthers := ih fun m hm => each m (List.mem_cons_of_mem _ hm)
      rw [reparsedMembers] at hOthers ⊢
      rw [membersText, reparsedMembers, memberTokens]
      · simp only [List.append_assoc, List.cons_append]
        rw [tokens_quoted, tokens_of_scan rfl rfl, hValue _ (endsNumeral_comma _),
          tokens_of_scan rfl rfl, hOthers]
      · exact List.cons_ne_nil _ _
      · exact List.cons_ne_nil _ _

theorem compactCut_of_isDocument {j : Json} (document : j.IsDocument) : CompactCut j := by
  induction document with
  | @arr items each ih =>
    intro rest ends
    rw [text, reparsed, tokensOf]
    simp only [List.append_assoc, List.cons_append, List.nil_append]
    rw [tokens_of_scan rfl rfl, tokens_itemsText ih (endsNumeral_close (.inl rfl) _),
      tokens_of_scan rfl rfl]
  | @obj members each ih =>
    intro rest ends
    rw [text, reparsed, tokensOf]
    simp only [List.append_assoc, List.cons_append, List.nil_append]
    rw [tokens_of_scan rfl rfl, tokens_membersText ih (endsNumeral_close (.inr rfl) _),
      tokens_of_scan rfl rfl]
  | null => exact fun _ ends => tokens_scalar .null nofun nofun ends
  | bool b => exact fun _ ends => tokens_scalar (.bool b) nofun nofun ends
  | int lower upper => exact fun _ ends => tokens_scalar (.int lower upper) nofun nofun ends
  | float finite => exact fun _ ends => tokens_scalar (.float finite) nofun nofun ends
  | str s => exact fun _ ends => tokens_scalar (.str s) nofun nofun ends

/-- The text of a document in a reply is cut into the tokens of what it is read as. -/
theorem tokens_compact {j : Json} (document : j.IsDocument) :
    tokens j.compact.toList = tokensOf j.reparsed := by
  have hCut := compactCut_of_isDocument document [] endsNumeral_nil
  rw [List.append_nil, tokens, List.append_nil] at hCut
  rw [compact, String.toList_ofList, hCut]

end Containers

end Intake.Json
