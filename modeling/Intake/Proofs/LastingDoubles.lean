import Intake.Proofs.DocumentCodec
import Intake.Proofs.DocumentTokens

/-! # Doubles that last

A double of few digits that is neither large nor small is read back from its text. Others may drift
by their last digit. What is written of a value is kept by its text if its doubles are.
-/

namespace Intake

namespace Json

/-- A double that is read back from its text. -/
def Lasting (x : Double) : Prop := read? (doubleText x) = some (.float x)

theorem Lasting.reparsedDouble {x : Double} (lasting : Lasting x) : reparsedDouble x = x :=
  reparsedDouble_of_read? lasting

/-- Fifteen digits are few enough, with the zeros that are written behind them. -/
theorem lasting_of_few_digits {x : Double} (finite : x.isFinite = true)
    (short : (x.shortest .toEven).digits * 10 ^ ((x.shortest .toEven).power + 1).toNat < 2 ^ 53)
    (small : -22 ≤ (x.shortest .toEven).power) : Lasting x := by
  rcases Nat.eq_zero_or_pos x.rank with hZero | hPositive
  · obtain ⟨n, hProper, hText, hInteger, hDouble⟩ := exists_numeral_zero hZero
    exact read?_doubleText hProper hText (by rw [Numeral.token, hInteger, hDouble])
  · obtain ⟨n, hSpells⟩ := exists_spells_doubleText hPositive finite
    have hNear : x.Near n.size := hSpells.size ▸ Double.near_shortest hPositive .toEven
    have hDigits : 0 < (x.shortest .toEven).digits :=
      Double.digits_pos_shortest hPositive .toEven
    -- Sixteen zeros alone would not be short.
    have hPower : (x.shortest .toEven).power ≤ 15 := by
      by_contra hLarge
      have hTen : 10 ^ 16 ≤ 10 ^ ((x.shortest .toEven).power + 1).toNat :=
        Nat.pow_le_pow_right (by decide) (by omega)
      have hProduct := Nat.mul_le_mul hDigits hTen
      omega
    have hExponent : n.exponent.natAbs ≤ 22 := by
      have hLower := hSpells.le_exponent
      have hUpper := hSpells.exponent_le
      omega
    have hDouble : n.double? = some x :=
      Numeral.double?_eq hSpells.sign hPositive finite (hSpells.word_le.trans_lt short) hExponent
        hNear
    exact read?_doubleText hSpells.proper
      (hSpells.written.trans (doubleText_of_finite finite).symm)
      (by rw [Numeral.token, hSpells.fractional, hDouble])

/-- With seventeen digits a double may be read as the next one. -/
theorem reparsedDouble_drifts :
    reparsedDouble (.ofInt 10000000000000022528) = .ofInt 10000000000000024576 := by
  let n : Numeral := ⟨false, ['1'], some "0000000000000023".toList, some 19⟩
  have hProper : n.Proper := by
    refine ⟨List.cons_ne_nil _ _, List.forall_mem_singleton.mpr rfl, nofun, ?_⟩
    rintro _ ⟨rfl⟩
    exact ⟨List.cons_ne_nil _ _, List.all_eq_true.mp rfl⟩
  have hDouble : n.double? = some (.ofInt 10000000000000024576) := by decide +kernel
  exact reparsedDouble_of_read? (read?_doubleText hProper (by decide +kernel)
    (by rw [Numeral.token, show n.integer? = none from rfl, hDouble]))

end Json

namespace Value

/-- The doubles at any depth of a value. -/
inductive HasDouble (x : Double) : Value → Prop where
  | here : HasDouble x (.float x)
  | item {items : List Value} {v : Value} (present : v ∈ items) (h : HasDouble x v) :
    HasDouble x (.array items)
  | member {members : List (String × Value)} {m : String × Value} (present : m ∈ members)
    (h : HasDouble x m.2) : HasDouble x (.object members)

/-- All doubles are read back from their texts. -/
def DoublesLast (v : Value) : Prop := ∀ x, v.HasDouble x → Json.Lasting x

theorem doublesLast_float {x : Double} (lasting : Json.Lasting x) : (float x).DoublesLast := by
  rintro _ ⟨⟩
  exact lasting

theorem doublesLast_object {members : List (String × Value)}
    (each : ∀ m ∈ members, m.2.DoublesLast) : (object members).DoublesLast := by
  rintro x (_ | _ | ⟨present, h⟩)
  exact each _ present x h

theorem reparsed_float {x : Double} (lasting : (float x).DoublesLast) :
    (float x).toJson.reparsed = (float x).toJson := by
  have hLasting : Json.Lasting x := lasting x .here
  rw [toJson]
  split
  · rw [Json.reparsed, hLasting.reparsedDouble]
  · rfl

/-- Written and parsed again, a document is what it was if none of its doubles drifts. -/
theorem reparsed_rewritten {j : Json} (document : j.IsDocument)
    (lasting : (ofJson j).DoublesLast) : (rewritten j).reparsed = rewritten j := by
  induction document with
  | null | bool _ | str _ => rfl
  | @int n lower upper =>
    by_cases hSigned : -2 ^ 63 ≤ n ∧ n < 2 ^ 63
    · rw [rewritten_int_of_lt hSigned]
      rfl
    · rw [ofJson, ofInteger, if_neg hSigned] at lasting
      rw [rewritten_int_of_not hSigned]
      exact reparsed_float lasting
  | float finite => exact reparsed_float lasting
  | @arr items each ih =>
    have hEach : ∀ item ∈ items, (rewritten item).reparsed = rewritten item := by
      refine fun item hItem => ih item hItem fun x hDouble => lasting x ?_
      rw [ofJson, ofItems_eq_map]
      exact .item (List.mem_map_of_mem hItem) hDouble
    rw [rewritten_arr, Json.reparsed, Json.reparsedItems_eq_map, List.map_map]
    exact congrArg Json.arr (List.map_congr_left hEach)
  | @obj members each ih =>
    cases h : wrapped? members with
    | some native =>
      rw [rewritten, ofJson_obj_of_wrapped h]
      rcases native_of_wrapped? h with ⟨t, rfl, -⟩ | ⟨t, rfl⟩ <;> rfl
    | none =>
      have hEach : ∀ m ∈ members, (rewritten m.2).reparsed = rewritten m.2 := by
        refine fun m hm => ih m hm fun x hDouble => lasting x ?_
        rw [ofJson_obj_of_plain h]
        exact .member (m := (m.1, ofJson m.2)) (List.mem_map_of_mem hm) hDouble
      rw [rewritten_obj_of_plain h, Json.reparsed, Json.reparsedMembers_eq_map, List.map_map]
      refine congrArg Json.obj (List.map_congr_left fun m hm => ?_)
      exact congrArg (Prod.mk m.1) (hEach m hm)

end Value

end Intake
