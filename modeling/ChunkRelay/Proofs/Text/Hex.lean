import Mathlib.Tactic.IntervalCases
import ChunkRelay.Text.Hex
import ChunkRelay.Proofs.Number.Numeral

/-! # What hexadecimal text writes

The hexadecimal text of an integer writes it, filled to whatever width, and the case of the letters
does not matter.
-/

namespace ChunkRelay

open Numeral (Spells IsSign Writes digit? digitOf? valueOf)

variable {base : Nat} {text text' : List Char}

/-! ## Letter case -/

namespace Numeral

theorem toLower_cases (c : Char) :
    c.toLower = c ∨ digit? c.toLower = digit? c ∧ c.toLower ≠ '-' ∧ c.toLower ≠ '+' := by
  by_cases capital : 0x41 ≤ c.toNat ∧ c.toNat ≤ 0x5A
  · right
    have each : ∀ n, 0x41 ≤ n → n ≤ 0x5A →
        let c := Char.ofNat n
        digit? c.toLower = digit? c ∧ c.toLower ≠ '-' ∧ c.toLower ≠ '+' := by
      intro n low high
      interval_cases n <;> decide
    simpa using each c.toNat capital.1 capital.2
  · left
    exact dif_neg capital

theorem digit?_toLower (c : Char) : digit? c.toLower = digit? c := by
  rcases toLower_cases c with same | ⟨same, -⟩
  · rw [same]
  · exact same

theorem Spells.recased {digits : List Nat} (spells : Spells base text digits)
    (alike : text'.map Char.toLower = text.map Char.toLower) : Spells base text' digits := by
  have lower (text : List Char) :
      text.map (digitOf? base) = (text.map Char.toLower).map (digitOf? base) := by
    rw [List.map_map]
    refine List.map_congr_left fun c _ => ?_
    rw [Function.comp_apply, digitOf?, digitOf?, digit?_toLower]
  rw [Spells, lower, alike, ← lower, spells]

theorem IsSign.recased {signs signs' : List Char} {negative : Bool} (isSign : IsSign signs negative)
    (alike : signs'.map Char.toLower = signs.map Char.toLower) : signs' = signs := by
  cases isSign with
  | none => exact List.map_eq_nil_iff.mp alike
  | minus =>
      obtain ⟨c, rfl, lower⟩ := List.map_eq_singleton_iff.mp alike
      rcases toLower_cases c with same | ⟨-, other, -⟩
      · rw [← same, lower]
        rfl
      · exact absurd lower other
  | plus =>
      obtain ⟨c, rfl, lower⟩ := List.map_eq_singleton_iff.mp alike
      rcases toLower_cases c with same | ⟨-, -, other⟩
      · rw [← same, lower]
        rfl
      · exact absurd lower other

/-- The case of the letters does not matter to what is written. -/
theorem Writes.recased {n : Int} (writes : Writes text n)
    (alike : text'.map Char.toLower = text.map Char.toLower) : Writes text' n := by
  obtain ⟨isSign, spells, some_⟩ := writes
  rw [List.map_append] at alike
  obtain ⟨signs', digits', rfl, alikeSigns, alikeDigits⟩ := List.map_eq_append_iff.mp alike
  rw [isSign.recased alikeSigns]
  refine .signed isSign (spells.recased alikeDigits) ?_
  rintro rfl
  exact some_ (List.map_eq_nil_iff.mp alikeDigits.symm)

end Numeral

/-! ## Filled text -/

namespace Hex

theorem digitOf?_digitChar {d : Nat} (small : d < 16) : digitOf? 16 d.digitChar = some d := by
  interval_cases d <;> rfl

theorem toDigits_spelled (n : Nat) :
    ∃ digits, Spells 16 (Nat.toDigits 16 n) digits ∧ valueOf 16 digits = n := by
  induction n using Nat.strongRecOn with
  | ind n ih =>
      by_cases small : n < 16
      · rw [Nat.toDigits_of_lt_base small]
        refine ⟨[n], congrArg (fun d => [d]) (digitOf?_digitChar small), ?_⟩
        simp [valueOf]
      · -- All but the last digit write the number of sixteens.
        obtain ⟨digits, spells, value⟩ := ih (n / 16) (by omega)
        have last : Spells 16 [(n % 16).digitChar] [n % 16] :=
          congrArg (fun d => [d]) (digitOf?_digitChar (Nat.mod_lt n (by decide)))
        rw [Nat.toDigits_of_base_le (by decide) (by omega)]
        refine ⟨digits ++ [n % 16], spells.append last, ?_⟩
        rw [Numeral.valueOf_snoc, value]
        omega

theorem zeros_spelled (count : Nat) :
    Spells 16 (List.replicate count '0') (List.replicate count 0) := by
  rw [Spells, List.map_replicate, List.map_replicate]
  rfl

theorem padded_isSign (n : Int) : IsSign (if n < 0 then ['-'] else []) (n < 0) := by
  by_cases negative : n < 0
  · simpa [negative] using IsSign.minus
  · simpa [negative] using IsSign.none

/-- The text of an integer writes it, however wide it is. -/
theorem padded_writes (width : Nat) (n : Int) : Writes (padded width n).toList n := by
  obtain ⟨digits, spells, value⟩ := toDigits_spelled n.natAbs
  have written (count : Nat) := Writes.signed (padded_isSign n)
    ((zeros_spelled count).append spells)
    (List.append_ne_nil_of_right_ne_nil _ Nat.toDigits_ne_nil)
  have signed : (if decide (n < 0) = true then -(n.natAbs : Int) else n.natAbs) = n := by
    simp only [decide_eq_true_eq]
    split <;> omega
  simp only [Numeral.valueOf_zeros, value, signed] at written
  rw [padded, String.toList_ofList, List.append_assoc]
  exact written _

end Hex

end ChunkRelay
