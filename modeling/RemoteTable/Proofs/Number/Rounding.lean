import Mathlib.Data.Nat.Log
import Mathlib.Tactic.Common
import Mathlib.Tactic.Ring
import RemoteTable.Number.Double

/-! Rounding keeps the order of numbers. Magnitudes are compared by their ranks, so a bound on exact
quotients is one on the rounded numbers. -/

namespace RemoteTable.Double

section Quotient

variable {num den num' den' : Nat}

theorem div_le_div_of_mul_le (hDen : 0 < den) (hDen' : 0 < den') (h : num * den' ≤ num' * den) :
    num / den ≤ num' / den' := by
  rw [Nat.le_div_iff_mul_le hDen']
  apply Nat.le_of_mul_le_mul_right _ hDen
  calc num / den * den' * den = num / den * den * den' := Nat.mul_right_comm _ _ _
    _ ≤ num * den' := Nat.mul_le_mul_right _ (Nat.div_mul_le_self num den)
    _ ≤ num' * den := h

theorem div_le_roundedQuotient (num den : Nat) : num / den ≤ roundedQuotient num den := by
  unfold roundedQuotient
  dsimp only
  split_ifs <;> omega

theorem roundedQuotient_le (num den : Nat) : roundedQuotient num den ≤ num / den + 1 := by
  unfold roundedQuotient
  dsimp only
  split_ifs <;> omega

/-- Of two fractions with the same whole part, the remainder of the larger one is the larger one. -/
theorem mod_mul_le_of_div_eq (h : num * den' ≤ num' * den) (hWhole : num / den = num' / den') :
    num % den * den' ≤ num' % den' * den := by
  have hSplit : num * den' = num / den * (den * den') + num % den * den' := by
    conv_lhs => rw [← Nat.div_add_mod num den]
    ring
  have hSplit' : num' * den = num' / den' * (den * den') + num' % den' * den := by
    conv_lhs => rw [← Nat.div_add_mod num' den']
    ring
  rw [hSplit, hSplit', hWhole] at h
  exact Nat.le_of_add_le_add_left h

theorem roundedQuotient_le_of_div_eq (hDen : 0 < den) (hDen' : 0 < den')
    (h : num * den' ≤ num' * den) (hWhole : num / den = num' / den') :
    roundedQuotient num den ≤ roundedQuotient num' den' := by
  have hRest : 2 * (num % den) * den' ≤ 2 * (num' % den') * den := by
    rw [Nat.mul_assoc, Nat.mul_assoc]
    exact Nat.mul_le_mul_left 2 (mod_mul_le_of_div_eq h hWhole)
  have hAbove : den < 2 * (num % den) → den' < 2 * (num' % den') := fun hUp => by
    apply Nat.lt_of_mul_lt_mul_right
    calc den' * den = den * den' := Nat.mul_comm _ _
      _ < 2 * (num % den) * den' := Nat.mul_lt_mul_of_pos_right hUp hDen'
      _ ≤ 2 * (num' % den') * den := hRest
  have hHalf : den ≤ 2 * (num % den) → den' ≤ 2 * (num' % den') := fun hUp => by
    apply Nat.le_of_mul_le_mul_right _ hDen
    calc den' * den = den * den' := Nat.mul_comm _ _
      _ ≤ 2 * (num % den) * den' := Nat.mul_le_mul_right _ hUp
      _ ≤ 2 * (num' % den') * den := hRest
  unfold roundedQuotient
  dsimp only
  rw [hWhole]
  split_ifs <;> omega

/-- Rounding to whole numbers keeps the order of fractions. -/
theorem roundedQuotient_mono (hDen : 0 < den) (hDen' : 0 < den') (h : num * den' ≤ num' * den) :
    roundedQuotient num den ≤ roundedQuotient num' den' := by
  rcases Nat.eq_or_lt_of_le (div_le_div_of_mul_le hDen hDen' h) with hWhole | hBelow
  · exact roundedQuotient_le_of_div_eq hDen hDen' h hWhole
  · exact Nat.le_trans (roundedQuotient_le num den)
      (Nat.le_trans hBelow (div_le_roundedQuotient num' den'))

end Quotient

section Nearest

/-- Neighbouring numbers around a fraction differ by two to this power, in smallest units. -/
def quotientSpacing (num den : Nat) : Nat := (num * unitsPerOne / den).log2 - 52

/-- The rank a fraction is rounded to, if ranks beyond infinity are not cut. -/
def quotientRank (num den : Nat) : Nat :=
  quotientSpacing num den * 2 ^ 52 +
    roundedQuotient (num * unitsPerOne) (den * 2 ^ quotientSpacing num den)

theorem nearest_eq (negative : Bool) (num den : Nat) :
    nearest negative num den = ofRank negative (quotientRank num den) := rfl

theorem unitsPerOne_pos : 0 < unitsPerOne := by decide +kernel

variable {num den num' den' : Nat}

theorem units_mul_le (h : num * den' ≤ num' * den) :
    num * unitsPerOne * den' ≤ num' * unitsPerOne * den := by
  rw [Nat.mul_right_comm, Nat.mul_right_comm num']
  exact Nat.mul_le_mul_right _ h

/-- The ranks of numbers with a given spacing end at this one. -/
theorem quotientRank_le (hDen : 0 < den) :
    quotientRank num den ≤ (quotientSpacing num den + 2) * 2 ^ 52 := by
  set spacing := quotientSpacing num den with hSpacing
  have hWhole : num * unitsPerOne / den < 2 ^ (53 + spacing) := by
    refine Nat.lt_of_lt_of_le Nat.lt_log2_self (Nat.pow_le_pow_right (by decide) ?_)
    rw [hSpacing, quotientSpacing]
    omega
  have hBelow : num * unitsPerOne / (den * 2 ^ spacing) < 2 ^ 53 := by
    rw [Nat.div_lt_iff_lt_mul hDen, Nat.pow_add] at hWhole
    rw [Nat.div_lt_iff_lt_mul (Nat.mul_pos hDen (Nat.two_pow_pos spacing)), Nat.mul_comm den,
      ← Nat.mul_assoc]
    exact hWhole
  have hRounded := roundedQuotient_le (num * unitsPerOne) (den * 2 ^ spacing)
  rw [quotientRank, ← hSpacing]
  omega

/-- They begin at this one, unless the spacing is the smallest. -/
theorem le_quotientRank (hDen : 0 < den) (hSpacing : 0 < quotientSpacing num den) :
    (quotientSpacing num den + 1) * 2 ^ 52 ≤ quotientRank num den := by
  set spacing := quotientSpacing num den with hSame
  have hLog : (num * unitsPerOne / den).log2 = 52 + spacing := by
    rw [hSame, quotientSpacing] at hSpacing ⊢
    omega
  have hPositive : num * unitsPerOne / den ≠ 0 := by
    intro hZero
    rw [hZero] at hLog
    exact absurd hLog (by simp; omega)
  have hWhole : 2 ^ (52 + spacing) ≤ num * unitsPerOne / den := hLog ▸ Nat.log2_self_le hPositive
  have hAbove : 2 ^ 52 ≤ num * unitsPerOne / (den * 2 ^ spacing) := by
    rw [Nat.le_div_iff_mul_le hDen, Nat.pow_add] at hWhole
    rw [Nat.le_div_iff_mul_le (Nat.mul_pos hDen (Nat.two_pow_pos spacing)), Nat.mul_comm den,
      ← Nat.mul_assoc]
    exact hWhole
  have hRounded := div_le_roundedQuotient (num * unitsPerOne) (den * 2 ^ spacing)
  rw [quotientRank, ← hSame]
  omega

theorem quotientSpacing_mono (hDen : 0 < den) (hDen' : 0 < den') (h : num * den' ≤ num' * den) :
    quotientSpacing num den ≤ quotientSpacing num' den' := by
  rw [quotientSpacing, quotientSpacing, Nat.log2_eq_log_two, Nat.log2_eq_log_two]
  exact Nat.sub_le_sub_right
    (Nat.log_mono_right (div_le_div_of_mul_le hDen hDen' (units_mul_le h))) 52

/-- The larger fraction is rounded to the larger number. -/
theorem quotientRank_mono (hDen : 0 < den) (hDen' : 0 < den') (h : num * den' ≤ num' * den) :
    quotientRank num den ≤ quotientRank num' den' := by
  rcases Nat.eq_or_lt_of_le (quotientSpacing_mono hDen hDen' h) with hSame | hBelow
  · rw [quotientRank, quotientRank, hSame]
    refine Nat.add_le_add_left (roundedQuotient_mono (Nat.mul_pos hDen (Nat.two_pow_pos _))
      (Nat.mul_pos hDen' (Nat.two_pow_pos _)) ?_) _
    rw [← Nat.mul_assoc, ← Nat.mul_assoc]
    exact Nat.mul_le_mul_right _ (units_mul_le h)
  · have hPositive : 0 < quotientSpacing num' den' := Nat.zero_lt_of_lt hBelow
    calc quotientRank num den ≤ (quotientSpacing num den + 2) * 2 ^ 52 := quotientRank_le hDen
      _ ≤ (quotientSpacing num' den' + 1) * 2 ^ 52 :=
        Nat.mul_le_mul_right _ (Nat.succ_le_succ hBelow)
      _ ≤ quotientRank num' den' := le_quotientRank hDen' hPositive

end Nearest

end RemoteTable.Double
