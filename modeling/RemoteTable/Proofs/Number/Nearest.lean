import Mathlib.Tactic.Linarith
import RemoteTable.Proofs.Number.Magnitude

/-! How far rounding goes. The number nearest to a fraction is off by at most half of what lies between
neighbouring numbers, so small whole numbers are exact, and a fraction of small whole numbers is on the
same side of a whole number as the number it is rounded to. -/

namespace RemoteTable.Double

section Half

variable {num den : Nat}

/-- Rounding to a whole number is off by at most one half. -/
theorem roundedQuotient_near (hDen : 0 < den) :
    2 * num ≤ 2 * (roundedQuotient num den * den) + den ∧
      2 * (roundedQuotient num den * den) ≤ 2 * num + den := by
  have hRest := Nat.mod_lt num hDen
  have hSplit : num / den * den + num % den = num := by
    rw [Nat.mul_comm]
    exact Nat.div_add_mod num den
  have hNext : (num / den + 1) * den = num / den * den + den := Nat.succ_mul _ _
  unfold roundedQuotient
  dsimp only
  split
  · omega
  split
  · rw [hNext]
    omega
  -- A half goes to the even one of the two neighbours.
  rcases Nat.mod_two_eq_zero_or_one (num / den) with hEven | hOdd
  · rw [hEven, Nat.add_zero]
    omega
  · rw [hOdd, hNext]
    omega

theorem roundedQuotient_mul (hDen : 0 < den) : roundedQuotient (num * den) den = num := by
  unfold roundedQuotient
  dsimp only
  rw [Nat.mul_div_cancel _ hDen, Nat.mul_mod_left, if_pos (by omega)]

end Half

section Units

variable {num den : Nat}

/-- A number with so many steps of its spacing. -/
theorem units_ofRank (negative : Bool) {spacing steps : Nat} (hMost : steps ≤ 2 ^ 53)
    (hLeast : spacing = 0 ∨ 2 ^ 52 ≤ steps) (hFinite : spacing * 2 ^ 52 + steps ≤ infiniteRank) :
    (ofRank negative (spacing * 2 ^ 52 + steps)).units = steps * 2 ^ spacing := by
  have hRank : (ofRank negative (spacing * 2 ^ 52 + steps)).rank.val = spacing * 2 ^ 52 + steps :=
    Nat.min_eq_left hFinite
  rw [units_eq, binade, hRank]
  rcases Nat.lt_or_ge steps (2 ^ 52) with hSmall | hLarge
  · obtain rfl : spacing = 0 := hLeast.resolve_right (Nat.not_le.mpr hSmall)
    have hBinade : (0 * 2 ^ 52 + steps) / 2 ^ 52 = 0 := by omega
    rw [hBinade, if_pos rfl]
    omega
  rcases Nat.eq_or_lt_of_le hMost with rfl | hBelow
  · have hBinade : (spacing * 2 ^ 52 + 2 ^ 53) / 2 ^ 52 = spacing + 2 := by omega
    have hRest : (spacing * 2 ^ 52 + 2 ^ 53) % 2 ^ 52 = 0 := by omega
    have hSpacing : spacing + 2 - 1 = spacing + 1 := rfl
    rw [hBinade, hRest, if_neg (Nat.succ_ne_zero _), Nat.add_zero, hSpacing, ← Nat.pow_add, ← Nat.pow_add]
    have hSum : 52 + (spacing + 1) = 53 + spacing := by omega
    rw [hSum]
  · have hBinade : (spacing * 2 ^ 52 + steps) / 2 ^ 52 = spacing + 1 := by omega
    have hRest : (spacing * 2 ^ 52 + steps) % 2 ^ 52 = steps - 2 ^ 52 := by omega
    rw [hBinade, hRest, if_neg (Nat.succ_ne_zero _), Nat.add_sub_cancel, Nat.add_sub_cancel' hLarge]

/-- Fractions of up to the number of all 64-bit words are rounded to finite numbers. -/
theorem isMagnitude_nearest (hDen : 0 < den) (hBound : num ≤ 2 ^ 64 * den) :
    (nearest false num den).IsMagnitude where
  negative := negative_nearest false num den
  finite := by
    apply Nat.lt_of_le_of_lt (rank_nearest_mono hDen Nat.one_pos _)
    · exact (isMagnitude_ofNat (Nat.le_refl (2 ^ 64))).finite
    · rw [Nat.mul_one]
      exact hBound

/-- The exact value of the number nearest to a fraction. -/
theorem units_nearest (hDen : 0 < den) (hFinite : (nearest false num den).IsMagnitude) :
    (nearest false num den).units =
      roundedQuotient (num * unitsPerOne) (den * 2 ^ quotientSpacing num den) *
        2 ^ quotientSpacing num den := by
  have hMost : quotientRank num den ≤ (quotientSpacing num den + 2) * 2 ^ 52 := quotientRank_le hDen
  have hRank : quotientRank num den < infiniteRank := by
    have hCut := hFinite.finite
    rw [rank_nearest] at hCut
    omega
  rw [nearest_eq]
  rw [quotientRank] at hMost hRank ⊢
  apply units_ofRank
  · omega
  · rcases Nat.eq_zero_or_pos (quotientSpacing num den) with hZero | hPositive
    · exact Or.inl hZero
    · have hLeast := le_quotientRank hDen hPositive
      rw [quotientRank] at hLeast
      omega
  · exact Nat.le_of_lt hRank

end Units

section Error

variable {num den : Nat}

/-- One is the smallest unit, doubled so many times. -/
def unitDoublings : Nat := 1074

theorem unitsPerOne_eq : unitsPerOne = 2 ^ unitDoublings := by decide +kernel

/-- Neighbouring numbers around one or more differ by a small part of the number. -/
theorem spacing_mul_le (hDen : 0 < den) (hOne : den ≤ num) :
    2 ^ 52 * (den * 2 ^ quotientSpacing num den) ≤ num * unitsPerOne := by
  have hWhole : unitsPerOne ≤ num * unitsPerOne / den := by
    rw [Nat.le_div_iff_mul_le hDen, Nat.mul_comm]
    exact Nat.mul_le_mul_right _ hOne
  have hLarge : 2 ^ 52 ≤ num * unitsPerOne / den := by
    refine Nat.le_trans ?_ hWhole
    rw [unitsPerOne_eq]
    exact Nat.pow_le_pow_right (by decide) (by decide)
  have hNonzero : num * unitsPerOne / den ≠ 0 :=
    Nat.ne_of_gt (Nat.lt_of_lt_of_le (Nat.two_pow_pos 52) hLarge)
  have hLog : 52 ≤ (num * unitsPerOne / den).log2 := (Nat.le_log2 hNonzero).mpr hLarge
  have hSpacing : 2 ^ 52 * 2 ^ quotientSpacing num den ≤ num * unitsPerOne / den := by
    rw [← Nat.pow_add, quotientSpacing, Nat.add_sub_cancel' hLog]
    exact Nat.log2_self_le hNonzero
  rw [Nat.le_div_iff_mul_le hDen] at hSpacing
  rw [Nat.mul_comm den, ← Nat.mul_assoc]
  exact hSpacing

/-- A fraction of at least one is rounded with a relative error of at most two to the power of -53. -/
theorem units_nearest_near (hDen : 0 < den) (hOne : den ≤ num)
    (hFinite : (nearest false num den).IsMagnitude) :
    2 ^ 53 * (num * unitsPerOne) ≤
        2 ^ 53 * ((nearest false num den).units * den) + num * unitsPerOne ∧
      2 ^ 53 * ((nearest false num den).units * den) ≤
        2 ^ 53 * (num * unitsPerOne) + num * unitsPerOne := by
  have hSpacing := spacing_mul_le hDen hOne
  have hHalf := @roundedQuotient_near (num * unitsPerOne) _
    (Nat.mul_pos hDen (Nat.two_pow_pos (quotientSpacing num den)))
  have hUnits : (nearest false num den).units * den =
      roundedQuotient (num * unitsPerOne) (den * 2 ^ quotientSpacing num den) *
        (den * 2 ^ quotientSpacing num den) := by
    rw [units_nearest hDen hFinite, Nat.mul_assoc, Nat.mul_comm (2 ^ _)]
  rw [hUnits]
  omega

/-- Whole numbers of up to 53 binary digits are exact. -/
theorem units_ofNat {n : Nat} (h : n < 2 ^ 53) : (ofNat n).units = n * unitsPerOne := by
  have hSpacing : quotientSpacing n 1 ≤ unitDoublings := by
    apply Nat.le_trans (quotientSpacing_mono Nat.one_pos Nat.one_pos
      (Nat.mul_le_mul_right 1 (Nat.le_sub_one_of_lt h)))
    decide +kernel
  have hSplit : n * unitsPerOne =
      n * 2 ^ (unitDoublings - quotientSpacing n 1) * 2 ^ quotientSpacing n 1 := by
    rw [Nat.mul_assoc, ← Nat.pow_add, Nat.sub_add_cancel hSpacing, unitsPerOne_eq]
  have hFinite : (ofNat n).IsMagnitude :=
    isMagnitude_ofNat (Nat.le_of_lt (Nat.lt_trans h (by decide)))
  rw [ofNat] at hFinite ⊢
  rw [units_nearest Nat.one_pos hFinite, Nat.one_mul, hSplit, roundedQuotient_mul (Nat.two_pow_pos _)]

end Error

section Order

variable {a b : Double}

/-- A number of a larger rank is the larger one. -/
theorem units_lt_units (h : a.rank.val < b.rank.val) : a.units < b.units := by
  have hBinades : a.binade ≤ b.binade := Nat.div_le_div_right (Nat.le_of_lt h)
  rcases Nat.eq_or_lt_of_le hBinades with hSame | hBelow
  · rw [units_eq, units_eq, hSame]
    refine Nat.mul_lt_mul_of_pos_right ?_ (Nat.two_pow_pos _)
    split_ifs
    · exact h
    · rw [binade, binade] at hSame
      omega
  · calc a.units < 2 ^ 52 * 2 ^ a.binade := a.units_lt
      _ ≤ 2 ^ 52 * 2 ^ (b.binade - 1) :=
        Nat.mul_le_mul_left _ (Nat.pow_le_pow_right (by decide) (Nat.le_sub_one_of_lt hBelow))
      _ ≤ b.units := le_units (Nat.zero_lt_of_lt hBelow)

theorem units_lt_units_iff : a.units < b.units ↔ a.rank.val < b.rank.val :=
  ⟨fun h => Nat.lt_of_not_le fun hRank => absurd (units_mono hRank) (Nat.not_le.mpr h), units_lt_units⟩

theorem IsMagnitude.abs_eq (h : a.IsMagnitude) : a.abs = a := by
  rw [abs, ← h.negative]

theorem IsMagnitude.below_iff (ha : a.IsMagnitude) (hb : b.IsMagnitude) :
    a.below b = true ↔ a.units < b.units := by
  rw [units_lt_units_iff, below, ha.isNaN, hb.isNaN, position, position, ha.negative, hb.negative]
  simp

end Order

section Whole

variable {num den n : Nat}

/-- Two fractions of the same value are rounded to the same number. -/
theorem nearest_congr {num' den' : Nat} (hDen : 0 < den) (hDen' : 0 < den')
    (h : num * den' = num' * den) : nearest false num den = nearest false num' den' := by
  rw [nearest_eq, nearest_eq, Nat.le_antisymm
    (quotientRank_mono hDen hDen' (Nat.le_of_eq h)) (quotientRank_mono hDen' hDen (Nat.le_of_eq h.symm))]

/-- A fraction below a whole number is not rounded to it, as long as its parts are small. -/
theorem below_ofNat_iff (hDen : 0 < den) (hOne : den ≤ num) (hBound : num ≤ 2 ^ 64 * den)
    (hWhole : n < 2 ^ 53) (hProduct : n * den ≤ 2 ^ 53) :
    (nearest false num den).below (ofNat n) = true ↔ num < n * den := by
  have hFinite := isMagnitude_nearest hDen hBound
  have hFixed : (ofNat n).IsMagnitude :=
    isMagnitude_ofNat (Nat.le_of_lt (Nat.lt_trans hWhole (by decide)))
  constructor
  · intro hBelow
    rw [hFinite.below_iff hFixed, units_lt_units_iff] at hBelow
    by_contra hAbove
    have hRank : (ofNat n).rank.val ≤ (nearest false num den).rank.val := by
      apply rank_nearest_mono Nat.one_pos hDen
      rw [Nat.mul_one]
      exact Nat.not_lt.mp hAbove
    exact absurd hBelow (Nat.not_lt.mpr hRank)
  · intro hBelow
    rw [hFinite.below_iff hFixed, units_ofNat hWhole]
    obtain ⟨-, hNear⟩ := units_nearest_near hDen hOne hFinite
    -- The distance to the whole number is a part of one that rounding does not reach.
    have hGap : 2 ^ 53 * num + num < 2 ^ 53 * (n * den) := by omega
    apply Nat.lt_of_mul_lt_mul_right (a := den)
    apply Nat.lt_of_mul_lt_mul_left (a := 2 ^ 53)
    calc 2 ^ 53 * ((nearest false num den).units * den)
        ≤ 2 ^ 53 * (num * unitsPerOne) + num * unitsPerOne := hNear
      _ = (2 ^ 53 * num + num) * unitsPerOne := by rw [Nat.add_mul, Nat.mul_assoc]
      _ < 2 ^ 53 * (n * den) * unitsPerOne := Nat.mul_lt_mul_of_pos_right hGap unitsPerOne_pos
      _ = 2 ^ 53 * (n * unitsPerOne * den) := by rw [Nat.mul_assoc, Nat.mul_right_comm]

end Whole

section Twice

variable {n m num den scale : Nat}

theorem ofNat_below_ofNat_iff (hn : n < 2 ^ 53) (hm : m < 2 ^ 53) :
    (ofNat n).below (ofNat m) = true ↔ n < m := by
  have hMagnitude : ∀ {k : Nat}, k < 2 ^ 53 → (ofNat k).IsMagnitude := fun hk =>
    isMagnitude_ofNat (Nat.le_of_lt (Nat.lt_trans hk (by decide)))
  rw [(hMagnitude hn).below_iff (hMagnitude hm), units_ofNat hn, units_ofNat hm]
  exact Nat.mul_lt_mul_right unitsPerOne_pos

theorem isZero_ofNat (h : 0 < n) : (ofNat n).isZero = false := by
  have hRank : (ofNat 1).rank.val ≤ (ofNat n).rank.val := rank_ofNat_mono h
  have hOne : 0 < (ofNat 1).rank.val := by decide +kernel
  rw [isZero, beq_eq_false_iff_ne]
  exact Nat.ne_of_gt (Nat.lt_of_lt_of_le hOne hRank)

/-- The quotient of whole numbers that are exact is rounded once. -/
theorem ofNat_div_ofNat (hn : n < 2 ^ 53) (hPositive : 0 < m) (hm : m < 2 ^ 53) :
    ofNat n / ofNat m = nearest false n m := by
  have hWord : 2 ^ 53 ≤ 2 ^ 64 := by decide
  rw [div_ofNat_eq (Nat.le_trans (Nat.le_of_lt hn) hWord) hPositive (Nat.le_trans (Nat.le_of_lt hm) hWord),
    units_ofNat hn, units_ofNat hm]
  apply nearest_congr (Nat.mul_pos hPositive unitsPerOne_pos) hPositive
  rw [Nat.mul_right_comm, Nat.mul_assoc]

/-- A fraction of small parts is rounded to a binary64 number, and this to a whole number of steps. The
result is as near to the fraction as if it had been rounded once. -/
theorem roundedQuotient_nearest_near (hDen : 0 < den) (hOne : den ≤ num)
    (hFinite : (nearest false num den).IsMagnitude) (hSmall : 2 * (num * scale) < 2 ^ 53) :
    2 * (num * scale) ≤
        2 * (roundedQuotient ((nearest false num den).units * scale) unitsPerOne * den) + den ∧
      2 * (roundedQuotient ((nearest false num den).units * scale) unitsPerOne * den) ≤
        2 * (num * scale) + den := by
  generalize hUnits : (nearest false num den).units = units
  generalize hSteps : roundedQuotient (units * scale) unitsPerOne = steps
  obtain ⟨hBelow, hAbove⟩ := units_nearest_near hDen hOne hFinite
  obtain ⟨hHalfBelow, hHalfAbove⟩ := @roundedQuotient_near (units * scale) _ unitsPerOne_pos
  rw [hUnits] at hBelow hAbove
  rw [hSteps] at hHalfBelow hHalfAbove
  -- Measured in smallest units, the first error is less than one step of the common denominator.
  have hError : 2 * (num * scale) * unitsPerOne < 2 ^ 53 * unitsPerOne :=
    Nat.mul_lt_mul_of_pos_right hSmall unitsPerOne_pos
  replace hBelow := Nat.mul_le_mul_right (2 * scale) hBelow
  replace hAbove := Nat.mul_le_mul_right (2 * scale) hAbove
  replace hHalfBelow := Nat.mul_le_mul_right den hHalfBelow
  replace hHalfAbove := Nat.mul_le_mul_right den hHalfAbove
  constructor
  · apply Nat.le_of_lt_succ
    apply Nat.lt_of_mul_lt_mul_right (a := unitsPerOne)
    rw [Nat.succ_mul]
    linarith
  · apply Nat.le_of_lt_succ
    apply Nat.lt_of_mul_lt_mul_right (a := unitsPerOne)
    rw [Nat.succ_mul]
    linarith

end Twice

end RemoteTable.Double
