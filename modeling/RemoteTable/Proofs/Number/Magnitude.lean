import RemoteTable.Proofs.Number.Rounding

/-! Finite numbers that are not negative. They are ordered by their ranks, and so are their exact
values; counts, their quotients and their products are such numbers, or at least not below zero. -/

namespace RemoteTable.Double

/-- All numbers with the same spacing above one of the smallest are in one binade. -/
def binade (d : Double) : Nat := d.rank.val / 2 ^ 52

section Units

variable {a b : Double}

/-- A double in units of the smallest positive one. Subnormal numbers lack the leading bit. -/
theorem units_eq (d : Double) :
    d.units = (if d.binade = 0 then d.rank.val else 2 ^ 52 + d.rank.val % 2 ^ 52) *
      2 ^ (d.binade - 1) := rfl

/-- A number is below the next binade. -/
theorem units_lt (d : Double) : d.units < 2 ^ 52 * 2 ^ d.binade := by
  rw [units_eq]
  split_ifs with hSmallest
  · rw [hSmallest]
    rw [binade] at hSmallest
    omega
  · obtain ⟨rest, hRest⟩ := Nat.exists_eq_succ_of_ne_zero hSmallest
    have hDigits : 2 ^ 52 + d.rank.val % 2 ^ 52 < 2 ^ 52 * 2 := by omega
    rw [hRest, Nat.succ_sub_one]
    calc (2 ^ 52 + d.rank.val % 2 ^ 52) * 2 ^ rest < 2 ^ 52 * 2 * 2 ^ rest :=
        Nat.mul_lt_mul_of_pos_right hDigits (Nat.two_pow_pos rest)
      _ = 2 ^ 52 * 2 ^ (rest + 1) := by rw [Nat.mul_assoc, ← Nat.pow_succ']

/-- A normal number reaches its binade. -/
theorem le_units {d : Double} (hBinade : 0 < d.binade) :
    2 ^ 52 * 2 ^ (d.binade - 1) ≤ d.units := by
  rw [units_eq, if_neg (Nat.ne_of_gt hBinade)]
  exact Nat.mul_le_mul_right _ (Nat.le_add_right _ _)

/-- Exact values are ordered as ranks are. -/
theorem units_mono (h : a.rank.val ≤ b.rank.val) : a.units ≤ b.units := by
  have hBinades : a.binade ≤ b.binade := Nat.div_le_div_right h
  rcases Nat.eq_or_lt_of_le hBinades with hSame | hBelow
  · rw [units_eq, units_eq, hSame]
    refine Nat.mul_le_mul_right _ ?_
    split_ifs
    · exact h
    · rw [binade, binade] at hSame
      omega
  · calc a.units ≤ 2 ^ 52 * 2 ^ a.binade := Nat.le_of_lt a.units_lt
      _ ≤ 2 ^ 52 * 2 ^ (b.binade - 1) :=
        Nat.mul_le_mul_left _ (Nat.pow_le_pow_right (by decide) (Nat.le_sub_one_of_lt hBelow))
      _ ≤ b.units := le_units (Nat.zero_lt_of_lt hBelow)

end Units

/-- A finite number that is not negative. -/
structure IsMagnitude (d : Double) : Prop where
  negative : d.negative = false
  finite : d.rank.val < infiniteRank

section Nearest

variable {num den num' den' : Nat}

/-- Rounding stops at infinity. -/
theorem rank_nearest (negative : Bool) (num den : Nat) :
    (nearest negative num den).rank.val = min (quotientRank num den) infiniteRank := by
  rw [nearest_eq]
  rfl

theorem negative_nearest (negative : Bool) (num den : Nat) :
    (nearest negative num den).negative = negative := by
  rw [nearest_eq]
  rfl

theorem isNaN_nearest (negative : Bool) (num den : Nat) :
    (nearest negative num den).isNaN = false := by
  rw [isNaN, rank_nearest]
  exact decide_eq_false (Nat.not_lt.mpr (Nat.min_le_right _ _))

/-- A larger quotient does not round to a smaller double. -/
theorem rank_nearest_mono (hDen : 0 < den) (hDen' : 0 < den') (h : num * den' ≤ num' * den) :
    (nearest false num den).rank.val ≤ (nearest false num' den').rank.val := by
  rw [rank_nearest, rank_nearest]
  exact min_le_min_right _ (quotientRank_mono hDen hDen' h)

/-- A larger natural number does not either. -/
theorem rank_ofNat_mono {n m : Nat} (h : n ≤ m) : (ofNat n).rank.val ≤ (ofNat m).rank.val :=
  rank_nearest_mono Nat.one_pos Nat.one_pos (Nat.mul_le_mul_right 1 h)

/-- The number of all 64-bit words. -/
theorem rank_wordCount : (ofNat (2 ^ 64)).rank.val = 1087 * 2 ^ 52 := by decide +kernel

theorem units_wordCount : (ofNat (2 ^ 64)).units = 2 ^ 64 * unitsPerOne := by decide +kernel

/-- Words are far from infinity. -/
theorem isMagnitude_ofNat {n : Nat} (h : n ≤ 2 ^ 64) : (ofNat n).IsMagnitude where
  negative := rfl
  finite := Nat.lt_of_le_of_lt (rank_ofNat_mono h) (by decide +kernel)

end Nearest

namespace IsMagnitude

variable {a b d : Double}

theorem isNaN (h : d.IsMagnitude) : d.isNaN = false :=
  decide_eq_false (Nat.not_lt.mpr (Nat.le_of_lt h.finite))

theorem isFinite (h : d.IsMagnitude) : d.isFinite = true := decide_eq_true h.finite

/-- The product is rounded once. -/
theorem mul_eq (ha : a.IsMagnitude) (hb : b.IsMagnitude) :
    a * b = nearest false (a.units * b.units) (unitsPerOne * unitsPerOne) := by
  show mul a b = _
  simp [mul, ha.isNaN, hb.isNaN, ha.isFinite, hb.isFinite, ha.negative, hb.negative]

/-- The quotient is rounded once. -/
theorem div_eq (ha : a.IsMagnitude) (hb : b.IsMagnitude) (hPositive : 0 < b.rank.val) :
    a / b = nearest false a.units b.units := by
  have hNonzero : b.isZero = false := beq_eq_false_iff_ne.mpr (Nat.ne_of_gt hPositive)
  show div a b = _
  simp [div, ha.isNaN, hb.isNaN, ha.isFinite, hb.isFinite, ha.negative, hb.negative, hNonzero]

end IsMagnitude

theorem floorIndex_le (d : Double) : d.floorIndex ≤ maxIndex := by
  unfold floorIndex wholeUpTo
  split_ifs
  · exact Nat.zero_le _
  · exact Nat.zero_le _
  · exact Nat.min_le_right _ _
  · exact Nat.le_refl _

section Index

variable {d : Double} (hSign : d.negative = false) (hNumber : d.isNaN = false)

include hSign hNumber

/-- A double is below the number of words exactly if its rank is. -/
theorem below_wordCount_iff :
    d.below (ofNat (2 ^ 64)) = true ↔ d.rank.val < 1087 * 2 ^ 52 := by
  have hWord : (ofNat (2 ^ 64)).isNaN = false := isNaN_nearest _ _ _
  have hPosition : (ofNat (2 ^ 64)).position = ((1087 * 2 ^ 52 : Nat) : Int) := by
    rw [← rank_wordCount]
    rfl
  have hOwn : d.position = (d.rank.val : Int) := by simp [position, hSign]
  rw [below, hNumber, hWord, hPosition, hOwn]
  simp only [Bool.not_false, Bool.true_and, decide_eq_true_eq]
  exact Int.ofNat_lt

/-- The floor is exact up to the largest index, where it stays. -/
theorem floorIndex_eq :
    d.floorIndex = if d.isFinite then min (d.units / unitsPerOne) maxIndex else maxIndex := by
  simp [floorIndex, wholeUpTo, hSign, hNumber]

/-- The largest index stands for every number from that of all words on, and for no other one. -/
theorem floorIndex_eq_maxIndex_iff :
    d.floorIndex = maxIndex ↔ d.below (ofNat (2 ^ 64)) = false := by
  rw [floorIndex_eq hSign hNumber, ← Bool.not_eq_true, below_wordCount_iff hSign hNumber,
    Nat.not_lt]
  constructor
  · intro hIndex
    by_contra hBelow
    -- The last number below is a multiple of two to the power of eleven.
    have hLast : d.units ≤ (ofRank false (1087 * 2 ^ 52 - 1)).units :=
      units_mono (Nat.le_sub_one_of_lt (Nat.not_le.mp hBelow))
    have hFinite : d.isFinite = true :=
      decide_eq_true (Nat.lt_trans (Nat.not_le.mp hBelow) (by decide +kernel))
    have hSmall : d.units / unitsPerOne < maxIndex :=
      Nat.lt_of_le_of_lt (Nat.div_le_div_right hLast) (by decide +kernel)
    rw [if_pos hFinite] at hIndex
    omega
  · intro hAbove
    split_ifs
    · have hUnits : (ofNat (2 ^ 64)).units ≤ d.units := by
        apply units_mono
        rw [rank_wordCount]
        exact hAbove
      rw [units_wordCount] at hUnits
      have hWhole : 2 ^ 64 ≤ d.units / unitsPerOne :=
        (Nat.le_div_iff_mul_le unitsPerOne_pos).mpr hUnits
      have hLargest : maxIndex ≤ 2 ^ 64 := Nat.sub_le _ _
      exact Nat.min_eq_right (Nat.le_trans hLargest hWhole)
    · rfl

end Index

section Counts

variable {start total height : Nat}

theorem units_ofNat_le {n : Nat} (h : n ≤ 2 ^ 64) : (ofNat n).units ≤ 2 ^ 64 * unitsPerOne :=
  (units_mono (rank_ofNat_mono h)).trans_eq units_wordCount

theorem units_one : (ofNat 1).units = unitsPerOne := by decide +kernel

/-- A positive natural number does not round to less than one. -/
theorem le_units_ofNat {n : Nat} (h : 0 < n) : unitsPerOne ≤ (ofNat n).units := by
  rw [← units_one]
  exact units_mono (rank_ofNat_mono h)

/-- The quotient of two counts is rounded once, from the numbers the counts are rounded to. -/
theorem div_ofNat_eq (hStart : start ≤ 2 ^ 64) (hTotal : 0 < total) (hBound : total ≤ 2 ^ 64) :
    ofNat start / ofNat total = nearest false (ofNat start).units (ofNat total).units := by
  have hPositive : 0 < (ofNat total).rank.val :=
    Nat.lt_of_lt_of_le (by decide +kernel) (rank_ofNat_mono hTotal)
  exact (isMagnitude_ofNat hStart).div_eq (isMagnitude_ofNat hBound) hPositive

/-- The fraction that a scroll bar begins at is finite. -/
theorem isMagnitude_div_ofNat (hStart : start ≤ 2 ^ 64) (hTotal : 0 < total)
    (hBound : total ≤ 2 ^ 64) : (ofNat start / ofNat total).IsMagnitude := by
  have hUnits := le_units_ofNat hTotal
  have hQuotient : (ofNat start).units * 1 ≤ 2 ^ 64 * (ofNat total).units := by
    rw [Nat.mul_one]
    exact Nat.le_trans (units_ofNat_le hStart) (Nat.mul_le_mul_left _ hUnits)
  have hRank : (ofNat start / ofNat total).rank.val ≤ (ofNat (2 ^ 64)).rank.val := by
    rw [div_ofNat_eq hStart hTotal hBound]
    exact rank_nearest_mono (Nat.lt_of_lt_of_le unitsPerOne_pos hUnits) Nat.one_pos hQuotient
  refine ⟨?_, Nat.lt_of_le_of_lt hRank (isMagnitude_ofNat (Nat.le_refl _)).finite⟩
  rw [div_ofNat_eq hStart hTotal hBound]
  rfl

/-- What is not larger than the whole is at most one. -/
theorem rank_div_ofNat_le (hOrder : start ≤ total) (hTotal : 0 < total) (hBound : total ≤ 2 ^ 64) :
    (ofNat start / ofNat total).rank.val ≤ (ofNat 1).rank.val := by
  rw [div_ofNat_eq (Nat.le_trans hOrder hBound) hTotal hBound]
  refine rank_nearest_mono (Nat.lt_of_lt_of_le unitsPerOne_pos (le_units_ofNat hTotal))
    Nat.one_pos ?_
  rw [Nat.mul_one, Nat.one_mul]
  exact units_mono (rank_ofNat_mono hOrder)

/-- The part of a bar in front of a fraction of at most one is no longer than the bar. -/
theorem below_mul_ofNat {fraction : Double} (h : fraction.IsMagnitude)
    (hOne : fraction.rank.val ≤ (ofNat 1).rank.val) (hHeight : height ≤ 65535) :
    (fraction * ofNat height).below (ofNat (2 ^ 64)) = true := by
  have hFraction : fraction.units ≤ unitsPerOne := units_one ▸ units_mono hOne
  have hUnits : (ofNat height).units ≤ 65535 * unitsPerOne :=
    (units_mono (rank_ofNat_mono hHeight)).trans_eq (by decide +kernel)
  have hProduct : fraction.units * (ofNat height).units * 1 ≤
      65535 * (unitsPerOne * unitsPerOne) := by
    calc fraction.units * (ofNat height).units * 1 = fraction.units * (ofNat height).units :=
        Nat.mul_one _
      _ ≤ unitsPerOne * (65535 * unitsPerOne) := Nat.mul_le_mul hFraction hUnits
      _ = 65535 * (unitsPerOne * unitsPerOne) := Nat.mul_left_comm _ _ _
  rw [h.mul_eq (isMagnitude_ofNat (Nat.le_trans hHeight (by decide))),
    below_wordCount_iff (negative_nearest _ _ _) (isNaN_nearest _ _ _)]
  exact Nat.lt_of_le_of_lt (rank_nearest_mono (Nat.mul_pos unitsPerOne_pos unitsPerOne_pos)
    Nat.one_pos hProduct) (by decide +kernel)

end Counts

end RemoteTable.Double
