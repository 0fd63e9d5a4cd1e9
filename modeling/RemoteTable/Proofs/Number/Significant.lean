import Mathlib.Algebra.Order.Field.Basic
import Mathlib.Data.List.Find
import Mathlib.Tactic.FieldSimp
import Mathlib.Tactic.IntervalCases
import Mathlib.Tactic.Positivity
import RemoteTable.Proofs.Number.Nearest
import RemoteTable.Proofs.Number.Numeral
import RemoteTable.Proofs.Table.Counting

/-! How whole numbers are written with three significant digits. A number is divided by the largest power of
ten that has a suffix and is not above it, and the quotient is written with as many places as leave three
digits. The suffix is not chosen again after the quotient is rounded, so what is rounded up to one thousand
keeps its own. -/

namespace RemoteTable

namespace Quantity

open Double

section Magnitude

variable {p : Nat}

/-- The power of ten that a whole number is divided by, and its suffix. -/
def magnitudeOf (p : Nat) : Nat × String :=
  (magnitudes.find? fun magnitude => decide (10 ^ magnitude.1 ≤ p)).getD (0, "")

theorem magnitudeOf_mem (p : Nat) : magnitudeOf p ∈ (0, "") :: magnitudes := by
  unfold magnitudeOf
  cases hFound : magnitudes.find? fun magnitude => decide (10 ^ magnitude.1 ≤ p) with
  | none => exact List.mem_cons_self
  | some magnitude => exact List.mem_cons_of_mem _ (List.mem_of_find?_eq_some hFound)

/-- The suffixes begin at the powers of a thousand. -/
theorem magnitudeOf_eq (p : Nat) : magnitudeOf p =
    if 10 ^ 12 ≤ p then (12, "T") else if 10 ^ 9 ≤ p then (9, "B") else if 10 ^ 6 ≤ p then (6, "M")
    else if 10 ^ 3 ≤ p then (3, "K") else (0, "") := by
  unfold magnitudeOf magnitudes
  simp only [List.find?_cons, List.find?_nil]
  split_ifs <;> simp_all only [decide_true, decide_false, Option.getD_some, Option.getD_none]

/-- A whole number that is divided by a power of ten leaves a quotient from one to one thousand. -/
structure Scaled (p power : Nat) : Prop where
  least : 10 ^ power ≤ p
  most : p < 10 ^ (power + 3)
  power_le : power ≤ 12

/-- The powers that have a suffix are close enough to each other. -/
theorem scaled_magnitudeOf (hPositive : 0 < p) (hSmall : p < 10 ^ 15) :
    Scaled p (magnitudeOf p).1 := by
  rw [magnitudeOf_eq]
  split_ifs <;> constructor <;> dsimp only <;> omega

/-- Below the limit of exact doubles, the suffix is found as if the comparison were exact. -/
theorem magnitude_find?_eq (hSmall : p < 2 ^ 53) :
    (magnitudes.find? fun magnitude => !(ofNat p).below (ofNat (10 ^ magnitude.1))) =
      magnitudes.find? fun magnitude => decide (10 ^ magnitude.1 ≤ p) := by
  apply List.find?_congr
  intro magnitude hMagnitude
  have hPower : 10 ^ magnitude.1 < 2 ^ 53 := by
    revert magnitude
    decide
  rw [Bool.eq_iff_iff, Bool.not_eq_true', ← Bool.not_eq_true, ofNat_below_ofNat_iff hSmall hPower,
    decide_eq_true_iff]
  exact Nat.not_lt

/-- Numbers that are large enough are written as a quotient and a suffix. -/
theorem significant_of_large {d : Double} (hZero : d.isZero = false) (hFinite : d.isFinite = true)
    (hLarge : d.abs.below (nearest false 1 1000) = false) (hWhole : d / ofNat (10 ^ 0) = d) :
    significant d =
      let magnitude := (magnitudes.find? fun m => !d.abs.below (ofNat (10 ^ m.1))).getD (0, "")
      let scaled := d / ofNat (10 ^ magnitude.1)
      String.ofList (trimPlaces (scaled.fixedText (placesFor scaled)).toList) ++ magnitude.2 := by
  unfold significant
  rw [hZero, hFinite, hLarge]
  simp only [Bool.not_true, Bool.or_self, Bool.false_eq_true, if_false, Nat.pow_eq]
  cases magnitudes.find? fun m => !d.abs.below (ofNat (10 ^ m.1)) with
  | none => simp only [Option.getD_none, hWhole]
  | some magnitude => rfl

/-- The text of a whole number is that of its quotient, and the suffix. -/
theorem significant_ofNat (hPositive : 0 < p) (hSmall : p < 2 ^ 53) :
    significant (ofNat p) =
      let scaled := ofNat p / ofNat (10 ^ (magnitudeOf p).1)
      String.ofList (trimPlaces (scaled.fixedText (placesFor scaled)).toList) ++ (magnitudeOf p).2 := by
  have hMagnitude : (ofNat p).IsMagnitude :=
    isMagnitude_ofNat (Nat.le_of_lt (Nat.lt_trans hSmall (by decide)))
  have hLarge : (ofNat p).below (nearest false 1 1000) = false := by
    rw [← Bool.not_eq_true, hMagnitude.below_iff (isMagnitude_nearest (by decide) (by decide)), Nat.not_lt]
    exact units_mono (@rank_nearest_mono 1 1000 p 1 (by decide) Nat.one_pos (by omega))
  rw [significant_of_large (isZero_ofNat hPositive) hMagnitude.isFinite]
  · rw [hMagnitude.abs_eq, magnitude_find?_eq hSmall]
    rfl
  · rw [hMagnitude.abs_eq, hLarge]
  · exact ofNat_div_ofNat hSmall Nat.one_pos (by decide)

end Magnitude

section Written

/-- How many steps of its last place a number is rounded to. -/
def steps (scaled : Double) : Nat :=
  roundedQuotient (scaled.units * 10 ^ placesFor scaled) unitsPerOne

/-- A number below one thousand as it is written before zeros are dropped. -/
def full (scaled : Double) : Numeral := .ofSteps (steps scaled) (placesFor scaled)

/-- The text of fixed places is the full decimal numeral. -/
theorem fixedText_placesFor {scaled : Double} (h : scaled.IsMagnitude) :
    scaled.fixedText (placesFor scaled) = String.ofList (full scaled).text := by
  unfold Double.fixedText
  rw [h.isNaN, h.isFinite, h.negative, Numeral.fixed_eq_text_ofSteps]
  rfl

/-- The half between 999 and 1000 goes to the even one of the two. -/
theorem steps_half : steps (nearest false 1999 2) = 1000 := by decide +kernel

end Written

section Quotient

variable {p power : Nat}

/-- The quotient of a number and a power of ten, rounded to a binary64 number. -/
def quotient (p power : Nat) : Double := nearest false p (10 ^ power)

/-- What one more in the third significant digit of a number adds to its quotient by a power of ten. -/
def thirdDigit (p power : Nat) : ℚ := 10 ^ Nat.log 10 p / 10 ^ (power + 2)

namespace Scaled

theorem pos (h : Scaled p power) : 0 < p := Nat.lt_of_lt_of_le (Nat.pow_pos (by decide)) h.least

/-- No suffix is beyond a trillion. -/
theorem unit_le (h : Scaled p power) : 10 ^ power ≤ 10 ^ 12 :=
  Nat.pow_le_pow_right (by decide) h.power_le

/-- With its suffix, a number is less than a thousand. -/
theorem lt_unit (h : Scaled p power) : p < 1000 * 10 ^ power := by
  have hMost := h.most
  rw [Nat.pow_add] at hMost
  omega

/-- Both numbers are exact, so the quotient is rounded once. -/
theorem div_eq (h : Scaled p power) :
    ofNat p / ofNat (10 ^ power) = quotient p power := by
  have hUnit := h.unit_le
  have hMost := h.lt_unit
  exact ofNat_div_ofNat (by omega) (Nat.pow_pos (by decide)) (by omega)

theorem isMagnitude (h : Scaled p power) : (quotient p power).IsMagnitude := by
  have hMost := h.lt_unit
  apply isMagnitude_nearest (Nat.pow_pos (by decide))
  omega

/-- So many places make the third significant digit the last one. -/
theorem placesFor_add_log (h : Scaled p power) :
    placesFor (quotient p power) + Nat.log 10 p = power + 2 := by
  have hUnit := h.unit_le
  have hLeast := h.least
  have hMost := h.lt_unit
  have hBelow : ∀ {n : Nat}, n ≤ 100 → ((quotient p power).below (ofNat n) = true ↔
      p < n * 10 ^ power) := by
    intro n hn
    have hProduct : n * 10 ^ power ≤ 100 * 10 ^ 12 := Nat.mul_le_mul hn hUnit
    apply below_ofNat_iff (Nat.pow_pos (by decide)) hLeast <;> omega
  have hLog : ∀ {digits : Nat}, 10 ^ digits * 10 ^ power ≤ p → p < 10 ^ (digits + 1) * 10 ^ power →
      Nat.log 10 p = digits + power := by
    intro digits hLow hHigh
    rw [← Nat.pow_add] at hLow hHigh
    apply Nat.log_eq_of_pow_le_of_lt_pow hLow
    rw [Nat.add_right_comm]
    exact hHigh
  rw [placesFor, h.isMagnitude.abs_eq]
  simp only [hBelow (by decide : 1 ≤ 100), hBelow (by decide : 10 ≤ 100), hBelow (Nat.le_refl 100)]
  split_ifs with hOne hTen hHundred
  · omega
  · rw [@hLog 0 (by omega) (by omega)]
    omega
  · rw [@hLog 1 (by omega) (by omega)]
    omega
  · rw [@hLog 2 (by omega) (by omega)]
    omega

section Steps

/-- Counted in steps of the last place, the quotient has three digits. -/
theorem scaled_steps (h : Scaled p power) :
    100 * 10 ^ power ≤ p * 10 ^ placesFor (quotient p power) ∧
      p * 10 ^ placesFor (quotient p power) < 1000 * 10 ^ power := by
  have hPlaces := h.placesFor_add_log
  generalize placesFor (quotient p power) = places at hPlaces ⊢
  have hUnit : 10 ^ Nat.log 10 p * 10 ^ places = 100 * 10 ^ power := by
    rw [← Nat.pow_add, Nat.add_comm, hPlaces, Nat.pow_add, Nat.mul_comm]
  have hLow : 10 ^ Nat.log 10 p ≤ p := Nat.pow_log_le_self 10 (Nat.ne_of_gt h.pos)
  have hHigh : p < 10 ^ (Nat.log 10 p + 1) := Nat.lt_pow_succ_log_self (by decide) p
  constructor
  · rw [← hUnit]
    exact Nat.mul_le_mul_right _ hLow
  · calc p * 10 ^ places < 10 ^ (Nat.log 10 p + 1) * 10 ^ places :=
        Nat.mul_lt_mul_of_pos_right hHigh (Nat.pow_pos (by decide))
      _ = 1000 * 10 ^ power := by rw [Nat.pow_succ', Nat.mul_assoc, hUnit, ← Nat.mul_assoc]

/-- The rounded quotient and the rounding to places together are off by half a step at most, since
an apparent tie is an exact one. -/
theorem steps_near (h : Scaled p power) :
    2 * (p * 10 ^ placesFor (quotient p power)) ≤
        2 * (steps (quotient p power) * 10 ^ power) + 10 ^ power ∧
      2 * (steps (quotient p power) * 10 ^ power) ≤
        2 * (p * 10 ^ placesFor (quotient p power)) + 10 ^ power := by
  have hUnit := h.unit_le
  have hSteps := h.scaled_steps.2
  rw [steps]
  exact roundedQuotient_nearest_near (Nat.pow_pos (by decide)) h.least h.isMagnitude (by omega)

/-- Three digits are kept at least, before zeros are trimmed. -/
theorem hundred_le_steps (h : Scaled p power) : 100 ≤ steps (quotient p power) := by
  have hNear := h.steps_near.1
  have hScaled := h.scaled_steps.1
  have hLess : 199 * 10 ^ power ≤ 2 * steps (quotient p power) * 10 ^ power := by
    rw [Nat.mul_assoc]
    omega
  have hHalves := Nat.le_of_mul_le_mul_right hLess (Nat.pow_pos (by decide))
  omega

/-- Rounding carries to a thousand at most. -/
theorem steps_le (h : Scaled p power) : steps (quotient p power) ≤ 1000 := by
  have hNear := h.steps_near.2
  have hScaled := h.scaled_steps.2
  have hLess : 2 * steps (quotient p power) * 10 ^ power < 2001 * 10 ^ power := by
    rw [Nat.mul_assoc]
    omega
  have hHalves := Nat.lt_of_mul_lt_mul_right hLess
  omega

end Steps

section Carry

theorem placesFor_lt (h : Scaled p power) : placesFor (quotient p power) < 3 := by
  have hLeast : 10 ^ placesFor (quotient p power) * 10 ^ power < 10 ^ 3 * 10 ^ power := by
    rw [Nat.mul_comm]
    exact Nat.lt_of_le_of_lt (Nat.mul_le_mul_right _ h.least) h.scaled_steps.2
  exact (Nat.pow_lt_pow_iff_right (by decide)).mp (Nat.lt_of_mul_lt_mul_right hLeast)

/-- Only quotients that are written without places can be rounded up to one more digit. -/
theorem placesFor_eq_zero (h : Scaled p power) (hCarry : 1999 * 10 ^ power ≤ 2 * p) :
    placesFor (quotient p power) = 0 := by
  by_contra hPlaces
  have hScaled := h.scaled_steps.2
  have hTen : p * 10 ^ 1 ≤ p * 10 ^ placesFor (quotient p power) :=
    Nat.mul_le_mul_left _ (Nat.pow_le_pow_right (by decide) (Nat.pos_of_ne_zero hPlaces))
  omega

/-- Without places, the carry happens exactly from 999.5 on. -/
theorem steps_lt_iff (h : Scaled p power) (hPlaces : placesFor (quotient p power) = 0) :
    steps (quotient p power) < 1000 ↔ 2 * p < 1999 * 10 ^ power := by
  obtain ⟨hBelow, hAbove⟩ := h.steps_near
  rw [hPlaces, Nat.pow_zero, Nat.mul_one] at hBelow hAbove
  constructor
  · intro hSteps
    rcases Nat.lt_trichotomy (2 * p) (1999 * 10 ^ power) with hLess | hHalf | hMore
    · exact hLess
    · have hQuotient : quotient p power = nearest false 1999 2 := by
        apply nearest_congr (Nat.pow_pos (by decide)) (by decide)
        omega
      rw [hQuotient, steps_half] at hSteps
      exact absurd hSteps (Nat.lt_irrefl _)
    · have hProduct : steps (quotient p power) * 10 ^ power ≤ 999 * 10 ^ power :=
        Nat.mul_le_mul_right _ (Nat.le_of_lt_succ hSteps)
      omega
  · intro hLess
    apply Nat.lt_of_mul_lt_mul_right (a := 10 ^ power)
    omega

/-- When the quotient is not rounded up to one thousand. -/
theorem steps_lt_thousand_iff (h : Scaled p power) :
    steps (quotient p power) < 1000 * 10 ^ placesFor (quotient p power) ↔ 2 * p < 1999 * 10 ^ power := by
  rcases Nat.eq_zero_or_pos (placesFor (quotient p power)) with hNone | hSome
  · rw [hNone, Nat.pow_zero, Nat.mul_one]
    exact h.steps_lt_iff hNone
  · have hLess : 2 * p < 1999 * 10 ^ power := by
      by_contra hCarry
      exact absurd (h.placesFor_eq_zero (Nat.not_lt.mp hCarry)) (Nat.ne_of_gt hSome)
    have hTen : 1000 * 10 ^ 1 ≤ 1000 * 10 ^ placesFor (quotient p power) :=
      Nat.mul_le_mul_left _ (Nat.pow_le_pow_right (by decide) hSome)
    have hSteps := h.steps_le
    exact iff_of_true (by omega) hLess

/-- The zeros that a carry leaves behind the point are dropped, those in front of it are not. -/
theorem digitCount_full_le_iff (h : Scaled p power) :
    (full (quotient p power)).trimmed.digitCount ≤ 3 ↔ 2 * p < 1999 * 10 ^ power := by
  rw [← h.steps_lt_thousand_iff, full]
  have hPlaces := h.placesFor_lt
  have hMost := h.steps_le
  generalize placesFor (quotient p power) = places at hPlaces ⊢
  generalize steps (quotient p power) = count at hMost ⊢
  rcases Nat.lt_or_eq_of_le hMost with hLess | rfl
  · have hSome : 1000 ≤ 1000 * 10 ^ places := Nat.le_mul_of_pos_right _ (Nat.pow_pos (by decide))
    exact iff_of_true (Nat.le_trans (Numeral.digitCount_trimmed_le _)
      (Numeral.digitCount_ofSteps_le hPlaces hLess)) (Nat.lt_of_lt_of_le hLess hSome)
  · interval_cases places <;> decide

end Carry

section Value

/-- Trimming does not change the value. -/
theorem value_full (scaled : Double) :
    (full scaled).trimmed.value = steps scaled / 10 ^ placesFor scaled := by
  rw [Numeral.value_trimmed, full, Numeral.value_ofSteps]

theorem pow_le_steps (h : Scaled p power) :
    10 ^ placesFor (quotient p power) ≤ steps (quotient p power) :=
  Nat.le_trans (Nat.pow_le_pow_right (by decide) (Nat.le_of_lt_succ h.placesFor_lt)) h.hundred_le_steps

/-- What is printed is at least one. -/
theorem one_le_value (h : Scaled p power) : 1 ≤ (full (quotient p power)).trimmed.value := by
  rw [value_full, one_le_div (by positivity)]
  exact_mod_cast h.pow_le_steps

/-- What is printed is at most a thousand. -/
theorem value_le (h : Scaled p power) : (full (quotient p power)).trimmed.value ≤ 1000 := by
  rw [value_full, div_le_iff₀ (by positivity)]
  have hSteps : steps (quotient p power) ≤ 1000 * 10 ^ placesFor (quotient p power) :=
    Nat.le_trans h.steps_le (Nat.le_mul_of_pos_right _ (Nat.pow_pos (by decide)))
  exact_mod_cast hSteps

/-- A thousand is printed exactly from 999.5 on. -/
theorem value_lt_iff (h : Scaled p power) :
    (full (quotient p power)).trimmed.value < 1000 ↔ 2 * p < 1999 * 10 ^ power := by
  rw [value_full, div_lt_iff₀ (by positivity), ← h.steps_lt_thousand_iff]
  norm_cast

/-- The last place is that of the third significant digit. -/
theorem thirdDigit_eq (h : Scaled p power) : thirdDigit p power = 1 / 10 ^ placesFor (quotient p power) := by
  rw [thirdDigit, ← h.placesFor_add_log, pow_add, mul_comm, ← div_div, div_self (by positivity)]

/-- What is printed is off by half of the third digit at most. -/
theorem value_near (h : Scaled p power) :
    |(full (quotient p power)).trimmed.value - p / 10 ^ power| ≤ thirdDigit p power / 2 := by
  rw [value_full, h.thirdDigit_eq]
  obtain ⟨hBelow, hAbove⟩ := h.steps_near
  generalize placesFor (quotient p power) = places at hBelow hAbove ⊢
  generalize steps (quotient p power) = count at hBelow hAbove ⊢
  have hPlaces : (0 : ℚ) < 10 ^ places := by positivity
  have hUnit : (0 : ℚ) < 10 ^ power := by positivity
  have hSteps : |(count * 10 ^ power - 10 ^ places * p : ℚ)| ≤ 10 ^ power / 2 := by
    have hBelow' : (2 * (p * 10 ^ places) : ℚ) ≤ 2 * (count * 10 ^ power) + 10 ^ power := by
      exact_mod_cast hBelow
    have hAbove' : (2 * (count * 10 ^ power) : ℚ) ≤ 2 * (p * 10 ^ places) + 10 ^ power := by
      exact_mod_cast hAbove
    rw [abs_sub_le_iff]
    constructor <;> linarith
  calc |(count / 10 ^ places - p / 10 ^ power : ℚ)|
      = |(count * 10 ^ power - 10 ^ places * p : ℚ)| / (10 ^ places * 10 ^ power) := by
        rw [div_sub_div _ _ hPlaces.ne' hUnit.ne', abs_div, abs_of_pos (mul_pos hPlaces hUnit)]
    _ ≤ 10 ^ power / 2 / (10 ^ places * 10 ^ power) :=
        div_le_div_of_nonneg_right hSteps (mul_pos hPlaces hUnit).le
    _ = 1 / 10 ^ places / 2 := by field_simp

theorem isPlain_full (h : Scaled p power) : (full (quotient p power)).trimmed.IsPlain where
  first hZero := by
    have hWhole : 0 < steps (quotient p power) / 10 ^ placesFor (quotient p power) :=
      Nat.div_pos h.pow_le_steps (Nat.pow_pos (by decide))
    exact absurd hZero (Decimal.head?_digits_ne_zero hWhole)
  last := Numeral.getLast?_places_trimmed _

end Value

end Scaled

end Quotient

/-- A text stands for a whole number. It shows a plain decimal number and the suffix of a power of ten. The
quotient by that power is written with a fixed number of places, zeros are dropped from it without a change
of value, and what is shown is as near to the exact quotient as three significant digits can be. -/
structure StandsFor (text : String) (p power : Nat) (suffix : String) (written shown : Numeral) : Prop where
  text : text = String.ofList shown.text ++ suffix
  magnitude : (power, suffix) ∈ (0, "") :: magnitudes
  unit : 10 ^ power ≤ p ∧ p < 10 ^ (power + 3)
  places : (ofNat p / ofNat (10 ^ power)).fixedText written.places.length = String.ofList written.text
  kept : trimPlaces written.text = shown.text
  value : shown.value = written.value
  plain : shown.IsPlain
  near : |shown.value - p / 10 ^ power| ≤ thirdDigit p power / 2

/-- The text of a positive number is a plain numeral and the suffix, near the number and of three
digits unless rounding carries. -/
theorem standsFor_significant {p : Nat} (hPositive : 0 < p) (hSmall : p < 10 ^ 15) :
    let scaled := quotient p (magnitudeOf p).1
    StandsFor (significant (ofNat p)) p (magnitudeOf p).1 (magnitudeOf p).2 (full scaled)
      (full scaled).trimmed := by
  intro scaled
  have hScaled : Scaled p (magnitudeOf p).1 := scaled_magnitudeOf hPositive hSmall
  have hFixed := fixedText_placesFor hScaled.isMagnitude
  refine
    { text := ?_
      magnitude := magnitudeOf_mem p
      unit := ⟨hScaled.least, hScaled.most⟩
      places := ?_
      kept := Numeral.trimPlaces_text _
      value := Numeral.value_trimmed _
      plain := hScaled.isPlain_full
      near := hScaled.value_near }
  · rw [significant_ofNat hPositive (Nat.lt_trans hSmall (by decide)), hScaled.div_eq]
    dsimp only
    rw [hFixed, String.toList_ofList, Numeral.trimPlaces_text]
  · rw [hScaled.div_eq, full, Numeral.length_places_ofSteps]
    exact hFixed

end Quantity

namespace Rendering

/-- A row of a snapshot shows a number: its place in the table, or how many rows it stands for. -/
inductive ShowsNumber (rendering : Rendering) (data : Snapshot) : Nat → String → Prop
  | position {place : Nat} {row : Row} {cells : List String} {text : String}
      (hRow : (rowsOf data)[place]? = some row) (hCells : rendering.rows[place]? = some cells)
      (hText : cells[0]? = some text) :
      ShowsNumber rendering data (cut (firstPlace data + exactCount ((rowsOf data).take place))) text
  | count {place : Nat} {row : Row} {cells : List String} {text : String}
      (hRow : (rowsOf data)[place]? = some row) (hCells : rendering.rows[place]? = some cells)
      (hText : cells[1]? = some text) : ShowsNumber rendering data row.count.toNat text

/-- Every number in a rendering is written in this way. -/
theorem Counts.text_eq {rendering : Rendering} {columns : Nat} {data : Snapshot}
    (h : rendering.Counts columns data) {p : Nat} {text : String}
    (hShown : rendering.ShowsNumber data p text) : text = Quantity.significant (Double.ofNat p) := by
  have hSame : ∀ {cell : Nat} {cells cells' : List String} {number : String}, some cells = some cells' →
      cells[cell]? = some text → cells'[cell]? = some number → text = number := by
    intro cell cells cells' number hRow hText hNumber
    obtain rfl := Option.some.inj hRow
    exact Option.some.inj (hText.symm.trans hNumber)
  cases hShown with
  | position hRow hCells hText =>
      obtain ⟨_, hRow, hPosition, -⟩ := h.position _ _ hRow
      exact hSame (hCells.symm.trans hRow) hText hPosition
  | count hRow hCells hText =>
      obtain ⟨_, hRow, -, hCount⟩ := h.position _ _ hRow
      exact hSame (hCells.symm.trans hRow) hText hCount

end Rendering

namespace Quantity

/-- Three digits stand for every number, except that a carry is not passed on to the suffix. From 1 to below
`10 ^ 15` the text of a number that a row shows is a plain decimal number, at least 1, and a suffix, as near
to the number as three significant digits can be, and the zeros that are dropped do not count. The decimal
number is below 1000, and has three digits or less, if and only if the exact quotient by the power of ten is
below 999.5. Otherwise it is 1000. -/
theorem three_digits_unless_carried {p : Nat} (hPositive : 1 ≤ p) (hSmall : p < 10 ^ 15) :
    (∀ schema order data text, (Rendering.ofSnapshot schema order data).ShowsNumber data p text →
      text = significant (Double.ofNat p)) ∧
    ∃ power suffix written shown,
      StandsFor (significant (Double.ofNat p)) p power suffix written shown ∧
      1 ≤ shown.value ∧ shown.value ≤ 1000 ∧
      (shown.value < 1000 ↔ 2 * p < 1999 * 10 ^ power) ∧
      (shown.digitCount ≤ 3 ↔ 2 * p < 1999 * 10 ^ power) := by
  have hScaled : Scaled p (magnitudeOf p).1 := scaled_magnitudeOf hPositive hSmall
  constructor
  · intro schema order data text hShown
    exact (Rendering.counts_ofSnapshot schema order data).text_eq hShown
  · exact ⟨_, _, _, _, standsFor_significant hPositive hSmall, hScaled.one_le_value, hScaled.value_le,
      hScaled.value_lt_iff, hScaled.digitCount_full_le_iff⟩

/-- The last number of thousands that is not rounded up to one thousand of them, as the place of a row. -/
theorem three_digits_unless_carried_below_half :
    let data : Snapshot := ⟨none, 2000000, some 999499, some [⟨999500, []⟩]⟩
    1 ≤ 999499 ∧ 999499 < 10 ^ 15 ∧
      (Rendering.ofSnapshot ⟨[]⟩ ⟨[]⟩ data).ShowsNumber data 999499 "999K" ∧
      ∃ power suffix written shown, StandsFor "999K" 999499 power suffix written shown ∧
        1 ≤ shown.value ∧ shown.value < 1000 ∧ shown.digitCount ≤ 3 := by
  intro data
  have hShown : (Rendering.ofSnapshot ⟨[]⟩ ⟨[]⟩ data).ShowsNumber data 999499 "999K" := by
    have hRows : (Rendering.ofSnapshot ⟨[]⟩ ⟨[]⟩ data).rows = [["999K", "1000K"]] := by decide +kernel
    exact .position rfl (congrArg (·[0]?) hRows) rfl
  obtain ⟨hText, power, suffix, written, shown, hStands, hLeast, -, hBelow, hDigits⟩ :=
    @three_digits_unless_carried 999499 (by decide) (by decide)
  have hCarry : 2 * 999499 < 1999 * 10 ^ power := by
    have hMost := hStands.unit.2
    rw [Nat.pow_add] at hMost
    omega
  rw [← hText _ _ _ _ hShown] at hStands
  exact ⟨by decide, by decide, hShown, power, suffix, written, shown, hStands, hLeast, hBelow.mpr hCarry,
    hDigits.mpr hCarry⟩

/-- The next number is rounded up, and is shown with four digits. -/
theorem thousand_shown_with_smaller_suffix :
    let data : Snapshot := ⟨none, 2000000, some 999499, some [⟨999500, []⟩]⟩
    1 ≤ 999500 ∧ 999500 < 10 ^ 15 ∧
      (Rendering.ofSnapshot ⟨[]⟩ ⟨[]⟩ data).ShowsNumber data 999500 "1000K" ∧
      significant (Double.ofNat 999500) = "1000K" ∧ ("1000K".toList.filter Char.isDigit).length = 4 := by
  intro data
  have hRows : (Rendering.ofSnapshot ⟨[]⟩ ⟨[]⟩ data).rows = [["999K", "1000K"]] := by decide +kernel
  have hCells := congrArg (·[0]?) hRows
  exact ⟨by decide, by decide, @Rendering.ShowsNumber.count _ data 0 ⟨999500, []⟩ _ _ rfl hCells rfl,
    by decide +kernel, by decide⟩

end Quantity

end RemoteTable
