import Mathlib.Algebra.Field.Rat
import Mathlib.Data.List.DropRight
import RemoteTable.Proofs.Number.Grouping

/-! Decimal texts of numbers that are not whole. A text with a fixed number of places is that of a number of
equal steps, and dropping the zeros at its end leaves a text of the same number. -/

namespace RemoteTable

namespace Decimal

theorem length_padded {width n : Nat} (hWidth : 0 < width) (h : n < 10 ^ width) :
    (padded width n).length = width := by
  have hDigits : (digits n).length ≤ width := (Nat.length_toDigits_le_iff (by decide) hWidth).mpr h
  rw [padded, List.length_append, List.length_replicate, Nat.sub_add_cancel hDigits]

theorem isDigit_of_mem_padded {width n : Nat} {c : Char} (h : c ∈ padded width n) :
    c.isDigit = true := by
  rcases List.mem_append.mp h with hZero | hDigit
  · rw [List.eq_of_mem_replicate hZero]
    rfl
  · exact isDigit_of_mem_digits hDigit

theorem ofDigitChars_padded (width n : Nat) : Nat.ofDigitChars 10 (padded width n) 0 = n := by
  rw [padded, Nat.ofDigitChars_append, Nat.ofDigitChars_replicate_zero, Nat.mul_zero]
  exact Nat.ofDigitChars_ten_toDigits

end Decimal

/-- A number that is written with decimal digits, in front of the point and behind it. -/
structure Numeral where
  whole : List Char
  places : List Char
  whole_ne_nil : whole ≠ []
  whole_isDigit : ∀ c ∈ whole, c.isDigit = true
  places_isDigit : ∀ c ∈ places, c.isDigit = true

namespace Numeral

/-- Without places there is no point either. -/
def text (n : Numeral) : List Char :=
  if n.places = [] then n.whole else n.whole ++ '.' :: n.places

/-- The number that is written, exactly. -/
def value (n : Numeral) : ℚ :=
  Nat.ofDigitChars 10 (n.whole ++ n.places) 0 / 10 ^ n.places.length

theorem text_of_nil {n : Numeral} (h : n.places = []) : n.text = n.whole := if_pos h

theorem text_of_ne_nil {n : Numeral} (h : n.places ≠ []) : n.text = n.whole ++ '.' :: n.places :=
  if_neg h

def digitCount (n : Numeral) : Nat := n.whole.length + n.places.length

/-- Nothing is written that the number does without. -/
structure IsPlain (n : Numeral) : Prop where
  first : n.whole.head? = some '0' → n.whole = ['0']
  last : n.places.getLast? ≠ some '0'

section Steps

variable (steps places : Nat)

/-- So many steps, each one in the last of so many places. -/
def ofSteps : Numeral where
  whole := Decimal.digits (steps / 10 ^ places)
  places := if places = 0 then [] else Decimal.padded places (steps % 10 ^ places)
  whole_ne_nil := Decimal.digits_ne_nil _
  whole_isDigit _ := Decimal.isDigit_of_mem_digits
  places_isDigit c hPlace := by
    split at hPlace
    · exact absurd hPlace List.not_mem_nil
    · exact Decimal.isDigit_of_mem_padded hPlace

variable {places} in
theorem places_ofSteps (hPlaces : 0 < places) :
    (ofSteps steps places).places = Decimal.padded places (steps % 10 ^ places) :=
  if_neg (Nat.ne_of_gt hPlaces)

theorem length_places_ofSteps : (ofSteps steps places).places.length = places := by
  rcases Nat.eq_zero_or_pos places with rfl | hPlaces
  · rfl
  · rw [places_ofSteps steps hPlaces]
    exact Decimal.length_padded hPlaces (Nat.mod_lt _ (Nat.pow_pos (by decide)))

variable {steps places} in
/-- As many digits as the number of steps has, unless more of them are places. -/
theorem digitCount_ofSteps_le {digits : Nat} (hPlaces : places < digits) (h : steps < 10 ^ digits) :
    (ofSteps steps places).digitCount ≤ digits := by
  have hWhole : (ofSteps steps places).whole.length ≤ digits - places := by
    apply (Nat.length_toDigits_le_iff (by decide) (Nat.sub_pos_of_lt hPlaces)).mpr
    rw [Nat.div_lt_iff_lt_mul (Nat.pow_pos (by decide)), ← Nat.pow_add,
      Nat.sub_add_cancel (Nat.le_of_lt hPlaces)]
    exact h
  rw [digitCount, length_places_ofSteps]
  omega

theorem value_ofSteps : (ofSteps steps places).value = steps / 10 ^ places := by
  have hDigits : Nat.ofDigitChars 10 ((ofSteps steps places).whole ++ (ofSteps steps places).places) 0 =
      steps := by
    rw [Nat.ofDigitChars_append, Nat.ofDigitChars_eq_ofDigitChars_zero, length_places_ofSteps]
    rcases Nat.eq_zero_or_pos places with rfl | hPlaces
    · simp [ofSteps, Decimal.digits]
    · have hWhole : Nat.ofDigitChars 10 (ofSteps steps places).whole 0 = steps / 10 ^ places :=
        Nat.ofDigitChars_ten_toDigits
      rw [hWhole, places_ofSteps steps hPlaces, Decimal.ofDigitChars_padded]
      exact Nat.div_add_mod _ _
  rw [value, hDigits, length_places_ofSteps]

/-- The text of a fraction with a fixed number of places. -/
theorem fixed_eq_text_ofSteps (num den : Nat) :
    Decimal.fixed num den places =
      (ofSteps (Double.roundedQuotient (num * 10 ^ places) den) places).text := by
  unfold Decimal.fixed
  dsimp only
  rcases Nat.eq_zero_or_pos places with rfl | hPlaces
  · simp [text, ofSteps]
  · have hSome : (ofSteps (Double.roundedQuotient (num * 10 ^ places) den) places).places ≠ [] := by
      apply List.ne_nil_of_length_pos
      rw [length_places_ofSteps]
      exact hPlaces
    rw [text_of_ne_nil hSome, if_neg (Nat.ne_of_gt hPlaces), places_ofSteps _ hPlaces]
    rfl

end Steps

section Trimmed

/-- Without the zeros at the end of the places. -/
def trimmed (n : Numeral) : Numeral where
  whole := n.whole
  places := n.places.rdropWhile (· == '0')
  whole_ne_nil := n.whole_ne_nil
  whole_isDigit := n.whole_isDigit
  places_isDigit c hPlace := n.places_isDigit c ((List.rdropWhile_prefix _ _).subset hPlace)

variable (n : Numeral)

theorem places_trimmed : n.trimmed.places = n.places.rdropWhile (· == '0') := rfl

theorem getLast?_places_trimmed : n.trimmed.places.getLast? ≠ some '0' := by
  intro hZero
  have hSome : n.trimmed.places ≠ [] := by
    intro hNone
    rw [hNone] at hZero
    exact absurd hZero (by decide)
  have hLast := List.rdropWhile_last_not _ _ hSome
  rw [List.getLast?_eq_some_getLast hSome, Option.some.injEq] at hZero
  exact hLast (beq_iff_eq.mpr hZero)

theorem digitCount_trimmed_le : n.trimmed.digitCount ≤ n.digitCount :=
  Nat.add_le_add_left (List.rdropWhile_prefix _ _).length_le _

/-- The zeros that are dropped do not count. -/
theorem value_trimmed : n.trimmed.value = n.value := by
  obtain ⟨zeros, hPlaces⟩ : ∃ zeros, n.places = n.trimmed.places ++ List.replicate zeros '0' := by
    refine ⟨(n.places.rtakeWhile (· == '0')).length, ?_⟩
    have hZeros : n.places.rtakeWhile (· == '0') =
        List.replicate (n.places.rtakeWhile (· == '0')).length '0' :=
      List.eq_replicate_of_mem fun c hZero => beq_iff_eq.mp (List.mem_rtakeWhile_imp (p := (· == '0')) hZero)
    rw [← hZeros]
    exact List.rdropWhile_append_rtakeWhile.symm
  have hWhole : n.trimmed.whole = n.whole := rfl
  have hZeros : (10 : ℚ) ^ zeros ≠ 0 := pow_ne_zero _ (by decide)
  rw [value, value, hPlaces, hWhole, ← List.append_assoc, Nat.ofDigitChars_append _ (m := .replicate _ _),
    Nat.ofDigitChars_replicate_zero, List.length_append, List.length_replicate, pow_add, Nat.cast_mul,
    Nat.cast_pow, Nat.cast_ofNat, mul_comm, mul_div_mul_right _ _ hZeros]

theorem point_not_mem_whole : '.' ∉ n.whole := fun hPoint =>
  absurd (n.whole_isDigit _ hPoint) (by decide)

/-- Zeros are dropped up to the point, and not in front of it. -/
theorem dropWhile_reverse_text (hSome : n.places ≠ []) :
    n.text.reverse.dropWhile (· == '0') = n.trimmed.places.reverse ++ '.' :: n.whole.reverse := by
  have hPoint : ('.' :: n.whole.reverse).dropWhile (· == '0') = '.' :: n.whole.reverse := rfl
  have hKept : n.places.reverse.dropWhile (· == '0') = n.trimmed.places.reverse :=
    (List.reverse_reverse _).symm
  rw [text_of_ne_nil hSome, List.reverse_append, List.reverse_cons, List.append_assoc,
    List.singleton_append, List.dropWhile_append, hPoint, hKept]
  split_ifs with hEmpty
  · rw [List.isEmpty_iff.mp hEmpty, List.nil_append]
  · rfl

/-- Dropping zeros from the text takes the point with them when no place is left. -/
theorem trimPlaces_text : Quantity.trimPlaces n.text = n.trimmed.text := by
  unfold Quantity.trimPlaces
  by_cases hNone : n.places = []
  · have hLeft : n.trimmed.places = [] := by
      rw [places_trimmed, hNone, List.rdropWhile_nil]
    rw [text_of_nil hNone, text_of_nil hLeft, if_neg (mt List.contains_iff_mem.mp n.point_not_mem_whole)]
    rfl
  · have hContains : n.text.contains '.' = true := by
      rw [List.contains_iff_mem, text_of_ne_nil hNone]
      exact List.mem_append_right _ List.mem_cons_self
    rw [if_pos hContains, n.dropWhile_reverse_text hNone]
    dsimp only
    by_cases hLeft : n.trimmed.places = []
    · rw [hLeft, text_of_nil hLeft]
      exact List.reverse_reverse _
    · rw [text_of_ne_nil hLeft, if_neg, List.reverse_append, List.reverse_reverse, List.reverse_cons,
        List.reverse_reverse, List.append_assoc, List.singleton_append]
      · rfl
      · intro hPoint
        rw [List.head?_append_of_ne_nil _ (mt List.reverse_eq_nil_iff.mp hLeft), List.head?_reverse] at hPoint
        have hDigit := n.trimmed.places_isDigit '.' (List.mem_of_getLast? hPoint)
        exact absurd hDigit (by decide)

end Trimmed

end Numeral

end RemoteTable
