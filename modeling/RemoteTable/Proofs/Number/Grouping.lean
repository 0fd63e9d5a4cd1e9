import Mathlib.Data.List.Induction
import Mathlib.Tactic.Common
import RemoteTable.Number.Quantity

/-! How counts are written. Commas cut the digits into groups of three from the right, and nothing else
is added to the decimal text of the count. -/

namespace RemoteTable

namespace Decimal

theorem digits_ne_nil (n : Nat) : digits n ≠ [] := Nat.toDigits_ne_nil

theorem isDigit_of_mem_digits {n : Nat} {c : Char} (h : c ∈ digits n) : c.isDigit = true :=
  Nat.isDigit_of_mem_toDigits (by decide) (by decide) h

/-- No digit is written in front of the first one that counts. -/
theorem head?_digits_ne_zero {n : Nat} (h : 0 < n) : (digits n).head? ≠ some '0' := by
  induction n using Nat.strongRecOn with
  | ind n ih =>
      rw [digits, Nat.toDigits_eq_if (by decide)]
      split
      · rename_i hSmall
        intro hZero
        have hChar : n.digitChar = '0' := Option.some.inj hZero
        have hNone : n = 0 := Nat.digitChar_eq_zero.mp hChar
        omega
      · rename_i hLarge
        obtain ⟨first, rest, hDigits⟩ := List.exists_cons_of_ne_nil (digits_ne_nil (n / 10))
        have hFirst := ih (n / 10) (by omega) (by omega)
        rw [hDigits] at hFirst
        rw [← digits, hDigits]
        exact hFirst

/-- A loop that goes over to a state with its first step and stays there ends in it. -/
theorem forIn_eq_of_stays {α β : Type} {list : List α} {init : β} (state : β)
    {step : α → β → Id (ForInStep β)} (hSome : list ≠ [])
    (hFirst : ∀ a ∈ list, step a init = pure (.yield state))
    (hStays : ∀ a ∈ list, step a state = pure (.yield state)) : forIn list init step = pure state := by
  induction list generalizing init with
  | nil => exact absurd rfl hSome
  | cons a rest ih =>
      rw [List.forIn_cons, hFirst a List.mem_cons_self, pure_bind]
      cases rest with
      | nil => rfl
      | cons b rest =>
          have hRest : ∀ c ∈ b :: rest, step c state = pure (.yield state) :=
            fun c hOther => hStays c (List.mem_cons_of_mem a hOther)
          exact ih (List.cons_ne_nil b rest) hRest hRest

/-- Digits alone are read as a number. -/
theorem isNat_of_digits {text : String.Slice} (hSome : text.copy.toList ≠ [])
    (hDigits : ∀ c ∈ text.copy.toList, c.isDigit = true) : text.isNat = true := by
  have hStep : ∀ c ∈ text.copy.toList, ¬ c = '_' ∧ c.isDigit = true := by
    refine fun c hChar => ⟨?_, hDigits c hChar⟩
    rintro rfl
    exact absurd (hDigits _ hChar) (by decide)
  unfold String.Slice.isNat
  simp only [String.Slice.forIn_eq_forIn_toList]
  rw [forIn_eq_of_stays (none, true) hSome]
  · rfl
  all_goals
    intro c hChar
    simp only [if_neg (hStep c hChar).1, (hStep c hChar).2, if_true]

/-- The decimal text of a number is read back as the number. -/
theorem toNat?_toString (n : Nat) : (toString n).toNat? = some n := by
  have hText : (toString n).toSlice.copy.toList = digits n := by
    rw [String.copy_toSlice, Nat.toString_eq_ofList_toDigits, String.toList_ofList, digits]
  have hPlain : ∀ c ∈ digits n, (c != '_') = true := by
    intro c hChar
    refine bne_iff_ne.mpr ?_
    rintro rfl
    exact absurd (isDigit_of_mem_digits hChar) (by decide)
  unfold String.toNat? String.Slice.toNat?
  rw [if_pos (isNat_of_digits (hText ▸ digits_ne_nil n) (hText ▸ fun _ => isDigit_of_mem_digits)),
    String.Slice.foldl_eq_foldl_toList, hText, Option.some.injEq]
  calc (digits n).foldl (fun sofar c => if c = '_' then sofar else sofar * 10 + (c.toNat - '0'.toNat)) 0
    _ = ((digits n).filter (· != '_')).foldl (fun sofar c => 10 * sofar + (c.toNat - '0'.toNat)) 0 := by
        simp [List.foldl_filter, Nat.mul_comm]
    _ = Nat.ofDigitChars 10 (digits n) 0 := by
        rw [List.filter_eq_self.mpr hPlain, Nat.ofDigitChars_eq_foldl]
    _ = n := Nat.ofDigitChars_toDigits (by decide) (by decide)
end Decimal

namespace Quantity

section InsertCommas

variable {digits : List Char}

/-- Nothing but commas is inserted. -/
theorem filter_insertCommas (h : ',' ∉ digits) :
    (insertCommas digits).filter (· != ',') = digits := by
  have hKept : ∀ {d : Char} {rest : List Char}, ',' ∉ d :: rest → (d != ',') = true := by
    intro d rest hNone
    exact bne_iff_ne.mpr fun hComma => hNone (hComma ▸ List.mem_cons_self)
  induction digits using insertCommas.induct with
  | case1 => rfl
  | case2 d => exact List.filter_cons_of_pos (hKept h)
  | case3 d e rest hWhole ih =>
      have hRest := ih fun hComma => h (List.mem_cons_of_mem d hComma)
      rw [insertCommas, if_pos hWhole, List.filter_cons, if_pos (hKept h), List.filter_cons,
        if_neg (by decide), hRest]
  | case4 d e rest hOther ih =>
      have hRest := ih fun hComma => h (List.mem_cons_of_mem d hComma)
      rw [insertCommas, if_neg hOther, List.filter_cons, if_pos (hKept h), hRest]

/-- The groups are the digits, in order. The first one has the digits that groups of three leave over,
or three if they leave none. -/
theorem splitOn_insertCommas (hSome : digits ≠ []) (h : ',' ∉ digits) :
    ∃ first rest, (insertCommas digits).splitOn ',' = first :: rest ∧
      (first :: rest).flatten = digits ∧ first.length = (digits.length - 1) % 3 + 1 ∧
      ∀ group ∈ rest, group.length = 3 := by
  induction digits using insertCommas.induct with
  | case1 => exact absurd rfl hSome
  | case2 d =>
      exact ⟨[d], [], List.splitOn_eq_singleton h, rfl, rfl,
        fun _ hNone => absurd hNone List.not_mem_nil⟩
  | case3 d e rest hWhole ih =>
      obtain ⟨first, others, hSplit, hDigits, hFirst, hOthers⟩ :=
        ih (List.cons_ne_nil e rest) fun hRest => h (List.mem_cons_of_mem d hRest)
      have hAlone : ',' ∉ [d] := fun hComma => h (List.mem_append_left (e :: rest) hComma)
      refine ⟨[d], first :: others, ?_, ?_, ?_, ?_⟩
      · rw [insertCommas, if_pos hWhole, ← hSplit]
        exact List.splitOn_append_cons_self_of_not_mem hAlone _
      · rw [List.flatten_cons, hDigits, List.singleton_append]
      · simp only [List.length_cons, List.length_nil]
        omega
      · intro group hGroup
        rcases List.mem_cons.mp hGroup with rfl | hOther
        · simp only [List.length_cons] at hFirst
          omega
        · exact hOthers group hOther
  | case4 d e rest hOther ih =>
      obtain ⟨first, others, hSplit, hDigits, hFirst, hOthers⟩ :=
        ih (List.cons_ne_nil e rest) fun hRest => h (List.mem_cons_of_mem d hRest)
      have hDigit : (d == ',') = false :=
        beq_eq_false_iff_ne.mpr fun hComma => h (hComma ▸ List.mem_cons_self)
      refine ⟨d :: first, others, ?_, ?_, ?_, hOthers⟩
      · rw [insertCommas, if_neg hOther, List.splitOn_cons_eq_if_modifyHead, hDigit, hSplit]
        rfl
      · rw [List.flatten_cons, List.cons_append, ← List.flatten_cons, hDigits]
      · simp only [List.length_cons] at hFirst ⊢
        omega

end InsertCommas

variable (n : Nat)

theorem comma_not_mem_digits : ',' ∉ Decimal.digits n := fun hComma =>
  absurd (Decimal.isDigit_of_mem_digits hComma) (by decide)

/-- Without its commas the text is that of the digits alone. -/
theorem filter_grouped : (grouped n).toList.filter (· != ',') = Decimal.digits n := by
  rw [grouped, String.toList_ofList]
  exact filter_insertCommas (comma_not_mem_digits n)

/-- Digits are grouped faithfully. Without its commas the text of a count is the decimal text of the
count: it reads as the count, and there is no zero in front of it. Different counts have different texts.
The commas cut the text into a first group of one to three digits and further groups of exactly three. -/
theorem grouped_splits_into_threes :
    let digits := (grouped n).toList.filter (· != ',')
    String.ofList digits = toString n ∧ (String.ofList digits).toNat? = some n ∧
    (digits.head? = some '0' → n = 0) ∧
    (∀ other, grouped other = grouped n → other = n) ∧
    ∃ first rest, (grouped n).toList.splitOn ',' = first :: rest ∧
      1 ≤ first.length ∧ first.length ≤ 3 ∧ (∀ group ∈ rest, group.length = 3) ∧
      ∀ group ∈ first :: rest, ∀ c ∈ group, c.isDigit = true := by
  intro digits
  have hDigits : ∀ m : Nat, String.ofList ((grouped m).toList.filter (· != ',')) = toString m := by
    intro m
    rw [filter_grouped, Nat.toString_eq_ofList_toDigits]
    rfl
  refine ⟨hDigits n, ?_, fun hZero => ?_, fun other hSame => ?_, ?_⟩
  · rw [hDigits n, Decimal.toNat?_toString]
  · by_contra hPositive
    apply Decimal.head?_digits_ne_zero (Nat.pos_of_ne_zero hPositive)
    rw [← filter_grouped]
    exact hZero
  · have hText : toString other = toString n := by rw [← hDigits other, ← hDigits n, hSame]
    have hBoth : some other = some n := by
      rw [← Decimal.toNat?_toString other, ← Decimal.toNat?_toString n, hText]
    exact Option.some.inj hBoth
  · obtain ⟨first, rest, hSplit, hGroups, hFirst, hRest⟩ :=
      splitOn_insertCommas (Decimal.digits_ne_nil n) (comma_not_mem_digits n)
    refine ⟨first, rest, ?_, by omega, by omega, hRest, fun group hGroup c hChar => ?_⟩
    · rw [grouped, String.toList_ofList, hSplit]
    · apply Decimal.isDigit_of_mem_digits
      rw [← hGroups]
      exact List.mem_flatten_of_mem hGroup hChar

example : grouped 18446744073709551615 = "18,446,744,073,709,551,615" := by decide +kernel

end Quantity

end RemoteTable
