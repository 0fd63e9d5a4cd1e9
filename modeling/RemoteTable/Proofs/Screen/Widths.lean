import Mathlib.Order.Bounds.Basic
import RemoteTable.Screen.Draw

/-! How wide the columns of a table are. A column is as wide as the longest of its texts, up to a limit, but
widths are 16-bit words: where text and limit both go beyond them, only a remainder of the width is left. -/

namespace RemoteTable.Screen

theorem length_columnWidths (labels : List String) (rows : List (List String)) (limit : Nat) :
    (columnWidths labels rows limit).length = labels.length := by
  simp [columnWidths]

/-- The texts of a column: its label, and its cell in each row that reaches it. -/
def columnTexts (labels : List String) (rows : List (List String)) (index : Nat) : Set String :=
  {text | labels[index]? = some text ∨ ∃ row ∈ rows, row[index]? = some text}

theorem isGreatest_foldl_max (first : Nat) (rest : List Nat) :
    IsGreatest {n | n = first ∨ n ∈ rest} (rest.foldl max first) := by
  induction rest generalizing first with
  | nil =>
      refine ⟨Or.inl rfl, ?_⟩
      rintro n (rfl | hRest)
      · exact Nat.le_refl n
      · exact absurd hRest List.not_mem_nil
  | cons n rest ih =>
      obtain ⟨hReached, hBound⟩ := ih (max first n)
      have hMax : max first n ≤ rest.foldl max (max first n) := hBound (Or.inl rfl)
      rw [List.foldl_cons]
      constructor
      · rcases hReached with hFirst | hRest
        · rw [hFirst]
          rcases Nat.le_total first n with hOrder | hOrder
          · exact Or.inr (List.mem_cons.mpr (Or.inl (Nat.max_eq_right hOrder)))
          · exact Or.inl (Nat.max_eq_left hOrder)
        · exact Or.inr (List.mem_cons_of_mem n hRest)
      · rintro m (rfl | hMem)
        · exact Nat.le_trans (Nat.le_max_left m n) hMax
        · rcases List.mem_cons.mp hMem with rfl | hRest
          · exact Nat.le_trans (Nat.le_max_right first m) hMax
          · exact hBound (Or.inr hRest)

section Column

variable (labels : List String) (rows : List (List String)) {index : Nat}

/-- The lengths of the texts of a column, in the order in which they are compared. -/
theorem lengths_columnTexts {label : String} (hLabel : labels[index]? = some label) :
    String.length '' columnTexts labels rows index =
      {n | n = label.length ∨ n ∈ (rows.filterMap fun row => row[index]?).map String.length} := by
  ext n
  constructor
  · rintro ⟨text, hText | ⟨row, hRow, hText⟩, rfl⟩
    · exact Or.inl (congrArg String.length (Option.some.inj (hText.symm.trans hLabel)))
    · exact Or.inr (List.mem_map_of_mem (List.mem_filterMap.mpr ⟨row, hRow, hText⟩))
  · rintro (rfl | hCell)
    · exact ⟨label, Or.inl hLabel, rfl⟩
    · obtain ⟨text, hText, rfl⟩ := List.mem_map.mp hCell
      exact ⟨text, Or.inr (List.mem_filterMap.mp hText), rfl⟩

/-- The width of a column is what a 16-bit word keeps of the length of its longest text. -/
theorem exists_longest (hIndex : index < labels.length) (limit : Nat) :
    ∃ longest, IsGreatest (String.length '' columnTexts labels rows index) longest ∧
      (columnWidths labels rows limit)[index]? = some (min longest limit % 65536) := by
  have hLabel : labels[index]? = some labels[index] := List.getElem?_eq_getElem hIndex
  refine ⟨_, lengths_columnTexts labels rows hLabel ▸ isGreatest_foldl_max _ _, ?_⟩
  simp [columnWidths, columnWidth, hLabel]

variable {labels rows}

/-- The longest text grows with the texts. -/
theorem longest_mono {labels' : List String} {rows' : List (List String)} {longest longest' : Nat}
    (hLongest : IsGreatest (String.length '' columnTexts labels rows index) longest)
    (hLongest' : IsGreatest (String.length '' columnTexts labels' rows' index) longest')
    (hLonger : ∀ text ∈ columnTexts labels rows index,
      ∃ longer ∈ columnTexts labels' rows' index, text.length ≤ longer.length) :
    longest ≤ longest' := by
  obtain ⟨text, hText, rfl⟩ := hLongest.1
  obtain ⟨longer, hOther, hLength⟩ := hLonger text hText
  exact hLength.trans (hLongest'.2 ⟨longer, hOther, rfl⟩)

end Column

/-- There is one width for each label, and it is the length of the longest text of the column, cut at the
limit and at the largest 16-bit word, unless the limit leaves more of the text than such a word can count:
then it is the remainder. A column is never narrower than one with shorter texts, as long as its own
texts can be counted. -/
theorem columnWidths_cut_unless_wrapped (labels : List String) (rows : List (List String)) (limit : Nat) :
    (columnWidths labels rows limit).length = labels.length ∧
    ∀ index < labels.length, ∃ width longest, (columnWidths labels rows limit)[index]? = some width ∧
      IsGreatest (String.length '' columnTexts labels rows index) longest ∧
      width = min longest limit % 65536 ∧
      (width = min limit (min 65535 longest) ↔
        min longest limit ≤ 65535 ∨ min longest limit % 65536 = 65535) ∧
      ∀ labels' rows', index < labels'.length →
        (∀ text ∈ columnTexts labels rows index,
          ∃ longer ∈ columnTexts labels' rows' index, text.length ≤ longer.length) →
        (∀ text ∈ columnTexts labels' rows' index, min text.length limit ≤ 65535) →
        ∃ width', (columnWidths labels' rows' limit)[index]? = some width' ∧ width ≤ width' := by
  refine ⟨length_columnWidths labels rows limit, fun index hIndex => ?_⟩
  obtain ⟨longest, hLongest, hWidth⟩ := exists_longest labels rows hIndex limit
  refine ⟨_, longest, hWidth, hLongest, rfl, by omega, ?_⟩
  intro labels' rows' hIndex' hLonger hCountable
  obtain ⟨longest', hLongest', hWidth'⟩ := exists_longest labels' rows' hIndex' limit
  have hOrder : longest ≤ longest' := longest_mono hLongest hLongest' hLonger
  have hCounted : min longest' limit ≤ 65535 := by
    obtain ⟨text, hText, rfl⟩ := hLongest'.1
    exact hCountable text hText
  exact ⟨_, hWidth', by omega⟩

/-- The second row does not reach the second column, and the third row goes beyond it. -/
theorem columnWidths_cut_unless_wrapped_of_ragged_rows :
    let labels := ["A", "B"]
    let rows := [["u", "vw"], ["wxyz"], ["", "x", "y"]]
    let wider := [["u", "vwxyz"]]
    (∀ text ∈ columnTexts labels rows 1, ∃ longer ∈ columnTexts labels wider 1, text.length ≤ longer.length) ∧
    (∀ text ∈ columnTexts labels wider 1, min text.length 3 ≤ 65535) ∧
    columnWidths labels rows 3 = [3, 2] ∧
    ∃ width, (columnWidths labels wider 3)[1]? = some width ∧ 2 ≤ width := by
  intro labels rows wider
  have hLonger : ∀ text ∈ columnTexts labels rows 1,
      ∃ longer ∈ columnTexts labels wider 1, text.length ≤ longer.length := by
    refine fun text hText => ⟨"vwxyz", Or.inr ⟨_, List.mem_singleton_self _, rfl⟩, ?_⟩
    have hTexts : text = "B" ∨ text = "vw" ∨ text = "x" := by
      simpa [columnTexts, labels, rows, eq_comm] using hText
    rcases hTexts with rfl | rfl | rfl <;> decide
  have hCountable : ∀ text ∈ columnTexts labels wider 1, min text.length 3 ≤ 65535 :=
    fun text _ => Nat.le_trans (Nat.min_le_right _ 3) (by decide)
  have hWidths : columnWidths labels rows 3 = [3, 2] := by decide
  obtain ⟨width, longest, hWidth, -, -, -, hMono⟩ :=
    (columnWidths_cut_unless_wrapped labels rows 3).2 1 (by decide)
  rw [hWidths] at hWidth
  obtain rfl : 2 = width := Option.some.inj hWidth
  exact ⟨hLonger, hCountable, hWidths, hMono labels wider (by decide) hLonger hCountable⟩

/-- A text that is one character longer than the largest 16-bit word. -/
def longText : String := String.ofList (List.replicate 65536 'x')

theorem length_longText : longText.length = 65536 := by
  unfold longText
  rw [String.length_ofList, List.length_replicate]

theorem columnWidths_single (text : String) (limit : Nat) :
    columnWidths ["A"] [[text]] limit = [min (max 1 text.length) limit % 65536] := rfl

/-- A column with a long text may be left without any width, while it has one as long as its text is
short. -/
theorem not_forall_columnWidths_cut :
    (¬ ∀ labels rows limit, ∀ index < labels.length, ∀ longest,
      IsGreatest (String.length '' columnTexts labels rows index) longest →
      (columnWidths labels rows limit)[index]? = some (min limit (min 65535 longest))) ∧
    ¬ ∀ labels rows rows' limit, ∀ index < labels.length,
      (∀ text ∈ columnTexts labels rows index,
        ∃ longer ∈ columnTexts labels rows' index, text.length ≤ longer.length) →
      ∀ width width', (columnWidths labels rows limit)[index]? = some width →
        (columnWidths labels rows' limit)[index]? = some width' → width ≤ width' := by
  have hLong : columnWidths ["A"] [[longText]] 65536 = [0] := by
    rw [columnWidths_single, length_longText]
    rfl
  have hText : longText ∈ columnTexts ["A"] [[longText]] 0 := Or.inr ⟨_, List.mem_singleton_self _, rfl⟩
  constructor
  · intro hCut
    obtain ⟨longest, hLongest, -⟩ := exists_longest ["A"] [[longText]] Nat.zero_lt_one 65536
    have hWidth := hCut ["A"] [[longText]] 65536 0 Nat.zero_lt_one longest hLongest
    have hLength : longText.length ≤ longest := hLongest.2 ⟨longText, hText, rfl⟩
    rw [hLong, List.getElem?_cons_zero, Option.some.injEq] at hWidth
    rw [length_longText] at hLength
    omega
  · intro hMono
    have hShorter : ∀ text ∈ columnTexts ["A"] [["x"]] 0,
        ∃ longer ∈ columnTexts ["A"] [[longText]] 0, text.length ≤ longer.length := by
      refine fun text hShort => ⟨longText, hText, ?_⟩
      have hTexts : text = "A" ∨ text = "x" := by
        simpa [columnTexts, eq_comm] using hShort
      rw [length_longText]
      rcases hTexts with rfl | rfl <;> decide
    have hWidth := hMono ["A"] [["x"]] [[longText]] 65536 0 Nat.zero_lt_one hShorter 1 0
      rfl (by rw [hLong]; rfl)
    exact absurd hWidth (by decide)

end RemoteTable.Screen
