import RemoteTable.Proofs.Number.Magnitude
import RemoteTable.Screen.ScrollBar
import RemoteTable.Table.Rendering

/-! What a scroll bar marks. The displayed part of a table is one block of cells, and it cannot be marked
only when its first row stands so far behind the end of the table that the cells in front of it are more
than can be counted. -/

namespace RemoteTable

theorem checkedAdd_eq_error_iff {a b : Nat} {fault : Fault} :
    checkedAdd a b = .error fault ↔ fault = .addOverflow ∧ 2 ^ 64 ≤ a + b := by
  have hWord : Nat.pow 2 64 = 2 ^ 64 := rfl
  rw [checkedAdd, hWord]
  split_ifs with hFits
  · exact iff_of_false (by nofun) fun hOver => Nat.not_lt.mpr hOver.2 hFits
  · rw [Except.error.injEq, eq_comm]
    exact (and_iff_left (Nat.not_lt.mp hFits)).symm

namespace ScrollBar

/-- Only the cell behind the first one can be beyond all numbers. -/
theorem marks_eq_error_iff {top bottom : Double} {height : Nat} {fault : Fault} :
    marks (some (top, bottom)) height = .error fault ↔
      fault = .addOverflow ∧ (top * Double.ofNat height).floorIndex = Double.maxIndex := by
  have hIndex := (top * Double.ofNat height).floorIndex_le
  have hLast : 2 ^ 64 ≤ (top * Double.ofNat height).floorIndex + 1 ↔
      (top * Double.ofNat height).floorIndex = Double.maxIndex := by
    have hLargest : Double.maxIndex + 1 = 2 ^ 64 := rfl
    omega
  rw [← hLast, ← checkedAdd_eq_error_iff]
  cases hNext : checkedAdd (top * Double.ofNat height).floorIndex 1 with
  | error other => simp [marks, span, hNext, Except.map]
  | ok next => simp [marks, span, hNext, Except.map]

/-- A bar of which the cells from `first` on are marked, up to `next`. -/
def cellsBetween (first next height : Nat) : List Bool :=
  (List.range height).map fun i => first ≤ i && i < next

/-- The marked cells of a bar stand in a row, and the cell `first` is the first one of them. -/
def IsBlock (cells : List Bool) (first : Nat) : Prop :=
  ∀ i, cells[i]? = some true ↔ first ≤ i ∧ i < first + cells.count true

section Between

variable (first next height : Nat)

theorem length_cellsBetween : (cellsBetween first next height).length = height := by
  rw [cellsBetween, List.length_map, List.length_range]

theorem count_cellsBetween :
    (cellsBetween first next height).count true = min height next - first := by
  induction height with
  | zero => simp [cellsBetween]
  | succ height ih =>
      have hLast : cellsBetween first next (height + 1) =
          cellsBetween first next height ++ [decide (first ≤ height ∧ height < next)] := by
        simp [cellsBetween, List.range_succ]
      rw [hLast, List.count_append, ih]
      by_cases hMarked : first ≤ height ∧ height < next
      · rw [decide_eq_true hMarked, List.count_singleton_self]
        omega
      · rw [decide_eq_false hMarked, List.count_eq_zero_of_not_mem (by simp)]
        omega

theorem isBlock_cellsBetween : IsBlock (cellsBetween first next height) first := by
  intro i
  rw [count_cellsBetween, cellsBetween, List.getElem?_map]
  by_cases hInside : i < height
  · rw [List.getElem?_range hInside, Option.map_some, Option.some.injEq, Bool.and_eq_true,
      decide_eq_true_eq, decide_eq_true_eq]
    omega
  · rw [List.getElem?_eq_none (by rw [List.length_range]; omega), Option.map_none]
    exact iff_of_false (Option.some_ne_none true).symm (by omega)

end Between

/-- The displayed part goes from its first cell to its last one, and has at least one. -/
theorem marks_eq {top bottom : Double} {height first last : Nat}
    (hFirst : (top * Double.ofNat height).floorIndex = first)
    (hLast : (bottom * Double.ofNat height).ceilIndex = last) (hNext : first + 1 < 2 ^ 64) :
    marks (some (top, bottom)) height = .ok (cellsBetween first (max last (first + 1)) height) := by
  have hSum : checkedAdd first 1 = .ok (first + 1) := if_pos hNext
  simp only [marks, span, hFirst, hLast, hSum]
  rfl

/-- A bar draws the displayed part as one solid block, whatever the bounds of this part are: they may be
no numbers, beyond the bar or in the wrong order. The block begins at the first cell of the part and goes
to its last one, or to the end of the bar. It is empty only if it would begin behind the bar, and a part
that ends inside the bar has exactly its own cells, if it has any. Without a displayed part no cell is
marked. -/
theorem marks_form_one_block (height : Nat) :
    marks none height = .ok (List.replicate height false) ∧
    ∀ top bottom : Double,
      let first := (top * Double.ofNat height).floorIndex
      let last := (bottom * Double.ofNat height).ceilIndex
      first + 1 < 2 ^ 64 →
      ∃ cells, marks (some (top, bottom)) height = .ok cells ∧ cells.length = height ∧
        IsBlock cells first ∧ cells.count true = min height (max last (first + 1)) - first ∧
        (0 < cells.count true ↔ first < height) ∧
        (first < last → last ≤ height → cells.count true = last - first) := by
  refine ⟨rfl, ?_⟩
  intro top bottom first last hNext
  refine ⟨_, marks_eq rfl rfl hNext, length_cellsBetween _ _ _, isBlock_cellsBetween _ _ _, ?_⟩
  rw [count_cellsBetween]
  omega

/-- The middle half of a bar, and a part that begins there and has no end. -/
theorem marks_form_one_block_of_endless_part :
    let top := Double.nearest false 1 4
    ∃ half endless, marks (some (top, Double.nearest false 3 4)) 4 = .ok half ∧
      IsBlock half 1 ∧ half.count true = 2 ∧
      marks (some (top, Double.notANumber)) 4 = .ok endless ∧ IsBlock endless 1 ∧ 0 < endless.count true := by
  intro top
  have hFirst : (top * Double.ofNat 4).floorIndex = 1 := by decide +kernel
  have hLast : (Double.nearest false 3 4 * Double.ofNat 4).ceilIndex = 3 := by decide +kernel
  have hBlocks := (marks_form_one_block 4).2 top
  simp only [hFirst] at hBlocks
  obtain ⟨half, hHalf, -, hHalfBlock, -, -, hCount⟩ := hBlocks (Double.nearest false 3 4) (by decide)
  obtain ⟨endless, hEndless, -, hEndlessBlock, -, hSome, -⟩ := hBlocks Double.notANumber (by decide)
  rw [hLast] at hCount
  exact ⟨half, endless, hHalf, hHalfBlock, hCount (by decide) (by decide), hEndless, hEndlessBlock,
    hSome.mpr (by decide)⟩

end ScrollBar

/-- The cells of a bar in front of the first row of the snapshot are at least as many as there are
64-bit words. -/
def Snapshot.Overruns (data : Snapshot) (height : Nat) : Prop :=
  ∃ start, data.startPosition = some start ∧ 0 < data.rowCount.toNat ∧
    (Double.ofNat start.toNat / Double.ofNat data.rowCount.toNat * Double.ofNat height).below
      (Double.ofNat (2 ^ 64)) = false

namespace Snapshot

variable {data : Snapshot} {height : Nat}

/-- Rows inside the table never stand that far behind its beginning. -/
theorem not_overruns (hInside : ∀ start, data.startPosition = some start → start ≤ data.rowCount)
    (hHeight : height ≤ 65535) : ¬ data.Overruns height := by
  rintro ⟨start, hStart, hTotal, hReached⟩
  have hOrder : start.toNat ≤ data.rowCount.toNat := hInside start hStart
  have hBound : data.rowCount.toNat ≤ 2 ^ 64 := Nat.le_of_lt data.rowCount.toNat_lt
  rw [Double.below_mul_ofNat
    (Double.isMagnitude_div_ofNat (Nat.le_trans hOrder hBound) hTotal hBound)
    (Double.rank_div_ofNat_le hOrder hTotal hBound) hHeight] at hReached
  cases hReached

/-- Marking the displayed part of a snapshot fails exactly if it overruns the bar. -/
theorem marks_eq_error_iff {shown : Nat} {fault : Fault} (hHeight : height ≤ 65535) :
    ScrollBar.marks (Rendering.scrollRange data.startPosition (some data.rowCount) shown) height =
        .error fault ↔
      fault = .addOverflow ∧ data.Overruns height := by
  cases hStart : data.startPosition with
  | none => simp [Rendering.scrollRange, ScrollBar.marks, Overruns, hStart]
  | some start =>
      by_cases hTotal : 0 < data.rowCount.toNat
      · have hTop := Double.isMagnitude_div_ofNat (Nat.le_of_lt start.toNat_lt) hTotal
          (Nat.le_of_lt data.rowCount.toNat_lt)
        have hProduct := hTop.mul_eq
          (Double.isMagnitude_ofNat (Nat.le_trans hHeight (by decide)))
        rw [Rendering.scrollRange, if_pos hTotal, ScrollBar.marks_eq_error_iff,
          Double.floorIndex_eq_maxIndex_iff (by rw [hProduct]; rfl)
            (by rw [hProduct]; exact Double.isNaN_nearest _ _ _)]
        simp [Overruns, hStart, hTotal]
      · simp [Rendering.scrollRange, ScrollBar.marks, Overruns, hTotal]

end Snapshot

end RemoteTable
