import RemoteTable.Proofs.Table.Showing

/-! How the rows of a table are counted. A row of a snapshot stands for as many of them as its count says.
Each addition is cut at the largest number; that comes to the same as cutting the exact sum once, so the
place of a row is that of the first one and all counts in between, and no earlier snapshot has a part in
it. -/

namespace RemoteTable

/-- The number itself, or the largest one below `2 ^ 64` in place of those that are not below it. -/
def cut (n : Nat) : Nat := min n (Nat.pow 2 64 - 1)

theorem cut_le (n : Nat) : cut n ≤ Nat.pow 2 64 - 1 := Nat.min_le_right _ _

theorem saturatingAdd_eq (a b : Nat) : saturatingAdd a b = cut (a + b) := rfl

theorem saturatingAdd_cut_left (a b : Nat) : saturatingAdd (cut a) b = cut (a + b) := by
  rw [saturatingAdd_eq]
  unfold cut
  omega

theorem saturatingAdd_cut_right (a b : Nat) : saturatingAdd a (cut b) = cut (a + b) := by
  rw [saturatingAdd_eq]
  unfold cut
  omega

namespace Rendering

/-- How many rows of the table the rows of a snapshot stand for, whether or not that is below `2 ^ 64`. -/
def exactCount : List Row → Nat
  | [] => 0
  | row :: rest => row.count.toNat + exactCount rest

/-- The place of the first row of a snapshot in its table, the beginning if it is not told. -/
def firstPlace (data : Snapshot) : Nat := (data.startPosition.map UInt64.toNat).getD 0

theorem displayedCount_eq (rows : List Row) : displayedCount rows = cut (exactCount rows) := by
  have hFold : ∀ shown, rows.foldl (fun shown row => saturatingAdd shown row.count.toNat) (cut shown) =
      cut (shown + exactCount rows) := by
    induction rows with
    | nil => exact fun _ => rfl
    | cons row rest ih =>
        intro shown
        rw [List.foldl_cons, saturatingAdd_cut_left, ih, exactCount, Nat.add_assoc]
  have hZero := hFold 0
  rw [Nat.zero_add] at hZero
  exact hZero

variable (schema : Schema) (order : SortOrder) (data : Snapshot)

/-- The place of each row is that of the first one and all counts in front of it. -/
theorem getElem?_rows_ofSnapshot (place : Nat) :
    (ofSnapshot schema order data).rows[place]? = (rowsOf data)[place]?.map
      (rowCells schema order (cut (firstPlace data + exactCount ((rowsOf data).take place)))) := by
  have hCells := getElem?_rowsFrom order schema (firstPlace data) 0 (rowsOf data) place
  have hShown := displayedCount_eq ((rowsOf data).take place)
  rw [displayedCount] at hShown
  rw [hShown, saturatingAdd_cut_right] at hCells
  exact hCells

theorem length_rowCells (position : Nat) (row : Row) :
    (rowCells schema order position row).length = schema.length + 2 := by
  simp [rowCells, Schema.length]

/-- A rendering of so many columns counts the rows of a snapshot: exactly, or up to the largest number. -/
structure Counts (rendering : Rendering) (columns : Nat) (data : Snapshot) : Prop where
  header : rendering.header.length = columns + 2
  rows : rendering.rows.length = (rowsOf data).length
  cells : ∀ cells ∈ rendering.rows, cells.length = columns + 2
  position : ∀ (place : Nat) (row : Row), (rowsOf data)[place]? = some row →
    ∃ cells, rendering.rows[place]? = some cells ∧
      cells[0]? = some (Quantity.significant (Double.ofNat
        (cut (firstPlace data + exactCount ((rowsOf data).take place))))) ∧
      cells[1]? = some (Quantity.significant (Double.ofNat row.count.toNat))
  footer : ∃ share,
    rendering.footer = some ("Showing " ++ Quantity.grouped (cut (exactCount (rowsOf data))) ++ " of "
      ++ Quantity.grouped data.rowCount.toNat ++ " rows" ++ share) ∧
    (0 < data.rowCount.toNat → share = " (" ++ Quantity.percent
      (Double.ofNat (cut (exactCount (rowsOf data))) / Double.ofNat data.rowCount.toNat) ++ ")") ∧
    (data.rowCount.toNat = 0 → share = "")
  scroll : rendering.scroll.isSome ↔ data.startPosition.isSome ∧ 0 < data.rowCount.toNat
  window : data.startPosition.isSome → 0 < data.rowCount.toNat → rendering.scroll =
    some (Double.ofNat (firstPlace data) / Double.ofNat data.rowCount.toNat,
      Double.ofNat (cut (firstPlace data + exactCount (rowsOf data)))
        / Double.ofNat data.rowCount.toNat)

/-- The counts of a rendering are those of its snapshot. -/
theorem counts_ofSnapshot : (ofSnapshot schema order data).Counts schema.length data where
  header := by simp [ofSnapshot, headerCells, Schema.length]
  rows := length_rowsFrom order schema _ _ _
  cells cells hCells := by
    obtain ⟨place, hPlace⟩ := List.mem_iff_getElem?.mp hCells
    rw [getElem?_rows_ofSnapshot, Option.map_eq_some_iff] at hPlace
    obtain ⟨row, -, rfl⟩ := hPlace
    exact length_rowCells schema order _ row
  position place row hRow := by
    refine ⟨rowCells schema order _ row, ?_, rfl, rfl⟩
    rw [getElem?_rows_ofSnapshot, hRow, Option.map_some]
  footer := by
    rw [← displayedCount_eq]
    exact ⟨_, rfl, fun hRows => if_pos hRows, fun hNone => if_neg (hNone ▸ Nat.lt_irrefl 0)⟩
  scroll := by
    simp only [ofSnapshot]
    by_cases hTotal : 0 < data.rowCount.toNat <;>
      cases data.startPosition <;> simp [scrollRange, hTotal]
  window hStart hTotal := by
    obtain ⟨start, hStart⟩ := Option.isSome_iff_exists.mp hStart
    have hFirst : firstPlace data = start.toNat := by rw [firstPlace, hStart]; rfl
    have hEnd : saturatingAdd start.toNat (displayedCount (rowsOf data)) =
        cut (firstPlace data + exactCount (rowsOf data)) := by
      rw [displayedCount_eq, saturatingAdd_cut_right, hFirst]
    rw [ofSnapshot, hStart, scrollRange, if_pos hTotal, hEnd, hFirst]

end Rendering

/-- Rows are counted exactly, as far as numbers go. When a view that knows its columns, or gets to know
them, shows a snapshot, the header has a cell for each column and two in front of them, and so has each
row. The places of the rows, the number of rows displayed, the footer and the scroll bar come from the
exact sums of the counts, cut at the largest number. Nothing that the view has shown before has a part
in it. -/
theorem View.update_counts_rows (view : View) (data : Snapshot) (schema : Schema)
    (hSchema : view.schema.or data.schema = some schema) :
    (view.update data).rendering.Counts schema.length data ∧
    (view.update data).displayedRows = cut (Rendering.exactCount (Rendering.rowsOf data)) ∧
    ∀ other : View, other.schema.or data.schema = some schema →
      other.snapshotOrder = view.snapshotOrder →
      (other.update data).rendering = (view.update data).rendering ∧
      (other.update data).displayedRows = (view.update data).displayedRows := by
  have hShown : ∀ shown : View, shown.schema.or data.schema = some schema →
      (shown.update data).rendering = .ofSnapshot schema shown.snapshotOrder data ∧
      (shown.update data).displayedRows = cut (Rendering.exactCount (Rendering.rowsOf data)) := by
    intro shown hKnown
    rw [update_eq, ← Rendering.displayedCount_eq]
    simp only [hKnown, Option.map_some, Option.getD_some, and_self]
  obtain ⟨hRendering, hDisplayed⟩ := hShown view hSchema
  refine ⟨?_, hDisplayed, fun other hOther hOrder => ?_⟩
  · rw [hRendering]
    exact Rendering.counts_ofSnapshot schema view.snapshotOrder data
  · obtain ⟨hSame, hCount⟩ := hShown other hOther
    rw [hSame, hCount, hRendering, hDisplayed, hOrder]
    exact ⟨rfl, rfl⟩

/-- A view that has shown other rows shows a window near the end of all numbers, and its rows stand for
more than there are numbers. A new view shows the same. -/
theorem View.update_counts_rows_of_largest :
    let schema : Schema := ⟨[⟨.integer, "A", false⟩]⟩
    let earlier : Snapshot := ⟨some schema, 100, some 10, some [⟨3, [.int 1]⟩, ⟨6, [.int 2]⟩]⟩
    let view := (View.new ⟨"t"⟩ 0).update earlier
    let other := { View.new ⟨"u"⟩ 1 with schema := some schema }
    let rows : List Row := [⟨5, []⟩, ⟨18446744073709551615, []⟩, ⟨7, []⟩]
    let data : Snapshot := ⟨none, 18446744073709551615, some 18446744073709551600, some rows⟩
    view.displayedRows = 9 ∧ view.startPosition = some 10 ∧ view.schema.or data.schema = some schema ∧
      (view.update data).rendering.Counts schema.length data ∧
      (view.update data).displayedRows = 18446744073709551615 ∧
      (view.update data).rendering.rows.map (·.take 2) =
        [["18446744T", "5"], ["18446744T", "18446744T"], ["18446744T", "7"]] ∧
      (other.update data).rendering = (view.update data).rendering := by
  intro schema earlier view other rows data
  have hSchema : view.schema.or data.schema = some schema := rfl
  obtain ⟨hCounts, hDisplayed, hOther⟩ := View.update_counts_rows view data schema hSchema
  exact ⟨by decide, rfl, hSchema, hCounts, hDisplayed, by decide +kernel, (hOther other rfl rfl).1⟩

end RemoteTable
