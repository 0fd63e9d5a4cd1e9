import RemoteTable.Proofs.Page.Views
import RemoteTable.Proofs.Screen.Marks
import RemoteTable.Proofs.Table.Counting
import RemoteTable.Proofs.Viewer.Run

/-! Which data of the server the viewer cannot cope with. Counts of rows are added up to the largest
number and no further, but the first cell of a scroll bar and the two counts of a range are not. -/

namespace RemoteTable

namespace View

theorem displayedRows_update_lt (view : View) (data : Snapshot) :
    (view.update data).displayedRows < 2 ^ 64 := by
  rw [update_eq]
  cases view.schema.or data.schema with
  | none => exact Nat.two_pow_pos 64
  | some schema =>
      exact Rendering.displayedCount_eq _ ▸ Nat.lt_of_le_of_lt (cut_le _) (by decide)

/-- The displayed part of the view can be marked on every bar that its snapshot does not overrun. -/
def Markable (view : View) : Prop :=
  ∀ height ≤ 65535, ∀ fault, ScrollBar.marks view.rendering.scroll height = .error fault ↔
    fault = .addOverflow ∧
      ∃ data, view.snapshot = some data ∧ view.schema.isSome ∧ data.Overruns height

theorem Drawn.scroll_eq {view : View} (h : view.Drawn) {data : Snapshot}
    (hSnapshot : view.snapshot = some data) :
    view.rendering.scroll = if view.schema.isSome then
      Rendering.scrollRange data.startPosition (some data.rowCount)
        (Rendering.displayedCount (Rendering.rowsOf data))
    else none := by
  rw [h.settled.rendering_eq hSnapshot]
  cases view.schema <;> rfl

theorem Drawn.markable {view : View} (h : view.Drawn) : view.Markable := by
  intro height hHeight fault
  cases hSnapshot : view.snapshot with
  | none => simp [h.empty hSnapshot, Rendering.empty, ScrollBar.marks]
  | some data =>
      rw [h.scroll_eq hSnapshot]
      cases hSchema : view.schema with
      | none => simp [ScrollBar.marks]
      | some schema => simp [Snapshot.marks_eq_error_iff hHeight]

end View

/-- Present and missing values of the column cannot be counted together. -/
def Range.Uncountable (range : Range) : Prop :=
  2 ^ 64 ≤ range.statistics.presentCount.toNat + range.statistics.missingCount.toNat

theorem Range.lines_eq_error_iff {range : Range} {fault : Fault} :
    range.lines = .error fault ↔ fault = .addOverflow ∧ range.Uncountable := by
  rw [Uncountable, ← checkedAdd_eq_error_iff]
  cases hTotal : checkedAdd range.statistics.presentCount.toNat
      range.statistics.missingCount.toNat with
  | error other => simp [lines, hTotal]
  | ok total => simp [lines, hTotal]

namespace Viewer

theorem popup_eq_error_iff {viewer : Viewer} {fault : Fault} :
    viewer.popup = .error fault ↔ fault = .addOverflow ∧
      ∃ range, viewer.mode = .range ∧ viewer.page.range = some range ∧ range.Uncountable := by
  cases hMode : viewer.mode with
  | table => simp [popup, hMode]
  | popup => simp [popup, hMode]
  | range =>
      cases hRange : viewer.page.range with
      | none => simp [popup, hMode, hRange]
      | some range =>
          simp only [popup, hMode, hRange, true_and, Option.some.injEq, exists_eq_left',
            ← Range.lines_eq_error_iff]
          cases range.lines <;> simp [Except.map]

/-- In every run of the viewer, over any transport and with any replies, the view is drawn from its
snapshot. -/
theorem drawn_run (accepts : Nat → Bool) (maxColumnWidth : Nat) (events : List Event) :
    ((opened accepts maxColumnWidth).run events).page.Shows View.Drawn :=
  shows_run View.invariant_drawn accepts maxColumnWidth events

/-- Which data of the server makes the viewer fail. In every run of the viewer, over any transport and
with any replies, every snapshot can be shown, and the rows that are displayed are counted without a
fault. The displayed part can be marked on every bar that the snapshot does not overrun, as no window
inside its table does, and the popup can be shown unless present and missing values of its range
cannot be counted together. -/
theorem fails_only_by_huge_counts (accepts : Nat → Bool) (maxColumnWidth : Nat)
    (events : List Event) :
    let viewer := (opened accepts maxColumnWidth).run events
    (∀ view, viewer.page.view = some view → view.Markable ∧
      ∀ data, (view.update data).displayedRows < 2 ^ 64 ∧ (view.update data).Markable) ∧
    (∀ fault, viewer.popup = .error fault ↔ fault = .addOverflow ∧
      ∃ range, viewer.mode = .range ∧ viewer.page.range = some range ∧ range.Uncountable) ∧
    ∀ (data : Snapshot) (height : Nat), height ≤ 65535 →
      (∀ start, data.startPosition = some start → start ≤ data.rowCount) →
      ¬ data.Overruns height := by
  intro viewer
  refine ⟨fun view hView => ?_, fun fault => popup_eq_error_iff, fun data height hHeight hInside =>
    Snapshot.not_overruns hInside hHeight⟩
  refine ⟨(drawn_run accepts maxColumnWidth events view hView).markable, fun data => ?_⟩
  exact ⟨view.displayedRows_update_lt data, (view.drawn_update data).markable⟩

/-- The server tells of a table of one row whose window begins at the last place there is, and of a
column with as many present values as can be counted and one missing value. -/
def hugeCounts : List Event :=
  let column : Json := .object [("kind", .string "Integer"), ("name", .string "A"),
    ("allowMissing", .bool false)]
  let window : Json := .object [("done", .int 1), ("data", .object [("schema", .array [column]),
    ("rowCount", .int 1), ("startPosition", .int 18446744073709551615)])]
  let counts : Json := .object [("done", .int 1),
    ("data", .object [("presentCount", .int 18446744073709551615), ("missingCount", .int 1)])]
  [.start, .receive ⟨1, .next (.string "files-1")⟩, .receive ⟨1, .completed⟩, .tick,
    .receive ⟨2, .next (.object [("done", .int 1), ("data", .string "t")])⟩,
    .receive ⟨2, .completed⟩, .tick, .receive ⟨3, .next window⟩, .receive ⟨3, .completed⟩, .tick,
    .command .histogram, .receive ⟨4, .next counts⟩, .receive ⟨4, .completed⟩, .tick]

theorem fails_only_by_huge_counts_of_last_place :
    let viewer := (opened (fun _ => true) 32).run hugeCounts
    ∃ view data range, viewer.page.view = some view ∧ view.snapshot = some data ∧
      data.Overruns 1 ∧ ScrollBar.marks view.rendering.scroll 1 = .error .addOverflow ∧
      viewer.page.range = some range ∧ range.Uncountable ∧
      viewer.popup = .error .addOverflow := by
  intro viewer
  obtain ⟨hViews, hPopup, -⟩ := fails_only_by_huge_counts (fun _ => true) 32 hugeCounts
  refine ⟨_, _, _, rfl, rfl, ?_, ?_, rfl, ?_, ?_⟩
  · exact ⟨18446744073709551615, rfl, by decide, by decide +kernel⟩
  · refine ((hViews _ rfl).1 1 (by decide) .addOverflow).mpr ⟨rfl, _, rfl, rfl, ?_⟩
    exact ⟨18446744073709551615, rfl, by decide, by decide +kernel⟩
  · exact Nat.le_refl (2 ^ 64)
  · exact (hPopup .addOverflow).mpr ⟨rfl, _, rfl, rfl, Nat.le_refl (2 ^ 64)⟩

/-- Neither the popup nor the scroll bar can be drawn whatever the server sends. -/
theorem not_forall_drawn_without_fault :
    (¬ ∀ events fault, ((opened (fun _ => true) 32).run events).popup ≠ .error fault) ∧
    ¬ ∀ events view, ((opened (fun _ => true) 32).run events).page.view = some view →
      ∀ height ≤ 65535, ∀ fault, ScrollBar.marks view.rendering.scroll height ≠ .error fault := by
  constructor
  · intro hPopup
    exact hPopup hugeCounts .addOverflow (by decide +kernel)
  · intro hMarks
    exact hMarks hugeCounts _ rfl 1 (by decide) .addOverflow (by decide +kernel)

end Viewer

end RemoteTable
