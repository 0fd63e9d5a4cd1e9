import RemoteTable.Proofs.Page.AllRows
import RemoteTable.Proofs.Page.Columns
import RemoteTable.Proofs.Screen.Highlight
import RemoteTable.Proofs.Viewer.Run

/-! Commands to a column go to the highlighted one. The cursor, the schema, the order and the header that
is shown change at different times, but the header always lists the columns of the schema, and the name of
the column under the cursor leads back to a column of this name. -/

namespace RemoteTable

/-- A column that is in the schema is found, or one of the same name before it. -/
theorem Schema.exists_find? (schema : Schema) {column : Column} (h : column ∈ schema.columns) :
    ∃ known, schema.find? column.name = some known ∧ known.name = column.name := by
  have hSome : (schema.find? column.name).isSome :=
    List.find?_isSome.mpr ⟨column, h, beq_self_eq_true _⟩
  obtain ⟨known, hKnown⟩ := Option.isSome_iff_exists.mp hSome
  have hName := List.find?_some (p := fun other : Column => other.name == column.name) hKnown
  exact ⟨known, hKnown, beq_iff_eq.mp hName⟩

namespace View

/-- As soon as the columns are known, the header lists them. -/
def Headed (view : View) : Prop :=
  ∀ schema, view.schema = some schema →
    view.rendering.header = Rendering.headerCells view.snapshotOrder schema.columns

theorem headed_update (view : View) (data : Snapshot) : (view.update data).Headed := by
  intro schema hSchema
  rw [schema_update] at hSchema
  rw [update_eq]
  simp [hSchema, Rendering.ofSnapshot]

theorem invariant_headed : View.Invariant Headed where
  new tableId serial := by rintro schema ⟨⟩
  issue view order call session _ _ h := by
    rw [issue_eq]
    exact h
  adjusts view changed hAdjusts h := by
    cases hAdjusts with
    | previous => exact h
    | next =>
        unfold View.selectNext
        split <;> exact h
    | again => exact view.headed_update _
  acceptSnapshot view generation data h := by
    unfold View.acceptSnapshot
    split
    · exact headed_update _ data
    · exact h
  requestFinished view generation h := by
    unfold View.requestFinished
    split <;> exact h

variable {view : View} {schema : Schema}

/-- The cursor is on a column, and the header cell of this column is behind those of position and
count. -/
theorem Headed.exists_selected (h : view.Headed) (hGrounded : view.Grounded)
    (hSchema : view.schema = some schema) (hColumns : schema.columns ≠ []) :
    ∃ column ∈ schema.columns, view.selectedColumn? = some column ∧
      view.rendering.header[view.cursor + Screen.pseudoColumns]? =
        some (Rendering.headerCell view.snapshotOrder column) := by
  have hBelow : view.cursor < schema.columns.length := by
    rcases hGrounded.cursor with hZero | ⟨known, hKnown, hBelow⟩
    · rw [hZero]
      exact List.length_pos_iff.mpr hColumns
    · obtain rfl := Option.some.inj (hSchema.symm.trans hKnown)
      exact hBelow
  have hColumn : schema.columns[view.cursor]? = some schema.columns[view.cursor] :=
    List.getElem?_eq_getElem hBelow
  refine ⟨schema.columns[view.cursor], List.getElem_mem hBelow, ?_, ?_⟩
  · rw [selectedColumn?, hSchema]
    exact hColumn
  · rw [h schema hSchema, Rendering.headerCells, List.getElem?_map]
    exact congrArg _ hColumn

theorem selectedColumn?_eq_none
    (hColumns : ∀ schema, view.schema = some schema → schema.columns = []) :
    view.selectedColumn? = none := by
  unfold selectedColumn?
  cases hSchema : view.schema with
  | none => rfl
  | some schema => simp [Schema.get?, hColumns schema hSchema]

end View

namespace Page

variable {page : Page} {view : View}

section ShowColumn

variable (hLed : page.Led) (hView : page.view = some view)
  (hNames : (view.order.keys.map SortKey.name).Nodup)

include hLed hView hNames

/-- Sorting by a column puts it in front of the others. -/
theorem asksRowsIn_sort {name : String} {known : Column} (hKnown : view.findColumn? name = some known)
    (hName : known.name = name) {directive : SortDirective} (hSorts : directive ≠ .hide) :
    page.AsksRowsIn (page.showColumn name directive) view
      ⟨⟨known, directive == .ascending⟩ :: view.order.keys.filter (·.name != name)⟩ := by
  subst hName
  have hPromoted : view.order.promote ⟨known, directive == .ascending⟩ =
      ⟨⟨known, directive == .ascending⟩ :: view.order.keys.filter (·.name != known.name)⟩ :=
    congrArg SortOrder.mk (SortOrder.keys_promote hNames _)
  refine hPromoted ▸ asksRowsIn_withView hLed hView ?_
  cases directive with
  | hide => exact absurd rfl hSorts
  | ascending | descending => rw [View.showColumn, hKnown]

/-- Hiding a column leaves the others. -/
theorem asksRowsIn_hide (name : String) :
    page.AsksRowsIn (page.showColumn name .hide) view
      ⟨view.order.keys.filter (·.name != name)⟩ := by
  rw [← SortOrder.keys_hide hNames name]
  exact asksRowsIn_withView hLed hView rfl

end ShowColumn

/-- The view asks for the range of a column, and stays as it is. -/
structure AsksRangeOf (page next : Page) (view : View) (name : String) : Prop where
  view_eq : next.view = some view
  frames_eq : next.session.frames =
    page.session.frames ++ [⟨page.session.nextRequestId, view.tableId, "range", .string name⟩]

theorem asksRangeOf_requestRange (hView : page.view = some view) {name : String} {known : Column}
    (hKnown : view.findColumn? name = some known) :
    page.AsksRangeOf (page.requestRange name) view name := by
  rw [requestRange, withView_of_some hView, View.requestRange, hKnown]
  exact ⟨rfl, Session.frames_invoke ..⟩

end Page

namespace Viewer

/-- What the commands to a column do if they go to this one. The column that is sorted by is the first one
of its name. -/
structure ActsOn (viewer : Viewer) (view : View) (column known : Column) : Prop where
  ascending : viewer.page.AsksRowsIn (viewer.update .sortAscending).page view
    ⟨⟨known, true⟩ :: view.order.keys.filter (·.name != column.name)⟩
  descending : viewer.page.AsksRowsIn (viewer.update .sortDescending).page view
    ⟨⟨known, false⟩ :: view.order.keys.filter (·.name != column.name)⟩
  hide : viewer.page.AsksRowsIn (viewer.update .hideColumn).page view
    ⟨view.order.keys.filter (·.name != column.name)⟩
  range : column.kind.hasRange = true →
    viewer.page.AsksRangeOf (viewer.update .histogram).page view column.name
  rangeless : column.kind.hasRange = false → viewer.update .histogram =
    { viewer with page := viewer.page.reportError ("No range for column " ++ column.name) }

/-- The commands to a column. -/
def columnCommands : List Command := [.sortAscending, .sortDescending, .hideColumn, .histogram]

variable {viewer : Viewer} {view : View} {column known : Column}

theorem actsOn (hMode : viewer.mode = .table) (hLed : viewer.page.Led)
    (hView : viewer.page.view = some view) (hGrounded : view.Grounded)
    (hColumn : view.selectedColumn? = some column) (hKnown : view.findColumn? column.name = some known)
    (hName : known.name = column.name) : viewer.ActsOn view column known := by
  have hSelected : viewer.selectedColumn? = some column := by
    rw [selectedColumn?, hView, Option.bind_some, hColumn]
  have hShow : ∀ directive, viewer.showSelected directive =
      viewer.page.showColumn column.name directive := by
    intro directive
    rw [showSelected, hSelected]
  have hNames := hGrounded.order.names
  constructor
  case ascending =>
    simp only [update, hMode, updateTable, hShow]
    exact Page.asksRowsIn_sort hLed hView hNames hKnown hName (by decide)
  case descending =>
    simp only [update, hMode, updateTable, hShow]
    exact Page.asksRowsIn_sort hLed hView hNames hKnown hName (by decide)
  case hide =>
    simp only [update, hMode, updateTable, hShow]
    exact Page.asksRowsIn_hide hLed hView hNames column.name
  case range =>
    intro hRange
    simp only [update, hMode, updateTable, requestSelectedRange, hSelected, hRange, if_true]
    exact Page.asksRangeOf_requestRange hView hKnown
  case rangeless =>
    intro hRange
    simp [update, hMode, updateTable, requestSelectedRange, hSelected, hRange]

/-- Without a column under the cursor, commands to a column change nothing. -/
theorem update_of_selectedColumn?_eq_none (hNone : viewer.selectedColumn? = none) {command : Command}
    (hCommand : command ∈ columnCommands) : viewer.update command = viewer := by
  simp only [columnCommands, List.mem_cons, List.not_mem_nil, or_false] at hCommand
  rcases hCommand with rfl | rfl | rfl | rfl
  all_goals
    unfold update
    split
    · simp [updateTable, showSelected, requestSelectedRange, hNone]
    all_goals rfl

/-- Commands to a column go to the highlighted one. In every run of the viewer, over any transport and with
any replies, as long as the table is shown and has columns, the column under the cursor is the one whose
header cell the table shows reversed, and no other cell of the table is reversed. To sort by the column is
to ask for the rows once, in the order with the first column of its name in front and all other names as
they were. To hide it is to ask for them in the order without its name. Its range is asked for once if it
has one, and otherwise an error is reported and nothing else happens. As long as there is no column, these
commands change nothing. -/
theorem column_commands_go_to_highlighted (accepts : Nat → Bool) (maxColumnWidth : Nat)
    (events : List Event) :
    let viewer := (opened accepts maxColumnWidth).run events
    (viewer.mode = .table → ∀ view schema, viewer.page.view = some view →
      view.schema = some schema → schema.columns ≠ [] →
      ∃ column cell known, view.selectedColumn? = some column ∧
        view.rendering.header[view.cursor + Screen.pseudoColumns]? = some cell ∧
        cell.name = column.name ∧
        (Screen.TableWidget.ofView view viewer.maxColumnWidth).Highlights
          (view.cursor + Screen.pseudoColumns) cell.label ∧
        schema.find? column.name = some known ∧ known.name = column.name ∧
        viewer.ActsOn view column known) ∧
    ((∀ view schema, viewer.page.view = some view → view.schema = some schema →
      schema.columns = []) → ∀ command ∈ columnCommands, viewer.update command = viewer) := by
  intro viewer
  obtain ⟨operations, hOrdinary, hPage⟩ := (opened accepts maxColumnWidth).reaches_run events
  have hLed : viewer.page.Led := by
    rw [hPage]
    exact (Page.superseding_run (Page.superseding_opened accepts) (Page.led_opened accepts) hOrdinary).2
  have hGrounded := shows_run View.invariant_grounded accepts maxColumnWidth events
  have hHeaded := shows_run View.invariant_headed accepts maxColumnWidth events
  constructor
  · intro hMode view schema hView hSchema hColumns
    obtain ⟨column, hColumn, hSelected, hCell⟩ :=
      (hHeaded view hView).exists_selected (hGrounded view hView) hSchema hColumns
    obtain ⟨known, hKnown, hName⟩ := schema.exists_find? hColumn
    have hFound : view.findColumn? column.name = some known := by
      rw [View.findColumn?, hSchema, Option.bind_some, hKnown]
    exact ⟨column, _, known, hSelected, hCell, rfl, Screen.highlights_ofView hCell _, hKnown, hName,
      actsOn hMode hLed hView (hGrounded view hView) hSelected hFound hName⟩
  · intro hColumns command hCommand
    refine update_of_selectedColumn?_eq_none ?_ hCommand
    unfold selectedColumn?
    cases hView : viewer.page.view with
    | none => rfl
    | some view => exact View.selectedColumn?_eq_none fun schema => hColumns view schema hView

/-- Two columns have the same name. The transport does not take the request for the first order, the next
one is in flight, and the cursor is on the last column. -/
def repeatedColumn : List Event :=
  let column (name kind : String) : Json := .object [("kind", .string kind), ("name", .string name),
    ("allowMissing", .bool false)]
  let known : Json := .object [("done", .int 1), ("data", .object [("schema", .array
    [column "A" "Integer", column "B" "String", column "A" "Double"]), ("rowCount", .int 4)])]
  [.start, .receive ⟨1, .next (.string "files-1")⟩, .receive ⟨1, .completed⟩, .tick,
    .receive ⟨2, .next (.object [("done", .int 1), ("data", .string "t")])⟩,
    .receive ⟨2, .completed⟩, .tick, .receive ⟨3, .next known⟩, .receive ⟨3, .completed⟩, .tick,
    .command .sortAscending, .tick, .command .moveRight, .command .sortDescending,
    .command .moveRight]

theorem column_commands_go_to_highlighted_of_repeated_name :
    let accepts (place : Nat) : Bool := place != 3
    let viewer := (opened accepts 32).run repeatedColumn
    let waiting := opened accepts 32
    viewer.mode = .table ∧ viewer.page.session.lastError.isSome ∧ (∃ view, viewer.page.view = some view ∧
      view.inFlight.isSome ∧ view.snapshotOrder = .empty ∧
      view.order.keys = [⟨⟨.string, "B", false⟩, false⟩, ⟨⟨.integer, "A", false⟩, true⟩] ∧
      (Screen.TableWidget.ofView view viewer.maxColumnWidth).Highlights 4 "A" ∧
      viewer.ActsOn view ⟨.double, "A", false⟩ ⟨.integer, "A", false⟩) ∧
    waiting.update .sortAscending = waiting := by
  intro accepts viewer waiting
  let schema : Schema := ⟨[⟨.integer, "A", false⟩, ⟨.string, "B", false⟩, ⟨.double, "A", false⟩]⟩
  have hMode : viewer.mode = .table := by decide +kernel
  have hFailed : viewer.page.session.lastError.isSome := by decide +kernel
  have hState : (viewer.page.view.map fun view =>
      (view.inFlight.isSome, view.snapshotOrder, view.order.keys, view.schema, view.cursor)) =
      some (true, .empty, [⟨⟨.string, "B", false⟩, false⟩, ⟨⟨.integer, "A", false⟩, true⟩],
        some schema, 2) := by decide +kernel
  have hLabel : (viewer.page.view.bind fun view => view.rendering.header[4]?).map HeaderCell.label =
      some "A" := by decide +kernel
  obtain ⟨view, hView, hParts⟩ := Option.map_eq_some_iff.mp hState
  simp only [Prod.mk.injEq] at hParts
  obtain ⟨hInFlight, hEmpty, hKeys, hSchema, hCursor⟩ := hParts
  rw [hView, Option.bind_some] at hLabel
  subst viewer
  obtain ⟨hTable, -⟩ := column_commands_go_to_highlighted accepts 32 repeatedColumn
  obtain ⟨column, cell, known, hColumn, hCell, -, hHighlights, hKnown, -, hActs⟩ :=
    hTable hMode view schema hView hSchema (List.cons_ne_nil _ _)
  have hPlace : view.cursor + Screen.pseudoColumns = 4 := by
    rw [hCursor]
    rfl
  rw [hPlace] at hCell hHighlights
  rw [hCell] at hLabel
  have hLast : view.selectedColumn? = some ⟨.double, "A", false⟩ := by
    rw [View.selectedColumn?, hSchema, hCursor]
    rfl
  have hFirst : schema.find? "A" = some ⟨.integer, "A", false⟩ := by decide +kernel
  obtain rfl := Option.some.inj (hLast.symm.trans hColumn)
  obtain rfl := Option.some.inj (hFirst.symm.trans hKnown)
  refine ⟨hMode, hFailed, ⟨view, hView, hInFlight, hEmpty, hKeys, ?_, hActs⟩, ?_⟩
  · exact Option.some.inj hLabel ▸ hHighlights
  · refine (column_commands_go_to_highlighted accepts 32 []).2 ?_ .sortAscending (List.mem_cons_self ..)
    rintro view schema ⟨⟩

end Viewer

end RemoteTable
