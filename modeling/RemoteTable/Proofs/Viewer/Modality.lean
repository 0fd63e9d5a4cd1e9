import RemoteTable.Proofs.Page.RangeShown
import RemoteTable.Proofs.Viewer.Faults

/-! The keyboard is modal. While a popup is shown, commands only close it or end the program. A range that
comes while the help is open waits behind it; the page has room for one, so it is the last one that is
shown when the help has been closed. -/

namespace RemoteTable.Viewer

variable {viewer : Viewer}

/-- Commands show no ranges, and they close one only if it is shown. -/
theorem setsRange_operation? {command : Command} {operation : Page.Operation}
    (h : viewer.operation? command = some operation) (hSets : operation.SetsRange) :
    viewer.mode = .range := by
  rcases viewer.operation?_eq_some h with ⟨-, hTable⟩ | ⟨hMode, -⟩
  · cases command with
    | sortAscending | sortDescending | hideColumn =>
        obtain ⟨column, -, rfl⟩ := Option.map_eq_some_iff.mp hTable
        exact hSets.elim
    | histogram =>
        obtain ⟨column, -, rfl⟩ := Option.map_eq_some_iff.mp hTable
        split at hSets <;> exact hSets.elim
    | quit | help | exit => cases hTable
    | _ =>
        obtain rfl := Option.some.inj hTable
        exact hSets.elim
  · exact hMode

/-- Only the exit from a range closes it. -/
theorem setsRange_operationsOf {event : Event} {operation : Page.Operation}
    (h : operation ∈ viewer.operationsOf event) (hSets : operation.SetsRange) :
    viewer.mode = .range := by
  cases event with
  | start | receive =>
      obtain rfl := List.mem_singleton.mp h
      exact hSets.elim
  | command command => exact setsRange_operation? (Option.mem_toList.mp h) hSets
  | tick =>
      obtain rfl := List.eq_of_mem_replicate h
      exact hSets.elim

/-- As long as no range is shown, none is closed. -/
theorem not_setsRange_operations {events : List Event}
    (hModes : ∀ count, (viewer.run (events.take count)).mode ≠ .range) {operation : Page.Operation}
    (h : operation ∈ viewer.operations events) : ¬ operation.SetsRange := by
  obtain ⟨first, event, rest, rfl, hOwn⟩ := viewer.mem_operations h
  intro hSets
  have hMode := hModes first.length
  rw [List.take_left] at hMode
  exact hMode (setsRange_operationsOf hOwn hSets)

/-- The range that is shown is there. -/
def Modal (viewer : Viewer) : Prop := viewer.mode = .range → viewer.page.range.isSome

theorem modal_settle (viewer : Viewer) : viewer.settle.Modal := by
  unfold settle Modal
  split
  · rename_i hRange
    simp [hRange]
  · simp
  · rename_i hTable hNone
    intro hMode
    rw [Option.isSome_iff_ne_none]
    exact fun hRange => hNone hMode hRange

/-- A command keeps the mode and the popup together. -/
theorem Modal.update (h : viewer.Modal) (command : Command) : (viewer.update command).Modal := by
  unfold Viewer.update
  split
  · rename_i hMode
    cases command <;> simp [updateTable, Modal, hMode]
  all_goals
    rename_i hMode
    cases command with
    | exit => simp [updatePopup, Modal, hMode]
    | _ => exact h

/-- The popup of the mode is open after every event. -/
theorem Modal.step (h : viewer.Modal) (event : Event) : (viewer.step event).Modal := by
  cases event with
  | start | receive => exact h
  | command command => exact h.update command
  | tick => exact modal_settle _

/-- So it is in every run. -/
theorem Modal.run (h : viewer.Modal) (events : List Event) : (viewer.run events).Modal := by
  induction events generalizing viewer with
  | nil => exact h
  | cons event rest ih => exact ih (h.step event)

/-- No popup is open exactly if the mode is that of the table. -/
theorem Modal.popup_eq_none_iff (h : viewer.Modal) : viewer.popup = .ok none ↔ viewer.mode = .table := by
  cases hMode : viewer.mode with
  | table => simp [popup, hMode]
  | popup => simp [popup, hMode]
  | range =>
      obtain ⟨range, hRange⟩ := Option.isSome_iff_exists.mp (h hMode)
      cases hLines : range.lines <;> simp [popup, hMode, hRange, hLines, Except.map]

/-- A popup is shown in every mode but one, as far as the range can be counted. -/
theorem Modal.exists_popup_iff (h : viewer.Modal)
    (hCountable : ∀ range, viewer.page.range = some range → ¬ range.Uncountable) :
    (∃ shown, viewer.popup = .ok (some shown)) ↔ viewer.mode ≠ .table := by
  rw [ne_eq, ← not_congr h.popup_eq_none_iff]
  cases hPopup : viewer.popup with
  | error fault =>
      obtain ⟨-, range, -, hRange, hHuge⟩ := popup_eq_error_iff.mp hPopup
      exact absurd hHuge (hCountable range hRange)
  | ok shown => cases shown <;> simp

/-- While a popup is open, commands other than to quit and to exit do nothing. -/
theorem update_of_popup (hMode : viewer.mode ≠ .table) {command : Command} (hQuit : command ≠ .quit)
    (hExit : command ≠ .exit) : viewer.update command = viewer := by
  have hPopup : viewer.updatePopup command = viewer := by
    cases command with
    | quit => exact absurd rfl hQuit
    | exit => exact absurd rfl hExit
    | _ => rfl
  unfold update
  split
  · exact absurd ‹_› hMode
  all_goals exact hPopup

theorem mode_exit (viewer : Viewer) : (viewer.update .exit).mode = .table := by
  cases hMode : viewer.mode <;> simp [update, updateTable, updatePopup, hMode]

theorem mode_settle_eq_table {viewer : Viewer} (h : viewer.settle.mode = .table) :
    viewer.page.range = none := by
  unfold settle at h
  split at h
  · cases h
  · rename_i hNone
    exact hNone
  · rename_i hSome _
    rw [Option.eq_none_iff_forall_ne_some]
    exact fun range hRange => hSome range h hRange

/-- A range that has come opens its popup at the next settling. -/
theorem mode_settle_of_table (hMode : viewer.mode = .table) :
    viewer.settle.mode = .range ↔ viewer.page.range.isSome := by
  cases hRange : viewer.page.range <;> simp [settle, hMode, hRange]

/-- Ranges that come while none is shown wait for the first tick without the help, and the last of them
is shown then. -/
theorem range_run_tick (h : viewer.page.session.Balanced) (hNumbered : viewer.page.Numbered)
    {later : List Event} (hModes : ∀ count, (viewer.run (later.take count)).mode ≠ .range)
    (hTable : (viewer.run later).mode = .table)
    (hSame : (viewer.run (later ++ [.tick])).page.serial? = viewer.page.serial?) :
    (viewer.run (later ++ [.tick])).page.range =
        (viewer.page.results (viewer.operations (later ++ [.tick]))).getLast?.or viewer.page.range ∧
      ((viewer.run (later ++ [.tick])).mode = .range ↔
        (viewer.run (later ++ [.tick])).page.range.isSome) := by
  have hKept : ∀ operation ∈ viewer.operations (later ++ [.tick]), ¬ operation.SetsRange := by
    intro operation hOperation hSets
    rw [operations_append] at hOperation
    rcases List.mem_append.mp hOperation with hLater | hTick
    · exact not_setsRange_operations hModes hLater hSets
    · rw [operations, operations, List.append_nil] at hTick
      rw [setsRange_operationsOf hTick hSets] at hTable
      cases hTable
  constructor
  · rw [page_run] at hSame ⊢
    exact Page.range_run h hNumbered (viewer.ordinary_operations _) hKept hSame
  · rw [run_append, run_cons, run_nil, step, tick, page_settle]
    exact mode_settle_of_table hTable

/-- The keyboard is modal exactly while a popup is shown. In every run of the viewer, over any transport
and with any replies, the range is there whenever it is to be shown, so that there is a popup in every
mode but one, as far as the range can be counted. Then commands change nothing, except that one ends the
program and one closes the popup. No range is shown over the help. Behind a tick, no range is left that is
not shown unless the help is. When ranges come while none is shown, the last of them is shown by the first
tick without the help, unless the view has been replaced. -/
theorem popup_is_modal (accepts : Nat → Bool) (maxColumnWidth : Nat) (events : List Event) :
    let viewer := (opened accepts maxColumnWidth).run events
    (viewer.mode = .range → viewer.page.range.isSome) ∧
    (viewer.popup = .ok none ↔ viewer.mode = .table) ∧
    ((∀ range, viewer.page.range = some range → ¬ range.Uncountable) →
      ((∃ shown, viewer.popup = .ok (some shown)) ↔ viewer.mode ≠ .table)) ∧
    (viewer.mode ≠ .table →
      (∀ command, command ≠ .quit → command ≠ .exit → viewer.update command = viewer) ∧
      (viewer.update .exit).popup = .ok none) ∧
    (viewer.mode = .popup → viewer.popup = .ok (some ("Help", helpLines))) ∧
    (viewer.tick.2.mode = .table → viewer.tick.2.page.range = none) ∧
    ∀ later, (∀ count, (viewer.run (later.take count)).mode ≠ .range) →
      (viewer.run later).mode = .table →
      let final := viewer.run (later ++ [.tick])
      final.page.serial? = viewer.page.serial? →
        final.page.range = (viewer.page.results (viewer.operations (later ++ [.tick]))).getLast?.or
          viewer.page.range ∧
        (final.mode = .range ↔ final.page.range.isSome) := by
  intro viewer
  have hModal : viewer.Modal := Modal.run (by nofun) events
  have hPage : viewer.page = (Page.opened accepts).run
      ((opened accepts maxColumnWidth).operations events) := page_run _ events
  have hOrdinary := (opened accepts maxColumnWidth).ordinary_operations events
  refine ⟨hModal, hModal.popup_eq_none_iff, hModal.exists_popup_iff, fun hMode => ⟨?_, ?_⟩, ?_, ?_, ?_⟩
  · exact fun command hQuit hExit => update_of_popup hMode hQuit hExit
  · rw [popup, mode_exit]
  · intro hMode
    rw [popup, hMode]
  · intro hTable
    rw [tick, page_settle]
    exact mode_settle_eq_table hTable
  · intro later hModes hTable final hSame
    refine range_run_tick ?_ ?_ hModes hTable hSame
    · rw [hPage]
      exact Page.balanced_run (.fresh accepts) _
    · rw [hPage]
      exact Page.numbered_run accepts hOrdinary

/-- The ranges of two columns are asked for, by the requests 4 and 5, and then the help is opened. -/
def helpOverRequests : List Event :=
  let column (name : String) : Json := .object [("kind", .string "Integer"), ("name", .string name),
    ("allowMissing", .bool false)]
  let known : Json := .object [("done", .int 1), ("data", .object [
    ("schema", .array [column "A", column "B"]), ("rowCount", .int 4)])]
  [.start, .receive ⟨1, .next (.string "files-1")⟩, .receive ⟨1, .completed⟩, .tick,
    .receive ⟨2, .next (.object [("done", .int 1), ("data", .string "t")])⟩,
    .receive ⟨2, .completed⟩, .tick, .receive ⟨3, .next known⟩, .receive ⟨3, .completed⟩, .tick,
    .command .histogram, .command .moveRight, .command .histogram, .command .help]

/-- A reply with statistics, and the end of its request. -/
def rangeReplies (id : Nat) : List ReplyFrame :=
  [⟨id, .next (.object [("done", .int 1), ("data", .object [("presentCount", .int 3)])])⟩,
    ⟨id, .completed⟩]

/-- The range of one column comes while the help is open and is shown when it has been closed. -/
theorem popup_is_modal_over_help :
    let viewer := (opened (fun _ => true) 32).run helpOverRequests
    let later : List Event := (rangeReplies 4).map .receive ++ [.tick, .command .exit]
    let final := viewer.run (later ++ [.tick])
    viewer.mode ≠ .table ∧ viewer.page.range = none ∧
      ((∃ shown, viewer.popup = .ok (some shown)) ↔ viewer.mode ≠ .table) ∧
      viewer.update .home = viewer ∧ viewer.popup = .ok (some ("Help", helpLines)) ∧
      (∀ count, (viewer.run (later.take count)).mode ≠ .range) ∧
      (viewer.run later).mode = .table ∧ final.page.serial? = viewer.page.serial? ∧
      final.page.range.isSome ∧ final.mode = .range := by
  intro viewer later final
  obtain ⟨-, -, hShown, hModal, hHelp, -, hLater⟩ := popup_is_modal (fun _ => true) 32 helpOverRequests
  have hMode : viewer.mode = .popup := by decide +kernel
  have hTable : viewer.mode ≠ .table := by decide +kernel
  have hNone : viewer.page.range = none := by decide +kernel
  have hModes : ∀ count, (viewer.run (later.take count)).mode ≠ .range := by
    intro count
    match count with
    | 0 | 1 | 2 | 3 => decide +kernel
    | count + 4 =>
        rw [List.take_of_length_le (Nat.le_add_left 4 count)]
        decide +kernel
  have hClosed : (viewer.run later).mode = .table := by decide +kernel
  have hSame : final.page.serial? = viewer.page.serial? := by decide +kernel
  have hRange : final.page.range.isSome := by decide +kernel
  have hCountable : ∀ range, viewer.page.range = some range → ¬ range.Uncountable := by
    intro range hSome
    rw [hNone] at hSome
    cases hSome
  exact ⟨hTable, hNone, hShown hCountable, (hModal hTable).1 .home (by decide) (by decide), hHelp hMode,
    hModes, hClosed, hSame, hRange, (hLater later hModes hClosed hSame).2.mpr hRange⟩

/-- A range that waits behind the help is not always shown when the help is closed: that of the other
column may come first, and it takes its place. -/
theorem not_forall_waiting_range_shown :
    ¬ ∀ (events : List Event) (range : Range) (frames : List ReplyFrame),
      let help := (opened (fun _ => true) 32).run events
      let final := help.run (.command .exit :: frames.map .receive ++ [.tick])
      help.mode = .popup → help.page.range = some range →
        final.page.serial? = help.page.serial? → final.page.range = some range := by
  intro hShown
  have hWaits : (((opened (fun _ => true) 32).run (helpOverRequests ++
      (rangeReplies 4).map .receive ++ [.tick])).page.range.map (·.column.name)) = some "A" := by
    decide +kernel
  obtain ⟨range, hRange, hFirst⟩ := Option.map_eq_some_iff.mp hWaits
  have hLast := hShown _ range (rangeReplies 5) (by decide +kernel) hRange (by decide +kernel)
  have hSecond : (some range).map (·.column.name) = some "B" := by
    rw [← hLast]
    decide +kernel
  rw [Option.map_some, hFirst] at hSecond
  exact absurd hSecond (by decide)

end RemoteTable.Viewer
