import RemoteTable.Proofs.Session.Conduct
import RemoteTable.Table.View

/-! How a view uses its session: a request for rows is the last thing it issues, and before that it
gives up the one in flight. -/

namespace RemoteTable.View

variable (view : View) (session : Session)

theorem quiet_cancelInFlight : session.Quiet (view.cancelInFlight session).2 := by
  unfold cancelInFlight
  split
  · exact .refl
  · exact Session.Quiet.refl.cancel _

/-- A view that asks for rows gives up those in flight and then issues one request. -/
theorem uses_issue (call : Call) : session.Uses (view.issue call session).2 :=
  .issue (view.quiet_cancelInFlight session) call _

theorem uses_requestOrder (order : SortOrder) :
    session.Uses (view.requestOrder order session).2 :=
  uses_issue _ _ _

theorem uses_showAllRows : session.Uses (view.showAllRows session).2 := by
  unfold showAllRows
  split
  · exact .quiet (.report .refl _)
  · exact view.uses_requestOrder session _

theorem uses_showColumn (name : String) (directive : SortDirective) :
    session.Uses (view.showColumn name directive session).2 := by
  unfold showColumn
  repeat' split
  all_goals first
    | exact view.uses_requestOrder session _
    | exact .quiet .refl

theorem uses_requestRange (name : String) : session.Uses (view.requestRange name session) := by
  unfold requestRange
  split
  · exact .quiet .refl
  · exact .issue .refl _ _

theorem quiet_refresh : session.Quiet (view.refresh session).2 := by
  unfold refresh
  split
  · exact .refl
  · exact Session.Quiet.refl.report _

/-- A new request takes the place of the one in flight, and the next generation belongs to it. -/
theorem issue_eq (call : Call) :
    view.issue call session =
      let quiet := (view.cancelInFlight session).2
      ({ view with
          generation := view.generation + 1
          inFlight := some ⟨quiet.nextRequestId, call.objectId⟩ },
        (quiet.invoke call (.renderer view.serial (view.generation + 1))).2) := by
  cases hInFlight : view.inFlight <;> simp only [issue, cancelInFlight, hInFlight] <;> rfl

theorem fst_issue (call : Call) :
    (view.issue call session).1 = { view with
      generation := view.generation + 1
      inFlight := some ⟨session.nextRequestId, call.objectId⟩ } := by
  rw [issue_eq, ← (view.quiet_cancelInFlight session).nextRequestId_eq]

/-- The view is looked at differently, and nothing is asked for. -/
inductive Adjusts (view : View) : View → Prop where
  | previous : Adjusts view view.selectPrevious
  | next : Adjusts view view.selectNext
  | again {data : Snapshot} (hSnapshot : view.snapshot = some data) :
      Adjusts view (view.update data)

/-- The view makes an order from its current one, by columns of its schema. -/
inductive Forms (view : View) : SortOrder → Prop where
  | empty : Forms view .empty
  | hide (name : String) : Forms view (view.order.hide name)
  | promote {name : String} {column : Column} (hColumn : view.findColumn? name = some column)
      (ascending : Bool) : Forms view (view.order.promote ⟨column, ascending⟩)
  | complete {schema : Schema} (hSchema : view.schema = some schema) :
      Forms view (completedOrder schema view.order)

/-- The call asks for the rows of a table in this order. With the schema come rows in the empty
order. -/
def AsksFor (view : View) (order : SortOrder) (call : Call) : Prop :=
  call = .of view.tableId "getTableView" order ∨
    order = .empty ∧ call = .bare view.tableId "getSchema"

end RemoteTable.View
