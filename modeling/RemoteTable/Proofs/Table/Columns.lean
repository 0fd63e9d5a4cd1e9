import RemoteTable.Proofs.Table.Conduct
import RemoteTable.Proofs.Table.Recency
import RemoteTable.Proofs.Table.Showing

/-! What a view refers to is in its schema: the columns of its orders and the column its cursor is on.
As long as the schema is not known, it refers to nothing. -/

namespace RemoteTable

namespace SortOrder

/-- The order consists of columns of the schema, with no name twice. -/
structure Within (order : SortOrder) (schema : Option Schema) : Prop where
  columns : ∀ key ∈ order.keys, ∃ known, schema = some known ∧ key.column ∈ known.columns
  names : (order.keys.map SortKey.name).Nodup

namespace Within

variable {order : SortOrder} {schema : Option Schema} {known : Schema}

theorem empty (schema : Option Schema) : SortOrder.empty.Within schema :=
  ⟨fun _ hKey => absurd hKey List.not_mem_nil, List.nodup_nil⟩

theorem eq_empty (h : order.Within none) : order = .empty := by
  obtain ⟨keys⟩ := order
  cases keys with
  | nil => rfl
  | cons key rest =>
      obtain ⟨known, hNone, -⟩ := h.columns key List.mem_cons_self
      cases hNone

theorem mono (h : order.Within schema) {other : Option Schema}
    (hOther : ∀ known, schema = some known → other = some known) : order.Within other where
  columns key hKey := by
    obtain ⟨known, hKnown, hColumn⟩ := h.columns key hKey
    exact ⟨known, hOther known hKnown, hColumn⟩
  names := h.names

theorem hide (h : order.Within schema) (name : String) : (order.hide name).Within schema where
  columns key hKey := h.columns key (List.mem_of_mem_eraseP hKey)
  names := names_hide h.names name

theorem promote (h : order.Within (some known)) {key : SortKey}
    (hColumn : key.column ∈ known.columns) : (order.promote key).Within (some known) where
  columns other hOther := by
    rcases List.mem_cons.mp hOther with rfl | hLeft
    · exact ⟨known, rfl, hColumn⟩
    · exact (h.hide key.name).columns other hLeft
  names := names_promote h.names key

theorem appendIfAbsent (h : order.Within (some known)) {key : SortKey}
    (hColumn : key.column ∈ known.columns) : (order.appendIfAbsent key).Within (some known) where
  columns other hOther := by
    by_cases hVisible : order.isVisible key.name = true
    · rw [appendIfAbsent_of_visible hVisible] at hOther
      exact h.columns other hOther
    · rw [keys_appendIfAbsent hVisible] at hOther
      rcases List.mem_append.mp hOther with hOld | hNew
      · exact h.columns other hOld
      · obtain rfl := List.mem_singleton.mp hNew
        exact ⟨known, rfl, hColumn⟩
  names := names_appendIfAbsent h.names key

theorem foldl_appendIfAbsent (h : order.Within (some known)) {columns : List Column}
    (hColumns : ∀ column ∈ columns, column ∈ known.columns) :
    (columns.foldl (fun order column => order.appendIfAbsent ⟨column, true⟩) order).Within
      (some known) := by
  induction columns generalizing order with
  | nil => exact h
  | cons column rest ih =>
      obtain ⟨hFirst, hRest⟩ := List.forall_mem_cons.mp hColumns
      exact ih (h.appendIfAbsent hFirst) hRest

end Within

end SortOrder

namespace View

theorem Forms.within {view : View} {order : SortOrder} (h : view.Forms order)
    (hOrder : view.order.Within view.schema) : order.Within view.schema := by
  cases h with
  | empty => exact .empty _
  | hide name => exact hOrder.hide name
  | promote hColumn ascending =>
      obtain ⟨schema, hSchema, hFound⟩ := Option.bind_eq_some_iff.mp hColumn
      rw [hSchema] at hOrder ⊢
      exact hOrder.promote (List.mem_of_find?_eq_some hFound)
  | complete hSchema =>
      rw [hSchema] at hOrder ⊢
      exact hOrder.foldl_appendIfAbsent fun _ hColumn => hColumn

/-- The orders of the view are within its schema, and its cursor is on a column unless it is at the
beginning. -/
structure Grounded (view : View) : Prop where
  order : view.order.Within view.schema
  snapshotOrder : view.snapshotOrder.Within view.schema
  cursor : view.cursor = 0 ∨ ∃ schema, view.schema = some schema ∧ view.cursor < schema.length

namespace Grounded

variable {view : View}

theorem new (tableId : ObjectId) (serial : Nat) : (View.new tableId serial).Grounded :=
  ⟨.empty _, .empty _, Or.inl rfl⟩

theorem issue (h : view.Grounded) {order : SortOrder} (hForms : view.Forms order) (call : Call)
    (session : Session) : ({ view with order := order }.issue call session).1.Grounded := by
  rw [issue_eq]
  exact ⟨hForms.within h.order, h.snapshotOrder, h.cursor⟩

/-- A schema that comes is the first one, and the orders are empty then. -/
theorem update (h : view.Grounded) (data : Snapshot) : (view.update data).Grounded := by
  have hStays : ∀ known, view.schema = some known → (view.update data).schema = some known := by
    intro known hKnown
    rw [schema_update, hKnown, Option.some_or]
  refine ⟨?_, ?_, ?_⟩
  · rw [order_update]
    exact h.order.mono hStays
  · rw [snapshotOrder_update]
    exact h.snapshotOrder.mono hStays
  · rw [update_eq]
    cases hSchema : view.schema.or data.schema with
    | none =>
        rw [Option.or_eq_none_iff] at hSchema
        rcases h.cursor with hZero | ⟨schema, hSome, -⟩
        · exact Or.inl hZero
        · rw [hSchema.1] at hSome
          cases hSome
    | some schema =>
        simp only [Option.map_some, Option.getD_some, Option.some.injEq, exists_eq_left']
        omega

theorem adjusts {changed : View} (h : view.Grounded) (hAdjusts : view.Adjusts changed) :
    changed.Grounded := by
  cases hAdjusts with
  | previous =>
      refine ⟨h.order, h.snapshotOrder, h.cursor.imp (fun hZero => ?_) ?_⟩
      · rw [selectPrevious, hZero]
      · rintro ⟨schema, hSchema, hBelow⟩
        exact ⟨schema, hSchema, Nat.lt_of_le_of_lt (Nat.sub_le _ _) hBelow⟩
  | next =>
      unfold selectNext
      split
      · rename_i hBelow
        refine ⟨h.order, h.snapshotOrder, Or.inr ?_⟩
        cases hSchema : view.schema with
        | none =>
            rw [hSchema] at hBelow
            cases hBelow
        | some schema =>
            rw [hSchema] at hBelow
            exact ⟨schema, rfl, hBelow⟩
      · exact h
  | again => exact h.update _

theorem acceptSnapshot (h : view.Grounded) (generation : Nat) (data : Snapshot) :
    (view.acceptSnapshot generation data).Grounded := by
  unfold View.acceptSnapshot
  split
  · have hTaken : { view with snapshotOrder := view.order }.Grounded := ⟨h.order, h.order, h.cursor⟩
    exact hTaken.update data
  · exact h

theorem requestFinished (h : view.Grounded) (generation : Nat) :
    (view.requestFinished generation).Grounded := by
  unfold View.requestFinished
  split
  · exact ⟨h.order, h.snapshotOrder, h.cursor⟩
  · exact h

end Grounded

end View

end RemoteTable
