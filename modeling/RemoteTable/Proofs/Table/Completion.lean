import Mathlib.Data.List.Induction
import RemoteTable.Proofs.Table.Recency
import RemoteTable.Table.View

/-! What is added to an order when all columns of a schema are shown: those that are the first of their
name, unless the name is in the order already. -/

namespace RemoteTable

namespace Schema

/-- The column at this place is the first one of its name. -/
def isFirst (schema : Schema) (entry : Column × Nat) : Bool :=
  schema.indexOf? entry.1.name == some entry.2

/-- The columns that are the first of their name, as they stand in the schema. -/
def firstOfName (schema : Schema) : List Column :=
  (schema.columns.zipIdx.filter schema.isFirst).map Prod.fst

theorem indexOf?_eq_none_iff {columns : List Column} {name : String} :
    (Schema.mk columns).indexOf? name = none ↔ name ∉ columns.map Column.name := by
  rw [indexOf?, List.findIdx?_eq_none_iff, List.mem_map]
  simp

/-- Further columns do not change where a name comes first. -/
theorem indexOf?_concat (columns : List Column) (last : Column) (name : String) :
    (Schema.mk (columns ++ [last])).indexOf? name =
      ((Schema.mk columns).indexOf? name).or
        (if last.name = name then some columns.length else none) := by
  by_cases hName : last.name = name <;> simp [indexOf?, List.findIdx?_append, hName]

theorem isFirst_concat_of_mem {columns : List Column} {entry : Column × Nat}
    (hColumn : entry.1 ∈ columns) (last : Column) :
    (Schema.mk (columns ++ [last])).isFirst entry = (Schema.mk columns).isFirst entry := by
  have hSome : (Schema.mk columns).indexOf? entry.1.name ≠ none := fun hNone =>
    indexOf?_eq_none_iff.mp hNone (List.mem_map_of_mem hColumn)
  obtain ⟨place, hPlace⟩ := Option.ne_none_iff_exists'.mp hSome
  rw [isFirst, isFirst, indexOf?_concat, hPlace, Option.some_or]

/-- A further column is the first of its name if no column before it has the name. -/
theorem isFirst_concat_self (columns : List Column) (last : Column) :
    (Schema.mk (columns ++ [last])).isFirst (last, columns.length) = true ↔
      last.name ∉ columns.map Column.name := by
  rw [isFirst, indexOf?_concat, if_pos rfl, beq_iff_eq, ← indexOf?_eq_none_iff]
  cases hFound : (Schema.mk columns).indexOf? last.name with
  | none => simp
  | some place =>
      have hBelow : place < columns.length := (List.findIdx?_eq_some_iff_getElem.mp hFound).1
      simp [Nat.ne_of_lt hBelow]

theorem firstOfName_concat (columns : List Column) (last : Column) :
    (Schema.mk (columns ++ [last])).firstOfName =
      (Schema.mk columns).firstOfName ++
        if last.name ∈ columns.map Column.name then [] else [last] := by
  have hOld : columns.zipIdx.filter (Schema.mk (columns ++ [last])).isFirst =
      columns.zipIdx.filter (Schema.mk columns).isFirst :=
    List.filter_congr fun entry hEntry =>
      isFirst_concat_of_mem (List.fst_mem_of_mem_zipIdx hEntry) last
  have hLast := isFirst_concat_self columns last
  rw [firstOfName, List.zipIdx_append, List.filter_append, List.map_append, hOld, Nat.zero_add,
    List.zipIdx_singleton]
  by_cases hName : last.name ∈ columns.map Column.name
  · rw [if_pos hName, List.filter_cons_of_neg fun hFirst => hLast.mp hFirst hName]
    rfl
  · rw [if_neg hName, List.filter_cons_of_pos (hLast.mpr hName)]
    rfl

theorem mem_of_mem_firstOfName {schema : Schema} {column : Column}
    (h : column ∈ schema.firstOfName) : column ∈ schema.columns := by
  obtain ⟨entry, hEntry, rfl⟩ := List.mem_map.mp h
  exact List.fst_mem_of_mem_zipIdx (List.mem_of_mem_filter hEntry)

end Schema

namespace SortOrder

/-- The keys that complete the order: the first column of each name that is not in it, as they stand in
the schema, all ascending. -/
def lacking (order : SortOrder) (schema : Schema) : List SortKey :=
  (schema.firstOfName.filter fun column => !order.isVisible column.name).map (SortKey.mk · true)

theorem completedOrder_concat (order : SortOrder) (columns : List Column) (last : Column) :
    View.completedOrder ⟨columns ++ [last]⟩ order =
      (View.completedOrder ⟨columns⟩ order).appendIfAbsent ⟨last, true⟩ :=
  List.foldl_append

/-- A completed order shows what it has shown before and every column of the schema. -/
theorem isVisible_completedOrder (order : SortOrder) (schema : Schema) (name : String) :
    (View.completedOrder schema order).isVisible name = true ↔
      order.isVisible name = true ∨ name ∈ schema.columns.map Column.name := by
  obtain ⟨columns⟩ := schema
  induction columns using List.reverseRecOn with
  | nil => simp [View.completedOrder]
  | append_singleton columns last ih =>
      rw [completedOrder_concat, isVisible_appendIfAbsent, ih, List.map_append, List.mem_append,
        List.map_singleton, List.mem_singleton, or_assoc]
      exact or_congr_right (or_congr_right eq_comm)

/-- The keys of the order stay as they are, and behind them stand those that were lacking. -/
theorem keys_completedOrder (order : SortOrder) (schema : Schema) :
    (View.completedOrder schema order).keys = order.keys ++ order.lacking schema := by
  obtain ⟨columns⟩ := schema
  induction columns using List.reverseRecOn with
  | nil => simp [View.completedOrder, lacking, Schema.firstOfName]
  | append_singleton columns last ih =>
      have hVisible := isVisible_completedOrder order ⟨columns⟩ last.name
      rw [completedOrder_concat, lacking, Schema.firstOfName_concat, List.filter_append,
        List.map_append, ← List.append_assoc, ← lacking, ← ih]
      by_cases hShown : (View.completedOrder ⟨columns⟩ order).isVisible last.name = true
      · rw [appendIfAbsent_of_visible hShown]
        -- The name is in the order already, or an earlier column has it.
        rcases hVisible.mp hShown with hOld | hEarlier
        · split <;> simp [hOld]
        · rw [if_pos hEarlier]
          simp
      · rw [keys_appendIfAbsent hShown]
        rw [hVisible, not_or] at hShown
        rw [if_neg hShown.2]
        simp [hShown.1]

/-- Nothing is lacking when the order has been completed. -/
theorem completedOrder_completedOrder (order : SortOrder) (schema : Schema) :
    View.completedOrder schema (View.completedOrder schema order) =
      View.completedOrder schema order := by
  have hNone : (View.completedOrder schema order).lacking schema = [] := by
    rw [lacking, List.map_eq_nil_iff, List.filter_eq_nil_iff]
    intro column hColumn
    have hShown := (isVisible_completedOrder order schema column.name).mpr
      (Or.inr (List.mem_map_of_mem (Schema.mem_of_mem_firstOfName hColumn)))
    rw [hShown]
    exact Bool.false_ne_true
  have hKeys := keys_completedOrder (View.completedOrder schema order) schema
  rw [hNone, List.append_nil] at hKeys
  cases hTwice : View.completedOrder schema (View.completedOrder schema order)
  cases hOnce : View.completedOrder schema order
  rw [hTwice, hOnce] at hKeys
  exact congrArg SortOrder.mk hKeys

end SortOrder

end RemoteTable
