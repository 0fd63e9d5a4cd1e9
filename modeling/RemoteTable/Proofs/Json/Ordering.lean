import Mathlib.Algebra.Group.Int.Defs
import Mathlib.Data.List.Nodup
import Mathlib.Data.String.Basic
import RemoteTable.Json.Basic

/-! Values whose keys are in increasing order, and values whose numbers a server can send. Sorting the
members of an object rearranges them as long as no name is repeated, and changes nothing if they are in
order already. -/

namespace RemoteTable.Json

theorem sortedElements_eq (elements : List Json) : sortedElements elements = elements.map sorted := by
  induction elements with
  | nil => rfl
  | cons first rest ih => rw [sortedElements, ih, List.map_cons]

theorem sortedMembers_eq (members : List (String × Json)) :
    sortedMembers members = members.map fun member => (member.1, member.2.sorted) := by
  induction members with
  | nil => rfl
  | cons first rest ih => rw [sortedMembers, ih, List.map_cons]

theorem insertMember_perm {members : List (String × Json)} {key : String} (value : Json)
    (hNew : key ∉ members.map Prod.fst) :
    (insertMember key value members).Perm ((key, value) :: members) := by
  induction members with
  | nil => exact .refl _
  | cons first rest ih =>
      rw [List.map_cons, List.mem_cons, not_or] at hNew
      unfold insertMember
      split_ifs with hBefore hSame
      · exact .refl _
      · exact absurd hSame hNew.1
      · exact ((ih hNew.2).cons first).trans (.swap _ _ _)

/-- Members that are entered into others, one after the other. -/
theorem foldl_insertMember_perm {entered members : List (String × Json)}
    (hNames : ((entered ++ members).map Prod.fst).Nodup) :
    (members.foldl (fun sorted m => insertMember m.1 m.2 sorted) entered).Perm
      (entered ++ members) := by
  induction members generalizing entered with
  | nil => rw [List.foldl_nil, List.append_nil]
  | cons first rest ih =>
      have hMiddle : (entered ++ first :: rest).Perm (first :: entered ++ rest) :=
        List.perm_middle
      have hMoved := (hMiddle.map Prod.fst).nodup_iff.mp hNames
      have hNew : first.1 ∉ entered.map Prod.fst := by
        rw [List.cons_append, List.map_cons, List.nodup_cons, List.map_append] at hMoved
        exact fun hOld => hMoved.1 (List.mem_append_left _ hOld)
      have hInserted := (insertMember_perm first.2 hNew).append_right rest
      exact (ih ((hInserted.map Prod.fst).nodup_iff.mpr hMoved)).trans
        (hInserted.trans hMiddle.symm)

/-- Sorting puts members of different names into another order. -/
theorem sortMembers_perm {members : List (String × Json)} (hNames : (members.map Prod.fst).Nodup) :
    (sortMembers members).Perm members :=
  foldl_insertMember_perm hNames

theorem insertMember_of_lt {members : List (String × Json)} {key : String} (value : Json)
    (hLast : ∀ member ∈ members, member.1 < key) :
    insertMember key value members = members ++ [(key, value)] := by
  induction members with
  | nil => rfl
  | cons first rest ih =>
      obtain ⟨hFirst, hRest⟩ := List.forall_mem_cons.mp hLast
      rw [insertMember, if_neg (lt_asymm hFirst), if_neg (ne_of_gt hFirst), ih hRest]
      rfl

theorem foldl_insertMember_of_lt {entered members : List (String × Json)}
    (hKeys : (entered ++ members).Pairwise fun first second => first.1 < second.1) :
    members.foldl (fun sorted m => insertMember m.1 m.2 sorted) entered = entered ++ members := by
  induction members generalizing entered with
  | nil => rw [List.foldl_nil, List.append_nil]
  | cons first rest ih =>
      have hLast : ∀ member ∈ entered, member.1 < first.1 := fun member hMember =>
        (List.pairwise_append.mp hKeys).2.2 member hMember first List.mem_cons_self
      rw [List.append_cons] at hKeys ⊢
      rw [List.foldl_cons, insertMember_of_lt first.2 hLast, ih hKeys]

/-- The keys of all objects stand in increasing order, as in every value of unknown structure. -/
inductive IsSorted : Json → Prop where
  | null : IsSorted .null
  | bool (value : Bool) : IsSorted (.bool value)
  | int (value : Int) : IsSorted (.int value)
  | float (value : Double) : IsSorted (.float value)
  | string (text : String) : IsSorted (.string text)
  | array {elements : List Json} (hElements : ∀ element ∈ elements, IsSorted element) :
      IsSorted (.array elements)
  | object {members : List (String × Json)}
      (hKeys : members.Pairwise fun first second => first.1 < second.1)
      (hMembers : ∀ member ∈ members, IsSorted member.2) : IsSorted (.object members)

/-- Such values stay as they are when their keys are sorted. -/
theorem IsSorted.sorted_eq {value : Json} (h : value.IsSorted) : value.sorted = value := by
  induction h with
  | null | bool | int | float | string => rfl
  | @array elements _ ih =>
      have hSame : elements.map sorted = elements :=
        (List.map_congr_left ih).trans (List.map_id' elements)
      rw [sorted, sortedElements_eq, hSame]
  | @object members hKeys _ ih =>
      have hMember : ∀ member ∈ members, (member.1, member.2.sorted) = member :=
        fun member hMember => by rw [ih member hMember]
      have hSame : members.map (fun member => (member.1, member.2.sorted)) = members :=
        (List.map_congr_left hMember).trans (List.map_id' members)
      rw [sorted, sortedMembers_eq, hSame, sortMembers]
      exact congrArg _ (foldl_insertMember_of_lt (List.nil_append members ▸ hKeys))

/-- Whole numbers fit into 64 bits, with or without a sign, and other numbers are finite, as in every
value that is read from a text. -/
inductive InRange : Json → Prop where
  | null : InRange .null
  | bool (value : Bool) : InRange (.bool value)
  | int {value : Int} (hLow : -2 ^ 63 ≤ value) (hHigh : value < 2 ^ 64) : InRange (.int value)
  | float {value : Double} (hFinite : value.isFinite = true) : InRange (.float value)
  | string (text : String) : InRange (.string text)
  | array {elements : List Json} (hElements : ∀ element ∈ elements, InRange element) :
      InRange (.array elements)
  | object {members : List (String × Json)} (hMembers : ∀ member ∈ members, InRange member.2) :
      InRange (.object members)

/-- What holds of a value holds of its parts. -/
structure Hereditary (good : Json → Prop) : Prop where
  element : ∀ {elements : List Json}, good (.array elements) → ∀ element ∈ elements, good element
  member : ∀ {members : List (String × Json)}, good (.object members) →
    ∀ member ∈ members, good member.2

theorem hereditary_isSorted : Hereditary IsSorted where
  element h := by cases h with | array hElements => exact hElements
  member h := by cases h with | object _ hMembers => exact hMembers

theorem hereditary_inRange : Hereditary InRange where
  element h := by cases h with | array hElements => exact hElements
  member h := by cases h with | object hMembers => exact hMembers

end RemoteTable.Json
