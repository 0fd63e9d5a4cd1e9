import RemoteTable.Proofs.Json.Ordering
import RemoteTable.Protocol.Frame

/-! Members of an object as a table by name. As long as no name is repeated, what stands under a name
depends neither on the order of the members nor on members of other names. -/

namespace RemoteTable

section Named

variable {members extra changed : List (String × Json)} {name : String} {value : Json}

theorem filter_name_of_not_mem (hAbsent : name ∉ members.map Prod.fst) :
    members.filter (·.1 == name) = [] := by
  rw [List.filter_eq_nil_iff]
  intro member hMember hSame
  exact hAbsent (List.mem_map.mpr ⟨member, hMember, beq_iff_eq.mp hSame⟩)

theorem filter_name_of_mem (hNames : (members.map Prod.fst).Nodup) (hMember : (name, value) ∈ members) :
    members.filter (·.1 == name) = [(name, value)] := by
  induction members with
  | nil => cases hMember
  | cons first rest ih =>
      rw [List.map_cons, List.nodup_cons] at hNames
      rcases List.mem_cons.mp hMember with rfl | hRest
      · rw [List.filter_cons_of_pos (by simp), filter_name_of_not_mem hNames.1]
      · have hOther : first.1 ≠ name := fun hSame =>
          hNames.1 (hSame ▸ List.mem_map_of_mem hRest)
        rw [List.filter_cons_of_neg (by simp [hOther])]
        exact ih hNames.2 hRest

/-- The members are put into another order, and members of other names are added anywhere. -/
theorem filter_name_eq_of_perm (hNames : (changed.map Prod.fst).Nodup)
    (hPerm : changed.Perm (members ++ extra)) (hExtra : name ∉ extra.map Prod.fst) :
    changed.filter (·.1 == name) = members.filter (·.1 == name) := by
  have hAll : ((members ++ extra).map Prod.fst).Nodup := (hPerm.map Prod.fst).nodup_iff.mp hNames
  rw [List.map_append] at hAll
  by_cases hKnown : name ∈ members.map Prod.fst
  · obtain ⟨⟨_, value⟩, hMember, rfl⟩ := List.mem_map.mp hKnown
    have hChanged := hPerm.mem_iff.mpr (List.mem_append_left extra hMember)
    rw [filter_name_of_mem hNames hChanged, filter_name_of_mem hAll.of_append_left hMember]
  · have hAbsent : name ∉ changed.map Prod.fst := by
      rw [(hPerm.map Prod.fst).mem_iff, List.map_append, List.mem_append]
      exact not_or_intro hKnown hExtra
    rw [filter_name_of_not_mem hAbsent, filter_name_of_not_mem hKnown]

/-- Under each name stands what stood there before the keys were sorted. -/
theorem filter_name_sorted (hNames : (members.map Prod.fst).Nodup) (hMember : (name, value) ∈ members) :
    (Json.sortMembers (Json.sortedMembers members)).filter (·.1 == name) = [(name, value.sorted)] := by
  rw [Json.sortedMembers_eq]
  have hSame : (members.map fun member => (member.1, member.2.sorted)).map Prod.fst =
      members.map Prod.fst := by rw [List.map_map]; rfl
  have hPerm := Json.sortMembers_perm (hSame.symm ▸ hNames)
  refine filter_name_of_mem ?_ (hPerm.mem_iff.mpr (List.mem_map.mpr ⟨_, hMember, rfl⟩))
  rw [(hPerm.map Prod.fst).nodup_iff, hSame]
  exact hNames

end Named

namespace Reply

variable {α : Type} {read : Json → Except Wire.DecodeError α} {members changed : List (String × Json)}
  {name : String}

theorem soleMember_congr
    (hSame : changed.filter (·.1 == name) = members.filter (·.1 == name)) :
    soleMember read name changed = soleMember read name members := by
  rw [soleMember, soleMember, hSame]

/-- A name that is not repeated has the value that stands under it. -/
theorem soleMember_of_filter {value : Json}
    (hMember : members.filter (·.1 == name) = [(name, value)]) :
    soleMember read name members = read value := by
  rw [soleMember, hMember]
  dsimp only
  cases read value <;> rfl

/-- What has been read stands under its name. -/
theorem mem_of_soleMember {result : α} (h : soleMember read name members = .ok result) :
    ∃ value, (name, value) ∈ members ∧ read value = .ok result := by
  unfold soleMember at h
  split at h
  · cases h
  · rename_i key value others hFilter
    have hMember : (key, value) ∈ members.filter (·.1 == name) := hFilter ▸ List.mem_cons_self
    obtain ⟨hStands, hKey⟩ := List.mem_filter.mp hMember
    have hName : key = name := beq_iff_eq.mp hKey
    refine ⟨value, hName ▸ hStands, ?_⟩
    cases hRead : read value with
    | error err => simp [hRead] at h
    | ok found =>
        simp only [hRead] at h
        split at h
        · exact h
        · cases h

/-- The content of a reply stands under one name, or there is none. -/
theorem ofMembers_congr (kind : Kind)
    (hSame : ∀ name ∈ ["result", "message"],
      changed.filter (·.1 == name) = members.filter (·.1 == name)) :
    ofMembers kind changed = ofMembers kind members := by
  cases kind with
  | next => rw [ofMembers, ofMembers, soleMember_congr (hSame "result" (by simp))]
  | error => rw [ofMembers, ofMembers, soleMember_congr (hSame "message" (by simp))]
  | completed | cancelled => rfl

end Reply

end RemoteTable
