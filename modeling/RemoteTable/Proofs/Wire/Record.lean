import RemoteTable.Proofs.Wire.Lawful
import RemoteTable.Proofs.Wire.Members
import RemoteTable.Wire.Record

/-! Records, field by field. A field is found under its name wherever it stands in an object, and the
fields before it do not see it. So a record is decoded from its written form in any order of members. -/

namespace RemoteTable.Wire.Record

section Put

variable {ρ α β : Type} [Wire β] {record : Record ρ (β → α)} {name : String} {get : ρ → β}
  {absent short : Option β}

theorem putAll_cons {ρ α : Type} (record : Record ρ α) (key : String) (value : Json)
    (rest : List (String × Json)) (slots : record.Slots) :
    record.putAll ((key, value) :: rest) slots =
      (record.put key value slots).bind (record.putAll rest) := by
  rw [putAll]
  cases record.put key value slots <;> rfl

/-- A member of this name is the field, and the other ones are left to the fields before. -/
theorem putAll_fieldOr_cons (key : String) (value : Json) (rest : List (String × Json))
    (slots : record.Slots) (found : Option β) :
    (record.fieldOr name get absent short).putAll ((key, value) :: rest) (slots, found) =
      if key = name then
        (Wire.decode value).bind fun field =>
          (record.fieldOr name get absent short).putAll rest (slots, some field)
      else (record.put key value slots).bind fun others =>
        (record.fieldOr name get absent short).putAll rest (others, found) := by
  refine (putAll_cons _ key value rest _).trans ?_
  simp only [fieldOr]
  split_ifs
  · cases (Wire.decode value : Except DecodeError β) <;> rfl
  · cases record.put key value slots <;> rfl

/-- The other fields are found among the other members. -/
theorem putAll_fieldOr {members : List (String × Json)} {slots others : record.Slots}
    {found : Option β} {value : β}
    (hOthers : record.putAll (members.filter (·.1 != name)) slots = .ok others)
    (hOwn : ∀ json, (name, json) ∈ members → Wire.decode json = .ok value) :
    (record.fieldOr name get absent short).putAll members (slots, found) =
      .ok (others, if name ∈ members.map Prod.fst then some value else found) := by
  induction members generalizing slots found with
  | nil =>
      cases hOthers
      rfl
  | cons member rest ih =>
      obtain ⟨key, json⟩ := member
      have hRest : ∀ json, (name, json) ∈ rest → Wire.decode json = .ok value :=
        fun json hJson => hOwn json (List.mem_cons_of_mem _ hJson)
      refine (putAll_fieldOr_cons key json rest slots found).trans ?_
      by_cases hKey : key = name
      · subst hKey
        rw [List.filter_cons_of_neg (by simp)] at hOthers
        rw [if_pos rfl, hOwn json List.mem_cons_self, Except.bind, ih hOthers hRest]
        simp
      · rw [List.filter_cons_of_pos (by simp [hKey]), putAll_cons] at hOthers
        obtain ⟨next, hPut, hOthers⟩ := exists_of_bind_eq_ok hOthers
        have hMember : name ∈ ((key, json) :: rest).map Prod.fst ↔ name ∈ rest.map Prod.fst := by
          simp [Ne.symm hKey]
        rw [if_neg hKey, hPut, Except.bind, ih hOthers hRest, if_congr hMember rfl rfl]

/-- A field that has been found stood under its name, and the other fields have been found among the
other members. -/
theorem putAll_of_fieldOr {members : List (String × Json)} {slots others : record.Slots}
    {before found : Option β}
    (h : (record.fieldOr name get absent short).putAll members (slots, before) =
      .ok (others, found)) :
    record.putAll (members.filter (·.1 != name)) slots = .ok others ∧
      (found = before ∨ ∃ member ∈ members, ∃ value, Wire.decode member.2 = .ok value ∧
        found = some value) := by
  induction members generalizing slots before with
  | nil =>
      cases h
      exact ⟨rfl, Or.inl rfl⟩
  | cons member rest ih =>
      obtain ⟨key, json⟩ := member
      replace h := (putAll_fieldOr_cons key json rest slots before).symm.trans h
      by_cases hKey : key = name
      · subst hKey
        rw [if_pos rfl] at h
        rw [List.filter_cons_of_neg (by simp)]
        obtain ⟨value, hDecoded, hRest⟩ := exists_of_bind_eq_ok h
        obtain ⟨hOthers, hFound⟩ := ih hRest
        refine ⟨hOthers, Or.inr ?_⟩
        rcases hFound with rfl | ⟨later, hLater, hSome⟩
        · exact ⟨(key, json), List.mem_cons_self, value, hDecoded, rfl⟩
        · exact ⟨later, List.mem_cons_of_mem _ hLater, hSome⟩
      · rw [if_neg hKey] at h
        obtain ⟨next, hPut, hRest⟩ := exists_of_bind_eq_ok h
        obtain ⟨hOthers, hFound⟩ := ih hRest
        rw [List.filter_cons_of_pos (by simp [hKey]), putAll_cons, hPut]
        refine ⟨hOthers, hFound.imp_right ?_⟩
        rintro ⟨later, hLater, hSome⟩
        exact ⟨later, List.mem_cons_of_mem _ hLater, hSome⟩

end Put

section Names

variable {ρ α β : Type} [Wire β] (record : Record ρ (β → α)) (name : String) (get : ρ → β)
  (source : ρ)

@[simp] theorem names_of (value : α) :
    (((of value : Record ρ α).write source).map Prod.fst) = [] := rfl

@[simp] theorem names_fieldOr (absent short : Option β) :
    ((record.fieldOr name get absent short).write source).map Prod.fst =
      (record.write source).map Prod.fst ++ [name] := by
  simp [fieldOr]

@[simp] theorem names_field :
    ((record.field name get).write source).map Prod.fst =
      (record.write source).map Prod.fst ++ [name] :=
  record.names_fieldOr name get source _ _

@[simp] theorem names_optional (value : β) :
    ((record.optional name get value).write source).map Prod.fst =
      (record.write source).map Prod.fst ++ [name] :=
  record.names_fieldOr name get source _ _

end Names

/-- Wherever the fields of a source stand among members, each once and in this form, the fields
described so far determine the value. -/
def Finds {ρ α : Type} (record : Record ρ α) (form : Json → Json) (source : ρ) (value : α) : Prop :=
  ((record.write source).map Prod.fst).Nodup → ∀ members : List (String × Json),
    (∀ entry ∈ record.write source,
      members.filter (·.1 == entry.1) = [(entry.1, form entry.2)]) →
    ∃ slots, record.putAll members record.start = .ok slots ∧ record.finish slots = .ok value

/-- The fields described so far determine such results only, if they are decoded from good values. -/
structure Yields {ρ α : Type} (record : Record ρ α) (good : Json → Prop) (Result : α → Prop) :
    Prop where
  object : ∀ (members : List (String × Json)) slots value, (∀ member ∈ members, good member.2) →
    record.putAll members record.start = .ok slots → record.finish slots = .ok value → Result value
  array : ∀ (elements : List Json) value rest, (∀ element ∈ elements, good element) →
    record.take elements = .ok (some (value, rest)) → Result value ∧ ∀ element ∈ rest, good element

section Field

variable {ρ α β : Type} [Wire β] {record : Record ρ (β → α)} {name : String} {get : ρ → β}
  {absent short : Option β}

theorem Finds.fieldOr {form : Json → Json} {source : ρ} {build : β → α}
    (h : record.Finds form source build)
    (hField : Wire.decode (form (encode (get source))) = .ok (get source)) :
    (record.fieldOr name get absent short).Finds form source (build (get source)) := by
  intro hNames members hMembers
  have hWrite : (record.fieldOr name get absent short).write source =
      record.write source ++ [(name, encode (get source))] := rfl
  rw [hWrite] at hMembers
  rw [hWrite, List.map_append, List.nodup_append] at hNames
  obtain ⟨hPrior, -, hDistinct⟩ := hNames
  have hOwn : members.filter (·.1 == name) = [(name, form (encode (get source)))] :=
    hMembers _ (List.mem_append_right _ (List.mem_singleton_self _))
  have hStands : (name, form (encode (get source))) ∈ members := by
    have hMember := hOwn ▸ List.mem_singleton_self (name, form (encode (get source)))
    exact (List.mem_filter.mp hMember).1
  -- The fields before this one are where they were when its member is left out.
  have hOthers : ∀ entry ∈ record.write source, (members.filter (·.1 != name)).filter
      (·.1 == entry.1) = [(entry.1, form entry.2)] := by
    intro entry hEntry
    rw [← hMembers entry (List.mem_append_left _ hEntry), List.filter_filter]
    refine List.filter_congr fun member _ => ?_
    have hOther : entry.1 ≠ name :=
      hDistinct _ (List.mem_map_of_mem hEntry) _ (List.mem_singleton_self _)
    by_cases hSame : member.1 = entry.1 <;> simp [hSame, hOther]
  obtain ⟨slots, hPut, hFinish⟩ := h hPrior _ hOthers
  have hDecodes : ∀ json, (name, json) ∈ members → Wire.decode json = .ok (get source) := by
    intro json hJson
    have hFound : (name, json) ∈ members.filter (·.1 == name) :=
      List.mem_filter.mpr ⟨hJson, beq_self_eq_true _⟩
    rw [hOwn, List.mem_singleton] at hFound
    cases hFound
    exact hField
  refine ⟨_, putAll_fieldOr hPut hDecodes, ?_⟩
  have hKnown : name ∈ members.map Prod.fst := List.mem_map_of_mem hStands
  simp only [Record.fieldOr, hFinish, hKnown, if_true]
  rfl

theorem Yields.fieldOr {good : Json → Prop} {Field : β → Prop} {Result : α → Prop}
    (h : record.Yields good fun build => ∀ value, Field value → Result (build value))
    (hField : ∀ json value, good json → Wire.decode json = .ok value → Field value)
    (hAbsent : ∀ value, absent = some value → Field value)
    (hShort : ∀ value, short = some value → Field value) :
    (record.fieldOr name get absent short).Yields good Result where
  object members slots value hGood hPut hFinish := by
    obtain ⟨others, found⟩ := slots
    obtain ⟨hOthers, hFound⟩ := putAll_of_fieldOr hPut
    obtain ⟨build, hBuild, hLast⟩ := exists_of_bind_eq_ok hFinish
    have hResult := h.object _ others build
      (fun member hMember => hGood member (List.mem_filter.mp hMember).1) hOthers hBuild
    have hValue : ∀ field, found.or absent = some field → Field field := by
      intro field hSome
      rcases hFound with rfl | ⟨member, hMember, own, hDecoded, rfl⟩
      · exact hAbsent field hSome
      · cases hSome
        exact hField member.2 _ (hGood member hMember) hDecoded
    cases hSome : found.or absent with
    | none =>
        rw [hSome] at hLast
        cases hLast
    | some field =>
        rw [hSome] at hLast
        cases hLast
        exact hResult field (hValue field hSome)
  array elements value rest hGood hTake := by
    obtain ⟨front, hPrior, hLast⟩ := exists_of_bind_eq_ok hTake
    match front with
    | none => cases hLast
    | some (build, []) =>
        obtain ⟨hResult, -⟩ := h.array elements build [] hGood hPrior
        obtain ⟨field, hSome, hSame⟩ := Option.map_eq_some_iff.mp (Except.ok.inj hLast)
        cases hSame
        exact ⟨hResult field (hShort field hSome), nofun⟩
    | some (build, first :: others) =>
        obtain ⟨hResult, hRest⟩ := h.array elements build _ hGood hPrior
        obtain ⟨hFirst, hOthers⟩ := List.forall_mem_cons.mp hRest
        obtain ⟨field, hDecoded, hSame⟩ := exists_of_bind_eq_ok hLast
        cases hSame
        exact ⟨hResult field (hField first field hFirst hDecoded), hOthers⟩

end Field

section Whole

variable {ρ : Type} {record : Record ρ ρ}

/-- A record is determined by all of its fields. -/
theorem Finds.decode_eq {form : Json → Json} {source : ρ} (h : record.Finds form source source)
    (hNames : ((record.write source).map Prod.fst).Nodup) (name : String)
    {members : List (String × Json)}
    (hMembers : ∀ entry ∈ record.write source,
      members.filter (·.1 == entry.1) = [(entry.1, form entry.2)]) :
    record.decode name (.object members) = .ok source := by
  obtain ⟨slots, hPut, hFinish⟩ := h hNames members hMembers
  simp only [Record.decode, hPut, bind, Except.bind]
  exact hFinish

theorem Yields.of_decode {good : Json → Prop} {Result : ρ → Prop} (h : record.Yields good Result)
    (hParts : Json.Hereditary good) {json : Json} {value : ρ} (hGood : good json) {name : String}
    (hDecoded : record.decode name json = .ok value) : Result value := by
  cases json with
  | object members =>
      obtain ⟨slots, hPut, hFinish⟩ := exists_of_bind_eq_ok hDecoded
      exact h.object members slots value (hParts.member hGood) hPut hFinish
  | array elements =>
      obtain ⟨front, hTake, hLast⟩ := exists_of_bind_eq_ok hDecoded
      match front with
      | none => cases hLast
      | some (found, []) =>
          cases hLast
          exact (h.array elements value [] (hParts.element hGood) hTake).1
      | some (_, _ :: _) => cases hLast
  | _ => cases hDecoded

end Whole

/-- What the fields described so far promise together. From every source `build` gives what they
determine. -/
structure Sound {ρ α : Type} (record : Record ρ α) (build : ρ → α) (Fits Ordered : ρ → Prop)
    (FitsResult OrderedResult : α → Prop) : Prop where
  finds : ∀ source, Fits source → record.Finds id source (build source)
  findsSorted : ∀ source, Fits source → Ordered source →
    record.Finds Json.sorted source (build source)
  fits : record.Yields Json.InRange FitsResult
  ordered : record.Yields Json.IsSorted OrderedResult

namespace Sound

variable {ρ α β : Type} {Fits Ordered : ρ → Prop} {FitsResult OrderedResult : α → Prop}

/-- Nothing is read for a record without fields. -/
theorem of {value : α} (hFits : FitsResult value) (hOrdered : OrderedResult value) :
    (Record.of value : Record ρ α).Sound (fun _ => value) Fits Ordered FitsResult OrderedResult := by
  have hPut : ∀ members : List (String × Json),
      (Record.of value : Record ρ α).putAll members () = .ok () := by
    intro members
    induction members with
    | nil => rfl
    | cons member rest ih => exact ih
  have hFinds : ∀ form source, (Record.of value : Record ρ α).Finds form source value :=
    fun _ _ _ members _ => ⟨(), hPut members, rfl⟩
  have hYields : ∀ (good : Json → Prop) {Result : α → Prop}, Result value →
      (Record.of value : Record ρ α).Yields good Result := by
    intro good Result hResult
    constructor
    · intro members slots result hGood hRead hFinish
      cases hFinish
      exact hResult
    · intro elements result rest hGood hTake
      cases hTake
      exact ⟨hResult, hGood⟩
  exact ⟨fun source _ => hFinds id source, fun source _ _ => hFinds Json.sorted source,
    hYields _ hFits, hYields _ hOrdered⟩

section Field

variable [Wire β] {record : Record ρ (β → α)} {build : ρ → β → α} {FieldFits FieldOrdered : β → Prop}
  {name : String} {get : ρ → β} {absent short : Option β}
  (h : record.Sound build Fits Ordered (fun build => ∀ value, FieldFits value → FitsResult (build value))
    fun build => ∀ value, FieldOrdered value → OrderedResult (build value))
  (hField : Lawful β FieldFits FieldOrdered) (hFits : ∀ source, Fits source → FieldFits (get source))
  (hOrdered : ∀ source, Ordered source → FieldOrdered (get source))

include h hField hFits hOrdered

theorem fieldOr (hAbsent : ∀ value, absent = some value → FieldFits value ∧ FieldOrdered value)
    (hShort : ∀ value, short = some value → FieldFits value ∧ FieldOrdered value) :
    (record.fieldOr name get absent short).Sound (fun source => build source (get source)) Fits Ordered
      FitsResult OrderedResult where
  finds source hSource :=
    (h.finds source hSource).fieldOr (hField.decode_encode _ (hFits source hSource))
  findsSorted source hSource hSorted := (h.findsSorted source hSource hSorted).fieldOr
    (hField.decode_sorted _ (hFits source hSource) (hOrdered source hSorted))
  fits := h.fits.fieldOr hField.fits (fun value hSome => (hAbsent value hSome).1)
    fun value hSome => (hShort value hSome).1
  ordered := h.ordered.fieldOr hField.ordered (fun value hSome => (hAbsent value hSome).2)
    fun value hSome => (hShort value hSome).2

theorem field : (record.field name get).Sound (fun source => build source (get source)) Fits Ordered
    FitsResult OrderedResult :=
  h.fieldOr hField hFits hOrdered hField.absent nofun

theorem optional {value : β} (hValue : FieldFits value ∧ FieldOrdered value) :
    (record.optional name get value).Sound (fun source => build source (get source)) Fits Ordered
      FitsResult OrderedResult := by
  have hDefault : ∀ other, some value = some other → FieldFits other ∧ FieldOrdered other := by
    rintro other ⟨⟩
    exact hValue
  exact h.fieldOr hField hFits hOrdered hDefault hDefault

end Field

/-- Decoding undoes encoding for a record all of whose fields do so, if their names differ. -/
theorem lawful {record : Record ρ ρ} {build : ρ → ρ}
    (h : record.Sound build Fits Ordered Fits Ordered) (hBuild : ∀ source, build source = source)
    (hNames : ∀ source, ((record.write source).map Prod.fst).Nodup) (name : String) :
    @Lawful ρ (record.wire name) Fits Ordered :=
  let _ := record.wire name
  { decode_encode := fun source hSource => by
      have hFinds := hBuild source ▸ h.finds source hSource
      exact hFinds.decode_eq (hNames source) name fun entry hEntry =>
        filter_name_of_mem (hNames source) hEntry
    decode_sorted := fun source hSource hSorted => by
      have hFinds := hBuild source ▸ h.findsSorted source hSource hSorted
      exact hFinds.decode_eq (hNames source) name fun entry hEntry =>
        filter_name_sorted (hNames source) hEntry
    fits := fun _ _ hRange hDecoded => h.fits.of_decode Json.hereditary_inRange hRange hDecoded
    ordered := fun _ _ hSorted hDecoded =>
      h.ordered.of_decode Json.hereditary_isSorted hSorted hDecoded
    absent := nofun }

end Sound

end RemoteTable.Wire.Record
