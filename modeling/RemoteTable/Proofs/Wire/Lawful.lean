import RemoteTable.Proofs.Json.Ordering
import RemoteTable.Proofs.Number.Magnitude
import RemoteTable.Wire.Basic

/-! Types whose decoding undoes their encoding. One condition says which values have a written form at
all, such as finite numbers; another one says of which values the keys may be sorted in between. Values
that have been decoded meet these conditions if the written values do. -/

namespace RemoteTable

theorem Double.isFinite_ofInt {value : Int} (hLow : -2 ^ 63 ≤ value) (hHigh : value < 2 ^ 64) :
    (ofInt value).isFinite = true := by
  have hRank : (ofInt value).rank.val = (ofNat value.natAbs).rank.val := by
    rw [ofInt, ofNat, rank_nearest, rank_nearest]
  have hMagnitude : (ofNat value.natAbs).IsMagnitude := isMagnitude_ofNat (by omega)
  rw [isFinite, hRank]
  exact hMagnitude.isFinite

namespace Wire

section Result

variable {α β : Type} {attempt : Except DecodeError α}

/-- What follows a step succeeds only if the step does. -/
theorem exists_of_bind_eq_ok {next : α → Except DecodeError β} {result : β}
    (h : attempt.bind next = .ok result) :
    ∃ value, attempt = .ok value ∧ next value = .ok result := by
  cases attempt with
  | error err => cases h
  | ok value => exact ⟨value, rfl, h⟩

theorem exists_of_map_eq_ok {change : α → β} {result : β} (h : attempt.map change = .ok result) :
    ∃ value, attempt = .ok value ∧ change value = result := by
  cases attempt with
  | error err => cases h
  | ok value => exact ⟨value, rfl, Except.ok.inj h⟩

end Result

/-- Decoding undoes encoding for the values that fit, and for those in order also if the keys are
sorted in between. Only such values are decoded from values whose numbers are in range and whose keys
are sorted. -/
structure Lawful (α : Type) [Wire α] (Fits Ordered : α → Prop) : Prop where
  decode_encode : ∀ value, Fits value → decode (encode value) = .ok value
  decode_sorted : ∀ value, Fits value → Ordered value → decode (encode value).sorted = .ok value
  fits : ∀ json (value : α), json.InRange → decode json = .ok value → Fits value
  ordered : ∀ json (value : α), json.IsSorted → decode json = .ok value → Ordered value
  absent : ∀ value : α, Wire.absent = some value → Fits value ∧ Ordered value

/-- What a value is written as in some form once it has been decoded. -/
def recode (α : Type) [Wire α] (form : Json → Json) (json : Json) : Except DecodeError Json :=
  (decode json : Except DecodeError α).map fun value => form (encode value)

/-- Decoding undoes encoding, as it is and with sorted keys. Hence a value that is accepted is written
in one way, however often it is decoded and encoded again. -/
structure RoundTrips (α : Type) [Wire α] (Fits Ordered : α → Prop) : Prop where
  undone : ∀ value : α, Fits value → decode (encode value) = .ok value
  undoneSorted : ∀ value : α, Fits value → Ordered value → decode (encode value).sorted = .ok value
  idempotent : ∀ json : Json, json.InRange →
    (recode α id json).bind (recode α id) = recode α id json
  idempotentSorted : ∀ json : Json, json.InRange → json.IsSorted →
    (recode α Json.sorted json).bind (recode α Json.sorted) = recode α Json.sorted json

/-- Whoever decodes what has been written writes it again in the same way. -/
theorem recode_idempotent {α : Type} [Wire α] {form : Json → Json} {json : Json}
    (hForm : ∀ value : α, decode json = .ok value → decode (form (encode value)) = .ok value) :
    (recode α form json).bind (recode α form) = recode α form json := by
  unfold recode
  cases hDecoded : (decode json : Except DecodeError α) with
  | error err => rfl
  | ok value => simp only [Except.map, Except.bind, hForm value hDecoded]

/-- The laws give both round trips. -/
theorem Lawful.roundTrips {α : Type} [Wire α] {Fits Ordered : α → Prop}
    (h : Lawful α Fits Ordered) : RoundTrips α Fits Ordered where
  undone := h.decode_encode
  undoneSorted := h.decode_sorted
  idempotent json hRange := recode_idempotent fun value hDecoded =>
    h.decode_encode value (h.fits json value hRange hDecoded)
  idempotentSorted json hRange hSorted := recode_idempotent fun value hDecoded =>
    h.decode_sorted value (h.fits json value hRange hDecoded) (h.ordered json value hSorted hDecoded)

section Elements

variable {α : Type} [Wire α]

theorem decodeElements_map {form : α → Json} {values : List α}
    (hForm : ∀ value ∈ values, decode (form value) = .ok value) :
    decodeElements (values.map form) = .ok values := by
  induction values with
  | nil => rfl
  | cons first rest ih =>
      obtain ⟨hFirst, hRest⟩ := List.forall_mem_cons.mp hForm
      simp only [List.map_cons, decodeElements, hFirst, ih hRest, Except.map]

/-- Each decoded value comes from an element of the list. -/
theorem exists_of_decodeElements {elements : List Json} {values : List α}
    (h : decodeElements elements = .ok values) :
    ∀ value ∈ values, ∃ element ∈ elements, decode element = .ok value := by
  induction elements generalizing values with
  | nil =>
      cases h
      exact fun _ hValue => absurd hValue List.not_mem_nil
  | cons first rest ih =>
      rw [decodeElements] at h
      cases hFirst : (decode first : Except DecodeError α) with
      | error err => simp [hFirst] at h
      | ok head =>
          rw [hFirst] at h
          obtain ⟨tail, hRest, rfl⟩ := exists_of_map_eq_ok h
          intro value hValue
          rcases List.mem_cons.mp hValue with rfl | hOther
          · exact ⟨first, List.mem_cons_self, hFirst⟩
          · obtain ⟨element, hElement, hDecoded⟩ := ih hRest value hOther
            exact ⟨element, List.mem_cons_of_mem _ hElement, hDecoded⟩

end Elements

/-- Anything but null is read as a value. -/
theorem decode_option_of_ne_null {α : Type} [Wire α] {json : Json} (hPresent : json ≠ .null) :
    (decode json : Except DecodeError (Option α)) = (decode json).map some := by
  cases json with
  | null => exact absurd rfl hPresent
  | _ => rfl

theorem decode_of_decode_option {α : Type} [Wire α] {json : Json} {value : α}
    (h : (decode json : Except DecodeError (Option α)) = .ok (some value)) :
    decode json = .ok value := by
  have hPresent : json ≠ .null := by
    rintro rfl
    cases h
  rw [decode_option_of_ne_null hPresent] at h
  obtain ⟨found, hDecoded, hSame⟩ := exists_of_map_eq_ok h
  cases hSame
  exact hDecoded

/-- A word that has been decoded is below the bound. -/
theorem lt_of_decodeUnsigned {bits value : Nat} {expected : String} {json : Json}
    (h : decodeUnsigned bits expected json = .ok value) : value < 2 ^ bits := by
  unfold decodeUnsigned at h
  split at h
  · rename_i number
    split_ifs at h with hRange
    obtain ⟨hLow, hHigh⟩ := hRange
    cases h
    rw [← Int.ofNat_lt, Int.toNat_of_nonneg hLow]
    exact hHigh
  · cases h

/-- A natural number in range is read as it is. -/
theorem decodeUnsigned_int {bits value : Nat} (h : value < 2 ^ bits) (expected : String) :
    decodeUnsigned bits expected (.int value) = .ok value := by
  have hHigh : (value : Int) < Nat.pow 2 bits := Int.ofNat_lt.mpr h
  simp only [decodeUnsigned, Int.natCast_nonneg, hHigh, and_self, if_true, Int.toNat_natCast]

theorem decode_uint64 (value : UInt64) : decode (encode value) = .ok value := by
  show (decodeUnsigned 64 "u64" (.int value.toNat)).map UInt64.ofNat = .ok value
  rw [decodeUnsigned_int value.toNat_lt, Except.map, UInt64.ofNat_toNat]

theorem decode_uint32 (value : UInt32) : decode (encode value) = .ok value := by
  show (decodeUnsigned 32 "u32" (.int value.toNat)).map UInt32.ofNat = .ok value
  rw [decodeUnsigned_int value.toNat_lt, Except.map, UInt32.ofNat_toNat]

namespace Lawful

/-- Values are kept as they are, in order only if they are sorted. -/
theorem json : Lawful Json (fun _ => True) Json.IsSorted where
  decode_encode _ _ := rfl
  decode_sorted value _ hSorted := congrArg Except.ok hSorted.sorted_eq
  fits _ _ _ _ := trivial
  ordered json value hSorted hDecoded := by
    cases hDecoded
    exact hSorted
  absent := nofun

theorem bool : Lawful Bool (fun _ => True) fun _ => True where
  decode_encode _ _ := rfl
  decode_sorted _ _ _ := rfl
  fits _ _ _ _ := trivial
  ordered _ _ _ _ := trivial
  absent := nofun

theorem string : Lawful String (fun _ => True) fun _ => True where
  decode_encode _ _ := rfl
  decode_sorted _ _ _ := rfl
  fits _ _ _ _ := trivial
  ordered _ _ _ _ := trivial
  absent := nofun

theorem uint64 : Lawful UInt64 (fun _ => True) fun _ => True where
  decode_encode value _ := decode_uint64 value
  decode_sorted value _ _ := decode_uint64 value
  fits _ _ _ _ := trivial
  ordered _ _ _ _ := trivial
  absent := nofun

theorem uint32 : Lawful UInt32 (fun _ => True) fun _ => True where
  decode_encode value _ := decode_uint32 value
  decode_sorted value _ _ := decode_uint32 value
  fits _ _ _ _ := trivial
  ordered _ _ _ _ := trivial
  absent := nofun

/-- Infinities and what is no number have no written form. -/
theorem double : Lawful Double (fun value => value.isFinite = true) fun _ => True where
  decode_encode value hFinite := by
    simp only [encode, Json.ofDouble, hFinite, if_true, decode]
  decode_sorted value hFinite _ := by
    simp only [encode, Json.ofDouble, hFinite, if_true, Json.sorted, decode]
  fits json value hRange hDecoded := by
    cases hRange with
    | int hLow hHigh =>
        cases hDecoded
        exact Double.isFinite_ofInt hLow hHigh
    | float hFinite =>
        cases hDecoded
        exact hFinite
    | _ => cases hDecoded
  ordered _ _ _ _ := trivial
  absent := nofun

section Combined

variable {α : Type} [Wire α] {Fits Ordered : α → Prop} (h : Lawful α Fits Ordered)

include h

theorem congr {Fits' Ordered' : α → Prop} (hFits : ∀ value, Fits' value ↔ Fits value)
    (hOrdered : ∀ value, Ordered' value ↔ Ordered value) : Lawful α Fits' Ordered' := by
  have hSameFits : Fits' = Fits := funext fun value => propext (hFits value)
  have hSameOrdered : Ordered' = Ordered := funext fun value => propext (hOrdered value)
  rw [hSameFits, hSameOrdered]
  exact h

/-- A type that is written as what it wraps. -/
theorem wrapped {β : Type} [Wire β] (wrap : α → β) (unwrap : β → α)
    (hEncode : ∀ value : β, encode value = encode (unwrap value))
    (hDecode : ∀ json, (decode json : Except DecodeError β) = (decode json).map wrap)
    (hWrap : ∀ value, wrap (unwrap value) = value) (hUnwrap : ∀ value, unwrap (wrap value) = value)
    (hAbsent : (Wire.absent : Option β) = none) :
    Lawful β (fun value => Fits (unwrap value)) fun value => Ordered (unwrap value) := by
  have hUnwrapped : ∀ {json} {value : β}, decode json = .ok value →
      decode json = .ok (unwrap value) := by
    intro json value hDecoded
    rw [hDecode] at hDecoded
    obtain ⟨inner, hInner, rfl⟩ := exists_of_map_eq_ok hDecoded
    rw [hInner, hUnwrap]
  constructor
  · intro value hFits
    rw [hDecode, hEncode, h.decode_encode _ hFits, Except.map, hWrap]
  · intro value hFits hOrdered
    rw [hDecode, hEncode, h.decode_sorted _ hFits hOrdered, Except.map, hWrap]
  · exact fun json value hRange hDecoded => h.fits json _ hRange (hUnwrapped hDecoded)
  · exact fun json value hSorted hDecoded => h.ordered json _ hSorted (hUnwrapped hDecoded)
  · rw [hAbsent]
    nofun

/-- Lists are lawful if their elements are. -/
theorem list : Lawful (List α) (fun values => ∀ value ∈ values, Fits value)
    fun values => ∀ value ∈ values, Ordered value where
  decode_encode values hFits :=
    decodeElements_map fun value hValue => h.decode_encode value (hFits value hValue)
  decode_sorted values hFits hOrdered := by
    simp only [encode, Json.sorted, Json.sortedElements_eq, List.map_map, decode]
    exact decodeElements_map fun value hValue =>
      h.decode_sorted value (hFits value hValue) (hOrdered value hValue)
  fits json values hRange hDecoded := by
    cases json with
    | array elements =>
        intro value hValue
        obtain ⟨element, hElement, hFound⟩ := exists_of_decodeElements hDecoded value hValue
        exact h.fits element value (Json.hereditary_inRange.element hRange element hElement) hFound
    | _ => cases hDecoded
  ordered json values hSorted hDecoded := by
    cases json with
    | array elements =>
        intro value hValue
        obtain ⟨element, hElement, hFound⟩ := exists_of_decodeElements hDecoded value hValue
        exact h.ordered element value (Json.hereditary_isSorted.element hSorted element hElement) hFound
    | _ => cases hDecoded
  absent := nofun

/-- An absent value is told from one that is written as null. -/
theorem option (hPresent : ∀ value : α, encode value ≠ .null) :
    Lawful (Option α) (fun found => ∀ value ∈ found, Fits value)
      fun found => ∀ value ∈ found, Ordered value where
  decode_encode found hFits := by
    cases found with
    | none => rfl
    | some value =>
        show decode (encode value) = .ok (some value)
        rw [decode_option_of_ne_null (hPresent value), h.decode_encode value (hFits value rfl)]
        rfl
  decode_sorted found hFits hOrdered := by
    cases found with
    | none => rfl
    | some value =>
        have hSorted : (encode value).sorted ≠ .null := by
          have hWritten := hPresent value
          cases hForm : encode value with
          | null => exact absurd hForm hWritten
          | _ => simp [Json.sorted]
        show decode (encode value).sorted = .ok (some value)
        rw [decode_option_of_ne_null hSorted,
          h.decode_sorted value (hFits value rfl) (hOrdered value rfl)]
        rfl
  fits json found hRange hDecoded := by
    rintro value rfl
    exact h.fits json value hRange (decode_of_decode_option hDecoded)
  ordered json found hSorted hDecoded := by
    rintro value rfl
    exact h.ordered json value hSorted (decode_of_decode_option hDecoded)
  absent found hAbsent := by
    cases hAbsent
    constructor <;> exact fun value hValue => absurd hValue (Option.not_mem_none value)

end Combined

end Lawful

end Wire

end RemoteTable
