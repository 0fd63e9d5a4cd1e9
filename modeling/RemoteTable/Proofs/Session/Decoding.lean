import RemoteTable.Proofs.Wire.Record
import RemoteTable.Session.Observer

/-! What the observers of the program decode. Their values have types of their own, but become payloads.
Nothing else comes of that: a payload is decoded exactly when the value is that it is made of. -/

namespace RemoteTable

open Wire

namespace Streamed

/-- The fields of a value that comes with the fraction of the work done. -/
def fields (β : Type) [Wire β] : Record (Streamed β) (Streamed β) :=
  Record.of Streamed.mk |>.field "done" Streamed.done |>.field "data" Streamed.data

variable {α : Type} [Wire α] (make : α → Payload)

/-- The same fields, with a payload made of the value. -/
def payloadFields : Record (Streamed Payload) (Streamed Payload) :=
  @fields Payload (Payload.wire make)

/-- What has been found of the payload when this has been found of the value. -/
def foundPayload (slots : (fields α).Slots) : (payloadFields make).Slots :=
  (slots.1, Option.map make slots.2)

/-- A member goes to the same field, whatever the data is taken for. -/
theorem put_payload (key : String) (value : Json) (slots : (fields α).Slots) :
    (payloadFields make).put key value (foundPayload make slots) =
      ((fields α).put key value slots).map (foundPayload make) := by
  simp only [payloadFields, fields, Record.field, Record.fieldOr, Record.of, foundPayload]
  split_ifs
  · show ((decode value : Except DecodeError α).map make).map _ = _
    cases (decode value : Except DecodeError α) <;> rfl
  · cases (decode value : Except DecodeError Double) <;> rfl
  · rfl

/-- The same holds of all members of an object. -/
theorem putAll_payload (members : List (String × Json)) (slots : (fields α).Slots) :
    (payloadFields make).putAll members (foundPayload make slots) =
      ((fields α).putAll members slots).map (foundPayload make) := by
  induction members generalizing slots with
  | nil => rfl
  | cons member rest ih =>
      rw [Record.putAll_cons, Record.putAll_cons, put_payload]
      cases (fields α).put member.1 member.2 slots with
      | error err => rfl
      | ok found => exact ih found

/-- A value that may be left out gives a payload that may be left out. -/
theorem finish_payload (slots : (fields α).Slots) :
    (payloadFields make).finish (foundPayload make slots) =
      ((fields α).finish slots).map fun streamed => ⟨streamed.done, make streamed.data⟩ := by
  obtain ⟨⟨⟨⟩, done⟩, data⟩ := slots
  have hAbsent : (data.map make).or (@absent Payload (Payload.wire make)) =
      (data.or absent).map make := by
    cases data <;> rfl
  simp only [payloadFields, fields, Record.field, Record.fieldOr, Record.of, foundPayload]
  rw [hAbsent]
  cases done.or absent with
  | none => rfl
  | some done => cases data.or absent <;> rfl

/-- It holds of the elements of an array too, which fill the fields in order. -/
theorem take_payload (elements : List Json) :
    (payloadFields make).take elements = ((fields α).take elements).map (·.map fun found =>
      (⟨found.1.done, make found.1.data⟩, found.2)) := by
  cases elements with
  | nil => rfl
  | cons done others =>
      simp only [payloadFields, fields, Record.field, Record.fieldOr, Record.of]
      cases hDone : (decode done : Except DecodeError Double) with
      | error err => simp [hDone, bind, Except.bind, Except.map]
      | ok done =>
          cases others with
          | nil => simp [hDone, bind, Except.bind, Except.map, pure, Except.pure]
          | cons data rest =>
              have hMade : @decode Payload (Payload.wire make) data =
                  (decode data : Except DecodeError α).map make := rfl
              cases hData : (decode data : Except DecodeError α) <;>
                simp [hDone, hMade, hData, bind, Except.bind, Except.map, pure, Except.pure]

/-- A payload that comes with the fraction of the work done is decoded as the value is. -/
theorem decode_payload (value : Json) :
    (payloadFields make).decode "PartialResult" value =
      ((fields α).decode "PartialResult" value).map fun streamed =>
        ⟨streamed.done, make streamed.data⟩ := by
  cases value with
  | object members =>
      have hMembers : (payloadFields make).putAll members (payloadFields make).start = _ :=
        putAll_payload make members (fields α).start
      show ((payloadFields make).putAll members (payloadFields make).start).bind _ =
        (((fields α).putAll members (fields α).start).bind _).map _
      rw [hMembers]
      cases (fields α).putAll members (fields α).start with
      | error err => rfl
      | ok slots => exact finish_payload make slots
  | array elements =>
      simp only [Record.decode, take_payload]
      cases (fields α).take elements with
      | error err => rfl
      | ok found =>
          cases found with
          | none => rfl
          | some found =>
              obtain ⟨made, rest⟩ := found
              cases rest <;> rfl
  | _ => rfl

end Streamed

/-- An observer of the program decodes what any consumer of values of the type does, and makes payloads of
them. -/
theorem Expected.decode_payload {α : Type} [wire : Wire α] (make : α → Payload) (streamed : Bool)
    (noted : Observation → List Observation) (noted' : Told α → List Observation) (value : Json) :
    (Expected.mk streamed (Payload.wire make) noted).decode value =
      ((Expected.mk streamed wire noted').decode value).map fun part => (part.1, make part.2) := by
  cases streamed with
  | true =>
      show ((Streamed.payloadFields make).decode "PartialResult" value).map _ =
        (((Streamed.fields α).decode "PartialResult" value).map _).map _
      rw [Streamed.decode_payload]
      cases (Streamed.fields α).decode "PartialResult" value <;> rfl
  | false =>
      show ((Wire.decode value : Except DecodeError α).map make).map _ =
        ((Wire.decode value : Except DecodeError α).map _).map _
      cases (Wire.decode value : Except DecodeError α) <;> rfl

end RemoteTable
