import RemoteTable.Proofs.Wire.Members

/-! Frames of a server that knows more than this client. Members in another order and members of other
names do not change what a frame is taken for. -/

namespace RemoteTable.ReplyFrame

open Wire

/-- The names of the members that a reply frame is made of. -/
def memberNames : List String := ["requestId", Reply.tag, "result", "message"]

/-- The text is read as this value, and only blanks follow it. -/
def ReadsAs (text : String) (value : Json) : Prop :=
  ∃ rest, (shape ReplyFrame).read text.toList = .ok (value, rest) ∧ Json.readEnd rest = .ok ()

/-- A text is decoded as the value is that it is read as. -/
theorem decodeText_eq {text : String} {value : Json} (hReads : ReadsAs text value) :
    decodeText ReplyFrame text =
      (decode value : Except DecodeError ReplyFrame).mapError fun _ => .mismatch := by
  obtain ⟨rest, hRead, hEnd⟩ := hReads
  simp only [decodeText, hRead, bind, Except.bind]
  cases hDecoded : (decode value : Except DecodeError ReplyFrame) with
  | error err => rfl
  | ok frame =>
      dsimp only
      rw [hEnd]
      rfl

theorem decode_congr {members changed : List (String × Json)}
    (hSame : ∀ name ∈ memberNames,
      changed.filter (·.1 == name) = members.filter (·.1 == name)) :
    (decode (.object changed) : Except DecodeError ReplyFrame) = decode (.object members) := by
  have hContent : ∀ name ∈ ["result", "message"],
      changed.filter (·.1 == name) = members.filter (·.1 == name) := fun name hName =>
    hSame name (List.mem_cons_of_mem _ (List.mem_cons_of_mem _ hName))
  have hTag := hSame Reply.tag (by simp [memberNames])
  have hId := hSame "requestId" (by simp [memberNames])
  simp only [decode]
  rw [Reply.soleMember_congr hTag, Reply.soleMember_congr hId]
  simp only [Reply.ofMembers_congr _ hContent]

/-- Reply frames are accepted regardless of the order of their members and of members this client does
not know. If the members of an object without repeated names are put into any order and members of
other names are added anywhere, the object decodes as a frame exactly if it did before, and then as the
same one. So do any two texts that are read as these objects. -/
theorem decode_eq_of_perm (members extra changed : List (String × Json))
    (hNames : (changed.map Prod.fst).Nodup) (hPerm : changed.Perm (members ++ extra))
    (hExtra : ∀ name ∈ extra.map Prod.fst, name ∉ memberNames) :
    (decode (.object changed) : Except DecodeError ReplyFrame) = decode (.object members) ∧
      ∀ text changedText, ReadsAs text (.object members) → ReadsAs changedText (.object changed) →
        decodeText ReplyFrame changedText = decodeText ReplyFrame text := by
  have hSame : (decode (.object changed) : Except DecodeError ReplyFrame) =
      decode (.object members) := decode_congr fun name hName =>
    filter_name_eq_of_perm hNames hPerm fun hAdded => hExtra name hAdded hName
  refine ⟨hSame, fun text changedText hText hChanged => ?_⟩
  rw [decodeText_eq hText, decodeText_eq hChanged, hSame]

/-- The tag of a frame comes last, behind its content, a member nobody knows and the content of
another kind of reply. -/
theorem decode_eq_of_perm_of_late_tag :
    let members : List (String × Json) :=
      [("requestId", .int 7), ("type", .string "next"), ("result", .bool true), ("message", .null)]
    let extra : List (String × Json) := [("trace", .array [.int 1])]
    let changed : List (String × Json) := [("message", .null), ("trace", .array [.int 1]),
      ("result", .bool true), ("requestId", .int 7), ("type", .string "next")]
    let text := (Json.object members).text
    let changedText := (Json.object changed).text
    ((changed.map Prod.fst).Nodup ∧ changed.Perm (members ++ extra) ∧
      (∀ name ∈ extra.map Prod.fst, name ∉ memberNames) ∧
      ReadsAs text (.object members) ∧ ReadsAs changedText (.object changed)) ∧
    (decode (.object changed) : Except DecodeError ReplyFrame) = decode (.object members) ∧
      decodeText ReplyFrame changedText = decodeText ReplyFrame text := by
  intro members extra changed text changedText
  have hNames : (changed.map Prod.fst).Nodup := by decide
  have hPerm : changed.Perm (members ++ extra) := by decide
  have hExtra : ∀ name ∈ extra.map Prod.fst, name ∉ memberNames := by decide
  have hText : ReadsAs text (.object members) := ⟨[], by decide +kernel, by decide +kernel⟩
  have hChanged : ReadsAs changedText (.object changed) := ⟨[], by decide +kernel, by decide +kernel⟩
  obtain ⟨hSame, hTexts⟩ := decode_eq_of_perm members extra changed hNames hPerm hExtra
  exact ⟨⟨hNames, hPerm, hExtra, hText, hChanged⟩, hSame, hTexts text changedText hText hChanged⟩

end RemoteTable.ReplyFrame
