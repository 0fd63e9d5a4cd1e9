import RemoteTable.Proofs.Wire.Record
import RemoteTable.Table.SortOrder
import RemoteTable.Table.Snapshot

/-! Decoding undoes encoding for everything that is exchanged with a server. -/

namespace RemoteTable

open Wire
open Wire.Record (Sound)

/-- A kind is read from its own name. -/
theorem ColumnKind.ofName_name (kind : ColumnKind) : ofName kind.name = kind := by
  cases kind <;> rfl

namespace Reply

/-- The keys of what a reply brings are sorted. -/
def IsOrdered : Reply → Prop
  | next result => result.IsSorted
  | error _ | completed | cancelled => True

/-- A reply has no two members of a name. -/
theorem names_members (reply : Reply) : (reply.members.map Prod.fst).Nodup := by
  cases reply <;> simp [members, tag]

/-- Sorting changes no member of a reply in order. -/
theorem IsOrdered.members {reply : Reply} (h : reply.IsOrdered) :
    ∀ member ∈ reply.members, member.2.sorted = member.2 := by
  cases reply with
  | next result => simp [Reply.members, Json.sorted, Json.IsSorted.sorted_eq h]
  | error | completed | cancelled => simp [Reply.members, Json.sorted]

section Members

variable {reply : Reply} {members : List (String × Json)}
  (hMembers : ∀ member ∈ reply.members, members.filter (·.1 == member.1) = [member])

include hMembers

/-- Of all members, one is the tag. -/
theorem filter_tag : members.filter (·.1 == tag) = [(tag, .string reply.kind.name)] := by
  cases reply <;> exact hMembers _ List.mem_cons_self

/-- Wherever the members of a reply stand, each once, they are read as this reply. -/
theorem ofMembers_of_filter : ofMembers reply.kind members = .ok reply := by
  cases reply with
  | next result =>
      have hContent := hMembers ("result", result) (by simp [Reply.members])
      rw [kind, ofMembers, soleMember_of_filter hContent]
      rfl
  | error message =>
      have hContent := hMembers ("message", .string message) (by simp [Reply.members])
      rw [kind, ofMembers, soleMember_of_filter hContent]
      rfl
  | completed | cancelled => rfl

/-- Only the members with the names of the reply matter, wherever they stand. -/
theorem decode_of_filter : (decode (.object members) : Except DecodeError Reply) = .ok reply := by
  have hKind : Kind.decode (.string reply.kind.name) = .ok reply.kind := by
    cases reply <;> rfl
  simp only [decode, soleMember_of_filter (filter_tag hMembers), hKind, bind, Except.bind,
    ofMembers_of_filter hMembers]

/-- The same holds of a frame, whose members are those of the reply and the request. -/
theorem decode_frame_of_filter {requestId : Nat} (hId : requestId < 2 ^ 64)
    (hOwn : members.filter (·.1 == "requestId") = [("requestId", encode requestId)]) :
    (decode (.object members) : Except DecodeError ReplyFrame) = .ok ⟨requestId, reply⟩ := by
  have hKind : Kind.decodeIndexed (.string reply.kind.name) = .ok reply.kind := by
    cases reply <;> rfl
  have hNumber : decodeUnsigned 64 "u64" (encode requestId) = .ok requestId :=
    decodeUnsigned_int hId "u64"
  simp only [decode, soleMember_of_filter (filter_tag hMembers), soleMember_of_filter hOwn, hKind,
    hNumber, bind, Except.bind, ofMembers_of_filter hMembers, pure, Except.pure]

end Members

/-- A reply brings what stands among its members. -/
theorem isOrdered_of_ofMembers {kind : Kind} {members : List (String × Json)} {reply : Reply}
    (hSorted : ∀ member ∈ members, member.2.IsSorted) (h : ofMembers kind members = .ok reply) :
    reply.IsOrdered := by
  cases kind with
  | next =>
      obtain ⟨result, hFound, rfl⟩ := exists_of_map_eq_ok h
      obtain ⟨value, hMember, hValue⟩ := mem_of_soleMember hFound
      cases hValue
      exact hSorted _ hMember
  | error =>
      obtain ⟨message, -, rfl⟩ := exists_of_map_eq_ok h
      trivial
  | completed | cancelled =>
      cases h
      trivial

/-- Sorted elements make a reply in order. -/
theorem isOrdered_of_ofElements {kind : Kind} {elements : List Json} {reply : Reply}
    (hSorted : ∀ element ∈ elements, element.IsSorted) (h : ofElements kind elements = .ok reply) :
    reply.IsOrdered := by
  cases kind with
  | next =>
      match elements, h with
      | [result], h =>
          cases h
          exact hSorted _ (List.mem_singleton_self _)
  | error =>
      obtain ⟨message, -, rfl⟩ := exists_of_map_eq_ok h
      trivial
  | completed | cancelled =>
      simp only [ofElements] at h
      split at h
      · cases h
        trivial
      · cases h

end Reply

theorem ReplyFrame.names_members (frame : ReplyFrame) :
    ((("requestId", encode frame.requestId) :: frame.reply.members).map Prod.fst).Nodup := by
  rw [List.map_cons, List.nodup_cons]
  refine ⟨?_, frame.reply.names_members⟩
  cases frame.reply <;> simp [Reply.members, Reply.tag]

namespace Wire.Lawful

/-- Words of 64 bits are decoded as they were encoded. -/
theorem nat : Lawful Nat (· < 2 ^ 64) fun _ => True where
  decode_encode _ hFits := decodeUnsigned_int hFits "u64"
  decode_sorted _ hFits _ := decodeUnsigned_int hFits "u64"
  fits _ _ _ hDecoded := lt_of_decodeUnsigned hDecoded
  ordered _ _ _ _ := trivial
  absent := nofun

theorem objectId : Lawful ObjectId (fun _ => True) fun _ => True :=
  string.wrapped ObjectId.mk ObjectId.text (fun _ => rfl) (fun _ => rfl) (fun _ => rfl) (fun _ => rfl) rfl

/-- Each kind is written by its name. -/
theorem columnKind : Lawful ColumnKind (fun _ => True) fun _ => True where
  decode_encode kind _ := congrArg Except.ok kind.ofName_name
  decode_sorted kind _ _ := congrArg Except.ok kind.ofName_name
  fits _ _ _ _ := trivial
  ordered _ _ _ _ := trivial
  absent := nofun

theorem column : Lawful Column (fun _ => True) fun _ => True :=
  Sound.of (by simp) (by simp)
    |>.field columnKind (by simp) (by simp)
    |>.field string (by simp) (by simp)
    |>.field bool (by simp) (by simp)
    |>.lawful (fun _ => rfl) (by simp) "ColumnDescription"

theorem schema : Lawful Schema (fun _ => True) fun _ => True :=
  (column.list.wrapped Schema.mk Schema.columns (fun _ => rfl) (fun _ => rfl) (fun _ => rfl)
    (fun _ => rfl) rfl).congr (by simp) (by simp)

theorem sortKey : Lawful SortKey (fun _ => True) fun _ => True :=
  Sound.of (by simp) (by simp)
    |>.field column (by simp) (by simp)
    |>.field bool (by simp) (by simp)
    |>.lawful (fun _ => rfl) (by simp) "ColumnSortOrientation"

theorem sortOrder : Lawful SortOrder (fun _ => True) fun _ => True :=
  Sound.of (by simp) (by simp)
    |>.field sortKey.list (by simp) (by simp)
    |>.lawful (fun _ => rfl) (by simp) "RecordOrder"

theorem row : Lawful Row (fun _ => True) fun row => ∀ value ∈ row.values, value.IsSorted :=
  Sound.of (by simp) (by simp)
    |>.field uint64 (by simp) (by simp)
    |>.field json.list (by simp) (by simp)
    |>.lawful (fun _ => rfl) (by simp) "RowView"

theorem snapshot : Lawful Snapshot (fun _ => True) fun snapshot =>
    ∀ rows ∈ snapshot.rows, ∀ row ∈ rows, ∀ value ∈ row.values, value.IsSorted :=
  Sound.of (by simp) (by simp)
    |>.field (schema.option nofun) (by simp) (by simp)
    |>.field uint64 (by simp) (by simp)
    |>.field (uint64.option nofun) (by simp) (by simp)
    |>.field (row.list.option nofun) (by simp) (by simp)
    |>.lawful (fun _ => rfl) (by simp) "TableDataView"

/-- Statistics with finite bounds. Others are written as null. -/
theorem columnStatistics : Lawful ColumnStatistics
    (fun statistics => statistics.min.isFinite = true ∧ statistics.max.isFinite = true)
    fun _ => True :=
  Sound.of (fun _ _ _ hMin _ hMax _ _ _ _ => ⟨hMin, hMax⟩) (by simp)
    |>.optional uint32 (by simp) (by simp) (by simp)
    |>.optional double (fun _ hBounds => hBounds.1) (by simp) (by decide)
    |>.optional double (fun _ hBounds => hBounds.2) (by simp) (by decide)
    |>.optional uint64 (by simp) (by simp) (by simp)
    |>.optional uint64 (by simp) (by simp) (by simp)
    |>.lawful (fun _ => rfl) (by simp) "BasicColStats"

/-- Arguments are any value, so they return in order only if they are sorted. -/
theorem request : Lawful Request (fun request => request.requestId < 2 ^ 64)
    fun request => request.arguments.IsSorted :=
  Sound.of (fun _ hId _ _ _ _ _ _ => hId) (by simp)
    |>.field nat (by simp) (by simp)
    |>.field objectId (by simp) (by simp)
    |>.field string (by simp) (by simp)
    |>.field json (by simp) (by simp)
    |>.lawful (fun _ => rfl) (by simp) "RequestFrame"

/-- A value with the fraction of the work done, which has to be finite. -/
theorem streamed {α : Type} [Wire α] {Fits Ordered : α → Prop} (h : Lawful α Fits Ordered) :
    Lawful (Streamed α) (fun value => value.done.isFinite = true ∧ Fits value.data)
      fun value => Ordered value.data :=
  Sound.of (fun _ hDone _ hData => ⟨hDone, hData⟩) (by simp)
    |>.field double (fun _ hFits => hFits.1) (by simp)
    |>.field h (fun _ hFits => hFits.2) (by simp)
    |>.lawful (fun _ => rfl) (by simp) "PartialResult"

/-- Replies are objects with a tag among their members. -/
theorem reply : Lawful Reply (fun _ => True) Reply.IsOrdered where
  decode_encode reply _ := Reply.decode_of_filter fun _ hMember =>
    filter_name_of_mem reply.names_members hMember
  decode_sorted reply _ hOrdered := Reply.decode_of_filter fun member hMember => by
    rw [filter_name_sorted reply.names_members hMember, hOrdered.members member hMember]
  fits _ _ _ _ := trivial
  ordered json reply hSorted hDecoded := by
    match json, hSorted, hDecoded with
    | .object members, hSorted, hDecoded =>
        obtain ⟨kind, -, hReply⟩ := exists_of_bind_eq_ok hDecoded
        exact Reply.isOrdered_of_ofMembers (Json.hereditary_isSorted.member hSorted) hReply
    | .array (first :: others), hSorted, hDecoded =>
        obtain ⟨kind, -, hReply⟩ := exists_of_bind_eq_ok hDecoded
        have hElements := Json.hereditary_isSorted.element hSorted
        exact Reply.isOrdered_of_ofElements (List.forall_mem_cons.mp hElements).2 hReply
  absent := nofun

/-- The parts of a reply frame that has been decoded. -/
theorem exists_of_decode_replyFrame {json : Json} {frame : ReplyFrame}
    (h : decode json = .ok frame) :
    ∃ members kind, json = .object members ∧
      Reply.soleMember decode "requestId" members = .ok frame.requestId ∧
      Reply.ofMembers kind members = .ok frame.reply := by
  match json, h with
  | .object members, h =>
      obtain ⟨requestId, hId, h⟩ := exists_of_bind_eq_ok h
      obtain ⟨kind, -, h⟩ := exists_of_bind_eq_ok h
      obtain ⟨reply, hReply, h⟩ := exists_of_bind_eq_ok h
      cases h
      exact ⟨members, kind, rfl, hId, hReply⟩

/-- Frames are flat: the members of the reply stand beside the number of the request. -/
theorem replyFrame : Lawful ReplyFrame (fun frame => frame.requestId < 2 ^ 64)
    fun frame => frame.reply.IsOrdered where
  decode_encode frame hId := by
    have hNames := frame.names_members
    refine Reply.decode_frame_of_filter (fun member hMember => ?_) hId ?_
    · exact filter_name_of_mem hNames (List.mem_cons_of_mem _ hMember)
    · exact filter_name_of_mem hNames List.mem_cons_self
  decode_sorted frame hId hOrdered := by
    have hNames := frame.names_members
    refine Reply.decode_frame_of_filter (fun member hMember => ?_) hId ?_
    · rw [filter_name_sorted hNames (List.mem_cons_of_mem _ hMember),
        hOrdered.members member hMember]
    · exact filter_name_sorted hNames List.mem_cons_self
  fits json frame _ hDecoded := by
    obtain ⟨members, kind, -, hId, -⟩ := exists_of_decode_replyFrame hDecoded
    obtain ⟨value, -, hValue⟩ := Reply.mem_of_soleMember hId
    exact lt_of_decodeUnsigned hValue
  ordered json frame hSorted hDecoded := by
    obtain ⟨members, kind, rfl, -, hReply⟩ := exists_of_decode_replyFrame hDecoded
    exact Reply.isOrdered_of_ofMembers (Json.hereditary_isSorted.member hSorted) hReply
  absent := nofun

end Wire.Lawful

namespace Wire

/-- Decoding undoes encoding for everything that is exchanged with a server. The numbers of requests
have to fit into 64 bits, and binary64 numbers have to be finite; nothing else is asked of what is
encoded as it stands. When keys are sorted on the way, those inside values of unknown structure have to
be sorted already. Decoding and encoding again changes nothing after the first time. -/
theorem exchanged_roundTrips :
    RoundTrips ColumnKind (fun _ => True) (fun _ => True) ∧
    RoundTrips Column (fun _ => True) (fun _ => True) ∧
    RoundTrips Schema (fun _ => True) (fun _ => True) ∧
    RoundTrips SortKey (fun _ => True) (fun _ => True) ∧
    RoundTrips SortOrder (fun _ => True) (fun _ => True) ∧
    RoundTrips Row (fun _ => True) (fun row => ∀ value ∈ row.values, value.IsSorted) ∧
    RoundTrips Snapshot (fun _ => True) (fun snapshot =>
      ∀ rows ∈ snapshot.rows, ∀ row ∈ rows, ∀ value ∈ row.values, value.IsSorted) ∧
    RoundTrips ColumnStatistics
      (fun statistics => statistics.min.isFinite = true ∧ statistics.max.isFinite = true)
      (fun _ => True) ∧
    RoundTrips Request (fun request => request.requestId < 2 ^ 64)
      (fun request => request.arguments.IsSorted) ∧
    RoundTrips Reply (fun _ => True) Reply.IsOrdered ∧
    RoundTrips ReplyFrame (fun frame => frame.requestId < 2 ^ 64) (fun frame =>
      frame.reply.IsOrdered) ∧
    RoundTrips (Option ObjectId) (fun _ => True) (fun _ => True) ∧
    RoundTrips (Streamed Snapshot) (fun value => value.done.isFinite = true) (fun value =>
      ∀ rows ∈ value.data.rows, ∀ row ∈ rows, ∀ cell ∈ row.values, cell.IsSorted) ∧
    RoundTrips (Streamed ColumnStatistics) (fun value => value.done.isFinite = true ∧
      value.data.min.isFinite = true ∧ value.data.max.isFinite = true) (fun _ => True) ∧
    RoundTrips (Streamed (Option ObjectId)) (fun value => value.done.isFinite = true)
      (fun _ => True) := by
  have hFound : Lawful (Option ObjectId) (fun _ => True) fun _ => True :=
    (Lawful.objectId.option nofun).congr (by simp) (by simp)
  have hWindow : Lawful (Streamed Snapshot) (fun value => value.done.isFinite = true) fun value =>
      ∀ rows ∈ value.data.rows, ∀ row ∈ rows, ∀ cell ∈ row.values, cell.IsSorted :=
    (Lawful.streamed .snapshot).congr (by simp) fun _ => Iff.rfl
  have hStreamedFound : Lawful (Streamed (Option ObjectId)) (fun value => value.done.isFinite = true)
      fun _ => True :=
    (Lawful.streamed hFound).congr (by simp) (by simp)
  exact ⟨Lawful.columnKind.roundTrips, Lawful.column.roundTrips, Lawful.schema.roundTrips,
    Lawful.sortKey.roundTrips, Lawful.sortOrder.roundTrips, Lawful.row.roundTrips,
    Lawful.snapshot.roundTrips, Lawful.columnStatistics.roundTrips, Lawful.request.roundTrips,
    Lawful.reply.roundTrips, Lawful.replyFrame.roundTrips, hFound.roundTrips, hWindow.roundTrips,
    (Lawful.streamed .columnStatistics).roundTrips, hStreamedFound.roundTrips⟩

/-- Statistics of a column, and a reply with values inside each other. -/
theorem exchanged_roundTrips_of_nested_reply :
    let statistics : ColumnStatistics := ⟨3, Double.ofInt (-2), Double.ofNat 5, 7, 18446744073709551615⟩
    let frame : ReplyFrame := ⟨4, .next (.object [("a", .array [.int (-1), .null, .object []]),
      ("b", .object [("c", .float (Double.ofNat 1)), ("d", .string "e")])])⟩
    (statistics.min.isFinite = true ∧ statistics.max.isFinite = true) ∧
      (decode (encode statistics) : Except DecodeError ColumnStatistics) = .ok statistics ∧
      frame.requestId < 2 ^ 64 ∧
      (decode (encode frame) : Except DecodeError ReplyFrame) = .ok frame := by
  intro statistics frame
  have hFinite : statistics.min.isFinite = true ∧ statistics.max.isFinite = true := by
    decide +kernel
  have hId : frame.requestId < 2 ^ 64 := by decide
  obtain ⟨-, -, -, -, -, -, -, hStatistics, -, -, hFrame, -⟩ := exchanged_roundTrips
  exact ⟨hFinite, hStatistics.undone statistics hFinite, hId, hFrame.undone frame hId⟩

end Wire

end RemoteTable
