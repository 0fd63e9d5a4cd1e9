import RemoteTable.Page.Basic
import RemoteTable.Proofs.Session.Replies

/-! The identifiers that the requests on the way to the first table bring. The set of files comes as a
bare identifier and the table as one with the fraction of the work done. Of the identifiers in front of
the end of a request the last one counts. -/

namespace RemoteTable

open Wire

/-- The identifier or null that a value is by itself. -/
def bareId? (result : Json) : Option (Option ObjectId) :=
  (decode result : Except DecodeError (Option ObjectId)).toOption

/-- The identifier or null that a value brings with the fraction of the work done. -/
def wrappedId? (result : Json) : Option (Option ObjectId) :=
  (decode result : Except DecodeError (Streamed (Option ObjectId))).toOption.map Streamed.data

/-- The identifier or null in a reply that is framed so; none if the reply ends its request. -/
def Reply.id? (framing : Json → Option (Option ObjectId)) : Reply → Option (Option ObjectId)
  | next result => framing result
  | error _ | completed | cancelled => none

section Outcome

variable (framing : Json → Option (Option ObjectId))

/-- No reply ends the request. -/
def allValues (replies : List Reply) : Bool := replies.all fun reply => (reply.id? framing).isSome

/-- The last identifier in front of the first reply that ends the request. -/
def lastIdentifier (replies : List Reply) : Option ObjectId :=
  (((replies.map (Reply.id? framing)).takeWhile Option.isSome).filterMap Option.join).getLast?

/-- What a request has come to: nothing before its end, and then the last identifier. -/
def outcome (replies : List Reply) : Option ObjectId :=
  if allValues framing replies then none else lastIdentifier framing replies

variable {framing} {reply : Reply} {rest : List Reply}

/-- A value gives way to a later one. -/
theorem lastIdentifier_cons_of_value {value : Option ObjectId} (hValue : reply.id? framing = some value) :
    lastIdentifier framing (reply :: rest) = (lastIdentifier framing rest).or value := by
  simp only [lastIdentifier, List.map_cons, hValue, Option.isSome_some, List.takeWhile_cons_of_pos]
  cases value with
  | none => simp
  | some id => simp [List.getLast?_cons, Option.or_some]

/-- Nothing counts behind the end. -/
theorem lastIdentifier_cons_of_end (hEnd : reply.id? framing = none) :
    lastIdentifier framing (reply :: rest) = none := by
  simp [lastIdentifier, hEnd]

theorem allValues_cons :
    allValues framing (reply :: rest) = ((reply.id? framing).isSome && allValues framing rest) := rfl

end Outcome

/-- How far the way to the first table has come, with what the running request has brought. -/
inductive Stage where
  | searching (found : Option ObjectId)
  | nothingFound
  | loading (files : ObjectId) (found : Option ObjectId)
  | nothingLoaded (files : ObjectId)
  | showing (files table : ObjectId)

namespace Stage

/-- The stage behind the end of the search for files. -/
def searched : Option ObjectId → Stage
  | none => nothingFound
  | some files => loading files none

/-- The stage behind the end of the loading of a table. -/
def loaded (files : ObjectId) : Option ObjectId → Stage
  | none => nothingLoaded files
  | some table => showing files table

/-- What a reply makes of a stage. Only replies to the running request matter. -/
def hear (stage : Stage) (frame : ReplyFrame) : Stage :=
  match stage with
  | searching found =>
    if frame.requestId = 1 then
      match frame.reply.id? bareId? with
      | some value => searching (value.or found)
      | none => searched found
    else searching found
  | loading files found =>
    if frame.requestId = 2 then
      match frame.reply.id? wrappedId? with
      | some value => loading files (value.or found)
      | none => loaded files found
    else loading files found
  | nothingFound | nothingLoaded _ | showing _ _ => stage

/-- The requests that have been issued. -/
def requests : Stage → List Request
  | searching _ | nothingFound => [⟨1, Page.rootId, "prepareFiles", .null⟩]
  | loading files _ | nothingLoaded files =>
    [⟨1, Page.rootId, "prepareFiles", .null⟩, ⟨2, files, "loadTable", .null⟩]
  | showing files table =>
    [⟨1, Page.rootId, "prepareFiles", .null⟩, ⟨2, files, "loadTable", .null⟩,
      ⟨3, table, "getSchema", .null⟩]

/-- The table that is shown. -/
def table : Stage → Option ObjectId
  | showing _ table => some table
  | searching _ | nothingFound | loading _ _ | nothingLoaded _ => none

/-- The frames from the end of the search on. -/
def behindSearch (frames : List ReplyFrame) : List ReplyFrame :=
  frames.dropWhile fun frame => frame.requestId != 1 || (frame.reply.id? bareId?).isSome

theorem foldl_hear_of_stays {stage : Stage} {frames : List ReplyFrame}
    (hStays : ∀ frame ∈ frames, stage.hear frame = stage) : frames.foldl hear stage = stage := by
  induction frames with
  | nil => rfl
  | cons frame rest ih =>
      obtain ⟨hFirst, hRest⟩ := List.forall_mem_cons.mp hStays
      rw [List.foldl_cons, hFirst, ih hRest]

/-- Behind the end of both requests, no reply matters. -/
theorem foldl_hear_loaded (files : ObjectId) (found : Option ObjectId) (frames : List ReplyFrame) :
    frames.foldl hear (loaded files found) = loaded files found := by
  cases found <;> exact foldl_hear_of_stays fun _ _ => rfl

/-- Only the replies to the second request matter for the table. -/
theorem foldl_hear_loading (files : ObjectId) (found : Option ObjectId) (frames : List ReplyFrame) :
    frames.foldl hear (loading files found) =
      let replies := repliesTo 2 frames
      if allValues wrappedId? replies then
        loading files ((lastIdentifier wrappedId? replies).or found)
      else loaded files ((lastIdentifier wrappedId? replies).or found) := by
  induction frames generalizing found with
  | nil => rfl
  | cons frame rest ih =>
      obtain ⟨id, reply⟩ := frame
      rw [List.foldl_cons]
      by_cases hOwn : id = 2
      · subst hOwn
        rw [repliesTo_cons_self]
        cases hReply : reply.id? wrappedId? with
        | none =>
            simp [hear, hReply, allValues_cons, lastIdentifier_cons_of_end hReply, foldl_hear_loaded]
        | some value =>
            simp [hear, hReply, ih, allValues_cons, lastIdentifier_cons_of_value hReply, Option.or_assoc]
      · rw [repliesTo_cons_of_ne hOwn]
        simp [hear, hOwn, ih]

/-- Replies to the first request matter for the search, and those from its end on for what follows. -/
theorem foldl_hear_searching (found : Option ObjectId) (frames : List ReplyFrame) :
    frames.foldl hear (searching found) =
      let replies := repliesTo 1 frames
      if allValues bareId? replies then
        searching ((lastIdentifier bareId? replies).or found)
      else (behindSearch frames).foldl hear
        (searched ((lastIdentifier bareId? replies).or found)) := by
  induction frames generalizing found with
  | nil => rfl
  | cons frame rest ih =>
      obtain ⟨id, reply⟩ := frame
      rw [List.foldl_cons]
      by_cases hOwn : id = 1
      · subst hOwn
        rw [repliesTo_cons_self]
        cases hReply : reply.id? bareId? with
        | none =>
            cases found <;>
              simp [hear, hReply, allValues_cons, lastIdentifier_cons_of_end hReply, behindSearch, searched]
        | some value =>
            simp [hear, hReply, ih, allValues_cons, lastIdentifier_cons_of_value hReply,
              Option.or_assoc, behindSearch]
      · rw [repliesTo_cons_of_ne hOwn]
        simp [hear, hOwn, ih, behindSearch]

/-- The stage that some replies lead to while a table is loaded. -/
theorem foldl_hear_loading_none (files : ObjectId) (frames : List ReplyFrame) :
    let stage := frames.foldl hear (loading files none)
    let table := outcome wrappedId? (repliesTo 2 frames)
    stage.table = table ∧
    stage.requests = ⟨1, Page.rootId, "prepareFiles", .null⟩ :: ⟨2, files, "loadTable", .null⟩ ::
      table.toList.map (⟨3, ·, "getSchema", .null⟩) := by
  simp only [foldl_hear_loading, Option.or_none, outcome]
  split
  · exact ⟨rfl, rfl⟩
  · cases lastIdentifier wrappedId? (repliesTo 2 frames) <;> exact ⟨rfl, rfl⟩

/-- The stage that some replies lead to. -/
theorem foldl_hear (frames : List ReplyFrame) :
    let stage := frames.foldl hear (searching none)
    let files := outcome bareId? (repliesTo 1 frames)
    let table := files.bind fun _ => outcome wrappedId? (repliesTo 2 (behindSearch frames))
    stage.table = table ∧
    stage.requests = ⟨1, Page.rootId, "prepareFiles", .null⟩ ::
      (files.toList.map (⟨2, ·, "loadTable", .null⟩) ++
        table.toList.map (⟨3, ·, "getSchema", .null⟩)) := by
  simp only [foldl_hear_searching, Option.or_none]
  split
  · rename_i hValues
    have hFiles : outcome bareId? (repliesTo 1 frames) = none := if_pos hValues
    rw [hFiles]
    exact ⟨rfl, rfl⟩
  · rename_i hEnded
    have hFiles : outcome bareId? (repliesTo 1 frames) =
        lastIdentifier bareId? (repliesTo 1 frames) := if_neg hEnded
    rw [hFiles]
    cases lastIdentifier bareId? (repliesTo 1 frames) with
    | none =>
        rw [searched, foldl_hear_of_stays fun _ _ => rfl]
        exact ⟨rfl, rfl⟩
    | some files => exact foldl_hear_loading_none files (behindSearch frames)

end Stage

end RemoteTable
