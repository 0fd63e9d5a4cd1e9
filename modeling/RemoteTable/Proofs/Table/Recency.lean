import Mathlib.Data.List.Induction
import RemoteTable.Proofs.Session.Pending
import RemoteTable.Proofs.Table.Placement

/-! The order after any sequence of edits, told from the edits alone. Names that were promoted last come
first, the latest of them in front. Behind them stand the names that were appended, the earliest of them
in front. -/

namespace RemoteTable.SortOrder

/-- What is done to an order. -/
inductive Edit where
  | promote (key : SortKey)
  | append (key : SortKey)
  | hide (name : String)
deriving DecidableEq

namespace Edit

/-- Behind the edit there is a key of this name, whatever the order was before. -/
def offers : Edit → String → Bool
  | promote key, name | append key, name => key.name == name
  | hide _, _ => false

/-- The edit takes the key of this name from its place, if there is one. -/
def displaces : Edit → String → Bool
  | promote key, name => key.name == name
  | append _, _ => false
  | hide hidden, name => hidden == name

end Edit

/-- What an edit makes of an order. -/
def edit (order : SortOrder) : Edit → SortOrder
  | .promote key => order.promote key
  | .append key => order.appendIfAbsent key
  | .hide name => order.hide name

/-- The order after some edits, one after the other. -/
def edited (order : SortOrder) (edits : List Edit) : SortOrder := edits.foldl edit order

theorem edited_concat (order : SortOrder) (edits : List Edit) (last : Edit) :
    order.edited (edits ++ [last]) = (order.edited edits).edit last :=
  List.foldl_append

section History

/-- An edit of this kind has happened behind some others, and since then only such edits as these. -/
def Since (edits : List Edit) (happened : List Edit → Edit → Prop) (only : Edit → Prop) : Prop :=
  ∃ before edit after, edits = before ++ edit :: after ∧ happened before edit ∧
    ∀ later ∈ after, only later

variable {edits : List Edit} {happened wider : List Edit → Edit → Prop} {only weaker : Edit → Prop}

theorem not_since_nil : ¬ Since [] happened only := by
  rintro ⟨before, edit, after, hSplit, -⟩
  exact List.append_ne_nil_of_right_ne_nil before (List.cons_ne_nil edit after) hSplit.symm

/-- The last edit is the one that counts, or it only lets the earlier one count on. -/
theorem since_concat {last : Edit} :
    Since (edits ++ [last]) happened only ↔
      happened edits last ∨ Since edits happened only ∧ only last := by
  constructor
  · rintro ⟨before, edit, after, hSplit, hHappened, hOnly⟩
    rcases List.eq_nil_or_concat after with rfl | ⟨front, final, rfl⟩
    · obtain ⟨rfl, hSame⟩ := List.append_inj' hSplit rfl
      cases hSame
      exact Or.inl hHappened
    · rw [List.concat_eq_append, ← List.cons_append, ← List.append_assoc] at hSplit
      obtain ⟨rfl, hSame⟩ := List.append_inj' hSplit rfl
      cases hSame
      rw [List.concat_eq_append, List.forall_mem_append, List.forall_mem_singleton] at hOnly
      exact Or.inr ⟨⟨before, edit, front, rfl, hHappened, hOnly.1⟩, hOnly.2⟩
  · rintro (hHappened | ⟨⟨before, edit, after, rfl, hHappened, hOnly⟩, hLast⟩)
    · exact ⟨edits, last, [], rfl, hHappened, fun _ hLater => absurd hLater List.not_mem_nil⟩
    · refine ⟨before, edit, after ++ [last], by simp, hHappened, ?_⟩
      rw [List.forall_mem_append, List.forall_mem_singleton]
      exact ⟨hOnly, hLast⟩

theorem Since.mono (h : Since edits happened only)
    (hHappened : ∀ before edit, happened before edit → wider before edit)
    (hOnly : ∀ later, only later → weaker later) : Since edits wider weaker := by
  obtain ⟨before, edit, after, hSplit, hOwn, hAfter⟩ := h
  exact ⟨before, edit, after, hSplit, hHappened before edit hOwn,
    fun later hLater => hOnly later (hAfter later hLater)⟩

/-- The name has been offered and not been hidden since. Whether it was there already when it was
appended does not matter for that. -/
def Present (edits : List Edit) (name : String) : Prop :=
  Since edits (fun _ edit => edit.offers name = true) (· ≠ .hide name)

/-- The edit puts the key into the order: it is promoted, or it is appended and its name was absent. -/
def Places (before : List Edit) (edit : Edit) (key : SortKey) : Prop :=
  edit = .promote key ∨ edit = .append key ∧ ¬ Present before key.name

/-- The edit at this time has promoted the key, and its name has kept its place since. -/
def Promoted (edits : List Edit) (time : Nat) (key : SortKey) : Prop :=
  Since edits (fun before edit => before.length = time ∧ edit = .promote key)
    (·.displaces key.name = false)

/-- The edit at this time has appended the key, whose name was absent, and its name has kept its place
since. -/
def Appended (edits : List Edit) (time : Nat) (key : SortKey) : Prop :=
  Since edits
    (fun before edit => before.length = time ∧ edit = .append key ∧ ¬ Present before key.name)
    (·.displaces key.name = false)

/-- The time of an edit is its place in the history. -/
theorem lt_length_of_since {time : Nat} (h : Since edits happened only)
    (hTime : ∀ before edit, happened before edit → before.length = time) : time < edits.length := by
  obtain ⟨before, edit, after, rfl, hOwn, -⟩ := h
  rw [← hTime before edit hOwn, List.length_append, List.length_cons]
  omega

theorem Promoted.lt_length {time : Nat} {key : SortKey} (h : Promoted edits time key) :
    time < edits.length :=
  lt_length_of_since h fun _ _ hOwn => hOwn.1

theorem Appended.lt_length {time : Nat} {key : SortKey} (h : Appended edits time key) :
    time < edits.length :=
  lt_length_of_since h fun _ _ hOwn => hOwn.1

end History

section Names

variable {order : SortOrder}

theorem isVisible_iff_mem {name : String} :
    order.isVisible name = true ↔ name ∈ order.keys.map SortKey.name := by
  rw [isVisible_iff, List.mem_map]

/-- A name that is present keeps its key and its place. -/
theorem appendIfAbsent_of_visible {key : SortKey} (h : order.isVisible key.name = true) :
    order.appendIfAbsent key = order := by
  rw [isVisible, Option.isSome_iff_ne_none, ne_eq, ← Option.isNone_iff_eq_none] at h
  rw [appendIfAbsent, if_neg h]

theorem keys_appendIfAbsent {key : SortKey} (h : ¬ order.isVisible key.name = true) :
    (order.appendIfAbsent key).keys = order.keys ++ [key] := by
  rw [isVisible, Option.not_isSome_iff_eq_none, ← Option.isNone_iff_eq_none] at h
  rw [appendIfAbsent, if_pos h]

/-- An appended name is present in any case. -/
theorem isVisible_appendIfAbsent (key : SortKey) (name : String) :
    (order.appendIfAbsent key).isVisible name = true ↔
      order.isVisible name = true ∨ key.name = name := by
  by_cases hVisible : order.isVisible key.name = true
  · rw [appendIfAbsent_of_visible hVisible, or_iff_left_of_imp]
    rintro rfl
    exact hVisible
  · rw [isVisible_iff_mem, isVisible_iff_mem, keys_appendIfAbsent hVisible, List.map_append,
      List.mem_append, List.map_singleton, List.mem_singleton, eq_comm]

/-- Appending repeats no name. -/
theorem names_appendIfAbsent (hNames : (order.keys.map SortKey.name).Nodup) (key : SortKey) :
    ((order.appendIfAbsent key).keys.map SortKey.name).Nodup := by
  by_cases hVisible : order.isVisible key.name = true
  · rw [appendIfAbsent_of_visible hVisible]
    exact hNames
  · rw [keys_appendIfAbsent hVisible, List.map_append]
    rw [isVisible_iff_mem] at hVisible
    exact hNames.append (List.nodup_singleton _) (List.disjoint_singleton.mpr hVisible)

variable (hNames : (order.keys.map SortKey.name).Nodup)

include hNames

/-- Hiding takes all keys of the name, since there is one at most. -/
theorem keys_hide (name : String) :
    (order.hide name).keys = order.keys.filter (·.name != name) :=
  eraseP_key_eq_filter hNames name

theorem isVisible_hide (hidden name : String) :
    (order.hide hidden).isVisible name = true ↔ order.isVisible name = true ∧ hidden ≠ name := by
  rw [isVisible_iff, isVisible_iff, keys_hide hNames]
  constructor
  · rintro ⟨key, hKey, rfl⟩
    obtain ⟨hOld, hOther⟩ := List.mem_filter.mp hKey
    exact ⟨⟨key, hOld, rfl⟩, (bne_iff_ne.mp hOther).symm⟩
  · rintro ⟨⟨key, hOld, rfl⟩, hOther⟩
    exact ⟨key, List.mem_filter.mpr ⟨hOld, bne_iff_ne.mpr hOther.symm⟩, rfl⟩

/-- The promoted key comes first, and others of its name go. -/
theorem keys_promote (key : SortKey) :
    (order.promote key).keys = key :: order.keys.filter (·.name != key.name) := by
  rw [← keys_hide hNames]
  rfl

theorem isVisible_promote (key : SortKey) (name : String) :
    (order.promote key).isVisible name = true ↔
      key.name = name ∨ order.isVisible name = true := by
  have hRest := isVisible_hide hNames key.name name
  rw [isVisible_iff_mem] at hRest ⊢
  rw [promote, List.map_cons, List.mem_cons, hRest, eq_comm]
  tauto

theorem names_hide (name : String) : ((order.hide name).keys.map SortKey.name).Nodup :=
  nodup_eraseP hNames name

/-- The key that is promoted has been taken out before, so its name does not come twice. -/
theorem names_promote (key : SortKey) : ((order.promote key).keys.map SortKey.name).Nodup := by
  rw [promote, List.map_cons, List.nodup_cons]
  refine ⟨fun hName => ?_, names_hide hNames key.name⟩
  rw [← isVisible_iff_mem, isVisible_hide hNames] at hName
  exact hName.2 rfl

/-- No edit makes a name stand twice. -/
theorem names_edit (edit : Edit) : ((order.edit edit).keys.map SortKey.name).Nodup := by
  cases edit with
  | promote key => exact names_promote hNames key
  | append key => exact names_appendIfAbsent hNames key
  | hide name => exact names_hide hNames name

end Names

/-- Names are never repeated. -/
theorem names_edited (edits : List Edit) :
    ((empty.edited edits).keys.map SortKey.name).Nodup := by
  induction edits using List.reverseRecOn with
  | nil => exact List.nodup_nil
  | append_singleton edits last ih =>
      rw [edited_concat]
      exact names_edit ih last

/-- A name is present exactly if it has been offered and not been hidden since. -/
theorem isVisible_edited (edits : List Edit) (name : String) :
    (empty.edited edits).isVisible name = true ↔ Present edits name := by
  induction edits using List.reverseRecOn with
  | nil => exact iff_of_false Bool.false_ne_true not_since_nil
  | append_singleton edits last ih =>
      have hNames := names_edited edits
      rw [edited_concat, Present, since_concat, ← Present, ← ih]
      cases last with
      | promote key => simp [edit, isVisible_promote hNames, Edit.offers]
      | append key => simp [edit, isVisible_appendIfAbsent, Edit.offers, or_comm]
      | hide hidden => simp [edit, isVisible_hide hNames, Edit.offers]

/-- The keys of the order, with the times at which they were placed: those that were promoted, and
behind them those that were appended. -/
structure Recalls (order : SortOrder) (edits : List Edit) (front back : List (Nat × SortKey)) :
    Prop where
  keys : order.keys = (front ++ back).map Prod.snd
  promoted : ∀ time key, (time, key) ∈ front ↔ Promoted edits time key
  appended : ∀ time key, (time, key) ∈ back ↔ Appended edits time key
  latest : front.Pairwise fun first second => second.1 < first.1
  earliest : back.Pairwise fun first second => first.1 < second.1

/-- The entries of other names than this one. -/
def others (name : String) (entries : List (Nat × SortKey)) : List (Nat × SortKey) :=
  entries.filter (·.2.name != name)

theorem mem_others {name : String} {entries : List (Nat × SortKey)} {time : Nat} {key : SortKey} :
    (time, key) ∈ others name entries ↔ (time, key) ∈ entries ∧ (name == key.name) = false := by
  rw [others, List.mem_filter, bne_iff_ne, beq_eq_false_iff_ne, ne_comm]

namespace Recalls

variable {order : SortOrder} {edits : List Edit} {front back : List (Nat × SortKey)}
  (h : order.Recalls edits front back)

include h

/-- What is left when a name goes is the rest of both parts. -/
theorem keys_others (name : String) :
    order.keys.filter (·.name != name) = (others name front ++ others name back).map Prod.snd := by
  rw [h.keys, others, others, ← List.filter_append, List.filter_map]
  rfl

/-- The name is taken from its place, and the other ones keep theirs. -/
theorem hide (hNames : (order.keys.map SortKey.name).Nodup) (name : String) :
    (order.hide name).Recalls (edits ++ [.hide name]) (others name front) (others name back) where
  keys := (keys_hide hNames name).trans (h.keys_others name)
  promoted time key := by
    rw [mem_others, h.promoted, Promoted, Promoted, since_concat]
    simp [Edit.displaces]
  appended time key := by
    rw [mem_others, h.appended, Appended, Appended, since_concat]
    simp [Edit.displaces]
  latest := h.latest.filter _
  earliest := h.earliest.filter _

/-- A promoted key is put in front of the recalled ones, at its own time. -/
theorem promote (hNames : (order.keys.map SortKey.name).Nodup) (key : SortKey) :
    (order.promote key).Recalls (edits ++ [.promote key])
      ((edits.length, key) :: others key.name front) (others key.name back) where
  keys := by rw [keys_promote hNames, h.keys_others]; rfl
  promoted time other := by
    rw [List.mem_cons, mem_others, h.promoted, Promoted, Promoted, since_concat, Prod.mk.injEq,
      Edit.promote.injEq]
    simp only [Edit.displaces, eq_comm]
  appended time other := by
    rw [mem_others, h.appended, Appended, Appended, since_concat]
    simp [Edit.displaces]
  latest := by
    refine List.pairwise_cons.mpr ⟨fun entry hEntry => ?_, h.latest.filter _⟩
    obtain ⟨hOld, -⟩ := mem_others.mp hEntry
    exact ((h.promoted _ _).mp hOld).lt_length
  earliest := h.earliest.filter _

/-- Nothing has happened to the key of a name that is present. -/
theorem append_of_present {key : SortKey} (hPresent : Present edits key.name) :
    order.Recalls (edits ++ [.append key]) front back where
  keys := h.keys
  promoted time other := by
    rw [h.promoted, Promoted, Promoted, since_concat]
    simp [Edit.displaces]
  appended time other := by
    rw [h.appended, Appended, Appended, since_concat]
    simp only [Edit.displaces, and_true]
    refine (or_iff_right ?_).symm
    rintro ⟨-, hSame, hAbsent⟩
    cases hSame
    exact hAbsent hPresent
  latest := h.latest
  earliest := h.earliest

/-- A new key is put behind all others, at its own time. -/
theorem append_of_absent {key : SortKey} (hAbsent : ¬ Present edits key.name)
    (hVisible : ¬ order.isVisible key.name = true) :
    (order.appendIfAbsent key).Recalls (edits ++ [.append key]) front
      (back ++ [(edits.length, key)]) where
  keys := by simp [keys_appendIfAbsent hVisible, h.keys]
  promoted time other := by
    rw [h.promoted, Promoted, Promoted, since_concat]
    simp [Edit.displaces]
  appended time other := by
    rw [List.mem_append, List.mem_singleton, h.appended, Appended, Appended, since_concat]
    simp only [Edit.displaces, and_true, Prod.mk.injEq, Edit.append.injEq]
    rw [or_comm]
    refine or_congr ⟨?_, ?_⟩ Iff.rfl
    · rintro ⟨rfl, rfl⟩
      exact ⟨rfl, rfl, hAbsent⟩
    · rintro ⟨rfl, rfl, -⟩
      exact ⟨rfl, rfl⟩
  latest := h.latest
  earliest := by
    refine List.pairwise_append.mpr ⟨h.earliest, List.pairwise_singleton _ _, ?_⟩
    rintro entry hEntry other hOther
    obtain rfl := List.mem_singleton.mp hOther
    exact ((h.appended _ _).mp hEntry).lt_length

end Recalls

/-- Every order that edits lead to is recalled from their history. The induction is on the history,
one case for each kind of edit. -/
theorem exists_recalls (edits : List Edit) :
    ∃ front back, (empty.edited edits).Recalls edits front back := by
  induction edits using List.reverseRecOn with
  | nil =>
      refine ⟨[], [], rfl, fun time key => ?_, fun time key => ?_, .nil, .nil⟩
      all_goals exact iff_of_false List.not_mem_nil not_since_nil
  | append_singleton edits last ih =>
      obtain ⟨front, back, h⟩ := ih
      have hNames := names_edited edits
      rw [edited_concat]
      cases last with
      | promote key => exact ⟨_, _, h.promote hNames key⟩
      | hide name => exact ⟨_, _, h.hide hNames name⟩
      | append key =>
          have hVisible := isVisible_edited edits key.name
          by_cases hPresent : Present edits key.name
          · rw [edit, appendIfAbsent_of_visible (hVisible.mpr hPresent)]
            exact ⟨front, back, h.append_of_present hPresent⟩
          · exact ⟨_, _, h.append_of_absent hPresent fun hShown => hPresent (hVisible.mp hShown)⟩

/-- Every query about this name answers with this place of the order and the key that stands there. -/
structure Finds (order : SortOrder) (name : String) (place : Nat) (key : SortKey) : Prop where
  index : order.indexOf? name = some place
  visible : order.isVisible name = true
  ascending : order.isAscending? name = some key.ascending
  priority : order.priority? name = some place
  orientation : order.orientation? name = some (key.ascending, place)

/-- Every query about this name answers that it is not in the order. -/
structure Misses (order : SortOrder) (name : String) : Prop where
  index : order.indexOf? name = none
  visible : order.isVisible name = false
  ascending : order.isAscending? name = none
  priority : order.priority? name = none
  orientation : order.orientation? name = none

section Queries

variable {order : SortOrder} {place : Nat} {key : SortKey} {name : String}

/-- Without repeated names, each key is the first of its name. -/
theorem firstAt_of_nodup (hNames : (order.keys.map SortKey.name).Nodup)
    (hKey : order.keys[place]? = some key) : order.FirstAt key.name place key := by
  refine ⟨hKey, rfl, fun earlier other hEarlier hOther hSame => ?_⟩
  have hFirst : (order.keys.map SortKey.name)[earlier]? = some key.name := by
    rw [List.getElem?_map, hOther, Option.map_some, hSame]
  have hSecond : (order.keys.map SortKey.name)[place]? = some key.name := by
    rw [List.getElem?_map, hKey, Option.map_some]
  obtain ⟨hBound, hAt⟩ := List.getElem?_eq_some_iff.mp hFirst
  obtain ⟨hLater, hAlso⟩ := List.getElem?_eq_some_iff.mp hSecond
  have hPlaces := (List.Nodup.getElem_inj_iff hNames).mp (hAt.trans hAlso.symm)
  omega

/-- All queries find the first key of a name. -/
theorem FirstAt.finds (h : order.FirstAt name place key) : order.Finds name place key := by
  have hIndex := indexOf?_eq_some h
  have hOrientation : order.orientation? name = some (key.ascending, place) := by
    simp [orientation?, hIndex, h.1]
  exact ⟨hIndex, by rw [isVisible, hIndex]; rfl, by rw [isAscending?, hOrientation]; rfl,
    by rw [priority?, hOrientation]; rfl, hOrientation⟩

/-- They all miss a name that is absent. -/
theorem misses_of_not_visible (hAbsent : ¬ order.isVisible name = true) : order.Misses name := by
  have hIndex : order.indexOf? name = none := by
    rwa [isVisible, Option.not_isSome_iff_eq_none] at hAbsent
  have hOrientation : order.orientation? name = none := by simp [orientation?, hIndex]
  exact ⟨hIndex, by rw [isVisible, hIndex]; rfl, by rw [isAscending?, hOrientation]; rfl,
    by rw [priority?, hOrientation]; rfl, hOrientation⟩

end Queries

/-- What an order has at its front and at its back has been placed by an edit. -/
theorem Recalls.since_places {order : SortOrder} {edits : List Edit}
    {front back : List (Nat × SortKey)} (h : order.Recalls edits front back) {name : String}
    (hVisible : order.isVisible name = true) :
    Since edits (fun before edit => ∃ key, key.name = name ∧ Places before edit key)
      (· ≠ .hide name) := by
  have hKept : ∀ {key : SortKey} {later : Edit}, later.displaces key.name = false →
      later ≠ .hide key.name := by
    rintro key later hStays rfl
    exact bne_iff_ne.mp (congrArg not hStays) rfl
  obtain ⟨key, hKey, rfl⟩ := isVisible_iff.mp hVisible
  rw [h.keys] at hKey
  obtain ⟨⟨time, key⟩, hEntry, rfl⟩ := List.mem_map.mp hKey
  rcases List.mem_append.mp hEntry with hFront | hBack
  · exact ((h.promoted time key).mp hFront).mono
      (fun before edit hOwn => ⟨key, rfl, Or.inl hOwn.2⟩) fun later => hKept
  · exact ((h.appended time key).mp hBack).mono
      (fun before edit hOwn => ⟨key, rfl, Or.inr hOwn.2⟩) fun later => hKept

/-- An order is a recency list. After any edits of the empty order, no name comes twice. A name is there
exactly if it has been promoted, or appended while it was absent, and not been hidden since. The names
that were promoted last come first, the latest at the front; behind them stand those that were appended,
the earliest first. Each key is the one that the last edit to place its name was given, and all queries
agree with the list. -/
theorem edited_is_recency_list (edits : List Edit) :
    let order := empty.edited edits
    (order.keys.map SortKey.name).Nodup ∧
    (∀ name, name ∈ order.keys.map SortKey.name ↔
      Since edits (fun before edit => ∃ key, key.name = name ∧ Places before edit key)
        (· ≠ .hide name)) ∧
    (∃ front back : List (Nat × SortKey),
      order.keys = (front ++ back).map Prod.snd ∧
      (∀ time key, (time, key) ∈ front ↔ Promoted edits time key) ∧
      (∀ time key, (time, key) ∈ back ↔ Appended edits time key) ∧
      front.Pairwise (fun first second => second.1 < first.1) ∧
      back.Pairwise (fun first second => first.1 < second.1)) ∧
    (∀ place key, order.keys[place]? = some key → order.Finds key.name place key) ∧
    ∀ name, name ∉ order.keys.map SortKey.name → order.Misses name := by
  intro order
  have hNames : (order.keys.map SortKey.name).Nodup := names_edited edits
  obtain ⟨front, back, hRecalls⟩ := exists_recalls edits
  refine ⟨hNames, fun name => ?_, ⟨front, back, hRecalls.keys, hRecalls.promoted, hRecalls.appended,
    hRecalls.latest, hRecalls.earliest⟩, fun place key hKey => ?_, fun name hAbsent => ?_⟩
  · rw [← isVisible_iff_mem]
    refine ⟨hRecalls.since_places, fun hSince => ?_⟩
    rw [isVisible_edited]
    refine hSince.mono ?_ fun _ => id
    rintro before edit ⟨key, rfl, rfl | ⟨rfl, -⟩⟩ <;> exact beq_self_eq_true _
  · exact (firstAt_of_nodup hNames hKey).finds
  · rw [← isVisible_iff_mem] at hAbsent
    exact misses_of_not_visible hAbsent

/-- A name that is hidden and appended again stands behind one that has been appended before. -/
example :
    let key (name : String) : SortKey := ⟨⟨.integer, name, false⟩, true⟩
    (empty.edited [.append (key "A"), .append (key "B"), .promote (key "C"), .hide "A",
      .append (key "A"), .append (key "C"), .promote (key "D")]).keys.map SortKey.name =
      ["D", "C", "B", "A"] := by decide +kernel

end RemoteTable.SortOrder
