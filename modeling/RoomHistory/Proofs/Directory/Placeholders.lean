import Mathlib.Data.List.Nodup
import RoomHistory.Directory.Placeholder
import RoomHistory.Proofs.Json.VerbalText

/-!
# What placeholders there are

An entry is turned back into state events that stand in slots of their own, by type and key.  Each
is named after its slot, and since no type has a slash in it, no two have one id.  They all have
the time zero and contents that are made of texts only.
-/

namespace RoomHistory

namespace DirectoryEntry

/-- The types that an entry has placeholders of, in their order. -/
def placeheldTypes : List String := [
  "m.room.name",
  "m.room.topic",
  "m.room.canonical_alias",
  "m.room.aliases",
  "m.room.guest_access",
  "m.room.history_visibility"]

/-- One text under an empty key, if there is a text. -/
def textContents (field : String) (text : Option String) : List (String × Json) :=
  text.toList.map fun text => ("", CurrentState.textMember field text)

/-- The content that lists aliases. -/
def aliasContent (listed : List String) : Json :=
  .ofMembers [("aliases", .strings listed)]

/-- The contents of the placeholders of a type, by state key. -/
def contentsOf (entry : DirectoryEntry) : String → List (String × Json)
  | "m.room.name" => textContents "name" entry.name
  | "m.room.topic" => textContents "topic" entry.topic
  | "m.room.canonical_alias" => textContents "alias" entry.canonicalAlias
  | "m.room.aliases" =>
      (aliasesByServer entry.aliases).toList.map fun listed => (listed.1, aliasContent listed.2)
  | "m.room.guest_access" =>
      textContents "guest_access" (some (if entry.guestCanJoin then "can_join" else "forbidden"))
  | "m.room.history_visibility" =>
      textContents "history_visibility"
        (if entry.worldReadable then some "world_readable" else none)
  | _ => []

/-- The placeholder of an entry for a slot. -/
def standIn (entry : DirectoryEntry) (slot : Slot) (content : Json) : Event :=
  { placeholder slot content with room := entry.room }

theorem textPlaceholder_eq (type field : String) (text : Option String) :
    textPlaceholder type field text =
      (textContents field text).map fun filed => placeholder ⟨type, filed.1⟩ filed.2 := by
  cases text <;> rfl

theorem roomlessPlaceholders_eq (entry : DirectoryEntry) :
    entry.roomlessPlaceholders = placeheldTypes.flatMap fun type =>
      (entry.contentsOf type).map fun filed => placeholder ⟨type, filed.1⟩ filed.2 := by
  simp [roomlessPlaceholders, placeheldTypes, contentsOf, textPlaceholder_eq, aliasContent]

/-- The placeholders of an entry are those of its contents, type by type. -/
theorem placeholders_eq (entry : DirectoryEntry) :
    entry.placeholders = placeheldTypes.flatMap fun type =>
      (entry.contentsOf type).map fun filed => entry.standIn ⟨type, filed.1⟩ filed.2 := by
  have standsIn : ∀ slot content, entry.standIn slot content =
      { placeholder slot content with room := entry.room } := fun _ _ => rfl
  rw [placeholders, roomlessPlaceholders_eq]
  simp only [standsIn]
  cases entry.room with
  | none => rfl
  | some room =>
      show List.map _ _ = _
      rw [List.map_flatMap]
      simp only [List.map_map]
      rfl

/-- A filed content belongs to one of the types that there are placeholders of. -/
theorem mem_placeheldTypes
    {entry : DirectoryEntry}
    {type : String}
    {filed : String × Json}
    (present : filed ∈ entry.contentsOf type) :
    type ∈ placeheldTypes := by
  unfold contentsOf at present
  split at present
  all_goals first | decide | cases present

theorem mem_placeholders_iff
    {entry : DirectoryEntry}
    {event : Event} :
    event ∈ entry.placeholders ↔
      ∃ slot content, (slot.key, content) ∈ entry.contentsOf slot.type ∧
        event = entry.standIn slot content := by
  rw [placeholders_eq]
  simp only [List.mem_flatMap, List.mem_map]
  constructor
  · rintro ⟨type, -, ⟨key, content⟩, filed, rfl⟩
    exact ⟨⟨type, key⟩, content, filed, rfl⟩
  · rintro ⟨slot, content, filed, rfl⟩
    exact ⟨slot.type, mem_placeheldTypes filed, (slot.key, content), filed, rfl⟩

/-- Of every type there is at most one content under each key. -/
theorem nodup_keys (entry : DirectoryEntry) (type : String) :
    ((entry.contentsOf type).map Prod.fst).Nodup := by
  have single : ∀ field text, ((textContents field text).map Prod.fst).Nodup := by
    intro field text
    cases text with
    | none => exact List.nodup_nil
    | some text => exact List.nodup_singleton ""
  unfold contentsOf
  split
  case h_4 =>
    rw [List.map_map]
    show ((aliasesByServer entry.aliases).toList.map Prod.fst).Nodup
    rw [Std.ExtTreeMap.map_fst_toList_eq_keys]
    exact Std.ExtTreeMap.nodup_keys
  case h_7 => exact List.nodup_nil
  all_goals exact single _ _

section

variable {entry : DirectoryEntry} {left right event : Event}

/-- No two placeholders share a slot. -/
theorem eq_of_slot
    (leftIn : left ∈ entry.placeholders)
    (rightIn : right ∈ entry.placeholders)
    (same : left.slot? = right.slot?) :
    left = right := by
  obtain ⟨slot, content, filed, rfl⟩ := mem_placeholders_iff.mp leftIn
  obtain ⟨otherSlot, otherContent, otherFiled, rfl⟩ := mem_placeholders_iff.mp rightIn
  obtain rfl : slot = otherSlot := Option.some.inj same
  have samePair := List.inj_on_of_nodup_map (entry.nodup_keys slot.type) filed otherFiled rfl
  rw [(Prod.mk.inj samePair).2]

end

/-- The id of the placeholder for a slot. -/
def placeholderId (slot : Slot) : EventId :=
  "$summary/" ++ slot.type ++ "/" ++ slot.key

/-- No type of a placeholder has a slash in it, so the id tells where the key begins. -/
theorem placeholderId_inj
    {left right : Slot}
    (leftPlaceheld : left.type ∈ placeheldTypes)
    (rightPlaceheld : right.type ∈ placeheldTypes)
    (same : placeholderId left = placeholderId right) :
    left = right := by
  have noSlash : ∀ type ∈ placeheldTypes, (type.toList.all (· != '/')) = true := by decide
  have chars (slot : Slot) : (placeholderId slot).toList =
      "$summary/".toList ++ (slot.type.toList ++ '/' :: slot.key.toList) := by
    simp [placeholderId]
  have named := congrArg String.toList same
  rw [chars, chars, List.append_cancel_left_eq] at named
  have beginning := congrArg (List.takeWhile (· != '/')) named
  rw [List.takeWhile_append_of_pos (List.all_eq_true.mp (noSlash left.type leftPlaceheld)),
    List.takeWhile_append_of_pos (List.all_eq_true.mp (noSlash right.type rightPlaceheld))]
    at beginning
  have type : left.type.toList = right.type.toList := by simpa using beginning
  rw [type, List.append_cancel_left_eq] at named
  have key : left.key.toList = right.key.toList := (List.cons.inj named).2
  rw [String.toList_inj] at type key
  cases left
  cases right
  exact congrArg₂ Slot.mk type key

/-- The slots in which an entry has placeholders. -/
def slots (entry : DirectoryEntry) : List Slot :=
  placeheldTypes.flatMap fun type => (entry.contentsOf type).map fun filed => ⟨type, filed.1⟩

theorem nodup_slots (entry : DirectoryEntry) : entry.slots.Nodup := by
  rw [slots, List.nodup_flatMap]
  constructor
  · intro type _
    have ofType : (Slot.mk type).Injective := fun _ _ same => (Slot.mk.inj same).2
    have keys := (entry.nodup_keys type).map ofType
    rw [List.map_map] at keys
    exact keys
  · have types : placeheldTypes.Nodup := by decide
    apply types.imp
    intro first second differ slot inFirst inSecond
    obtain ⟨_, -, rfl⟩ := List.mem_map.mp inFirst
    obtain ⟨_, -, same⟩ := List.mem_map.mp inSecond
    exact differ (Slot.mk.inj same).1.symm

/-- No two placeholders have one id. -/
theorem nodup_ids (entry : DirectoryEntry) : (entry.placeholders.map (·.id)).Nodup := by
  have ids : entry.placeholders.map (·.id) = entry.slots.map placeholderId := by
    rw [placeholders_eq, slots, List.map_flatMap, List.map_flatMap]
    simp only [List.map_map]
    rfl
  have placeheld : ∀ slot ∈ entry.slots, slot.type ∈ placeheldTypes := by
    intro slot present
    obtain ⟨type, isType, filed⟩ := List.mem_flatMap.mp present
    obtain ⟨_, -, rfl⟩ := List.mem_map.mp filed
    exact isType
  rw [ids]
  apply entry.nodup_slots.map_on
  intro left leftIn right rightIn same
  exact placeholderId_inj (placeheld left leftIn) (placeheld right rightIn) same

/-- Every placeholder is a state event of the time zero. -/
theorem isState_of_placeholder
    {entry : DirectoryEntry}
    {event : Event}
    (present : event ∈ entry.placeholders) :
    event.isState = true := by
  obtain ⟨slot, content, -, rfl⟩ := mem_placeholders_iff.mp present
  rfl

theorem sentAt_of_placeholder
    {entry : DirectoryEntry}
    {event : Event}
    (present : event ∈ entry.placeholders) :
    event.sentAt = some 0 := by
  obtain ⟨slot, content, -, rfl⟩ := mem_placeholders_iff.mp present
  rfl

theorem verbal_aliasContent (listed : List String) : (aliasContent listed).isVerbal = true := by
  have texts : Json.areVerbal (listed.map .string) = true := by
    induction listed with
    | nil => rfl
    | cons address rest hypothesis => exact hypothesis
  show (Json.areVerbal (listed.map .string) && true) = true
  rw [texts]
  rfl

/-- The contents of placeholders are made of texts only. -/
theorem verbal_of_placeholder
    {entry : DirectoryEntry}
    {event : Event}
    (present : event ∈ entry.placeholders) :
    event.content.isVerbal = true := by
  obtain ⟨slot, content, filed, rfl⟩ := mem_placeholders_iff.mp present
  have text : ∀ field text, ∀ filed ∈ textContents field text, filed.2.isVerbal = true := by
    intro field text filed present
    obtain ⟨_, -, rfl⟩ := List.mem_map.mp present
    rfl
  unfold contentsOf at filed
  split at filed
  case h_4 =>
    obtain ⟨listed, -, same⟩ := List.mem_map.mp filed
    rw [← (Prod.mk.inj same).2]
    exact verbal_aliasContent listed.2
  case h_7 => cases filed
  all_goals exact text _ _ _ filed

end DirectoryEntry

end RoomHistory
