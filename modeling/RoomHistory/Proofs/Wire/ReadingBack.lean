import RoomHistory.Client.Settings
import RoomHistory.Delivery.Batch
import RoomHistory.Delivery.Page
import RoomHistory.Directory.Entry
import RoomHistory.Feed.Notice
import RoomHistory.Proofs.Json.Fields

/-!
# What is written is read back

Where a field has no value, a record leaves it out, writes null, or writes the default.  Reading
takes each of these for what was meant, so that events with an id, and all batches, pages, entries,
settings, views and notices, are read back as they were.  Numbers have to fit into the sixty-four
bits that reading admits.  Members of other names change nothing.
-/

namespace RoomHistory

open FieldReader
open Json (ReadsAs)

theorem nullable_int64
    {number : Int}
    (fits : IsInt64 number) :
    nullable Decoder.int64 (.int number) = some (some number) :=
  congrArg (Option.map some) (Decoder.int64_int fits)

namespace Direction

theorem decode_encode (direction : Direction) : decode direction.encode = some direction :=
  ofName?_name direction

end Direction

namespace Membership

theorem decode_encode (membership : Membership) : decode membership.encode = some membership :=
  ofName?_name membership

theorem nullable_encode (membership : Membership) :
    nullable decode membership.encode = some (some membership) :=
  congrArg (Option.map some) membership.decode_encode

end Membership

namespace Unsigned

theorem decode_encode
    (unsigned : Unsigned)
    (fits : ∀ age ∈ unsigned.age, IsInt64 age) :
    decode unsigned.encode = some unsigned := by
  apply decode_ofMembers
  exact
    .bind (reads_optional unsigned.age .int (by simp) fun age present =>
      nullable_int64 (fits age present)) <|
    .bind (reads_optional unsigned.transaction .string (by simp) fun _ _ => rfl) <|
    reads_pure unsigned _

theorem eq_empty {unsigned : Unsigned} (isEmpty : unsigned.isEmpty = true) :
    unsigned = .empty := by
  obtain ⟨age, transaction⟩ := unsigned
  cases age <;> cases transaction <;> first | rfl | cases isEmpty

end Unsigned

namespace Event

/-- The names of the fields. -/
def fieldNames : List String := [
  "event_id", "type", "state_key", "room_id", "sender", "origin_server_ts", "content", "membership",
  "unsigned"]

/-- The time and the age have sixty-four bits. -/
structure Fits (event : Event) : Prop where
  sentAt : ∀ time ∈ event.sentAt, IsInt64 time
  age : ∀ age ∈ event.unsigned.age, IsInt64 age

theorem decode_readsAs
    (event : Event)
    (fits : event.Fits) :
    ReadsAs decode fieldNames event.encode (some event) := by
  apply readsAs_of_reads
  exact
    .bind (reads_withDefault (.string event.id) (by simp) rfl) <|
    .bind (reads_required (.string event.type) (by simp) rfl) <|
    .bind (reads_optional event.stateKey .string (by simp) fun _ _ => rfl) <|
    .bind (reads_optional event.room .string (by simp) fun _ _ => rfl) <|
    .bind (reads_optional event.sender .string (by simp) fun _ _ => rfl) <|
    .bind (reads_optional event.sentAt .int (by simp) fun time present =>
      nullable_int64 (fits.sentAt time present)) <|
    .bind (reads_withDefault event.content (by simp) rfl) <|
    .bind (reads_optional event.membership Membership.encode (by simp) fun told _ =>
      told.nullable_encode) <|
    .bind (reads_withDefault_unless event.unsigned.encode (by simp) Unsigned.eq_empty
      (event.unsigned.decode_encode fits.age)) <|
    reads_pure event _

/-- An event with an id is received as it was written. -/
theorem receive_readsAs
    {event : Event}
    (named : event.id ≠ "")
    (fits : event.Fits) :
    ReadsAs receive fieldNames event.encode (.ok event) := by
  refine .of_extended rfl fun further other => ?_
  have decoded := (event.decode_readsAs fits).extended further other
  have isObject : (event.encode.withMembers further).isObject = true := rfl
  rw [receive, if_pos isObject, decoded]
  exact if_pos (bne_iff_ne.mpr named)

end Event

namespace DirectoryEntry

/-- The names of the fields. -/
def fieldNames : List String := [
  "room_id", "name", "topic", "canonical_alias", "world_readable", "guest_can_join",
  "num_joined_members", "aliases"]

/-- The count has sixty-four bits. -/
def Fits (entry : DirectoryEntry) : Prop :=
  IsWord64 entry.joinedMembers

theorem decode_readsAs
    (entry : DirectoryEntry)
    (fits : entry.Fits) :
    ReadsAs decode fieldNames entry.encode (some entry) := by
  apply readsAs_of_reads
  exact
    .bind (reads_text entry.room (by simp [Json.lookup_cons])) <|
    .bind (reads_text entry.name (by simp [Json.lookup_cons])) <|
    .bind (reads_text entry.topic (by simp [Json.lookup_cons])) <|
    .bind (reads_text entry.canonicalAlias (by simp [Json.lookup_cons])) <|
    .bind (reads_withDefault (.bool entry.worldReadable) (by simp [Json.lookup_cons]) rfl) <|
    .bind (reads_withDefault (.bool entry.guestCanJoin) (by simp [Json.lookup_cons]) rfl) <|
    .bind (reads_withDefault (.nat entry.joinedMembers) (by simp [Json.lookup_cons])
      (Decoder.word64_nat fits)) <|
    .bind (reads_withDefault (.strings entry.aliases) (by simp [Json.lookup_cons])
      (Decoder.list_strings entry.aliases)) <|
    reads_pure entry _

end DirectoryEntry

namespace TimelinePolicy

theorem decode_encode
    (policy : TimelinePolicy)
    (fits : IsWord64 policy.limit) :
    decode policy.encode = some policy := by
  apply decode_ofMembers
  exact
    .bind (reads_withDefault (.nat policy.limit) (by simp [Json.lookup_cons])
      (Decoder.word64_nat fits)) <|
    .bind (reads_withDefault (.bool policy.autofill) (by simp [Json.lookup_cons]) rfl) <|
    reads_pure policy _

end TimelinePolicy

namespace ClientSettings

/-- The names of the fields. -/
def fieldNames : List String := ["user_id", "timeline", "subscription_buffer"]

/-- The budget and the buffer have sixty-four bits. -/
structure Fits (settings : ClientSettings) : Prop where
  limit : IsWord64 settings.timeline.limit
  feedBuffer : IsWord64 settings.feedBuffer

theorem decode_readsAs
    (settings : ClientSettings)
    (fits : settings.Fits) :
    ReadsAs decode fieldNames settings.encode (some settings) := by
  apply readsAs_of_reads
  exact
    .bind (reads_text settings.user (by simp [Json.lookup_cons])) <|
    .bind (reads_withDefault settings.timeline.encode (by simp [Json.lookup_cons])
      (settings.timeline.decode_encode fits.limit)) <|
    .bind (reads_withDefault (.nat settings.feedBuffer) (by simp [Json.lookup_cons])
      (Decoder.word64_nat fits.feedBuffer)) <|
    reads_pure settings _

end ClientSettings

namespace RoomBatch

/-- The names of the fields. -/
def fieldNames : List String := ["state", "timeline", "ephemeral", "account_data", "prev_batch"]

theorem decode_readsAs (batch : RoomBatch) :
    ReadsAs decode fieldNames batch.encode (some batch) := by
  apply readsAs_of_reads
  exact
    .bind (reads_withDefault (.array batch.state) (by simp) (Decoder.list_any _)) <|
    .bind (reads_withDefault (.array batch.timeline) (by simp) (Decoder.list_any _)) <|
    .bind (reads_withDefault (.array batch.ephemeral) (by simp) (Decoder.list_any _)) <|
    .bind (reads_withDefault (.array batch.accountData) (by simp) (Decoder.list_any _)) <|
    .bind (reads_optional batch.prevBatch .string (by simp) fun _ _ => rfl) <|
    reads_pure batch _

theorem decode_encode (batch : RoomBatch) : decode batch.encode = some batch :=
  batch.decode_readsAs.alone

end RoomBatch

namespace RoomBatches

/-- A map is made again from what it lists. -/
theorem ofList_toList (batches : RoomBatches) :
    Std.ExtTreeMap.ofList batches.toList = batches := by
  apply Std.ExtTreeMap.ext_getElem?
  intro room
  cases found : batches[room]? with
  | none =>
      apply Std.ExtTreeMap.getElem?_ofList_of_contains_eq_false
      rw [Std.ExtTreeMap.map_fst_toList_eq_keys, List.contains_eq_mem, decide_eq_false_iff_not,
        Std.ExtTreeMap.mem_keys, Std.ExtTreeMap.mem_iff_isSome_getElem?, found]
      exact Bool.false_ne_true
  | some batch =>
      have listed := Std.ExtTreeMap.mem_toList_iff_getElem?_eq_some.mpr found
      exact Std.ExtTreeMap.getElem?_ofList_of_mem Std.ReflCmp.compare_self
        Std.ExtTreeMap.distinct_keys_toList listed

theorem decode_encode (batches : RoomBatches) : decode batches.encode = some batches := by
  have ascending : (batches.toList.map fun entry => (entry.1, entry.2.encode)).Pairwise
      fun left right => compare left.1 right.1 = .lt :=
    List.pairwise_map.mpr Std.ExtTreeMap.ordered_keys_toList
  have written : batches.encode =
      .object (batches.toList.map fun entry => (entry.1, entry.2.encode)) :=
    congrArg Json.object (Json.sortMembers_of_ascending ascending)
  have read : Decoder.entries RoomBatch.decode batches.encode = some batches.toList := by
    rw [written]
    exact Decoder.members_map RoomBatch.decode_encode
  rw [decode, read, Option.map_some, ofList_toList]

end RoomBatches

namespace SyncLists

theorem decode_encode (lists : SyncLists) : decode lists.encode = some lists := by
  apply decode_ofMembers
  exact
    .bind (reads_withDefault (RoomBatches.encode lists.join) (by simp [Json.lookup_cons])
      (RoomBatches.decode_encode _)) <|
    .bind (reads_withDefault (RoomBatches.encode lists.leave) (by simp [Json.lookup_cons])
      (RoomBatches.decode_encode _)) <|
    .bind (reads_withDefault (RoomBatches.encode lists.invite) (by simp [Json.lookup_cons])
      (RoomBatches.decode_encode _)) <|
    reads_pure lists _

end SyncLists

namespace Sync

/-- The names of the fields. -/
def fieldNames : List String := ["next_batch", "rooms"]

theorem decode_readsAs (sync : Sync) : ReadsAs decode fieldNames sync.encode (some sync) := by
  apply readsAs_of_reads
  exact
    .bind (reads_optional sync.nextBatch .string (by simp) fun _ _ => rfl) <|
    .bind (reads_withDefault sync.rooms.encode (by simp) sync.rooms.decode_encode) <|
    reads_pure sync _

end Sync

namespace PageQuery

/-- The names of the fields. -/
def fieldNames : List String := ["from", "to", "dir", "limit"]

/-- The limit has sixty-four bits. -/
def Fits (query : PageQuery) : Prop :=
  IsWord64 query.limit

theorem decode_readsAs
    (query : PageQuery)
    (fits : query.Fits) :
    ReadsAs decode fieldNames query.encode (some query) := by
  apply readsAs_of_reads
  exact
    .bind (reads_optionalByName <| reads_optional query.start .string (by simp)
      fun _ _ => rfl) <|
    .bind (reads_optionalByName <| reads_optional query.stop .string (by simp)
      fun _ _ => rfl) <|
    .bind (reads_required query.direction.encode (by simp) query.direction.decode_encode) <|
    .bind (reads_required (.nat query.limit) (by simp) (Decoder.word64_nat fits)) <|
    reads_pure query _

end PageQuery

namespace Page

/-- The names of the fields. -/
def fieldNames : List String := ["chunk", "start", "end"]

theorem decode_readsAs (page : Page) : ReadsAs decode fieldNames page.encode (some page) := by
  apply readsAs_of_reads
  exact
    .bind (reads_withDefault (.array page.chunk) (by simp) (Decoder.list_any _)) <|
    .bind (reads_optional page.start .string (by simp) fun _ _ => rfl) <|
    .bind (reads_optional page.stop .string (by simp) fun _ _ => rfl) <|
    reads_pure page _

end Page

namespace RoomView

/-- The names of the fields. -/
def fieldNames : List String := ["room_id", "membership", "len", "horizon", "generation"]

/-- The numbers have sixty-four bits. -/
structure Fits (view : RoomView) : Prop where
  length : IsWord64 view.length
  horizon : IsWord64 view.horizon
  generation : IsWord64 view.generation

section

variable {decodeMembership : Decoder Membership}

/-- A view is read back in whichever way memberships are read, if these are read back. -/
theorem readerWith_readsAs
    (reading : ∀ told : Membership, nullable decodeMembership told.encode = some (some told))
    {view : RoomView}
    (fits : view.Fits) :
    ReadsAs (readerWith decodeMembership).decode fieldNames view.encode (some view) := by
  apply readsAs_of_reads
  exact
    .bind (reads_required (.string view.room) (by simp [Json.lookup_cons]) rfl) <|
    .bind (reads_optionalByName <| reads_optional_orNull view.membership Membership.encode
      (by simp [Json.lookup_cons]) fun told _ => reading told) <|
    .bind (reads_required (.nat view.length) (by simp [Json.lookup_cons])
      (Decoder.word64_nat fits.length)) <|
    .bind (reads_required (.nat view.horizon) (by simp [Json.lookup_cons])
      (Decoder.word64_nat fits.horizon)) <|
    .bind (reads_required (.nat view.generation) (by simp [Json.lookup_cons])
      (Decoder.word64_nat fits.generation)) <|
    reads_pure view _

theorem decode_readsAs
    {view : RoomView}
    (fits : view.Fits) :
    ReadsAs decode fieldNames view.encode (some view) :=
  readerWith_readsAs Membership.nullable_encode fits

theorem decodeInNotice_readsAs
    {view : RoomView}
    (fits : view.Fits) :
    ReadsAs decodeInNotice fieldNames view.encode (some view) := by
  have loosely : ∀ told : Membership,
      nullable (Decoder.namedLoosely Membership.ofName?) told.encode = some (some told) :=
    fun told => congrArg (Option.map some) (Membership.ofName?_name told)
  exact readerWith_readsAs loosely fits

end

end RoomView

namespace EndReason

theorem ofName?_name (reason : EndReason) : ofName? reason.name = some reason := by
  cases reason <;> rfl

end EndReason

/-- The numbers have sixty-four bits. -/
structure InsertedNotice.Fits (change : InsertedNotice) : Prop where
  added : IsWord64 change.added
  trimmed : IsWord64 change.trimmed
  generation : IsWord64 change.generation

namespace Notice

/-- The names of the fields, of which the first names the sort. -/
def fieldNames : Notice → List String
  | .view _ => ["type", "room"]
  | .inserted _ => ["type", "room_id", "added", "trimmed", "direction", "generation"]
  | .stateInvalidated _ _ => ["type", "room_id", "event_type"]
  | .membership _ _ => ["type", "room_id", "membership"]
  | .caughtUp => ["type"]
  | .dropped _ => ["type", "reason"]

/-- The numbers have sixty-four bits. -/
def Fits : Notice → Prop
  | .view room => room.Fits
  | .inserted change => change.Fits
  | _ => True

section

variable {tag : String} {reader : FieldReader Notice} {names : List String}
  {members : List (String × Json)} {notice : Notice}

/-- A notice is read as its sort says. -/
theorem decode_tagged
    (tagged : Json.lookup "type" members = some (.string tag))
    (known : reader? tag = some reader) :
    decode (.object members) = reader.decode (.object members) := by
  have found : tagged? (.object members) = some (tag, .named members) := by
    rw [tagged?, tagged]
    rfl
  have read : decode (.object members) = (reader? tag).bind fun reader =>
      reader.decode (.object members) := by
    rw [decode, found]
    rfl
  rw [read, known, Option.bind_some]

theorem readsAs_of_tag
    (tag : String)
    (tagged : Json.lookup "type" (Json.sortMembers members) = some (.string tag))
    (known : reader? tag = some reader)
    (reads : reader.Reads names (Json.sortMembers members) notice) :
    ReadsAs decode ("type" :: names) (.ofMembers members) (some notice) := by
  refine .of_extended rfl fun further other => ?_
  obtain ⟨agreeTag, agree⟩ :=
    List.forall_mem_cons.mp (Json.agreeOn_addMembers other (Json.sortMembers members))
  show decode (.object (Json.addMembers further (Json.sortMembers members))) = some notice
  rw [decode_tagged (agreeTag.trans tagged) known]
  exact reads.decode_eq agree

end

theorem decode_readsAs
    {notice : Notice}
    (fits : notice.Fits) :
    ReadsAs decode notice.fieldNames notice.encode (some notice) := by
  cases notice with
  | view room =>
      apply readsAs_of_tag "snapshot" (by simp [Json.lookup_cons]) rfl
      exact
        .bind (reads_required room.encode (by simp [Json.lookup_cons])
          (RoomView.decodeInNotice_readsAs fits).alone) <|
        reads_pure _ _
  | inserted change =>
      apply readsAs_of_tag "inserted" (by simp [Json.lookup_cons]) rfl
      exact
        .bind (reads_required (.string change.room) (by simp [Json.lookup_cons]) rfl) <|
        .bind (reads_required (.nat change.added) (by simp [Json.lookup_cons])
          (Decoder.word64_nat fits.added)) <|
        .bind (reads_required (.nat change.trimmed) (by simp [Json.lookup_cons])
          (Decoder.word64_nat fits.trimmed)) <|
        .bind (reads_required change.direction.encode (by simp [Json.lookup_cons])
          (Direction.ofName?_name change.direction)) <|
        .bind (reads_required (.nat change.generation) (by simp [Json.lookup_cons])
          (Decoder.word64_nat fits.generation)) <|
        reads_pure _ _
  | stateInvalidated room type =>
      apply readsAs_of_tag "state_invalidated" (by simp [Json.lookup_cons]) rfl
      exact
        .bind (reads_required (.string room) (by simp [Json.lookup_cons]) rfl) <|
        .bind (reads_required (.string type) (by simp [Json.lookup_cons]) rfl) <|
        reads_pure _ _
  | membership room told =>
      apply readsAs_of_tag "membership" (by simp [Json.lookup_cons]) rfl
      exact
        .bind (reads_required (.string room) (by simp [Json.lookup_cons]) rfl) <|
        .bind (reads_required told.encode (by simp [Json.lookup_cons])
          (Membership.ofName?_name told)) <|
        reads_pure _ _
  | caughtUp =>
      exact readsAs_of_tag "caught_up" (by simp [Json.lookup_cons]) rfl (reads_pure _ _)
  | dropped reason =>
      apply readsAs_of_tag "dropped" (by simp [Json.lookup_cons]) rfl
      exact
        .bind (reads_required reason.encode (by simp [Json.lookup_cons])
          (EndReason.ofName?_name reason)) <|
        reads_pure _ _

end Notice

/-- Every record is read back as it was written, whatever members of other names are added to it. -/
theorem records_readBack :
    (∀ event : Event, event.id ≠ "" → event.Fits →
      ReadsAs Event.receive Event.fieldNames event.encode (.ok event)) ∧
    (∀ entry : DirectoryEntry, entry.Fits →
      ReadsAs DirectoryEntry.decode DirectoryEntry.fieldNames entry.encode (some entry)) ∧
    (∀ settings : ClientSettings, settings.Fits →
      ReadsAs ClientSettings.decode ClientSettings.fieldNames settings.encode (some settings)) ∧
    (∀ batch : RoomBatch,
      ReadsAs RoomBatch.decode RoomBatch.fieldNames batch.encode (some batch)) ∧
    (∀ sync : Sync, ReadsAs Sync.decode Sync.fieldNames sync.encode (some sync)) ∧
    (∀ page : Page, ReadsAs Page.decode Page.fieldNames page.encode (some page)) ∧
    (∀ query : PageQuery, query.Fits →
      ReadsAs PageQuery.decode PageQuery.fieldNames query.encode (some query)) ∧
    (∀ view : RoomView, view.Fits →
      ReadsAs RoomView.decode RoomView.fieldNames view.encode (some view)) ∧
    ∀ notice : Notice, notice.Fits →
      ReadsAs Notice.decode notice.fieldNames notice.encode (some notice) :=
  ⟨fun _ => Event.receive_readsAs, DirectoryEntry.decode_readsAs, ClientSettings.decode_readsAs,
    RoomBatch.decode_readsAs, Sync.decode_readsAs, Page.decode_readsAs, PageQuery.decode_readsAs,
    fun _ => RoomView.decode_readsAs, fun _ => Notice.decode_readsAs⟩

/-- Every record with members that no sort of record knows. -/
theorem records_readBack_extended :
    let further : List (String × Json) := [("age_ts", .nat 7), ("Type", .null), ("", .array [])]
    let event : Event :=
      ⟨"$a:x", Event.memberType, some "", none, some "@ann:x", some (-5), .null, some .leave,
        ⟨none, some "t1"⟩⟩
    let entry : DirectoryEntry :=
      ⟨some "!r:x", none, some "", none, true, false, 3, ["#den:x", "#den:x"]⟩
    let settings : ClientSettings := ⟨none, ⟨0, false⟩, 1⟩
    let batch : RoomBatch := ⟨[event.encode, .null], [], [], [.string "tag"], some ""⟩
    let sync : Sync := ⟨none, ⟨.ofList [("!r:x", batch), ("!q:x", batch)], ∅, ∅⟩⟩
    let page : Page := ⟨[.null], some "s1", none⟩
    let query : PageQuery := ⟨none, some "p2", .backward, 10⟩
    let view : RoomView := ⟨"!r:x", none, 4, 2, 9⟩
    let changed : InsertedNotice := ⟨"!r:x", 2, 1, .forward, 5⟩
    Event.receive (event.encode.withMembers further) = .ok event ∧
    DirectoryEntry.decode (entry.encode.withMembers further) = some entry ∧
    ClientSettings.decode (settings.encode.withMembers further) = some settings ∧
    RoomBatch.decode (batch.encode.withMembers further) = some batch ∧
    Sync.decode (sync.encode.withMembers further) = some sync ∧
    Page.decode (page.encode.withMembers further) = some page ∧
    PageQuery.decode (query.encode.withMembers further) = some query ∧
    RoomView.decode (view.encode.withMembers further) = some view ∧
    ∀ notice ∈ [Notice.view view, .inserted changed, .stateInvalidated "!r:x" "m.room.name",
        .membership "!r:x" .invite, .caughtUp, .dropped .unsubscribed],
      Notice.decode (notice.encode.withMembers further) = some notice := by
  intro further event entry settings batch sync page query view changed
  obtain ⟨events, entries, allSettings, batches, syncs, pages, queries, views, notices⟩ :=
    records_readBack
  have viewFits : view.Fits := ⟨by decide, by decide, by decide⟩
  have fits : ∀ notice ∈ [Notice.view view, .inserted changed,
      .stateInvalidated "!r:x" "m.room.name", .membership "!r:x" .invite, .caughtUp,
      .dropped .unsubscribed], notice.Fits :=
    List.forall_mem_cons.mpr ⟨viewFits, List.forall_mem_cons.mpr
      ⟨⟨by decide, by decide, by decide⟩, by simp [Notice.Fits]⟩⟩
  have other : ∀ notice ∈ [Notice.view view, .inserted changed,
      .stateInvalidated "!r:x" "m.room.name", .membership "!r:x" .invite, .caughtUp,
      .dropped .unsubscribed], ∀ member ∈ further, member.1 ∉ notice.fieldNames := by
    decide
  exact ⟨(events event (by decide) ⟨by decide, by decide⟩).extended further (by decide),
    (entries entry (show IsWord64 3 by decide)).extended further (by decide),
    (allSettings settings ⟨by decide, by decide⟩).extended further (by decide),
    (batches batch).extended further (by decide),
    (syncs sync).extended further (by decide),
    (pages page).extended further (by decide),
    (queries query (show IsWord64 10 by decide)).extended further (by decide),
    (views view viewFits).extended further (by decide),
    fun notice listed =>
      (notices notice (fits notice listed)).extended further (other notice listed)⟩

end RoomHistory
