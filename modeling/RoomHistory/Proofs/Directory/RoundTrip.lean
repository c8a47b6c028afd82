import RoomHistory.Proofs.Directory.Grouping
import RoomHistory.Proofs.Directory.Yielding

/-!
# An entry comes back from its placeholders

The placeholders of an entry are inserted into a timeline that holds nothing, and a directory is
made from that timeline.  Every slot with a placeholder shows it, and any other slot shows what it
showed from the start, which is what a field that the entry leaves out comes back as.  Placeholders
tell nothing of the members, and the aliases come back grouped by their server.
-/

namespace RoomHistory

/-- A memo that is asked about one timeline goes on vouching for it. -/
theorem StateMemo.Vouches.getAll
    {memo : StateMemo}
    {timeline : Timeline}
    (vouches : memo.Vouches timeline)
    (types : List String) :
    (memo.getAll timeline types).Vouches timeline := by
  induction types generalizing memo with
  | nil => exact vouches
  | cons type rest hypothesis => exact hypothesis (vouches.get (fun _ => rfl) type)

namespace DirectoryEntry

/-- A timeline whose slots show the placeholders of an entry and nothing else that is new. -/
structure ShownBy (entry : DirectoryEntry) (timeline : Timeline) : Prop where
  present : ∀ type key content, (key, content) ∈ entry.contentsOf type →
    ∃ event, (CurrentState.ofTimeline timeline type)[key]? = some event ∧ event.content = content
  absent : ∀ type key, key ∉ (entry.contentsOf type).map Prod.fst →
    (CurrentState.ofTimeline timeline type)[key]? = (CurrentState.initial type)[key]?

/-- Placeholders that are inserted where nothing is held are shown. -/
theorem shownBy_insert
    (entry : DirectoryEntry)
    (tag : TimelineTag)
    (policy : TimelinePolicy)
    (room : Option RoomId)
    (arrival : Arrival)
    (clock : Timestamp) :
    entry.ShownBy
      ((Timeline.empty tag policy room).insert arrival clock entry.placeholders).2 := by
  have told : Json.ToldByTexts fun _ => False := fun _ _ given => given.elim
  have reached : (Timeline.empty tag policy room).Reached fun _ => False := .empty tag policy room
  have fresh : ∀ event ∈ entry.placeholders,
      (Timeline.empty tag policy room).holds event.id = false := fun _ _ => rfl
  obtain ⟨-, -, joined⟩ := reached.joined_placeholders told fresh arrival clock
  constructor
  · intro type key content filed
    have placeholderIn : entry.standIn ⟨type, key⟩ content ∈ entry.placeholders :=
      mem_placeholders_iff.mpr ⟨⟨type, key⟩, content, filed, rfl⟩
    have entered : (entry.standIn ⟨type, key⟩ content).complete (arrival.orRoom room) ∈
        (Timeline.empty tag policy room).completeBatch arrival entry.placeholders :=
      List.mem_map_of_mem placeholderIn
    refine ⟨_, joined.ofTimeline_of_silent rfl entered rfl ?_, rfl⟩
    intro other otherEntered speaks
    exact Timeline.eq_of_slot_of_mem_completeBatch otherEntered entered speaks
  · intro type key unfiled
    have silent : newestOf? ⟨type, key⟩ ((Timeline.empty tag policy room).insert arrival clock
        entry.placeholders).2.events = none := by
      rw [newestOf?, List.getLast?_eq_none_iff, List.filter_eq_nil_iff]
      intro event present speaks
      rcases (joined.mem_iff event).mp present with held | entered
      · cases held
      obtain ⟨placeholder, placeholderIn, rfl⟩ := List.mem_map.mp entered
      obtain ⟨slot, content, filed, rfl⟩ := mem_placeholders_iff.mp placeholderIn
      obtain rfl : slot = ⟨type, key⟩ := Option.some.inj (beq_iff_eq.mp speaks)
      exact unfiled (List.mem_map_of_mem filed)
    rw [CurrentState.ofTimeline_getElem?, silent, Option.none_or]

/-- The text under the only field of a content. -/
theorem member?_textMember (field text : String) :
    (CurrentState.textMember field text).member? field = some (.string text) :=
  if_pos rfl

section

variable {entry : DirectoryEntry} {timeline : Timeline}

/-- A field with a text comes back, and one without comes back as it was from the start. -/
theorem ShownBy.contentText?_eq
    {type field : String}
    {text : Option String}
    (shown : entry.ShownBy timeline)
    (contents : entry.contentsOf type = textContents field text) :
    contentText? (CurrentState.ofTimeline timeline type) field =
      text.or (contentText? (CurrentState.initial type) field) := by
  cases text with
  | none =>
      have showsInitial := shown.absent type "" (by rw [contents]; exact List.not_mem_nil)
      rw [contentText?, showsInitial, Option.none_or, contentText?]
  | some text =>
      obtain ⟨event, showsEvent, content⟩ := shown.present type ""
        (CurrentState.textMember field text) (by rw [contents]; exact List.mem_cons_self)
      rw [contentText?, showsEvent, Option.bind_some, content, member?_textMember]
      rfl

/-- Nobody is told to have joined. -/
theorem ShownBy.joinedCount_eq (shown : entry.ShownBy timeline) :
    joinedCount (CurrentState.ofTimeline timeline Event.memberType) = 0 := by
  have noMembers : CurrentState.ofTimeline timeline Event.memberType = ∅ := by
    apply Std.ExtTreeMap.ext_getElem?
    intro key
    exact shown.absent Event.memberType key List.not_mem_nil
  rw [noMembers]
  rfl

theorem listedAliases_of_content
    {event : Event}
    {listed : List String}
    (content : event.content = aliasContent listed) :
    listedAliases event = listed := by
  have items : ((event.content.member? "aliases").bind Json.array?).getD [] =
      listed.map Json.string := by
    rw [content]
    rfl
  rw [listedAliases, items, List.filterMap_map]
  exact List.filterMap_some

/-- The aliases come back server by server. -/
theorem ShownBy.allAliases_eq (shown : entry.ShownBy timeline) :
    allAliases (CurrentState.ofTimeline timeline "m.room.aliases") =
      (aliasesByServer entry.aliases).values.flatten := by
  have lists : (CurrentState.ofTimeline timeline "m.room.aliases").map
      (fun _ event => listedAliases event) = aliasesByServer entry.aliases := by
    apply Std.ExtTreeMap.ext_getElem?
    intro server
    rw [Std.ExtTreeMap.getElem?_map]
    cases found : (aliasesByServer entry.aliases)[server]? with
    | none =>
        have unlisted : server ∉ (entry.contentsOf "m.room.aliases").map Prod.fst := by
          intro listed
          obtain ⟨filed, filedIn, rfl⟩ := List.mem_map.mp listed
          obtain ⟨⟨key, aliases⟩, present, rfl⟩ := List.mem_map.mp filedIn
          rw [Std.ExtTreeMap.mem_toList_iff_getElem?_eq_some, found] at present
          cases present
        rw [shown.absent "m.room.aliases" server unlisted]
        rfl
    | some listed =>
        have filed : (server, aliasContent listed) ∈ entry.contentsOf "m.room.aliases" := by
          apply List.mem_map.mpr
          exact ⟨(server, listed), Std.ExtTreeMap.mem_toList_iff_getElem?_eq_some.mpr found, rfl⟩
        obtain ⟨event, showsEvent, content⟩ := shown.present _ _ _ filed
        rw [showsEvent, Option.map_some, listedAliases_of_content content]
  rw [← lists, values_eq_map_snd, Std.ExtTreeMap.toList_map, allAliases, values_eq_map_snd,
    List.map_map, List.flatMap_map, List.flatMap_def]
  rfl

/-- What a directory shows of a room whose slots show the placeholders of an entry. -/
theorem ShownBy.ofState_eq
    {room : RoomId}
    (shown : entry.ShownBy timeline) :
    ofState (some room) (CurrentState.ofTimeline timeline) =
      { entry with
        room := some room
        joinedMembers := 0
        aliases := (aliasesByServer entry.aliases).values.flatten } := by
  let stateOf := CurrentState.ofTimeline timeline
  have created : ((stateOf Event.createType)[""]?.bind (·.room)).or (some room) = some room := by
    rw [shown.absent Event.createType "" List.not_mem_nil]
    rfl
  have name : contentText? (stateOf "m.room.name") "name" = entry.name :=
    (shown.contentText?_eq rfl).trans Option.or_none
  have topic : contentText? (stateOf "m.room.topic") "topic" = entry.topic :=
    (shown.contentText?_eq rfl).trans Option.or_none
  have address : contentText? (stateOf "m.room.canonical_alias") "alias" = entry.canonicalAlias :=
    (shown.contentText?_eq rfl).trans Option.or_none
  -- without the permission the slot shows another text, the default or the one of the placeholder
  have readable : (contentText? (stateOf "m.room.history_visibility") "history_visibility" ==
      some "world_readable") = entry.worldReadable := by
    rw [shown.contentText?_eq rfl]
    cases entry.worldReadable <;> rfl
  have joinable : (contentText? (stateOf "m.room.guest_access") "guest_access" ==
      some "can_join") = entry.guestCanJoin := by
    rw [shown.contentText?_eq rfl]
    cases entry.guestCanJoin <;> rfl
  rw [ofState, created, name, topic, address, readable, joinable, shown.joinedCount_eq,
    shown.allAliases_eq]

end

/-- Where the placeholders of an entry are inserted into a timeline of a room that holds nothing,
the directory then shows the name, the topic, the canonical address and the access of the entry,
whatever the memo was asked before; it shows the room of the timeline, nobody who joined, and of the
aliases those that name a server, grouped by it. -/
theorem directoryEntry_placeholders
    (entry : DirectoryEntry)
    (tag : TimelineTag)
    (policy : TimelinePolicy)
    (room : RoomId)
    (asked : List String)
    (arrival : Arrival)
    (clock : Timestamp) :
    let opened := Timeline.empty tag policy (some room)
    let memo := StateMemo.initial.getAll opened asked
    let changed := (opened.insert arrival clock entry.placeholders).2
    let shown := (memo.directoryEntry changed).1
    shown.room = some room ∧
    shown.name = entry.name ∧
    shown.topic = entry.topic ∧
    shown.canonicalAlias = entry.canonicalAlias ∧
    shown.worldReadable = entry.worldReadable ∧
    shown.guestCanJoin = entry.guestCanJoin ∧
    shown.joinedMembers = 0 ∧
    ∀ listed, GroupedByServer entry.aliases listed ↔ listed = shown.aliases := by
  intro opened memo changed shown
  have shownBy : entry.ShownBy changed :=
    entry.shownBy_insert tag policy (some room) arrival clock
  have follows : changed.Follows opened :=
    opened.applyTo_follows (.arriving arrival clock entry.placeholders)
  have faithful : memo.Faithful changed :=
    (((StateMemo.vouches_initial opened).getAll asked).follow follows).faithful
  have inRoom : changed.room = some room :=
    opened.applyTo_room (.arriving arrival clock entry.placeholders)
  have digest : shown = { entry with
      room := some room
      joinedMembers := 0
      aliases := (aliasesByServer entry.aliases).values.flatten } := by
    rw [← shownBy.ofState_eq, ← inRoom]
    exact faithful.directoryEntry_eq
  rw [digest]
  exact ⟨rfl, rfl, rfl, rfl, rfl, rfl, rfl, groupedByServer_iff entry.aliases⟩

example :
    let entry : DirectoryEntry :=
      ⟨none, some "Den", none, some "#den:x", true, false, 3,
        ["#b:y", "#b:x", "den", "#a:y", "#b:y"]⟩
    let opened := Timeline.empty 1 .standard (some "!r:x")
    let changed := (opened.insert (.atTime 50) 100 entry.placeholders).2
    (StateMemo.initial.directoryEntry changed).1 =
      ⟨some "!r:x", some "Den", none, some "#den:x", true, false, 0,
        ["#b:x", "#b:y", "#a:y", "#b:y"]⟩ := by
  decide +kernel

end DirectoryEntry

end RoomHistory
