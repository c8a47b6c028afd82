import RoomHistory.Proofs.CurrentState.Showing
import RoomHistory.Proofs.Directory.Placeholders

/-!
# Placeholders yield to what is known

Placeholders enter a timeline as state events of the time zero.  State events use none of the
budget, so nothing is given up for them.  In a slot for which an event of a positive time speaks
they come before the newest one, and in a slot for which no event speaks there is only one of
them, which is shown.
-/

namespace RoomHistory

theorem Json.ToldByTexts.or_verbal
    {given : Json → Prop}
    (told : Json.ToldByTexts given) :
    Json.ToldByTexts fun content => given content ∨ content.isVerbal = true := by
  rintro left right leftGiven rightGiven
  by_cases rightVerbal : right.isVerbal = true
  · exact Json.beq_iff_compact_of_verbal rightVerbal
  · by_cases leftVerbal : left.isVerbal = true
    · rw [Json.beq_comm, Json.beq_iff_compact_of_verbal leftVerbal, eq_comm]
    · exact told left right (leftGiven.resolve_right leftVerbal)
        (rightGiven.resolve_right rightVerbal)

namespace Event

/-- An event that was sent earlier comes before one that was sent later. -/
theorem order_of_earlier
    {left right : Event}
    {earlier later : Timestamp}
    (leftSent : left.sentAt = some earlier)
    (rightSent : right.sentAt = some later)
    (before : earlier < later) :
    left.order right = .lt := by
  have time : timeOrder left right = .lt := by
    rw [timeOrder, leftSent, rightSent]
    exact Std.compare_eq_lt.mpr before
  show (timeOrder left right).then _ = .lt
  rw [time]
  rfl

section

variable {events held batch : List Event} {slot : Slot} {event : Event}

/-- The newest event that speaks for a slot is its last after a merge that replaces nothing. -/
theorem IsNewest.newestOf?_settled
    (isNewest : IsNewest (speakingFor slot events) event)
    (orderly : Orderly events)
    (unequivocal : Unequivocal events) :
    newestOf? slot (settled events) = some event := by
  have sameSpeaking : ∀ other, other ∈ speakingFor slot (settled events) ↔
      other ∈ speakingFor slot events := by
    intro other
    rw [mem_speakingFor_iff, mem_speakingFor_iff, unequivocal.mem_settled_iff orderly]
  rcases newestOf?_eq_none_or_isNewest orderly.settled_firstCopies.ascending slot with
    ⟨-, silent⟩ | ⟨newest, isLast, otherNewest⟩
  · have speaks := (sameSpeaking event).mpr isNewest.present
    rw [silent] at speaks
    cases speaks
  · have speakingOrderly : Orderly (speakingFor slot events) :=
      orderly.subset List.filter_sublist.subset
    rw [isLast, speakingOrderly.newest_unique isNewest (otherNewest.congr sameSpeaking)]

/-- A batch does not change the last event of a slot if one that speaks for the slot was held and
comes after the whole batch. -/
theorem newestOf?_settled_append_of_later
    (orderly : Orderly (held ++ batch))
    (unequivocal : Unequivocal (held ++ batch))
    (ascending : Ascending held)
    (present : event ∈ held)
    (speaks : event.slot? = some slot)
    (later : ∀ other ∈ batch, other.order event = .lt) :
    newestOf? slot (settled (held ++ batch)) = newestOf? slot held := by
  have eventSpeaks : event ∈ speakingFor slot held := mem_speakingFor_iff.mpr ⟨present, speaks⟩
  rcases newestOf?_eq_none_or_isNewest ascending slot with
    ⟨-, silent⟩ | ⟨newest, isLast, isNewest⟩
  · rw [silent] at eventSpeaks
    cases eventSpeaks
  obtain ⟨newestHeld, newestSpeaks⟩ := mem_speakingFor_iff.mp isNewest.present
  have newestOfAll : IsNewest (speakingFor slot (held ++ batch)) newest := by
    refine ⟨mem_speakingFor_iff.mpr ⟨List.mem_append_left batch newestHeld, newestSpeaks⟩, ?_⟩
    intro other otherSpeaking
    obtain ⟨otherIn, otherSpeaks⟩ := mem_speakingFor_iff.mp otherSpeaking
    rcases List.mem_append.mp otherIn with inHeld | inBatch
    · exact isNewest.notBefore other (mem_speakingFor_iff.mpr ⟨inHeld, otherSpeaks⟩)
    · apply orderly.not_gt_trans otherIn (List.mem_append_left batch present)
        (List.mem_append_left batch newestHeld) _ (isNewest.notBefore event eventSpeaks)
      rw [later other inBatch]
      decide
  rw [isLast, newestOfAll.newestOf?_settled orderly unequivocal]

/-- An event of a batch is the last of its slot if no other one of the batch and none that was held
speaks for the slot. -/
theorem newestOf?_settled_append_of_silent
    (orderly : Orderly (held ++ batch))
    (unequivocal : Unequivocal (held ++ batch))
    (silent : speakingFor slot held = [])
    (present : event ∈ batch)
    (speaks : event.slot? = some slot)
    (alone : ∀ other ∈ batch, other.slot? = some slot → other = event) :
    newestOf? slot (settled (held ++ batch)) = some event := by
  apply IsNewest.newestOf?_settled _ orderly unequivocal
  refine ⟨mem_speakingFor_iff.mpr ⟨List.mem_append_right held present, speaks⟩, ?_⟩
  intro other otherSpeaking
  obtain ⟨otherIn, otherSpeaks⟩ := mem_speakingFor_iff.mp otherSpeaking
  rcases List.mem_append.mp otherIn with inHeld | inBatch
  · have inSilence := mem_speakingFor_iff.mpr ⟨inHeld, otherSpeaks⟩
    rw [silent] at inSilence
    cases inSilence
  · rw [alone other inBatch otherSpeaks, order_self]
    decide

/-- State events use none of the budget. -/
theorem Orderly.budgetUse_settled_append_le
    (orderly : Orderly (held ++ batch))
    (allState : ∀ event ∈ batch, event.isState = true) :
    budgetUse (settled (held ++ batch)) ≤ budgetUse held := by
  have merged := orderly.settled_firstCopies.ascending.nodup
  have within : chatter (settled (held ++ batch)) ⊆ chatter held := by
    intro event present
    obtain ⟨inMerged, talks⟩ := List.mem_filter.mp present
    rcases List.mem_append.mp (settled_subset _ inMerged) with inHeld | inBatch
    · exact List.mem_filter.mpr ⟨inHeld, talks⟩
    · rw [allState event inBatch] at talks
      cases talks
  rw [← length_chatter, ← length_chatter]
  exact ((merged.filter _).subperm within).length_le

end

end Event

namespace Timeline

/-- An insertion of state events gives up nothing. -/
theorem KeptFrom.applyTo_state
    {timeline : Timeline}
    {insertion : Insertion}
    (kept : timeline.KeptFrom timeline.events)
    (orderly : Event.Orderly (timeline.events ++ insertion.entering timeline.room))
    (allState : ∀ event ∈ insertion.batch, event.isState = true) :
    (insertion.applyTo timeline).2.events =
        settled (timeline.events ++ insertion.entering timeline.room) ∧
      (insertion.applyTo timeline).1.trimmed = 0 := by
  have enterAsState : ∀ event ∈ insertion.entering timeline.room, event.isState = true := by
    intro event present
    obtain ⟨given, givenIn, rfl⟩ := List.mem_map.mp present
    exact allState given givenIn
  have whole : (insertion.applyTo timeline).2.events =
      settled (timeline.events ++ insertion.entering timeline.room) := by
    rw [kept.applyTo_events orderly, restoreBudget_of_within]
    intro bounded
    exact (orderly.budgetUse_settled_append_le enterAsState).trans (kept.withinBudget bounded)
  have balance := (timeline.applyTo_balance insertion).1
  have merged := length_settled_append orderly kept.settles
  rw [(applyTo_counts orderly kept.settles).1, ← merged, ← whole] at balance
  exact ⟨whole, Nat.add_eq_left.mp balance⟩

/-- What is reached with some contents is reached with more. -/
theorem Reached.mono
    {given more : Json → Prop}
    {timeline : Timeline}
    (reached : timeline.Reached given)
    (within : ∀ content, given content → more content) :
    timeline.Reached more := by
  induction reached with
  | empty tag policy room => exact .empty tag policy room
  | applyTo reached insertion gives hypothesis =>
      exact hypothesis.applyTo insertion fun event present => within _ (gives event present)
  | rememberHorizon reached hypothesis => exact hypothesis.rememberHorizon

/-- Nothing of what a timeline held or of what entered it was replaced or given up. -/
structure Joined (timeline changed : Timeline) (entering : List Event) : Prop where
  settles : Settled timeline.events
  orderly : Event.Orderly (timeline.events ++ entering)
  unequivocal : Event.Unequivocal (timeline.events ++ entering)
  events : changed.events = settled (timeline.events ++ entering)

section

variable {timeline changed : Timeline} {entering : List Event} {event : Event} {type key : String}

theorem Joined.mem_iff (joined : timeline.Joined changed entering) (event : Event) :
    event ∈ changed.events ↔ event ∈ timeline.events ∨ event ∈ entering := by
  rw [joined.events, joined.unequivocal.mem_settled_iff joined.orderly, List.mem_append]

/-- A slot is left as it was if an event speaks for it that comes after all that entered. -/
theorem Joined.ofTimeline_of_later
    (joined : timeline.Joined changed entering)
    (present : event ∈ timeline.events)
    (speaks : event.slot? = some ⟨type, key⟩)
    (later : ∀ other ∈ entering, other.order event = .lt) :
    (CurrentState.ofTimeline changed type)[key]? =
      (CurrentState.ofTimeline timeline type)[key]? := by
  rw [CurrentState.ofTimeline_getElem?, CurrentState.ofTimeline_getElem?, joined.events,
    Event.newestOf?_settled_append_of_later joined.orderly joined.unequivocal
      joined.settles.ascending present speaks later]

/-- A slot that was silent is given to the only event that enters for it. -/
theorem Joined.ofTimeline_of_silent
    (joined : timeline.Joined changed entering)
    (silent : speakingFor ⟨type, key⟩ timeline.events = [])
    (present : event ∈ entering)
    (speaks : event.slot? = some ⟨type, key⟩)
    (alone : ∀ other ∈ entering, other.slot? = some ⟨type, key⟩ → other = event) :
    (CurrentState.ofTimeline changed type)[key]? = some event := by
  rw [CurrentState.ofTimeline_getElem?, joined.events,
    Event.newestOf?_settled_append_of_silent joined.orderly joined.unequivocal silent present
      speaks alone, Option.some_or]

end

section

variable
  {given : Json → Prop}
  {timeline : Timeline}
  {entry : DirectoryEntry}
  {arrival : Arrival}

/-- Placeholders whose ids are new join what is held. -/
theorem Reached.joined_placeholders
    (reached : timeline.Reached given)
    (told : Json.ToldByTexts given)
    (fresh : ∀ event ∈ entry.placeholders, timeline.holds event.id = false)
    (arrival : Arrival)
    (clock : Timestamp) :
    (timeline.insert arrival clock entry.placeholders).1.failed = false ∧
    (timeline.insert arrival clock entry.placeholders).1.trimmed = 0 ∧
    timeline.Joined (timeline.insert arrival clock entry.placeholders).2
      (timeline.completeBatch arrival entry.placeholders) := by
  let insertion : Insertion := .arriving arrival clock entry.placeholders
  have toldAll := told.or_verbal
  have keeps := (reached.mono fun _ => Or.inl).keeps toldAll
  have orderly : Event.Orderly (timeline.events ++ insertion.entering timeline.room) :=
    keeps.orderly toldAll fun _ present => Or.inr (DirectoryEntry.verbal_of_placeholder present)
  have settles := keeps.kept.settles
  have unequivocal : Event.Unequivocal (timeline.events ++ insertion.entering timeline.room) :=
    unequivocal_entering settles entry.nodup_ids fresh
  obtain ⟨events, noneTrimmed⟩ := keeps.kept.applyTo_state orderly
    fun _ present => DirectoryEntry.isState_of_placeholder present
  exact ⟨(applyTo_of_orderly orderly settles).1, noneTrimmed, settles, orderly, unequivocal,
    events⟩

/-- A placeholder enters with the time zero. -/
theorem sentAt_of_mem_completeBatch
    {event : Event}
    (present : event ∈ timeline.completeBatch arrival entry.placeholders) :
    event.sentAt = some 0 := by
  obtain ⟨placeholder, placeholderIn, rfl⟩ := List.mem_map.mp present
  rw [Event.complete_sentAt, DirectoryEntry.sentAt_of_placeholder placeholderIn]
  rfl

/-- No two placeholders that enter share a slot. -/
theorem eq_of_slot_of_mem_completeBatch
    {left right : Event}
    (leftIn : left ∈ timeline.completeBatch arrival entry.placeholders)
    (rightIn : right ∈ timeline.completeBatch arrival entry.placeholders)
    (same : left.slot? = right.slot?) :
    left = right := by
  obtain ⟨leftPlaceholder, leftPlaceholderIn, rfl⟩ := List.mem_map.mp leftIn
  obtain ⟨rightPlaceholder, rightPlaceholderIn, rfl⟩ := List.mem_map.mp rightIn
  rw [DirectoryEntry.eq_of_slot leftPlaceholderIn rightPlaceholderIn same]

end

/-- The placeholders of an entry never stand in for what is known.  If none of their ids is held,
nothing is given up for them, all that was held stays and all of them are added; a slot for which
an event of a positive time speaks has the same current event as before, and a slot for which no
event speaks has the placeholder, completed, as its current event. -/
theorem insert_placeholders_yields
    {given : Json → Prop}
    {timeline : Timeline}
    (told : Json.ToldByTexts given)
    (reached : timeline.Reached given)
    (entry : DirectoryEntry)
    (fresh : ∀ event ∈ entry.placeholders, timeline.holds event.id = false)
    (arrival : Arrival)
    (clock : Timestamp) :
    let outcome := (timeline.insert arrival clock entry.placeholders).1
    let changed := (timeline.insert arrival clock entry.placeholders).2
    outcome.failed = false ∧ outcome.trimmed = 0 ∧
    (∀ event, event ∈ changed.events ↔
      event ∈ timeline.events ∨ event ∈ timeline.completeBatch arrival entry.placeholders) ∧
    (∀ type key,
      (∃ event ∈ timeline.events, event.slot? = some ⟨type, key⟩ ∧
        ∃ time, event.sentAt = some time ∧ 0 < time) →
      (CurrentState.ofTimeline changed type)[key]? =
        (CurrentState.ofTimeline timeline type)[key]?) ∧
    ∀ placeholder ∈ entry.placeholders, ∀ type key,
      placeholder.slot? = some ⟨type, key⟩ →
      (∀ event ∈ timeline.events, event.slot? ≠ some ⟨type, key⟩) →
      (CurrentState.ofTimeline changed type)[key]? =
        some (placeholder.complete (arrival.orRoom timeline.room)) := by
  intro outcome changed
  obtain ⟨succeeds, noneTrimmed, joined⟩ := reached.joined_placeholders told fresh arrival clock
  refine ⟨succeeds, noneTrimmed, joined.mem_iff, ?_, ?_⟩
  · rintro type key ⟨event, present, speaks, time, sentAt, positive⟩
    apply joined.ofTimeline_of_later present speaks
    intro other entered
    exact Event.order_of_earlier (sentAt_of_mem_completeBatch entered) sentAt positive
  · intro placeholder placeholderIn type key speaks silent
    have entered : placeholder.complete (arrival.orRoom timeline.room) ∈
        timeline.completeBatch arrival entry.placeholders :=
      List.mem_map_of_mem placeholderIn
    apply joined.ofTimeline_of_silent _ entered speaks
    · intro other otherEntered otherSpeaks
      exact eq_of_slot_of_mem_completeBatch otherEntered entered (otherSpeaks.trans speaks.symm)
    · apply List.filter_eq_nil_iff.mpr
      intro event present
      rw [beq_iff_eq]
      exact silent event present

/-- What a directory shows of a room. -/
def listedRoom : DirectoryEntry where
  room := some "!r:x"
  name := some "From directory"
  topic := some "A den"
  canonicalAlias := none
  worldReadable := true
  guestCanJoin := false
  joinedMembers := 3
  aliases := ["#a:x", "#b:x", "#c:y", "den"]

/-- More messages than the budget allows, and the name of their room. -/
def namingRun : List Insertion := [
  .plain 9 100 [
    { Event.bare "$a" "m.room.message" with sentAt := some (-20) },
    { Event.bare "$b" "m.room.message" with sentAt := some 30 },
    { Event.bare "$c" "m.room.message" with sentAt := some 40 },
    { Event.state "$n" ⟨"m.room.name", ""⟩ (CurrentState.textMember "name" "den") with
      sentAt := some 10 }]]

theorem insert_placeholders_yields_listedRoom :
    let timeline := (empty 1 ⟨2, true⟩ (some "!r:x")).insertAll namingRun
    let changed := (timeline.insert (.atTime 50) 101 listedRoom.placeholders).2
    (timeline.insert (.atTime 50) 101 listedRoom.placeholders).1.trimmed = 0 ∧
    (CurrentState.ofTimeline changed "m.room.name")[""]? =
      some { Event.state "$n" ⟨"m.room.name", ""⟩ (CurrentState.textMember "name" "den") with
        room := some "!r:x", sentAt := some 10 } ∧
    (CurrentState.ofTimeline changed "m.room.aliases")["x"]? =
      some { Event.state "$summary/m.room.aliases/x" ⟨"m.room.aliases", "x"⟩
          (DirectoryEntry.aliasContent ["#a:x", "#b:x"]) with
        room := some "!r:x", sentAt := some 0 } := by
  intro timeline changed
  have told : Json.ToldByTexts (Event.GivenBy (Insertion.offered namingRun ++ [])) :=
    Event.TextsTellContents.toldByTexts (by decide)
  have reached : timeline.Reached (Event.GivenBy (Insertion.offered namingRun ++ [])) :=
    reached_run 1 ⟨2, true⟩ (some "!r:x") namingRun []
  obtain ⟨-, noneTrimmed, -, unchanged, given⟩ :=
    insert_placeholders_yields told reached listedRoom (by decide +kernel) (.atTime 50) 101
  refine ⟨noneTrimmed, ?_, ?_⟩
  · rw [unchanged "m.room.name" "" (by decide +kernel)]
    decide +kernel
  · have third : listedRoom.placeholders[2]? = some (listedRoom.standIn ⟨"m.room.aliases", "x"⟩
        (DirectoryEntry.aliasContent ["#a:x", "#b:x"])) := by
      decide +kernel
    rw [given _ (List.mem_of_getElem? third) "m.room.aliases" "x" rfl (by decide +kernel)]
    decide +kernel

end Timeline

end RoomHistory
