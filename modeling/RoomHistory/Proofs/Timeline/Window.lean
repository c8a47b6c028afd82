import Mathlib.Data.List.DropRight
import RoomHistory.Directory.Entry
import RoomHistory.Proofs.CurrentState.Freshness
import RoomHistory.Proofs.Timeline.Confluence

/-!
# A bounded timeline is a window

Two timelines take the same batches, one of them without a budget.  As long as the bounded one only
loses events by growing toward the present, it holds the newest event of every slot and the newest
events that are not state events, as many as its budget allows.  Both are the newest events that
pass some filter, and what makes the step go through is that an event is among the newest of a
larger list only if it is among the newest of a smaller list that holds it.
-/

namespace RoomHistory

section

variable {α : Type} {fewer items : List α} {item : α} {count : Nat}

theorem mem_take_of_sublist
    (sublist : fewer.Sublist items)
    (nodup : items.Nodup)
    (present : item ∈ fewer)
    (early : item ∈ items.take count) :
    item ∈ fewer.take count := by
  induction sublist generalizing count with
  | slnil => exact absurd present List.not_mem_nil
  | cons first sublist hypothesis =>
      obtain ⟨once, restNodup⟩ := List.nodup_cons.mp nodup
      cases count with
      | zero => exact absurd early List.not_mem_nil
      | succ count =>
          rcases List.mem_cons.mp early with rfl | inRest
          · exact absurd (sublist.subset present) once
          · exact (List.take_sublist_take_left (Nat.le_succ count)).subset
              (hypothesis restNodup present inRest)
  | cons_cons first sublist hypothesis =>
      obtain ⟨once, restNodup⟩ := List.nodup_cons.mp nodup
      cases count with
      | zero => exact absurd early List.not_mem_nil
      | succ count =>
          rcases List.mem_cons.mp early with rfl | inRest
          · exact List.mem_cons_self
          · rcases List.mem_cons.mp present with rfl | inFewer
            · exact absurd (List.mem_of_mem_take inRest) once
            · exact List.mem_cons_of_mem first (hypothesis restNodup inFewer inRest)

theorem take_eq_of_sublist
    (sublist : fewer.Sublist items)
    (nodup : items.Nodup)
    (kept : items.take count ⊆ fewer) :
    fewer.take count = items.take count := by
  induction sublist generalizing count with
  | slnil => rfl
  | cons first sublist hypothesis =>
      obtain ⟨once, restNodup⟩ := List.nodup_cons.mp nodup
      cases count with
      | zero => rfl
      | succ count => exact absurd (sublist.subset (kept List.mem_cons_self)) once
  | cons_cons first sublist hypothesis =>
      obtain ⟨once, restNodup⟩ := List.nodup_cons.mp nodup
      cases count with
      | zero => rfl
      | succ count =>
          rw [List.take_succ_cons, List.take_succ_cons]
          congr 1
          apply hypothesis restNodup
          intro item inRest
          rcases List.mem_cons.mp (kept (List.mem_cons_of_mem first inRest)) with rfl | inFewer
          · exact absurd (List.mem_of_mem_take inRest) once
          · exact inFewer

/-- An event of a smaller list that is among the newest of a larger one is among the newest of the
smaller one. -/
theorem mem_rtake_of_sublist
    (sublist : fewer.Sublist items)
    (nodup : items.Nodup)
    (present : item ∈ fewer)
    (late : item ∈ items.rtake count) :
    item ∈ fewer.rtake count := by
  rw [List.rtake_eq_reverse_take_reverse, List.mem_reverse] at late ⊢
  exact mem_take_of_sublist (List.reverse_sublist.mpr sublist) (List.nodup_reverse.mpr nodup)
    (List.mem_reverse.mpr present) late

/-- A smaller list that holds the newest of a larger one has the same newest. -/
theorem rtake_eq_of_sublist
    (sublist : fewer.Sublist items)
    (nodup : items.Nodup)
    (kept : items.rtake count ⊆ fewer) :
    fewer.rtake count = items.rtake count := by
  rw [List.rtake_eq_reverse_take_reverse] at kept ⊢
  rw [List.rtake_eq_reverse_take_reverse]
  congr 1
  apply take_eq_of_sublist (List.reverse_sublist.mpr sublist) (List.nodup_reverse.mpr nodup)
  intro item late
  exact List.mem_reverse.mpr (kept (List.mem_reverse.mpr late))

theorem rtake_one (items : List α) : items.rtake 1 = items.getLast?.toList := by
  induction items using List.reverseRecOn with
  | nil => rfl
  | append_singleton items last => simp

theorem rtake_rtake (items : List α) (count : Nat) :
    (items.rtake count).rtake count = items.rtake count := by
  rw [List.rtake_eq_reverse_take_reverse, List.rtake_eq_reverse_take_reverse, List.reverse_reverse,
    List.take_take, Nat.min_self]

end

namespace Event

/-- Events that share an id are the same. -/
def Unequivocal (events : List Event) : Prop :=
  ∀ left ∈ events, ∀ right ∈ events, left.hasId = true → left.id = right.id → left = right

instance (events : List Event) : Decidable (Unequivocal events) := by
  unfold Unequivocal
  infer_instance

theorem Unequivocal.subset
    {events fewer : List Event}
    (unequivocal : Unequivocal events)
    (subset : fewer ⊆ events) :
    Unequivocal fewer :=
  fun left leftIn right rightIn => unequivocal left (subset leftIn) right (subset rightIn)

/-- A merge leaves every event if those that share an id are the same. -/
theorem Unequivocal.mem_settled_iff
    {events : List Event}
    (unequivocal : Unequivocal events)
    (orderly : Orderly events)
    (event : Event) :
    event ∈ settled events ↔ event ∈ events := by
  rw [orderly.mem_settled_iff]
  refine ⟨fun kept => kept.1, fun present => ⟨present, ?_⟩⟩
  intro copy copyIn same
  have identical : copy = event := by
    rcases (identity_eq_iff copy event).mp same with ⟨named, sameId⟩ | identical
    · exact unequivocal copy copyIn event present named sameId
    · exact identical
  rw [identical, order_self]
  decide

/-- Of two ascending lists the one with fewer events is a sublist of the other. -/
theorem Ascending.sublist_of_subset
    {fewer events : List Event}
    (fewerAscending : Ascending fewer)
    (ascending : Ascending events)
    (orderly : Orderly events)
    (subset : fewer ⊆ events) :
    fewer.Sublist events := by
  classical
  have same : fewer = events.filter fun event => decide (event ∈ fewer) := by
    apply fewerAscending.eq_of_mem_iff (ascending.sublist List.filter_sublist) orderly subset
    intro event
    simp only [List.mem_filter, decide_eq_true_eq]
    exact ⟨fun present => ⟨subset present, present⟩, fun present => present.2⟩
  rw [same]
  exact List.filter_sublist

/-- What a merge leaves of fewer events stands in what it leaves of all. -/
theorem Unequivocal.settled_sublist
    {events fewer : List Event}
    (unequivocal : Unequivocal events)
    (orderly : Orderly events)
    (subset : fewer ⊆ events) :
    (settled fewer).Sublist (settled events) := by
  have fewerAscending := (orderly.subset subset).settled_firstCopies.ascending
  apply fewerAscending.sublist_of_subset orderly.settled_firstCopies.ascending
    (orderly.subset (settled_subset events))
  intro event present
  rw [unequivocal.mem_settled_iff orderly]
  exact subset (settled_subset fewer present)

section

variable {source held batch : List Event}

/-- If two lists, one of them within the other, have the same newest events that pass a filter,
they have the same after a batch is merged with both. -/
theorem Orderly.rtake_filter_settled_append
    {passes : Event → Bool}
    {count : Nat}
    (orderly : Orderly (source ++ batch))
    (unequivocal : Unequivocal (source ++ batch))
    (subset : held ⊆ settled source)
    (recent : (held.filter passes).rtake count = ((settled source).filter passes).rtake count) :
    ((settled (held ++ batch)).filter passes).rtake count =
      ((settled (source ++ batch)).filter passes).rtake count := by
  have fromSource : source ⊆ source ++ batch := List.subset_append_left _ _
  have within : held ++ batch ⊆ source ++ batch :=
    append_subset_append batch fun event present => settled_subset source (subset present)
  have partSublist := unequivocal.settled_sublist orderly within
  have oldSublist := unequivocal.settled_sublist orderly fromSource
  have nodup : ((settled (source ++ batch)).filter passes).Nodup :=
    orderly.settled_firstCopies.ascending.nodup.filter passes
  have memWhole := unequivocal.mem_settled_iff orderly
  have memPart := (unequivocal.subset within).mem_settled_iff (orderly.subset within)
  have memOld := (unequivocal.subset fromSource).mem_settled_iff (orderly.subset fromSource)
  apply rtake_eq_of_sublist (partSublist.filter passes) nodup
  intro event late
  obtain ⟨present, passing⟩ := List.mem_filter.mp (List.mem_of_mem_drop late)
  rw [List.mem_filter, memPart]
  refine ⟨?_, passing⟩
  rcases List.mem_append.mp ((memWhole event).mp present) with inSource | inBatch
  · -- among the newest of all it is among the newest of the source, and so it is held
    have inOld : event ∈ (settled source).filter passes :=
      List.mem_filter.mpr ⟨(memOld event).mpr inSource, passing⟩
    have lateInOld := mem_rtake_of_sublist (oldSublist.filter passes) nodup inOld late
    rw [← recent] at lateInOld
    have inHeld := (List.mem_filter.mp (List.mem_of_mem_drop lateInOld)).1
    exact List.mem_append_left batch inHeld
  · exact List.mem_append_right held inBatch

end

end Event

/-- Held events are a window of all events: they have the same newest event in every slot and the
same newest events that are not state events. -/
structure Window (limit : Nat) (whole held : List Event) : Prop where
  subset : held ⊆ whole
  newest : ∀ slot, newestOf? slot held = newestOf? slot whole
  recent : (chatter held).rtake limit = (chatter whole).rtake limit

namespace Window

variable {limit : Nat} {whole source held batch : List Event}

theorem merge
    (window : Window limit (settled source) held)
    (orderly : Event.Orderly (source ++ batch))
    (unequivocal : Event.Unequivocal (source ++ batch)) :
    Window limit (settled (source ++ batch)) (settled (held ++ batch)) where
  subset := by
    intro event present
    rw [unequivocal.mem_settled_iff orderly]
    apply append_subset_append batch (settled_subset source)
    apply append_subset_append batch window.subset
    exact settled_subset _ present
  newest slot := by
    have recent : (held.filter fun event => event.slot? == some slot).rtake 1 =
        ((settled source).filter fun event => event.slot? == some slot).rtake 1 := by
      rw [rtake_one, rtake_one]
      exact congrArg Option.toList (window.newest slot)
    have merged := orderly.rtake_filter_settled_append unequivocal window.subset recent
    rw [rtake_one, rtake_one] at merged
    have last := congrArg List.head? merged
    rw [Option.head?_toList, Option.head?_toList] at last
    exact last
  recent := orderly.rtake_filter_settled_append unequivocal window.subset window.recent

/-- Growth toward the present leaves a window. -/
theorem restoreBudget
    (window : Window limit whole held)
    (bounded : 0 < limit) :
    Window limit whole (RoomHistory.restoreBudget limit .forward held) where
  subset event present := window.subset ((restoreBudget_sublist limit .forward held).subset present)
  newest slot := by
    rw [newestOf?_restoreBudget_forward, window.newest]
  recent := by
    rw [chatter_restoreBudget_forward bounded, ← List.rtake, rtake_rtake, window.recent]

end Window

namespace Timeline

/-- An insertion that loses nothing by growth into history leaves a window. -/
theorem applyTo_window
    {limit : Nat}
    {source : List Event}
    {room : Option RoomId}
    {timeline : Timeline}
    {insertion : Insertion}
    (kept : timeline.KeptFrom source)
    (limited : timeline.policy.limit = limit)
    (inRoom : timeline.room = room)
    (bounded : 0 < limit)
    (window : Window limit (settled source) timeline.events)
    (orderly : Event.Orderly (source ++ insertion.entering room))
    (unequivocal : Event.Unequivocal (source ++ insertion.entering room))
    (keeps : (insertion.applyTo timeline).1.direction = some .backward →
      (insertion.applyTo timeline).1.trimmed = 0) :
    Window limit (settled (source ++ insertion.entering room))
      (insertion.applyTo timeline).2.events := by
  subst limited inRoom
  have merged := window.merge orderly unequivocal
  have arriving := kept.orderly orderly
  rcases (applyTo_of_orderly arriving kept.settles).2 with
    ⟨nothing, same⟩ | ⟨direction, changed, -⟩
  · rw [same, nothing, List.append_nil]
    exact window
  · cases grows : timeline.growth insertion with
    | forward =>
        rw [changed, grows]
        exact merged.restoreBudget bounded
    | backward =>
        rw [grows] at direction
        rw [applyTo_events_of_untrimmed arriving kept.settles (keeps direction)]
        exact merged

/-- A run that loses nothing by growth into history leaves a window. -/
theorem insertAll_keeps_window
    (tag : TimelineTag)
    {policy : TimelinePolicy}
    {room : Option RoomId}
    {insertions done : List Insertion}
    (bounded : 0 < policy.limit)
    (orderly : Event.Orderly (Insertion.allEntering room insertions))
    (unequivocal : Event.Unequivocal (Insertion.allEntering room insertions))
    (keeps : ∀ outcome ∈ (empty tag policy room).outcomes insertions,
      outcome.direction = some .backward → outcome.trimmed = 0)
    (reached : done <+: insertions) :
    Window policy.limit (settled (Insertion.allEntering room done))
      ((empty tag policy room).insertAll done).events := by
  have nothing : Window policy.limit (settled []) [] :=
    ⟨List.Subset.refl [], fun slot => rfl, rfl⟩
  refine insertAll_induction (motive := fun done timeline =>
    Window policy.limit (settled (Insertion.allEntering room done)) timeline.events)
    nothing ?_ reached
  intro done insertion further window
  have kept := keptFrom_insertAll tag policy orderly
    ((List.prefix_append done [insertion]).trans further)
  have entered := Insertion.allEntering_subset further room
  rw [Insertion.allEntering_concat] at entered ⊢
  have limited : ((empty tag policy room).insertAll done).policy.limit = policy.limit := by
    rw [insertAll_policy]
    rfl
  apply applyTo_window kept limited (insertAll_room _ done) bounded window
    (orderly.subset entered) (unequivocal.subset entered)
  apply keeps
  exact (mem_outcomes_iff _ _ _).mpr ⟨done, insertion, further, rfl⟩

/-- After every insertion of a run that loses nothing by growth into history, a bounded timeline
has the current state of the one without a budget, and of the events that are not state events it
holds the newest. -/
theorem insertAll_window
    (heldTag wholeTag : TimelineTag)
    (heldPolicy wholePolicy : TimelinePolicy)
    (room : Option RoomId)
    (insertions : List Insertion)
    (bounded : 0 < heldPolicy.limit)
    (unlimited : wholePolicy.limit = 0)
    (texts : Event.TextsTellContents (Insertion.offered insertions))
    (unequivocal : Event.Unequivocal (Insertion.allEntering room insertions))
    (keeps : ∀ outcome ∈ (empty heldTag heldPolicy room).outcomes insertions,
      outcome.direction = some .backward → outcome.trimmed = 0)
    (done : List Insertion)
    (reached : done <+: insertions) :
    let held := (empty heldTag heldPolicy room).insertAll done
    let whole := (empty wholeTag wholePolicy room).insertAll done
    (∀ type, CurrentState.ofTimeline held type = CurrentState.ofTimeline whole type) ∧
    (∀ heldMemo wholeMemo : StateMemo, heldMemo.Faithful held → wholeMemo.Faithful whole →
      (heldMemo.directoryEntry held).1 = (wholeMemo.directoryEntry whole).1) ∧
    chatter held.events = (chatter whole.events).rtake heldPolicy.limit := by
  intro held whole
  have orderly := Insertion.orderly_allEntering texts room
  have kept : held.KeptFrom (Insertion.allEntering room done) :=
    keptFrom_insertAll heldTag heldPolicy orderly reached
  have window : Window heldPolicy.limit whole.events held.events := by
    have wholeEvents : whole.events = settled (Insertion.allEntering room done) :=
      events_insertAll_of_unlimited wholeTag unlimited orderly reached
    rw [wholeEvents]
    exact insertAll_keeps_window heldTag bounded orderly unequivocal keeps reached
  have sameState : CurrentState.ofTimeline held = CurrentState.ofTimeline whole := by
    funext type
    apply CurrentState.ofTimeline_congr
    exact fun key => window.newest ⟨type, key⟩
  refine ⟨congrFun sameState, ?_, ?_⟩
  · intro heldMemo wholeMemo heldFaithful wholeFaithful
    rw [heldFaithful.directoryEntry_eq, wholeFaithful.directoryEntry_eq, sameState,
      insertAll_room, insertAll_room]
    rfl
  · have withinBudget : (chatter held.events).length ≤ heldPolicy.limit := by
      rw [length_chatter]
      have fits := kept.withinBudget
      rw [insertAll_policy] at fits
      exact fits bounded
    rw [← window.recent, List.rtake, Nat.sub_eq_zero_of_le withinBudget, List.drop_zero]

/-- A run in which a room is renamed and a message comes again after its eviction. -/
def evictionRun : List Insertion := [
  .plain 9 100 [
    { Event.state "$n" ⟨"m.room.name", ""⟩ (.ofMembers [("name", .string "old")]) with
      sentAt := some 10 },
    { Event.bare "$a" "m.room.message" with sentAt := some 20 }],
  .plain 9 101 [
    { Event.state "$o" ⟨"m.room.name", ""⟩ (.ofMembers [("name", .string "new")]) with
      sentAt := some 30 },
    { Event.bare "$b" "m.room.message" with sentAt := some 40 }],
  .plain 9 102 [
    { Event.bare "$a" "m.room.message" with sentAt := some 20 },
    { Event.bare "$c" "m.room.message" with sentAt := some 50 }]]

theorem insertAll_window_evictionRun :
    let held := (empty 1 ⟨1, true⟩ none).insertAll evictionRun
    let whole := (empty 2 ⟨0, true⟩ none).insertAll evictionRun
    (∀ type, CurrentState.ofTimeline held type = CurrentState.ofTimeline whole type) ∧
    (StateMemo.initial.directoryEntry held).1 = (StateMemo.initial.directoryEntry whole).1 ∧
    chatter held.events = (chatter whole.events).rtake 1 := by
  intro held whole
  obtain ⟨sameState, sameEntry, recent⟩ := insertAll_window 1 2 ⟨1, true⟩ ⟨0, true⟩ none
    evictionRun (by decide) rfl (by decide) (by decide) (by decide) evictionRun
    (List.prefix_refl evictionRun)
  have heldFaithful := (StateMemo.vouches_initial held).faithful
  have wholeFaithful := (StateMemo.vouches_initial whole).faithful
  exact ⟨sameState, sameEntry _ _ heldFaithful wholeFaithful, recent⟩

end Timeline

end RoomHistory
