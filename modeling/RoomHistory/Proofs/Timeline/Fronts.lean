import RoomHistory.Proofs.CurrentState.Freshness
import RoomHistory.Proofs.Timeline.Keeping
import RoomHistory.Proofs.Timeline.Survivors

/-!
# What the front of a timeline holds

Before the horizon stands the state that outlived the events around it.  A timeline that grows
toward the present lets the state events that stood behind the evicted ones join this front, where
each takes the place of older events of its slot.  So of a slot that one of them speaks for the
front holds the newest alone.  Of any other slot it holds what it held before: state events that
arrive side by side, with nothing between them to be evicted, never join and supersede nothing.
-/

namespace RoomHistory

/-- No two events of a list speak for one slot. -/
def OnePerSlot (events : List Event) : Prop :=
  events.Pairwise fun older newer => older.sharesSlot newer = false

instance (events : List Event) : Decidable (OnePerSlot events) := by
  unfold OnePerSlot
  infer_instance

/-- The state events that join the front when a budget is restored at the oldest end: those between
the horizon and the cut. -/
def joiningFront (limit : Nat) (events : List Event) : List Event :=
  ((events.take (chatterPlace events (budgetUse events - limit))).drop (horizonOf events)).filter
    (·.isState)

/-- No two events speak for one slot exactly if every slot has at most one event. -/
theorem onePerSlot_iff (events : List Event) :
    OnePerSlot events ↔ ∀ slot, (speakingFor slot events).length ≤ 1 := by
  induction events with
  | nil => simp [OnePerSlot, speakingFor]
  | cons event rest hypothesis =>
      rw [OnePerSlot, List.pairwise_cons, ← OnePerSlot, hypothesis]
      constructor
      · rintro ⟨unshared, single⟩ slot
        rw [speakingFor_cons]
        split
        next speaks =>
          have nobodyElse : speakingFor slot rest = [] := by
            apply List.eq_nil_iff_forall_not_mem.mpr
            intro other present
            obtain ⟨otherIn, otherSpeaks⟩ := mem_speakingFor_iff.mp present
            have shared : event.sharesSlot other = true :=
              (Event.sharesSlot_iff event other).mpr ⟨slot, speaks, otherSpeaks⟩
            rw [unshared other otherIn] at shared
            cases shared
          rw [nobodyElse]
          exact Nat.le_refl 1
        next => exact single slot
      · intro single
        constructor
        · intro other otherIn
          rw [← Bool.not_eq_true, Event.sharesSlot_iff]
          rintro ⟨slot, speaks, otherSpeaks⟩
          have twice := single slot
          rw [speakingFor_cons, if_pos speaks, List.length_cons] at twice
          have present := List.length_pos_of_mem (mem_speakingFor_iff.mpr ⟨otherIn, otherSpeaks⟩)
          omega
        · intro slot
          apply Nat.le_trans _ (single slot)
          rw [speakingFor_cons]
          split
          · exact Nat.le_succ _
          · exact Nat.le_refl _

/-- Restoring a budget at the oldest end leaves before the horizon the front that was there, joined
by the state events between it and the cut. -/
theorem take_horizonOf_restoreBudget_forward
    {limit : Nat}
    (bounded : 0 < limit)
    (events : List Event) :
    (restoreBudget limit .forward events).take (horizonOf (restoreBudget limit .forward events)) =
      (joiningFront limit events).foldl absorb (events.take (horizonOf events)) := by
  obtain ⟨older, later, rfl, usedOlder, laterTalks⟩ :=
    exists_talking (Nat.sub_le (budgetUse events) limit)
  obtain ⟨front, middle, rfl, usedFront, talks⟩ := exists_talking (Nat.zero_le (budgetUse older))
  have frontState := budgetUse_eq_zero_iff.mp usedFront
  have usedMiddle : budgetUse middle = budgetUse (front ++ middle ++ later) - limit := by
    rw [← usedOlder, budgetUse_append front middle, usedFront, Nat.zero_add]
  have horizon : horizonOf (front ++ middle ++ later) = front.length := by
    rw [List.append_assoc]
    exact horizonOf_append frontState (talks.append laterTalks)
  have joining : joiningFront limit (front ++ middle ++ later) = middle.filter (·.isState) := by
    rw [joiningFront, ← usedOlder, chatterPlace_append (front ++ middle) laterTalks, horizon,
      List.take_left, List.drop_left]
  have joined : ∀ event ∈ (middle.filter (·.isState)).foldl absorb front,
      event.isState = true :=
    foldl_absorb_allState frontState fun event present => (List.mem_filter.mp present).2
  have kept : restoreBudget limit .forward (front ++ middle ++ later) =
      (middle.filter (·.isState)).foldl absorb front ++ later := by
    rw [restoreBudget_of_pos bounded, ← usedMiddle, List.append_assoc]
    exact evictOldest_append frontState talks laterTalks
  rw [kept, horizonOf_append joined laterTalks, List.take_left, joining, horizon,
    List.append_assoc, List.take_left]

namespace Timeline

/-- An insertion with a direction has merged its events and restored the budget. -/
theorem exists_merged_of_direction
    {timeline : Timeline}
    {arrival : Arrival}
    {clock : Timestamp}
    {batch : List Event}
    {direction : Direction}
    (grows : (timeline.insert arrival clock batch).1.direction = some direction) :
    ∃ arranged merged,
      timeline.merged? (timeline.completeBatch arrival batch) = some (arranged, merged) ∧
      (timeline.insert arrival clock batch).2.events =
        restoreBudget timeline.policy.limit direction merged := by
  rcases timeline.insert_cases arrival clock batch with
    ⟨-, idle⟩ | ⟨-, failure⟩ | ⟨arranged, merged, success, -, accepts⟩
  · rw [idle] at grows
    cases grows
  · rw [failure] at grows
    cases grows
  · rw [accepts] at grows ⊢
    obtain rfl := Option.some.inj grows
    exact ⟨arranged, merged, success, rfl⟩

/-- The horizon that a reached timeline remembers is right. -/
theorem Reached.vouchesHorizon
    {given : Json → Prop}
    {timeline : Timeline}
    (reached : timeline.Reached given) :
    timeline.VouchesHorizon := by
  induction reached with
  | empty tag policy room =>
      intro generation place remembered
      cases remembered
  | applyTo reached insertion gives vouches => exact vouches.applyTo insertion
  | rememberHorizon reached vouches => exact vouches.rememberHorizon

/-- After growth toward the present the front of a timeline holds, of a slot that an event which
joined it speaks for, the newest of these alone, and of any other slot what stood before the horizon
of the merge.  So no two events of the front speak for one slot exactly if none did before the
horizon of the merge, such slots aside as an event that joined speaks for. -/
theorem insert_supersedes
    {given : Json → Prop}
    {timeline : Timeline}
    {arrival : Arrival}
    {clock : Timestamp}
    {batch : List Event}
    (reached : timeline.Reached given)
    (bounded : 0 < timeline.policy.limit)
    (grows : (timeline.insert arrival clock batch).1.direction = some .forward) :
    let changed := (timeline.insert arrival clock batch).2
    let kept := changed.events.take changed.horizon
    ∃ arranged merged,
      timeline.merged? (timeline.completeBatch arrival batch) = some (arranged, merged) ∧
      let front := merged.take (horizonOf merged)
      let joined := joiningFront timeline.policy.limit merged
      (∀ slot, speakingFor slot kept =
        match newestOf? slot joined with
        | some newest => [newest]
        | none => speakingFor slot front) ∧
      (OnePerSlot kept ↔
        ∀ slot, newestOf? slot joined = none → (speakingFor slot front).length ≤ 1) := by
  intro changed kept
  obtain ⟨arranged, merged, success, events⟩ := exists_merged_of_direction grows
  have horizon : changed.horizon = horizonOf changed.events :=
    (reached.vouchesHorizon.applyTo (.arriving arrival clock batch)).horizon_eq
  have keeps : kept = (joiningFront timeline.policy.limit merged).foldl absorb
      (merged.take (horizonOf merged)) := by
    show changed.events.take changed.horizon = _
    rw [horizon, events]
    exact take_horizonOf_restoreBudget_forward bounded merged
  have perSlot : ∀ slot, speakingFor slot kept =
      match newestOf? slot (joiningFront timeline.policy.limit merged) with
      | some newest => [newest]
      | none => speakingFor slot (merged.take (horizonOf merged)) := by
    intro slot
    rw [keeps]
    exact speakingFor_foldl_absorb slot _ _
  refine ⟨arranged, merged, success, perSlot, ?_⟩
  rw [onePerSlot_iff]
  apply forall_congr'
  intro slot
  rw [perSlot]
  cases newestOf? slot (joiningFront timeline.policy.limit merged) with
  | some newest => simp
  | none => simp

/-- A room that was named twice before anybody spoke, and a member who leaves while they talk. -/
def renamedRoom : List Event := [
  { Event.state "$den" ⟨"m.room.name", ""⟩ (.ofMembers [("name", .string "den")]) with
    sentAt := some 1 },
  { Event.state "$fox" ⟨"m.room.name", ""⟩ (.ofMembers [("name", .string "fox")]) with
    sentAt := some 2 },
  { Event.state "$in" ⟨Event.memberType, "@a:x"⟩ (.ofMembers [("membership", .string "join")]) with
    sentAt := some 3 },
  { Event.bare "$one" "m.room.message" with sentAt := some 4 },
  { Event.state "$out" ⟨Event.memberType, "@a:x"⟩
      (.ofMembers [("membership", .string "leave")]) with
    sentAt := some 5 },
  { Event.bare "$two" "m.room.message" with sentAt := some 6 }]

theorem insert_supersedes_renamedRoom :
    let changed := ((empty 1 ⟨1, true⟩ none).insert (.atTime 9) 100 renamedRoom).2
    (changed.events.take changed.horizon).map (·.id) = ["$den", "$fox", "$out"] ∧
    ∃ arranged merged,
      (empty 1 ⟨1, true⟩ none).merged? ((empty 1 ⟨1, true⟩ none).completeBatch (.atTime 9)
        renamedRoom) = some (arranged, merged) ∧
      speakingFor ⟨Event.memberType, "@a:x"⟩ (changed.events.take changed.horizon) =
        match newestOf? ⟨Event.memberType, "@a:x"⟩ (joiningFront 1 merged) with
        | some newest => [newest]
        | none => speakingFor ⟨Event.memberType, "@a:x"⟩ (merged.take (horizonOf merged)) := by
  obtain ⟨arranged, merged, success, perSlot, -⟩ :=
    insert_supersedes (.empty 1 ⟨1, true⟩ none : Reached (fun _ => True) _) (by decide)
      (by decide : ((empty 1 ⟨1, true⟩ none).insert (.atTime 9) 100 renamedRoom).1.direction =
        some .forward)
  exact ⟨by decide, arranged, merged, success, perSlot ⟨Event.memberType, "@a:x"⟩⟩

/-- The names of the room both stay before the horizon, although a message is evicted. -/
theorem insert_supersedes_notArrived :
    let inserted := (empty 1 ⟨1, true⟩ none).insert (.atTime 9) 100 renamedRoom
    inserted.1.direction = some .forward ∧
    (∃ event ∈ renamedRoom, event.isState = false ∧
      inserted.2.events.all (·.id != event.id) = true) ∧
    ¬OnePerSlot (inserted.2.events.take inserted.2.horizon) := by
  decide

end Timeline

end RoomHistory
