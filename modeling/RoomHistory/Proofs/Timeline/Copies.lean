import RoomHistory.Proofs.Timeline.Soundness

/-!
# Copies of held events

An event that comes again is a copy of the one held, and of the two the one that comes earlier in
the order stays.  So a copy that does not come earlier changes nothing, and one that does takes
the place of the held event without a trace in the counts of the outcome.  Apart from that the
counts are exact: they tell by how many events the timeline has grown, and where they tell nothing
the events are the same or copies of the same.
-/

namespace RoomHistory

/-- Later events are those before or copies of them, one for each, that come no later. -/
structure Replaced (before after : List Event) : Prop where
  identities : (after.map Event.identity).Perm (before.map Event.identity)
  notAfter : ∀ newer ∈ after, ∀ older ∈ before,
    newer.identity = older.identity → newer.order older ≠ .gt

theorem Replaced.refl
    {events : List Event}
    (settles : Settled events) :
    Replaced events events where
  identities := List.Perm.refl _
  notAfter newer newerIn older olderIn same := by
    rw [settles.eq_of_identity newerIn olderIn same, Event.order_self]
    decide

theorem Replaced.trans
    {before between after : List Event}
    (first : Replaced before between)
    (second : Replaced between after)
    (orderly : Event.Orderly (before ++ between ++ after)) :
    Replaced before after where
  identities := second.identities.trans first.identities
  notAfter newer newerIn older olderIn same := by
    have marked : newer.identity ∈ between.map Event.identity :=
      second.identities.subset (List.mem_map_of_mem newerIn)
    obtain ⟨middle, middleIn, middleSame⟩ := List.mem_map.mp marked
    apply orderly.not_gt_trans (List.mem_append_right _ newerIn)
      (List.mem_append_left _ (List.mem_append_right _ middleIn))
      (List.mem_append_left _ (List.mem_append_left _ olderIn))
    · exact second.notAfter newer newerIn middle middleIn middleSame.symm
    · exact first.notAfter middle middleIn older olderIn (middleSame.trans same)

namespace Event

namespace Orderly

variable {held batch : List Event} {event copy : Event}

/-- A merge that adds nothing leaves the events held or copies of them. -/
theorem replaced_of_length
    (orderly : Orderly (held ++ batch))
    (settles : Settled held)
    (noMore : (settled (held ++ batch)).length ≤ held.length) :
    Replaced held (settled (held ++ batch)) where
  identities := by
    have copies := orderly.settled_firstCopies
    have subset : held.map identity ⊆ (settled (held ++ batch)).map identity := by
      intro mark present
      obtain ⟨older, olderIn, rfl⟩ := List.mem_map.mp present
      obtain ⟨first, firstIn, same, -⟩ :=
        copies.represents older (List.mem_append_left batch olderIn)
      exact List.mem_map.mpr ⟨first, firstIn, same⟩
    have subperm := settles.identities.subperm subset
    apply List.Perm.symm
    apply subperm.perm_of_length_le
    rw [List.length_map, List.length_map]
    exact noMore
  notAfter newer newerIn older olderIn same :=
    ((orderly.mem_settled_iff newer).mp newerIn).2 older (List.mem_append_left batch olderIn)
      same.symm

/-- Of an event that is held and a copy of it only the earlier one stays. -/
theorem settled_append_copy
    (orderly : Orderly (held ++ [copy]))
    (settles : Settled held)
    (present : event ∈ held)
    (same : event.identity = copy.identity)
    (notBefore : event.order copy ≠ .gt) :
    settled (held ++ [copy]) = held := by
  have copyIn : copy ∈ held ++ [copy] := List.mem_append_right _ List.mem_cons_self
  have eventIn : event ∈ held ++ [copy] := List.mem_append_left _ present
  apply Ascending.eq_of_mem_iff orderly.settled_firstCopies.ascending settles.ascending orderly
    (settled_subset _)
  intro other
  rw [orderly.mem_settled_iff]
  constructor
  · rintro ⟨otherIn, least⟩
    rcases List.mem_append.mp otherIn with inHeld | isCopy
    · exact inHeld
    · rw [List.mem_singleton.mp isCopy] at least ⊢
      rw [← orderly.antisymm eventIn copyIn notBefore (least event eventIn same)]
      exact present
  · intro inHeld
    refine ⟨List.mem_append_left _ inHeld, ?_⟩
    intro another anotherIn identical
    rcases List.mem_append.mp anotherIn with anotherHeld | isCopy
    · rw [settles.eq_of_identity anotherHeld inHeld identical, order_self]
      decide
    · rw [List.mem_singleton.mp isCopy] at identical ⊢
      rw [settles.eq_of_identity inHeld present (identical.symm.trans same.symm)]
      exact notBefore

/-- An event does not stay beside an earlier copy. -/
theorem not_mem_settled_append_copy
    (orderly : Orderly (held ++ [copy]))
    (same : event.identity = copy.identity)
    (before : event.order copy = .gt) :
    event ∉ settled (held ++ [copy]) := by
  rw [orderly.mem_settled_iff]
  rintro ⟨-, least⟩
  exact least copy (List.mem_append_right _ List.mem_cons_self) same.symm before

end Orderly

end Event

namespace Timeline

section

variable {timeline : Timeline} {insertion : Insertion}

/-- Whatever is inserted, the counts of the outcome tell by how much the timeline grows, and an
outcome without a direction counts nothing. -/
theorem applyTo_balance (timeline : Timeline) (insertion : Insertion) :
    (insertion.applyTo timeline).2.length + (insertion.applyTo timeline).1.trimmed =
      timeline.length + (insertion.applyTo timeline).1.added ∧
    ((insertion.applyTo timeline).1.direction = none →
      (insertion.applyTo timeline).1.added = 0 ∧ (insertion.applyTo timeline).1.trimmed = 0) := by
  obtain ⟨skipped, outcome⟩ := Insertion.applyTo_fst timeline insertion
  rw [outcome, Insertion.applyTo_snd]
  show (timeline.insert _ _ _).2.length + (timeline.insert _ _ _).1.trimmed =
      timeline.length + (timeline.insert _ _ _).1.added ∧
    ((timeline.insert _ _ _).1.direction = none →
      (timeline.insert _ _ _).1.added = 0 ∧ (timeline.insert _ _ _).1.trimmed = 0)
  rcases timeline.insert_cases insertion.arrival insertion.clock insertion.batch with
    ⟨-, idle⟩ | ⟨-, failure⟩ | ⟨arranged, merged, success, grown, accepts⟩
  · rw [idle]
    exact ⟨rfl, fun _ => ⟨rfl, rfl⟩⟩
  · rw [failure]
    exact ⟨rfl, fun _ => ⟨rfl, rfl⟩⟩
  · rw [accepts]
    have kept := (restoreBudget_sublist timeline.policy.limit (directionOf merged arranged)
      merged).length_le
    refine ⟨?_, fun noDirection => absurd noDirection (Option.some_ne_none _)⟩
    show (restoreBudget timeline.policy.limit (directionOf merged arranged) merged).length +
        (merged.length -
          (restoreBudget timeline.policy.limit (directionOf merged arranged) merged).length) =
      timeline.length + (merged.length - timeline.events.length)
    rw [length] at grown ⊢
    omega

/-- An insertion of orderly events that counts nothing leaves the events or copies of them. -/
theorem applyTo_replaced
    (orderly : Event.Orderly (timeline.events ++ insertion.entering timeline.room))
    (settles : Settled timeline.events)
    (noneAdded : (insertion.applyTo timeline).1.added = 0)
    (noneTrimmed : (insertion.applyTo timeline).1.trimmed = 0) :
    Replaced timeline.events (insertion.applyTo timeline).2.events := by
  have balance := (timeline.applyTo_balance insertion).1
  have whole := applyTo_events_of_untrimmed orderly settles noneTrimmed
  rw [noneAdded, noneTrimmed, Nat.add_zero, Nat.add_zero, length, whole] at balance
  rw [whole]
  exact orderly.replaced_of_length settles (Nat.le_of_eq balance)

/-- A single event that comes again leaves the timeline as it was, unless the copy comes before the
event that is held. -/
theorem applyTo_copy
    {event copy : Event}
    (orderly : Event.Orderly (timeline.events ++ [copy]))
    (kept : timeline.KeptFrom timeline.events)
    (enters : insertion.entering timeline.room = [copy])
    (present : event ∈ timeline.events)
    (same : event.identity = copy.identity) :
    (insertion.applyTo timeline).2.events = timeline.events ↔ event.order copy ≠ .gt := by
  rw [← enters] at orderly
  rcases (applyTo_of_orderly orderly kept.settles).2 with ⟨nothing, -⟩ | ⟨-, changed, -⟩
  · rw [enters] at nothing
    cases nothing
  · rw [enters] at changed orderly
    constructor
    · intro unchanged before
      have fewer := restoreBudget_sublist timeline.policy.limit (timeline.growth insertion)
        (settled (timeline.events ++ [copy]))
      rw [← changed, unchanged] at fewer
      exact orderly.not_mem_settled_append_copy same before (fewer.subset present)
    · intro notBefore
      rw [changed, orderly.settled_append_copy kept.settles present same notBefore]
      exact restoreBudget_of_within kept.withinBudget _

end

end Timeline

end RoomHistory
