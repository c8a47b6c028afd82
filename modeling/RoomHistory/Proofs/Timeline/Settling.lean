import Mathlib.Data.List.Induction
import Mathlib.Data.List.Nodup
import Mathlib.Data.List.Perm.Subperm
import RoomHistory.Proofs.Event.TotalOrder
import RoomHistory.Proofs.Sorting.Ranks
import RoomHistory.Timeline.Merge

/-!
# What a merge leaves

Among orderly events a merge is a function of the set of events that go into it: of every id it
keeps the least copy, of the events without an id it keeps each one once, and it lists them in
strictly ascending order.  So it does not matter in what sequence the events are given, whether
some are given twice, or whether some of them have been merged before.
-/

namespace RoomHistory

theorem append_subset_append
    {α : Type}
    {fewer items : List α}
    (later : List α)
    (subset : fewer ⊆ items) :
    fewer ++ later ⊆ items ++ later :=
  List.append_subset.mpr
    ⟨List.subset_append_of_subset_left later subset, List.subset_append_right items later⟩

namespace Event

/-- What tells an event from others: its id, or all of it where it has none. -/
def identity (event : Event) : EventId ⊕ Event :=
  if event.hasId then .inl event.id else .inr event

theorem identity_eq_iff (left right : Event) :
    left.identity = right.identity ↔
      (left.hasId = true ∧ left.id = right.id) ∨ left = right := by
  unfold identity
  constructor
  · intro same
    split at same <;> split at same <;> simp_all
  · rintro (⟨named, same⟩ | rfl)
    · have otherNamed : right.hasId = true := by
        rw [hasId, ← same]
        exact named
      rw [if_pos named, if_pos otherNamed, same]
    · rfl

/-- The order of orderly events is a rank of its own. -/
theorem Orderly.ranks
    {events : List Event}
    (orderly : Orderly events) :
    Sorting.Ranks precedes
      (fun older newer => older ∈ events ∧ newer ∈ events ∧ older.order newer ≠ .gt) events where
  trans := by
    rintro first second third ⟨firstIn, secondIn, notAfter⟩ ⟨-, thirdIn, thenNotAfter⟩
    exact ⟨firstIn, thirdIn,
      orderly.not_gt_trans firstIn secondIn thirdIn notAfter thenNotAfter⟩
  of_before firstIn secondIn precedesSecond := by
    rw [precedes_iff] at precedesSecond
    exact ⟨firstIn, secondIn, by rw [precedesSecond]; decide⟩
  of_not_before firstIn secondIn notBefore := by
    rw [precedes_eq_false_iff] at notBefore
    refine ⟨secondIn, firstIn, ?_⟩
    rw [orderly.order_swap firstIn secondIn, ne_eq, Ordering.swap_eq_gt]
    exact notBefore

/-- Events arranged by insertion never come after a later one. -/
theorem Orderly.byInsertion_pairwise
    {events : List Event}
    (orderly : Orderly events) :
    (Sorting.byInsertion precedes events).Pairwise fun older newer => older.order newer ≠ .gt :=
  (orderly.ranks.byInsertion (List.Subset.refl events)).imp fun notAfter => notAfter.2.2

end Event

/-- Orderly events are arranged by insertion, however many they are. -/
theorem arrange?_of_orderly
    {events : List Event}
    (orderly : Event.Orderly events) :
    arrange? events = some (Sorting.byInsertion Event.precedes events) := by
  have images := Sorting.map_byInsertion Event.precedes Event.Ranked.precedes Event.ranked
    (fun _ _ => rfl) events
  have chain : isChain ((Sorting.byInsertion Event.precedes events).map Event.ranked) = true := by
    rw [isChain, decide_eq_true_eq, List.pairwise_map]
    apply orderly.byInsertion_pairwise.imp_of_mem
    intro older newer olderIn newerIn notAfter
    have rearranged := Sorting.byInsertion_perm Event.precedes events
    rw [Event.precedes_ranked, Event.precedes_iff]
    exact (orderly.eq_or_lt (rearranged.mem_iff.mp olderIn) (rearranged.mem_iff.mp newerIn)
      notAfter).symm
  rw [arrange?, arrangeRanked?]
  simp only [← images, chain, Bool.or_true, if_true, Option.map_some, List.map_map]
  simp [Function.comp_def]

theorem distinct_append_singleton (events : List Event) (event : Event) :
    distinct (events ++ [event]) =
      if isFresh (distinct events).reverse event then distinct events ++ [event]
      else distinct events := by
  unfold distinct
  rw [List.foldl_append, List.foldl_cons, List.foldl_nil, List.reverse_reverse, keepFresh]
  split <;> simp

theorem distinct_sublist (events : List Event) : (distinct events).Sublist events := by
  induction events using List.reverseRecOn with
  | nil => exact List.Sublist.refl _
  | append_singleton events event hypothesis =>
      rw [distinct_append_singleton]
      split
      · exact hypothesis.append_right [event]
      · exact hypothesis.trans (List.sublist_append_left events [event])

theorem distinct_subset (events : List Event) : distinct events ⊆ events :=
  (distinct_sublist events).subset

namespace Event

theorem Ascending.sublist
    {events fewer : List Event}
    (ascending : Ascending events)
    (sublist : fewer.Sublist events) :
    Ascending fewer :=
  List.Pairwise.sublist sublist ascending

/-- An event of an ascending list that no other one comes after is its last. -/
theorem Ascending.getLast?_eq
    {among events : List Event}
    {event : Event}
    (ascending : Ascending events)
    (orderly : Orderly among)
    (subset : events ⊆ among)
    (present : event ∈ events)
    (greatest : ∀ other ∈ events, other.order event ≠ .gt) :
    events.getLast? = some event := by
  induction events using List.reverseRecOn with
  | nil => exact absurd present List.not_mem_nil
  | append_singleton earlier last =>
      rw [List.getLast?_concat]
      have lastIn : last ∈ earlier ++ [last] := List.mem_append_right _ List.mem_cons_self
      rcases List.mem_append.mp present with inEarlier | isLast
      · have before := (List.pairwise_append.mp ascending).2.2 event inEarlier last
          List.mem_cons_self
        have after := greatest last lastIn
        rw [orderly.order_swap (subset present) (subset lastIn), before] at after
        exact absurd rfl after
      · rw [List.mem_singleton.mp isLast]

theorem isFresh_iff_of_hasId
    {kept : List Event}
    {event : Event}
    (named : event.hasId = true) :
    isFresh kept.reverse event = true ↔ ∀ other ∈ kept, other.identity ≠ event.identity := by
  rw [isFresh, if_pos named, List.all_eq_true]
  simp only [List.mem_reverse, bne_iff_ne]
  constructor
  · intro differs other present same
    rcases (identity_eq_iff other event).mp same with ⟨_, sameId⟩ | rfl
    · exact differs other present sameId
    · exact differs other present rfl
  · intro differs other present sameId
    apply differs other present
    apply Eq.symm
    exact (identity_eq_iff event other).mpr (Or.inl ⟨named, sameId.symm⟩)

section

variable {events kept : List Event} {event : Event}

/-- An event without an id is compared with the last one kept only, and if it was kept before, that
is where it stands. -/
theorem Orderly.isFresh_iff_of_nameless
    (orderly : Orderly (events ++ [event]))
    (arranged : ∀ older ∈ events, older.order event ≠ .gt)
    (keptSubset : kept ⊆ events)
    (ascending : Ascending kept)
    (nameless : ¬event.hasId = true) :
    isFresh kept.reverse event = true ↔ ∀ other ∈ kept, other.identity ≠ event.identity := by
  have eventIn : event ∈ events ++ [event] := List.mem_append_right _ List.mem_cons_self
  have within : kept ⊆ events ++ [event] := List.subset_append_of_subset_left _ keptSubset
  rw [isFresh, if_neg nameless, List.head?_reverse]
  constructor
  · intro fresh other present same
    rcases (identity_eq_iff other event).mp same with ⟨otherNamed, sameId⟩ | rfl
    · rw [hasId, sameId] at otherNamed
      exact nameless otherNamed
    · have last := ascending.getLast?_eq orderly within present
        (fun older olderIn => arranged older (keptSubset olderIn))
      rw [last, bne, Option.some_beq_some, (orderly.beq_iff_eq eventIn eventIn).mpr rfl] at fresh
      exact absurd fresh (by decide)
  · intro differs
    cases last : kept.getLast? with
    | none => rfl
    | some other =>
        have otherIn : other ∈ kept := List.mem_of_getLast? last
        have distinctOnes : other ≠ event := by
          rintro rfl
          exact differs other otherIn rfl
        have unequal : ¬(other == event) = true := fun equal =>
          distinctOnes ((orderly.beq_iff_eq (within otherIn) eventIn).mp equal)
        rw [bne, Option.some_beq_some]
        simpa using unequal

/-- Among orderly events in order, an event is fresh unless one with its identity was kept. -/
theorem Orderly.isFresh_iff
    (orderly : Orderly (events ++ [event]))
    (arranged : ∀ older ∈ events, older.order event ≠ .gt)
    (keptSubset : kept ⊆ events)
    (ascending : Ascending kept) :
    isFresh kept.reverse event = true ↔ ∀ other ∈ kept, other.identity ≠ event.identity := by
  by_cases named : event.hasId = true
  · exact isFresh_iff_of_hasId named
  · exact orderly.isFresh_iff_of_nameless arranged keptSubset ascending named

end

end Event

/-- Events in strictly ascending order of which no two have one identity. -/
structure Settled (events : List Event) : Prop where
  ascending : Event.Ascending events
  identities : (events.map Event.identity).Nodup

/-- The first copies of some events: they are settled, and every event comes no earlier than the
one that is kept for it. -/
structure FirstCopies (events kept : List Event) : Prop extends Settled kept where
  represents : ∀ event ∈ events, ∃ first ∈ kept,
    first.identity = event.identity ∧ first.order event ≠ .gt

section

variable {events kept : List Event} {event : Event}

theorem FirstCopies.concat_fresh
    (copies : FirstCopies events kept)
    (subset : kept ⊆ events)
    (orderly : Event.Orderly (events ++ [event]))
    (notAfter : ∀ older ∈ events, older.order event ≠ .gt)
    (differs : ∀ other ∈ kept, other.identity ≠ event.identity) :
    FirstCopies (events ++ [event]) (kept ++ [event]) := by
  have within : events ⊆ events ++ [event] := List.subset_append_left _ _
  have eventIn : event ∈ events ++ [event] := List.mem_append_right _ List.mem_cons_self
  refine ⟨⟨?_, ?_⟩, ?_⟩
  · apply List.pairwise_append.mpr
    refine ⟨copies.ascending, List.pairwise_singleton _ _, ?_⟩
    intro older present newer isEvent
    rw [List.mem_singleton.mp isEvent]
    rcases orderly.eq_or_lt (within (subset present)) eventIn
      (notAfter older (subset present)) with rfl | before
    · exact absurd rfl (differs older present)
    · exact before
  · rw [List.map_append, List.nodup_append]
    refine ⟨copies.identities, List.pairwise_singleton _ _, ?_⟩
    intro identity present other isEvent
    obtain ⟨older, olderIn, rfl⟩ := List.mem_map.mp present
    rw [List.map_singleton, List.mem_singleton] at isEvent
    rw [isEvent]
    exact differs older olderIn
  · intro other present
    rcases List.mem_append.mp present with earlier | isEvent
    · obtain ⟨first, firstIn, same, order⟩ := copies.represents other earlier
      exact ⟨first, List.mem_append_left _ firstIn, same, order⟩
    · rw [List.mem_singleton.mp isEvent]
      refine ⟨event, List.mem_append_right _ List.mem_cons_self, rfl, ?_⟩
      rw [Event.order_self]
      decide

theorem FirstCopies.concat_copy
    {first : Event}
    (copies : FirstCopies events kept)
    (firstIn : first ∈ kept)
    (same : first.identity = event.identity)
    (notAfter : first.order event ≠ .gt) :
    FirstCopies (events ++ [event]) kept := by
  refine ⟨copies.toSettled, ?_⟩
  intro other present
  rcases List.mem_append.mp present with earlier | isEvent
  · exact copies.represents other earlier
  · rw [List.mem_singleton.mp isEvent]
    exact ⟨first, firstIn, same, notAfter⟩

end

/-- Of events in order the first copies are kept. -/
theorem distinct_firstCopies
    {events : List Event}
    (orderly : Event.Orderly events)
    (arranged : events.Pairwise fun older newer => older.order newer ≠ .gt) :
    FirstCopies events (distinct events) := by
  induction events using List.reverseRecOn with
  | nil =>
      exact ⟨⟨List.Pairwise.nil, List.nodup_nil⟩, fun _ present => absurd present List.not_mem_nil⟩
  | append_singleton events event hypothesis =>
      have notAfter : ∀ older ∈ events, older.order event ≠ .gt := fun older present =>
        (List.pairwise_append.mp arranged).2.2 older present event List.mem_cons_self
      have copies := hypothesis (orderly.subset (List.subset_append_left _ _))
        (List.pairwise_append.mp arranged).1
      have subset := distinct_subset events
      have fresh := orderly.isFresh_iff notAfter subset copies.ascending
      rw [distinct_append_singleton]
      split
      next isFresh =>
        exact copies.concat_fresh subset orderly notAfter (fresh.mp isFresh)
      next notFresh =>
        rw [fresh] at notFresh
        push Not at notFresh
        obtain ⟨first, firstIn, same⟩ := notFresh
        exact copies.concat_copy firstIn same (notAfter first (subset firstIn))

/-- What a merge leaves of some events. -/
def settled (events : List Event) : List Event :=
  distinct (Sorting.byInsertion Event.precedes events)

theorem settled_subset (events : List Event) : settled events ⊆ events := by
  intro event present
  have arranged := distinct_subset _ present
  exact (Sorting.byInsertion_perm Event.precedes events).mem_iff.mp arranged

theorem Settled.sublist
    {events fewer : List Event}
    (settled : Settled events)
    (sublist : fewer.Sublist events) :
    Settled fewer where
  ascending := settled.ascending.sublist sublist
  identities := settled.identities.sublist (sublist.map Event.identity)

theorem Settled.nil : Settled [] := ⟨List.Pairwise.nil, List.nodup_nil⟩

theorem Settled.eq_of_identity
    {events : List Event}
    {left right : Event}
    (settled : Settled events)
    (leftIn : left ∈ events)
    (rightIn : right ∈ events)
    (same : left.identity = right.identity) :
    left = right :=
  List.inj_on_of_nodup_map settled.identities leftIn rightIn same

namespace Event

theorem Ascending.nodup
    {events : List Event}
    (ascending : Ascending events) :
    events.Nodup := by
  apply List.Pairwise.imp _ ascending
  rintro older newer before rfl
  rw [order_self] at before
  exact absurd before (by decide)

/-- Ascending lists of the same orderly events are the same. -/
theorem Ascending.eq_of_mem_iff
    {among left right : List Event}
    (leftAscending : Ascending left)
    (rightAscending : Ascending right)
    (orderly : Orderly among)
    (subset : left ⊆ among)
    (same : ∀ event, event ∈ left ↔ event ∈ right) :
    left = right := by
  have perm : left.Perm right :=
    (List.perm_ext_iff_of_nodup leftAscending.nodup rightAscending.nodup).mpr same
  refine List.Perm.eq_of_pairwise ?_ leftAscending rightAscending perm
  intro first second firstIn secondIn before after
  have secondSubset := subset ((same second).mpr secondIn)
  rw [orderly.order_swap (subset firstIn) secondSubset, before] at after
  exact absurd after (by decide)

namespace Orderly

variable {events held batch : List Event}

theorem settled_firstCopies (orderly : Orderly events) : FirstCopies events (settled events) := by
  have rearranged := Sorting.byInsertion_perm precedes events
  have arranged := orderly.byInsertion_pairwise
  have copies := distinct_firstCopies (orderly.subset rearranged.subset) arranged
  refine ⟨copies.toSettled, ?_⟩
  intro event present
  exact copies.represents event (rearranged.mem_iff.mpr present)

/-- A merge leaves of every event its least copy. -/
theorem mem_settled_iff
    (orderly : Orderly events)
    (event : Event) :
    event ∈ settled events ↔
      event ∈ events ∧
        ∀ copy ∈ events, copy.identity = event.identity → event.order copy ≠ .gt := by
  have copies := orderly.settled_firstCopies
  constructor
  · intro present
    refine ⟨settled_subset events present, ?_⟩
    intro copy copyIn same
    obtain ⟨first, firstIn, firstSame, notAfter⟩ := copies.represents copy copyIn
    rw [copies.eq_of_identity firstIn present (firstSame.trans same)] at notAfter
    exact notAfter
  · rintro ⟨present, least⟩
    obtain ⟨first, firstIn, same, notAfter⟩ := copies.represents event present
    have firstPresent := settled_subset events firstIn
    have notBefore := least first firstPresent same
    rw [orderly.antisymm present firstPresent notBefore notAfter]
    exact firstIn

/-- What a merge leaves depends on the set of events only. -/
theorem settled_congr
    {left right : List Event}
    (orderly : Orderly left)
    (same : ∀ event, event ∈ left ↔ event ∈ right) :
    settled left = settled right := by
  have rightOrderly : Orderly right := orderly.subset fun event => (same event).mpr
  apply Ascending.eq_of_mem_iff orderly.settled_firstCopies.ascending
    rightOrderly.settled_firstCopies.ascending orderly (settled_subset left)
  intro event
  rw [orderly.mem_settled_iff, rightOrderly.mem_settled_iff]
  simp only [same]

/-- A merge leaves settled events as they are. -/
theorem settled_eq_self
    (orderly : Orderly held)
    (settles : Settled held) :
    settled held = held := by
  apply Ascending.eq_of_mem_iff orderly.settled_firstCopies.ascending settles.ascending orderly
    (settled_subset held)
  intro event
  rw [orderly.mem_settled_iff]
  refine ⟨fun present => present.1, fun present => ⟨present, ?_⟩⟩
  intro copy copyIn same
  rw [settles.eq_of_identity copyIn present same, order_self]
  decide

/-- Events that were merged before may be merged again with what is left of them. -/
theorem settled_settled_append
    (orderly : Orderly (held ++ batch)) :
    settled (settled held ++ batch) = settled (held ++ batch) := by
  have heldOrderly : Orderly held := orderly.subset (List.subset_append_left _ _)
  have within : settled held ++ batch ⊆ held ++ batch :=
    append_subset_append batch (settled_subset held)
  have againOrderly := orderly.subset within
  have copies := heldOrderly.settled_firstCopies
  apply Ascending.eq_of_mem_iff againOrderly.settled_firstCopies.ascending
    orderly.settled_firstCopies.ascending againOrderly (settled_subset _)
  intro event
  rw [againOrderly.mem_settled_iff, orderly.mem_settled_iff]
  constructor
  · rintro ⟨present, least⟩
    refine ⟨within present, ?_⟩
    intro copy copyIn same
    rcases List.mem_append.mp copyIn with inHeld | inBatch
    · obtain ⟨first, firstIn, firstSame, notAfter⟩ := copies.represents copy inHeld
      have firstPresent := List.mem_append_left batch firstIn
      exact orderly.not_gt_trans (within present) (within firstPresent) copyIn
        (least first firstPresent (firstSame.trans same)) notAfter
    · exact least copy (List.mem_append_right _ inBatch) same
  · rintro ⟨present, least⟩
    refine ⟨?_, fun copy copyIn => least copy (within copyIn)⟩
    rcases List.mem_append.mp present with inHeld | inBatch
    · apply List.mem_append_left
      rw [heldOrderly.mem_settled_iff]
      exact ⟨inHeld, fun copy copyIn => least copy (List.mem_append_left _ copyIn)⟩
    · exact List.mem_append_right _ inBatch

/-- Every held event stays, or another copy of it does. -/
theorem length_le_length_settled
    (orderly : Orderly (held ++ batch))
    (settles : Settled held) :
    held.length ≤ (settled (held ++ batch)).length := by
  have identities : held.map identity ⊆ (settled (held ++ batch)).map identity := by
    intro mark present
    obtain ⟨event, eventIn, rfl⟩ := List.mem_map.mp present
    obtain ⟨first, firstIn, same, -⟩ := orderly.settled_firstCopies.represents event
      (List.mem_append_left batch eventIn)
    exact List.mem_map.mpr ⟨first, firstIn, same⟩
  have fewer := (settles.identities.subperm identities).length_le
  rw [List.length_map, List.length_map] at fewer
  exact fewer

/-- Orderly events can be merged, and this is the result. -/
theorem merge?_eq (orderly : Orderly (held ++ batch)) :
    merge? held batch = some (settled (held ++ batch)) := by
  rw [merge?, arrange?_of_orderly orderly]
  rfl

end Orderly

end Event

end RoomHistory
