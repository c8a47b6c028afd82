import Mathlib.Data.Set.Card
import RoomHistory.Proofs.Timeline.Counting

/-!
# What searches and lookups find

A search runs from the newest event to the oldest and stops when it has found enough.  What it
leaves is fixed by the places that pass: the greatest of them, in descending order, as many as were
asked for or as there are.  A lookup runs from the oldest event and stops at the first with its id.
Insertions never leave two events with one id that is not empty, so there is no other event that it
could have found; this needs no order among the events.
-/

namespace RoomHistory

/-- The greatest members of a set in descending order, `limit` of them if there are as many. -/
structure GreatestMembers (members : Set Nat) (limit : Nat) (places : List Nat) : Prop where
  descending : places.Pairwise (· > ·)
  belong : ∀ place ∈ places, place ∈ members
  greatest : ∀ place ∈ places, ∀ other ∈ members, other ∉ places → other < place
  count : places.length = min limit members.ncard

section

variable {members : Set Nat} {limit : Nat} {all places others : List Nat}

/-- A member that only one of two lists has among the greatest would leave the other too short. -/
theorem GreatestMembers.subset
    (greatest : GreatestMembers members limit places)
    (otherGreatest : GreatestMembers members limit others) :
    places ⊆ others := by
  intro place present
  by_contra missing
  have sameLength : places.length = others.length := greatest.count.trans otherGreatest.count.symm
  have within : others ⊆ places := by
    intro other otherIn
    by_contra absent
    have above := otherGreatest.greatest other otherIn place (greatest.belong place present) missing
    have below := greatest.greatest place present other (otherGreatest.belong other otherIn) absent
    exact Nat.lt_asymm above below
  have subperm := otherGreatest.descending.nodup.subperm within
  have rearranged := subperm.perm_of_length_le sameLength.le
  exact missing (rearranged.mem_iff.mpr present)

/-- A set and a limit leave no choice. -/
theorem GreatestMembers.unique
    (greatest : GreatestMembers members limit places)
    (otherGreatest : GreatestMembers members limit others) :
    places = others :=
  greatest.descending.eq_of_mem_iff otherGreatest.descending fun _ =>
    ⟨fun present => greatest.subset otherGreatest present,
      fun present => otherGreatest.subset greatest present⟩

theorem ncard_of_mem_iff
    (lists : ∀ place, place ∈ all ↔ place ∈ members)
    (nodup : all.Nodup) :
    members.ncard = all.length := by
  have asFinset : members = ↑all.toFinset := by
    ext place
    rw [List.coe_toFinset]
    exact (lists place).symm
  rw [asFinset, Set.ncard_coe_finset, List.toFinset_card_of_nodup nodup]

/-- Of a list of all members in descending order the first are the greatest. -/
theorem greatestMembers_take
    (lists : ∀ place, place ∈ all ↔ place ∈ members)
    (descending : all.Pairwise (· > ·))
    (limit : Nat) :
    GreatestMembers members limit (all.take limit) where
  descending := descending.sublist (List.take_sublist limit all)
  belong place present := (lists place).mp (List.mem_of_mem_take present)
  greatest place present other belongs missing := by
    have apart := descending
    rw [← List.take_append_drop limit all] at apart
    have otherIn := (lists other).mpr belongs
    rw [← List.take_append_drop limit all, List.mem_append] at otherIn
    exact (List.pairwise_append.mp apart).2.2 place present other (otherIn.resolve_left missing)
  count := by
    rw [List.length_take, ncard_of_mem_iff lists descending.nodup]

/-- The first of all members in descending order is the greatest. -/
theorem head?_eq_some_iff_isGreatest
    (lists : ∀ place, place ∈ all ↔ place ∈ members)
    (descending : all.Pairwise (· > ·))
    (place : Nat) :
    all.head? = some place ↔ IsGreatest members place := by
  cases all with
  | nil =>
      constructor
      · exact fun none => absurd none (Option.some_ne_none place).symm
      · exact fun greatest => absurd ((lists place).mpr greatest.1) List.not_mem_nil
  | cons first rest =>
      have firstGreatest : IsGreatest members first := by
        refine ⟨(lists first).mp List.mem_cons_self, ?_⟩
        intro other belongs
        rcases List.mem_cons.mp ((lists other).mpr belongs) with rfl | inRest
        · exact Nat.le_refl other
        · exact Nat.le_of_lt ((List.pairwise_cons.mp descending).1 other inRest)
      rw [List.head?_cons, Option.some_inj]
      constructor
      · rintro rfl
        exact firstGreatest
      · exact firstGreatest.unique

end

/-- No two events of a list have one id, unless it is empty. -/
def IdsOnce (events : List Event) : Prop :=
  events.Pairwise fun older newer => older.hasId = true → older.id ≠ newer.id

/-- Whatever the sequence of the events, no id is kept twice. -/
theorem idsOnce_distinct (events : List Event) : IdsOnce (distinct events) := by
  induction events using List.reverseRecOn with
  | nil => exact List.Pairwise.nil
  | append_singleton events event hypothesis =>
      rw [distinct_append_singleton]
      split
      next fresh =>
        apply List.pairwise_append.mpr
        refine ⟨hypothesis, List.pairwise_singleton _ event, ?_⟩
        intro older olderIn newer newerIn named sameId
        rw [List.mem_singleton] at newerIn
        subst newerIn
        have newerNamed : newer.hasId = true := by
          rw [Event.hasId, ← sameId]
          exact named
        apply (Event.isFresh_iff_of_hasId newerNamed).mp fresh older olderIn
        exact (Event.identity_eq_iff older newer).mpr (Or.inl ⟨named, sameId⟩)
      next _ => exact hypothesis

namespace Timeline

section

variable {given : Json → Prop} {timeline : Timeline} {event : Event} {place : Nat}

/-- An insertion leaves no id twice. -/
theorem idsOnce_applyTo
    (once : IdsOnce timeline.events)
    (insertion : Insertion) :
    IdsOnce (insertion.applyTo timeline).2.events := by
  rcases timeline.applyTo_cases insertion with same | ⟨_, merged, merges, changed⟩
  · rw [same]
    exact once
  · obtain ⟨-, arranged, -, rfl⟩ := arranges_of_merged? merges
    rw [changed]
    exact (idsOnce_distinct arranged).sublist (restoreBudget_sublist _ _ _)

/-- A timeline that is reached has no id twice. -/
theorem Reached.idsOnce (reached : timeline.Reached given) : IdsOnce timeline.events := by
  induction reached with
  | empty tag policy room => exact List.Pairwise.nil
  | applyTo reached insertion gives once => exact idsOnce_applyTo once insertion
  | rememberHorizon reached once => exact once

/-- Where no id is held twice, an event is the first with its id. -/
theorem place?_of_idsOnce
    (once : IdsOnce timeline.events)
    (held : timeline.event? place = some event)
    (named : event.hasId = true) :
    timeline.place? event.id = some place := by
  obtain ⟨within, rfl⟩ := List.getElem?_eq_some_iff.mp held
  apply List.findIdx?_eq_some_iff_getElem.mpr
  refine ⟨within, beq_self_eq_true _, ?_⟩
  intro earlier before same
  rw [beq_iff_eq] at same
  apply List.pairwise_iff_getElem.mp once earlier place (before.trans within) within before
  · rw [Event.hasId, same]
    exact named
  · exact same

/-- An id that no event has is found nowhere. -/
theorem place?_eq_none_iff (timeline : Timeline) (id : EventId) :
    timeline.place? id = none ↔ ∀ event ∈ timeline.events, event.id ≠ id := by
  simp [place?]

end

/-- The places whose events pass a filter. -/
def passing (timeline : Timeline) (filter : Event → Nat → Bool) : Set Nat :=
  {place | ∃ event, timeline.event? place = some event ∧ filter event place = true}

section

variable (timeline : Timeline) (filter : Event → Nat → Bool)

/-- A scan that stops at a limit finds the first of all places that it would find without one. -/
theorem scan_eq_take (limit : Nat) (entries : List (Event × Nat)) :
    scan filter limit entries =
      ((entries.filter fun entry => filter entry.1 entry.2).map Prod.snd).take limit := by
  fun_induction scan filter limit entries with
  | case1 entries => rw [List.take_zero]
  | case2 limit => rfl
  | case3 limit event place older passes hypothesis =>
      rw [List.filter_cons, if_pos passes, List.map_cons, List.take_succ_cons, hypothesis]
  | case4 limit event place older fails hypothesis =>
      rw [List.filter_cons, if_neg fails, hypothesis]

theorem search_eq_take (limit : Nat) :
    timeline.search filter limit = (timeline.matching filter).take limit :=
  scan_eq_take filter limit timeline.events.zipIdx.reverse

theorem newest?_eq_head? : timeline.newest? filter = (timeline.matching filter).head? := by
  rw [newest?, search_eq_take, List.head?_take, if_neg Nat.one_ne_zero]

theorem mem_matching_iff (place : Nat) :
    place ∈ timeline.matching filter ↔ place ∈ timeline.passing filter := by
  simp only [matching, List.mem_map, List.mem_filter, List.mem_reverse,
    List.mem_zipIdx_iff_getElem?]
  constructor
  · rintro ⟨⟨event, _⟩, ⟨held, passes⟩, rfl⟩
    exact ⟨event, held, passes⟩
  · rintro ⟨event, held, passes⟩
    exact ⟨(event, place), ⟨held, passes⟩, rfl⟩

theorem matching_descending : (timeline.matching filter).Pairwise (· > ·) := by
  have fewer : (timeline.matching filter).Sublist (timeline.events.zipIdx.reverse.map Prod.snd) :=
    List.filter_sublist.map Prod.snd
  apply List.Pairwise.sublist fewer
  rw [List.map_reverse, List.zipIdx_map_snd, List.pairwise_reverse]
  exact List.pairwise_lt_range'

/-- What a search leaves is fixed by the places that pass. -/
theorem search_eq_iff (limit : Nat) (places : List Nat) :
    timeline.search filter limit = places ↔
      GreatestMembers (timeline.passing filter) limit places := by
  have found : GreatestMembers (timeline.passing filter) limit (timeline.search filter limit) := by
    rw [search_eq_take]
    exact greatestMembers_take (timeline.mem_matching_iff filter)
      (timeline.matching_descending filter) limit
  constructor
  · rintro rfl
    exact found
  · exact found.unique

theorem newest?_eq_some_iff (place : Nat) :
    timeline.newest? filter = some place ↔ IsGreatest (timeline.passing filter) place := by
  rw [newest?_eq_head?]
  exact head?_eq_some_iff_isGreatest (timeline.mem_matching_iff filter)
    (timeline.matching_descending filter) place

theorem newest?_eq_none_iff :
    timeline.newest? filter = none ↔ timeline.passing filter = ∅ := by
  rw [newest?_eq_head?, List.head?_eq_none_iff, List.eq_nil_iff_forall_not_mem,
    Set.eq_empty_iff_forall_notMem]
  exact forall_congr' fun place => not_congr (timeline.mem_matching_iff filter place)

end

/-- What is found in a timeline that was reached.  A search leaves exactly the greatest places that
pass, in descending order and as many as there are up to the limit; the newest event that passes is
at the greatest of all these places, and there is none only if nothing passes.  An event with an id
is found by its id where it stands, and an id that no event has is not found. -/
theorem Reached.finds
    {given : Json → Prop}
    {timeline : Timeline}
    (reached : timeline.Reached given) :
    (∀ filter limit places,
      timeline.search filter limit = places ↔
        GreatestMembers (timeline.passing filter) limit places) ∧
    (∀ filter place,
      timeline.newest? filter = some place ↔ IsGreatest (timeline.passing filter) place) ∧
    (∀ filter, timeline.newest? filter = none ↔ timeline.passing filter = ∅) ∧
    (∀ filter event,
      timeline.newestEvent? filter = some event ↔
        ∃ place, IsGreatest (timeline.passing filter) place ∧
          timeline.event? place = some event) ∧
    (∀ place event, timeline.event? place = some event → event.hasId = true →
      timeline.place? event.id = some place ∧ timeline.holds event.id = true ∧
        timeline.find? event.id = some event) ∧
    ∀ id, (∀ event ∈ timeline.events, event.id ≠ id) →
      timeline.place? id = none ∧ timeline.holds id = false ∧ timeline.find? id = none := by
  refine ⟨timeline.search_eq_iff, timeline.newest?_eq_some_iff, timeline.newest?_eq_none_iff,
    ?_, ?_, ?_⟩
  · intro filter event
    rw [newestEvent?, Option.bind_eq_some_iff]
    simp only [newest?_eq_some_iff]
  · intro place event held named
    have found := place?_of_idsOnce reached.idsOnce held named
    refine ⟨found, ?_, ?_⟩
    · rw [holds, found, Option.isSome_some]
    · rw [find?, found, Option.bind_some, held]
  · intro id nowhere
    have missing := (timeline.place?_eq_none_iff id).mpr nowhere
    refine ⟨missing, ?_, ?_⟩
    · rw [holds, missing, Option.isSome_none]
    · rw [find?, missing, Option.bind_none]

theorem Reached.finds_redelivered :
    let messages := fun (event : Event) (_ : Nat) => event.hasType "m.room.message"
    redelivered.Reached (fun _ => True) ∧
      redelivered.search messages 2 = [2, 1] ∧
      GreatestMembers (redelivered.passing messages) 2 [2, 1] ∧
      IsGreatest (redelivered.passing messages) 2 ∧
      redelivered.place? "$a" = some 2 ∧
      redelivered.find? "$c" = none := by
  intro messages
  have reached : redelivered.Reached fun _ => True :=
    reached_insertAll (.empty 1 ⟨4, true⟩ (some "!r:x")) fun _ _ => trivial
  obtain ⟨searches, newest, -, -, lookups, misses⟩ := reached.finds
  have found : redelivered.search messages 2 = [2, 1] := by decide
  have first : redelivered.newest? messages = some 2 := by decide
  have last : (redelivered.event? 2).map (·.id) = some "$a" := by decide
  have nowhere : ∀ event ∈ redelivered.events, event.id ≠ "$c" := by decide
  obtain ⟨event, held, isLast⟩ := Option.map_eq_some_iff.mp last
  have named : event.hasId = true := by
    rw [Event.hasId, isLast]
    decide
  refine ⟨reached, found, (searches messages 2 [2, 1]).mp found, (newest messages 2).mp first,
    ?_, (misses "$c" nowhere).2.2⟩
  rw [← isLast]
  exact (lookups 2 event held named).1

end Timeline

end RoomHistory
