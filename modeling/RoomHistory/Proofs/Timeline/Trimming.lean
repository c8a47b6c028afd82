import Mathlib.Data.List.TakeWhile
import RoomHistory.Proofs.CurrentState.Newest
import RoomHistory.Timeline.Eviction

/-!
# What the budget leaves

Restoring the budget comes down to operations on whole lists: the oldest event that is not a state
event goes, with the older events of each slot that joins the front, or an end of the list goes.  So
it only takes events away.  Growth toward the present takes the oldest of the events that are not
state events, and of the state events only such as a later one of their slot supersedes; growth into
history takes an end of the list.  In both directions the budget holds afterwards.
-/

namespace RoomHistory

/-- Adds a state event to the front, in place of older events of its slot. -/
def absorb (front : List Event) (event : Event) : List Event :=
  front.filter (fun older => !older.sharesSlot event) ++ [event]

/-- Gives up the oldest event that is not a state event, and absorbs the state right behind it. -/
def evictOnce (events : List Event) : List Event :=
  match events.dropWhile (·.isState) with
  | [] => events
  | _ :: later =>
      (later.takeWhile (·.isState)).foldl absorb (events.takeWhile (·.isState)) ++
        later.dropWhile (·.isState)

/-- Gives up the oldest events that are not state events, `count` of them. -/
def evictOldest : Nat → List Event → List Event
  | 0, events => events
  | count + 1, events => evictOldest count (evictOnce events)

/-- Gives up events of a newest-first list until `count` were not state events. -/
def dropNewest : Nat → List Event → List Event
  | 0, events => events
  | _ + 1, [] => []
  | count + 1, newest :: older =>
      if newest.isState then dropNewest (count + 1) older else dropNewest count older

/-- Gives up the newest events until `count` were not state events. -/
def evictNewest (count : Nat) (events : List Event) : List Event :=
  (dropNewest count events.reverse).reverse

/-- The events that a budget leaves after growth in the given direction. -/
def restoreBudget (limit : Nat) (direction : Direction) (events : List Event) : List Event :=
  if limit = 0 then events
  else if events.length - horizonOf events < limit then events
  else
    let excess := budgetUse events - limit
    match direction with
    | .backward => evictNewest excess events
    | .forward => evictOldest excess events

@[simp] theorem restoreBudget_zero (direction : Direction) (events : List Event) :
    restoreBudget 0 direction events = events := rfl

@[simp] theorem evictOldest_zero (events : List Event) : evictOldest 0 events = events := rfl

@[simp] theorem dropNewest_zero (events : List Event) : dropNewest 0 events = events := by
  cases events <;> rfl

@[simp] theorem dropNewest_nil (count : Nat) : dropNewest count [] = [] := by
  cases count <;> rfl

@[simp] theorem evictNewest_zero (events : List Event) : evictNewest 0 events = events := by
  simp [evictNewest]

/-- What is left of a newest-first list is an end of it. -/
theorem dropNewest_suffix (count : Nat) (events : List Event) :
    dropNewest count events <:+ events := by
  fun_induction dropNewest count events with
  | case1 => exact List.suffix_refl _
  | case2 => exact List.suffix_refl _
  | case3 _ newest older _ hypothesis => exact hypothesis.trans (List.suffix_cons newest older)
  | case4 _ newest older _ hypothesis => exact hypothesis.trans (List.suffix_cons newest older)

/-- The events that are not state events. -/
def chatter (events : List Event) : List Event :=
  events.filter (!·.isState)

@[simp] theorem chatter_append (older newer : List Event) :
    chatter (older ++ newer) = chatter older ++ chatter newer :=
  List.filter_append ..

theorem chatter_eq_nil
    {events : List Event}
    (allState : ∀ event ∈ events, event.isState = true) :
    chatter events = [] := by
  apply List.filter_eq_nil_iff.mpr
  intro event present
  simp [allState event present]

theorem length_chatter (events : List Event) : (chatter events).length = budgetUse events :=
  (List.countP_eq_length_filter ..).symm

/-- The first of some events, if there is one, is no state event. -/
def StartsTalking (events : List Event) : Prop :=
  ∀ event ∈ events.head?, event.isState = false

section

variable {front middle later : List Event} {first : Event}

theorem StartsTalking.nil : StartsTalking [] :=
  fun event none => absurd none (Option.not_mem_none event)

theorem StartsTalking.cons
    (talks : first.isState = false)
    (later : List Event) :
    StartsTalking (first :: later) := by
  intro event isFirst
  rw [← Option.some.inj isFirst]
  exact talks

theorem StartsTalking.of_append (talks : StartsTalking (middle ++ later)) :
    StartsTalking middle := by
  cases middle with
  | nil => exact .nil
  | cons first rest => exact talks

theorem StartsTalking.append
    (talks : StartsTalking middle)
    (laterTalks : StartsTalking later) :
    StartsTalking (middle ++ later) := by
  cases middle with
  | nil => exact laterTalks
  | cons first rest => exact talks

theorem budgetUse_append (older later : List Event) :
    budgetUse (older ++ later) = budgetUse older + budgetUse later :=
  List.countP_append

theorem budgetUse_eq_zero_iff {events : List Event} :
    budgetUse events = 0 ↔ ∀ event ∈ events, event.isState = true := by
  simp [budgetUse, List.countP_eq_zero]

/-- Events can be cut before any of those that use the budget, and at the end. -/
theorem exists_talking
    {events : List Event}
    {count : Nat}
    (within : count ≤ budgetUse events) :
    ∃ older later, events = older ++ later ∧ budgetUse older = count ∧ StartsTalking later := by
  induction events generalizing count with
  | nil =>
      have nothing : count = 0 := Nat.le_zero.mp within
      exact ⟨[], [], rfl, nothing.symm, .nil⟩
  | cons event rest hypothesis =>
      rw [budgetUse, List.countP_cons, ← budgetUse] at within
      cases state : event.isState with
      | true =>
          obtain ⟨older, later, split, used, talks⟩ := hypothesis (by simpa [state] using within)
          refine ⟨event :: older, later, by rw [split, List.cons_append], ?_, talks⟩
          simpa [budgetUse, state] using used
      | false =>
          cases count with
          | zero => exact ⟨[], event :: rest, rfl, rfl, .cons state rest⟩
          | succ count =>
              obtain ⟨older, later, split, used, talks⟩ :=
                hypothesis (Nat.le_of_succ_le_succ (by simpa [state] using within))
              refine ⟨event :: older, later, by rw [split, List.cons_append], ?_, talks⟩
              rw [budgetUse, List.countP_cons, ← budgetUse, used]
              simp [state]

theorem StartsTalking.takeWhile_eq_nil (talks : StartsTalking later) :
    later.takeWhile (·.isState) = [] := by
  cases later with
  | nil => rfl
  | cons first rest => simp [talks first rfl]

theorem StartsTalking.dropWhile_eq_self (talks : StartsTalking later) :
    later.dropWhile (·.isState) = later := by
  cases later with
  | nil => rfl
  | cons first rest => simp [talks first rfl]

/-- The horizon stands behind the front. -/
theorem horizonOf_append
    (frontState : ∀ event ∈ front, event.isState = true)
    (talks : StartsTalking later) :
    horizonOf (front ++ later) = front.length := by
  have allState : List.findIdx (!·.isState) front = front.length := by
    apply List.findIdx_eq_length.mpr
    intro event present
    simp [frontState event present]
  rw [horizonOf, List.findIdx_append, allState, if_neg (Nat.lt_irrefl _)]
  cases later with
  | nil => simp
  | cons first rest => simp [List.findIdx_cons, talks first rfl]

/-- The state events right behind the one that is evicted join the front. -/
theorem evictOnce_append
    {joining : List Event}
    (frontState : ∀ event ∈ front, event.isState = true)
    (firstTalks : first.isState = false)
    (joiningState : ∀ event ∈ joining, event.isState = true)
    (laterTalks : StartsTalking later) :
    evictOnce (front ++ first :: (joining ++ later)) = joining.foldl absorb front ++ later := by
  have behindFront : (first :: (joining ++ later)).dropWhile (·.isState) =
      first :: (joining ++ later) :=
    (StartsTalking.cons firstTalks _).dropWhile_eq_self
  have beforeFirst : (first :: (joining ++ later)).takeWhile (·.isState) = [] :=
    (StartsTalking.cons firstTalks _).takeWhile_eq_nil
  rw [evictOnce, List.dropWhile_append_of_pos frontState, behindFront]
  show ((joining ++ later).takeWhile (·.isState)).foldl absorb
      ((front ++ first :: (joining ++ later)).takeWhile (·.isState)) ++
        (joining ++ later).dropWhile (·.isState) = _
  rw [List.takeWhile_append_of_pos frontState, beforeFirst, List.append_nil,
    List.takeWhile_append_of_pos joiningState, List.dropWhile_append_of_pos joiningState,
    laterTalks.takeWhile_eq_nil, laterTalks.dropWhile_eq_self, List.append_nil]

end

/-- Cuts a list at its oldest event that is not a state event, and at the next event after it that
is not one. -/
theorem exists_cut (events : List Event) :
    (∀ event ∈ events, event.isState = true) ∨
    ∃ front first joining rest, events = front ++ first :: (joining ++ rest) ∧
      (∀ event ∈ front, event.isState = true) ∧ first.isState = false ∧
      (∀ event ∈ joining, event.isState = true) ∧ StartsTalking rest ∧
      evictOnce events = joining.foldl absorb front ++ rest := by
  obtain ⟨front, behind, rfl, unused, talks⟩ := exists_talking (Nat.zero_le (budgetUse events))
  have frontState := budgetUse_eq_zero_iff.mp unused
  cases behind with
  | nil =>
      left
      rw [List.append_nil]
      exact frontState
  | cons first later =>
      right
      have firstTalks : first.isState = false := talks first rfl
      obtain ⟨joining, rest, rfl, unusedJoining, restTalks⟩ :=
        exists_talking (Nat.zero_le (budgetUse later))
      have joiningState := budgetUse_eq_zero_iff.mp unusedJoining
      refine ⟨front, first, joining, rest, rfl, frontState, firstTalks, joiningState, restTalks, ?_⟩
      exact evictOnce_append frontState firstTalks joiningState restTalks

theorem evictOnce_of_allState
    {events : List Event}
    (allState : ∀ event ∈ events, event.isState = true) :
    evictOnce events = events := by
  rw [evictOnce, List.dropWhile_eq_nil_iff.mpr allState]

theorem evictOldest_of_allState
    {events : List Event}
    (allState : ∀ event ∈ events, event.isState = true)
    (count : Nat) :
    evictOldest count events = events := by
  induction count with
  | zero => rfl
  | succ count hypothesis => rw [evictOldest, evictOnce_of_allState allState, hypothesis]

theorem foldl_absorb_sublist (front joining : List Event) :
    (joining.foldl absorb front).Sublist (front ++ joining) := by
  induction joining generalizing front with
  | nil =>
      rw [List.append_nil]
      exact List.Sublist.refl front
  | cons event rest hypothesis =>
      have absorbed : (absorb front event).Sublist (front ++ [event]) :=
        List.filter_sublist.append_right [event]
      have shorter : (absorb front event ++ rest).Sublist (front ++ event :: rest) := by
        rw [← List.singleton_append, ← List.append_assoc]
        exact absorbed.append_right rest
      exact (hypothesis (absorb front event)).trans shorter

theorem foldl_absorb_allState
    {front joining : List Event}
    (frontState : ∀ event ∈ front, event.isState = true)
    (joiningState : ∀ event ∈ joining, event.isState = true) :
    ∀ event ∈ joining.foldl absorb front, event.isState = true := by
  intro event present
  rcases List.mem_append.mp ((foldl_absorb_sublist front joining).subset present) with
    inFront | inJoining
  · exact frontState event inFront
  · exact joiningState event inJoining

/-- A state event that joins the front is the only one there that speaks for its slot. -/
theorem speakingFor_absorb (slot : Slot) (front : List Event) (event : Event) :
    speakingFor slot (absorb front event) =
      if event.slot? = some slot then [event] else speakingFor slot front := by
  rw [absorb, speakingFor, List.filter_append, List.filter_filter]
  by_cases speaks : event.slot? = some slot
  · have superseded : ∀ older ∈ front,
        ¬(older.slot? == some slot && !older.sharesSlot event) = true := by
      intro older _ left
      rw [Bool.and_eq_true, beq_iff_eq, Bool.not_eq_true', ← Bool.not_eq_true,
        Event.sharesSlot_iff] at left
      exact left.2 ⟨slot, left.1, speaks⟩
    rw [if_pos speaks, List.filter_eq_nil_iff.mpr superseded]
    simp [speaks]
  · have untouched : ∀ older ∈ front,
        (older.slot? == some slot && !older.sharesSlot event) = (older.slot? == some slot) := by
      intro older _
      by_cases same : older.slot? = some slot
      · have unshared : older.sharesSlot event = false := by
          rw [← Bool.not_eq_true, Event.sharesSlot_iff]
          rintro ⟨shared, olderSlot, eventSlot⟩
          rw [same] at olderSlot
          exact speaks (eventSlot.trans olderSlot.symm)
        simp [same, unshared]
      · simp [same]
    rw [if_neg speaks, List.filter_congr untouched]
    simp [speaks, speakingFor]

/-- Of each slot the front holds the newest event that joined it, or where none did what it held. -/
theorem speakingFor_foldl_absorb (slot : Slot) (front joining : List Event) :
    speakingFor slot (joining.foldl absorb front) =
      match newestOf? slot joining with
      | some newest => [newest]
      | none => speakingFor slot front := by
  induction joining generalizing front with
  | nil => rfl
  | cons event rest hypothesis =>
      rw [List.foldl_cons, hypothesis, ← List.singleton_append, newestOf?_append,
        newestOf?_singleton, speakingFor_absorb]
      cases newestOf? slot rest with
      | some newest => rfl
      | none => by_cases speaks : event.slot? = some slot <;> simp [speaks]

theorem newestOf?_foldl_absorb (slot : Slot) (front joining : List Event) :
    newestOf? slot (joining.foldl absorb front) = newestOf? slot (front ++ joining) := by
  rw [← getLast?_speakingFor, speakingFor_foldl_absorb, newestOf?_append]
  cases newestOf? slot joining with
  | some newest => rfl
  | none => rw [Option.none_or, getLast?_speakingFor]

theorem evictOnce_sublist (events : List Event) : (evictOnce events).Sublist events := by
  rcases exists_cut events with allState | ⟨front, first, joining, rest, cut, -, -, -, -, evicted⟩
  · rw [evictOnce_of_allState allState]
  · have shorter : (joining.foldl absorb front).Sublist (front ++ first :: joining) :=
      (foldl_absorb_sublist front joining).trans
        ((List.sublist_cons_self first joining).append_left front)
    rw [evicted, cut, ← List.cons_append, ← List.append_assoc]
    exact shorter.append_right rest

/-- One eviction takes the oldest event that is not a state event, and no other such event. -/
theorem chatter_evictOnce (events : List Event) :
    chatter (evictOnce events) = (chatter events).drop 1 := by
  rcases exists_cut events with
    allState | ⟨front, first, joining, rest, cut, frontState, firstTalks, joiningState, -, evicted⟩
  · rw [evictOnce_of_allState allState, chatter_eq_nil allState, List.drop_nil]
  · have merged : chatter (joining.foldl absorb front) = [] :=
      chatter_eq_nil (foldl_absorb_allState frontState joiningState)
    have firstChatter : chatter (first :: (joining ++ rest)) = first :: chatter rest := by
      rw [chatter, List.filter_cons_of_pos (by simp [firstTalks]), ← chatter, chatter_append,
        chatter_eq_nil joiningState, List.nil_append]
    rw [evicted, cut, chatter_append, chatter_append, merged, chatter_eq_nil frontState,
      firstChatter]
    rfl

/-- One eviction keeps the newest event of every slot. -/
theorem newestOf?_evictOnce (slot : Slot) (events : List Event) :
    newestOf? slot (evictOnce events) = newestOf? slot events := by
  rcases exists_cut events with
    allState | ⟨front, first, joining, rest, cut, -, firstTalks, -, -, evicted⟩
  · rw [evictOnce_of_allState allState]
  · have slotless : first.slot? ≠ some slot := by
      intro speaks
      simp [Event.slot?, Event.isState] at speaks firstTalks
      simp [firstTalks] at speaks
    rw [evicted, cut, ← List.singleton_append, newestOf?_append, newestOf?_foldl_absorb,
      newestOf?_append, newestOf?_append, newestOf?_append, newestOf?_append, newestOf?_singleton,
      if_neg slotless, Option.or_none, Option.or_assoc]

theorem evictOldest_sublist (count : Nat) (events : List Event) :
    (evictOldest count events).Sublist events := by
  induction count generalizing events with
  | zero => exact List.Sublist.refl events
  | succ count hypothesis =>
      exact (hypothesis (evictOnce events)).trans (evictOnce_sublist events)

theorem chatter_evictOldest (count : Nat) (events : List Event) :
    chatter (evictOldest count events) = (chatter events).drop count := by
  induction count generalizing events with
  | zero => rfl
  | succ count hypothesis =>
      rw [evictOldest, hypothesis, chatter_evictOnce, List.drop_drop, Nat.add_comm]

theorem newestOf?_evictOldest (slot : Slot) (count : Nat) (events : List Event) :
    newestOf? slot (evictOldest count events) = newestOf? slot events := by
  induction count generalizing events with
  | zero => rfl
  | succ count hypothesis =>
      rw [evictOldest, hypothesis, newestOf?_evictOnce]

theorem evictNewest_isPrefix (count : Nat) (events : List Event) :
    evictNewest count events <+: events := by
  rw [evictNewest, ← List.reverse_suffix, List.reverse_reverse]
  exact dropNewest_suffix count events.reverse

theorem chatter_dropNewest (count : Nat) (events : List Event) :
    chatter (dropNewest count events) = (chatter events).drop count := by
  fun_induction dropNewest count events with
  | case1 => rfl
  | case2 => rfl
  | case3 count newest older isState hypothesis =>
      rw [hypothesis]
      simp [chatter, isState]
  | case4 count newest older notState hypothesis =>
      rw [hypothesis]
      simp [chatter, notState]

@[simp] theorem budgetUse_reverse (events : List Event) :
    budgetUse events.reverse = budgetUse events :=
  List.countP_reverse

/-- The events that an eviction at the newest end leaves use that much less of the budget. -/
theorem budgetUse_evictNewest (count : Nat) (events : List Event) :
    budgetUse (evictNewest count events) = budgetUse events - count := by
  rw [evictNewest, budgetUse_reverse, ← length_chatter, chatter_dropNewest, List.length_drop,
    length_chatter, budgetUse_reverse]

/-- No event before the horizon uses the budget. -/
theorem budgetUse_le_window (events : List Event) :
    budgetUse events ≤ events.length - horizonOf events := by
  induction events with
  | nil => exact Nat.le_refl 0
  | cons event rest hypothesis =>
      rw [budgetUse, List.countP_cons, horizonOf, List.findIdx_cons, ← budgetUse, ← horizonOf]
      cases event.isState with
      | true =>
          simp only [Bool.not_true, Bool.false_eq_true, if_false, cond_false, List.length_cons]
          omega
      | false =>
          have bounded : budgetUse rest ≤ rest.length := List.countP_le_length
          simp only [Bool.not_false, if_true, cond_true, List.length_cons]
          omega

/-- The look at the window only spares the count of what exceeds the budget. -/
theorem restoreBudget_of_pos
    {limit : Nat}
    (bounded : 0 < limit)
    (direction : Direction)
    (events : List Event) :
    restoreBudget limit direction events =
      match direction with
      | .backward => evictNewest (budgetUse events - limit) events
      | .forward => evictOldest (budgetUse events - limit) events := by
  rw [restoreBudget, if_neg (Nat.ne_of_gt bounded)]
  split
  · next within =>
      have window := budgetUse_le_window events
      have excess : budgetUse events - limit = 0 := by omega
      rw [excess]
      cases direction with
      | backward => exact (evictNewest_zero events).symm
      | forward => exact (evictOldest_zero events).symm
  · rfl

/-- A budget that holds takes nothing. -/
theorem restoreBudget_of_within
    {limit : Nat}
    {events : List Event}
    (within : 0 < limit → budgetUse events ≤ limit)
    (direction : Direction) :
    restoreBudget limit direction events = events := by
  rcases Nat.eq_zero_or_pos limit with rfl | bounded
  · rfl
  · rw [restoreBudget_of_pos bounded, Nat.sub_eq_zero_of_le (within bounded)]
    cases direction with
    | backward => exact evictNewest_zero events
    | forward => exact evictOldest_zero events

theorem restoreBudget_sublist (limit : Nat) (direction : Direction) (events : List Event) :
    (restoreBudget limit direction events).Sublist events := by
  rcases Nat.eq_zero_or_pos limit with rfl | bounded
  · exact List.Sublist.refl events
  · rw [restoreBudget_of_pos bounded]
    cases direction with
    | backward => exact (evictNewest_isPrefix _ events).sublist
    | forward => exact evictOldest_sublist _ events

/-- A restored budget holds. -/
theorem budgetUse_restoreBudget_le
    {limit : Nat}
    (bounded : 0 < limit)
    (direction : Direction)
    (events : List Event) :
    budgetUse (restoreBudget limit direction events) ≤ limit := by
  rw [restoreBudget_of_pos bounded]
  cases direction with
  | backward =>
      show budgetUse (evictNewest (budgetUse events - limit) events) ≤ limit
      rw [budgetUse_evictNewest]
      omega
  | forward =>
      show budgetUse (evictOldest (budgetUse events - limit) events) ≤ limit
      rw [← length_chatter, chatter_evictOldest, List.length_drop, length_chatter]
      omega

/-- Growth toward the present leaves the newest of the events that are not state events. -/
theorem chatter_restoreBudget_forward
    {limit : Nat}
    (bounded : 0 < limit)
    (events : List Event) :
    chatter (restoreBudget limit .forward events) =
      (chatter events).drop ((chatter events).length - limit) := by
  rw [restoreBudget_of_pos bounded, length_chatter]
  exact chatter_evictOldest (budgetUse events - limit) events

/-- Growth toward the present keeps the newest event of every slot. -/
theorem newestOf?_restoreBudget_forward (slot : Slot) (limit : Nat) (events : List Event) :
    newestOf? slot (restoreBudget limit .forward events) = newestOf? slot events := by
  rcases Nat.eq_zero_or_pos limit with rfl | bounded
  · rfl
  · rw [restoreBudget_of_pos bounded]
    exact newestOf?_evictOldest slot (budgetUse events - limit) events

end RoomHistory
