import RoomHistory.Proofs.Timeline.Trimming

/-!
# Evictions place by place

Evictions name events by their places, and the places shift as events are given up.  Each loop has
an invariant that says where the places stand: what was compared with an event that joins the front
is filtered already, what has joined the front is absorbed by it, and what is to be evicted still is
what is left to do on the whole list.  So no eviction looks for an event where there is none, the
loops leave what the operations on whole lists leave, and the events that are given up are counted
one by one.
-/

namespace RoomHistory

/-- The events that give way to none that joins the front. -/
def unshared (event : Event) (front : List Event) : List Event :=
  front.filter fun older => !older.sharesSlot event

theorem unshared_concat (event older : Event) (front : List Event) :
    unshared event (front ++ [older]) =
      if older.sharesSlot event then unshared event front else unshared event front ++ [older] := by
  cases shares : older.sharesSlot event <;> simp [unshared, shares]

namespace Sweep

section

variable {front compared ahead joined joining later : List Event} {event : Event} {place : Nat}
  {sweep : Sweep} {span removed : Nat}

/-- While an event is compared with the events before it: of those that were compared the ones that
do not share its slot are left, and the others are counted. -/
structure Compares
    (compared ahead : List Event)
    (event : Event)
    (later : List Event)
    (span removed : Nat)
    (state : Nat × Sweep) : Prop where
  events : state.2.events = unshared event compared ++ (ahead ++ event :: later)
  place : state.1 = (unshared event compared).length
  joining : state.2.joining = state.1 + ahead.length
  stop : state.2.stop = state.2.joining + span
  removed : state.2.removed + state.1 = removed + compared.length

/-- The next event is compared, and given up or passed. -/
theorem Compares.compare?
    {older : Event}
    (compares : Compares compared (older :: ahead) event later span removed (place, sweep)) :
    ∃ next, compare? (place, sweep) = some next ∧
      Compares (compared ++ [older]) ahead event later span removed next := by
  obtain ⟨events, atPlace, joins, stops, counts⟩ := compares
  dsimp only at events atPlace joins stops counts
  rw [List.length_cons] at joins
  have found : sweep.events[place]? = some older := by
    rw [events, atPlace, List.getElem?_append_right (Nat.le_refl _), Nat.sub_self]
    rfl
  have target : sweep.events[sweep.joining]? = some event := by
    rw [events, joins, atPlace, List.getElem?_append_right (Nat.le_add_right _ _),
      Nat.add_sub_cancel_left, List.cons_append, List.getElem?_cons_succ,
      List.getElem?_append_right (Nat.le_refl _), Nat.sub_self]
    rfl
  have longer : (compared ++ [older]).length = compared.length + 1 := List.length_append
  simp only [Sweep.compare?, found, target]
  refine ⟨_, rfl, ?_⟩
  cases shares : older.sharesSlot event with
  | true =>
      have left : unshared event (compared ++ [older]) = unshared event compared := by
        rw [unshared_concat, shares, if_pos rfl]
      rw [if_pos rfl]
      refine ⟨?_, left ▸ atPlace, ?_, ?_, ?_⟩
      · show sweep.events.eraseIdx place = _
        rw [left, events, atPlace, List.eraseIdx_append_of_length_le (Nat.le_refl _), Nat.sub_self]
        rfl
      · show sweep.joining - 1 = place + ahead.length
        omega
      · show sweep.stop - 1 = sweep.joining - 1 + span
        omega
      · show sweep.removed + 1 + place = removed + (compared ++ [older]).length
        omega
  | false =>
      have left : unshared event (compared ++ [older]) = unshared event compared ++ [older] := by
        rw [unshared_concat, shares, if_neg Bool.false_ne_true]
      rw [if_neg Bool.false_ne_true]
      refine ⟨?_, ?_, ?_, stops, ?_⟩
      · rw [left, List.append_assoc]
        exact events
      · rw [left, List.length_append, ← atPlace]
        rfl
      · show sweep.joining = place + 1 + ahead.length
        omega
      · show sweep.removed + (place + 1) = removed + (compared ++ [older]).length
        omega

/-- All events before the one that joins are compared with it, one after another. -/
theorem Compares.compareAll
    (start : Compares [] front event later span removed (0, sweep)) :
    ∃ last, repeatWhile? (fun (place, sweep) => decide (place < sweep.joining)) Sweep.compare?
        sweep.joining (0, sweep) = some last ∧
      Compares front [] event later span removed last := by
  have goes : ∀ compared ahead state, Compares compared ahead event later span removed state →
      decide (state.1 < state.2.joining) = !ahead.isEmpty := by
    intro compared ahead state compares
    rw [compares.joining]
    cases ahead <;> simp
  have near : front.length ≤ sweep.joining := by
    rw [start.joining]
    exact Nat.le_add_left _ _
  exact repeatWhile?_of_list goes (fun _ _ _ _ compares => compares.compare?) start near

/-- While events join a front: some of them have joined it, and whatever was given up is counted. -/
structure Joins
    (front joined ahead later : List Event)
    (removed : Nat)
    (sweep : Sweep) : Prop where
  events : sweep.events = joined.foldl absorb front ++ (ahead ++ later)
  joining : sweep.joining = (joined.foldl absorb front).length
  stop : sweep.stop = sweep.joining + ahead.length
  removed : sweep.removed + sweep.joining = removed + (front.length + joined.length)

/-- The next event joins the front in place of the older ones of its slot. -/
theorem Joins.join?
    (joins : Joins front joined (event :: ahead) later removed sweep) :
    ∃ next, sweep.join? = some next ∧ Joins front (joined ++ [event]) ahead later removed next := by
  obtain ⟨events, atPlace, stops, counts⟩ := joins
  have start : Compares [] (joined.foldl absorb front) event (ahead ++ later) (ahead.length + 1)
      sweep.removed (0, sweep) :=
    ⟨events, rfl, atPlace.trans (Nat.zero_add _).symm, stops, rfl⟩
  obtain ⟨last, ends, eventsThen, placeThen, joiningThen, stopThen, removedThen⟩ :=
    start.compareAll
  have absorbed : (joined ++ [event]).foldl absorb front =
      unshared event (joined.foldl absorb front) ++ [event] := by
    rw [List.foldl_append]
    rfl
  refine ⟨{ last.2 with joining := last.2.joining + 1 }, by rw [Sweep.join?, ends]; rfl, ?_⟩
  refine ⟨?_, ?_, ?_, ?_⟩
  · rw [absorbed, List.append_assoc]
    exact eventsThen
  · rw [absorbed, List.length_append, ← placeThen]
    exact congrArg (· + 1) joiningThen
  · show last.2.stop = last.2.joining + 1 + ahead.length
    omega
  · have longer : (joined ++ [event]).length = joined.length + 1 := List.length_append
    rw [List.length_nil] at joiningThen
    show last.2.removed + (last.2.joining + 1) = removed + (front.length + (joined ++ [event]).length)
    omega

/-- All events before the stop join the front, one after another. -/
theorem Joins.joinAll?
    (start : Joins front [] joining later removed sweep) :
    ∃ last, sweep.joinAll? = some last ∧ Joins front joining [] later removed last := by
  have goes : ∀ joined ahead sweep, Joins front joined ahead later removed sweep →
      decide (sweep.joining < sweep.stop) = !ahead.isEmpty := by
    intro joined ahead sweep joins
    rw [joins.stop]
    cases ahead <;> simp
  have near : joining.length ≤ sweep.stop - sweep.joining := by
    rw [start.stop, Nat.add_sub_cancel_left]
  exact repeatWhile?_of_list goes (fun _ _ _ _ joins => joins.join?) start near

end

end Sweep

namespace Eviction

/-- Of events that are given up, what is left and how many went make up what there was. -/
def Counts (events : List Event) (eviction : Eviction) : Prop :=
  eviction.removed + eviction.events.length = events.length

theorem horizonOf_of_allState
    {events : List Event}
    (allState : ∀ event ∈ events, event.isState = true) :
    horizonOf events = events.length := by
  have horizon := horizonOf_append allState StartsTalking.nil
  rwa [List.append_nil] at horizon

/-- One eviction at the horizon leaves what an eviction from the whole list leaves. -/
theorem dropOldest?_eq
    {events : List Event}
    {eviction : Eviction}
    (counts : eviction.Counts events)
    (talks : horizonOf eviction.events ≠ eviction.events.length) :
    ∃ next, eviction.dropOldest? = some next ∧ next.events = evictOnce eviction.events ∧
      next.used = eviction.used - 1 ∧ next.Counts events := by
  rcases exists_cut eviction.events with
    allState | ⟨front, first, joining, rest, cut, frontState, firstTalks, joiningState, restTalks,
      evicted⟩
  · exact absurd (horizonOf_of_allState allState) talks
  have horizon : horizonOf eviction.events = front.length := by
    rw [cut]
    exact horizonOf_append frontState (.cons firstTalks _)
  have left : eviction.events.eraseIdx front.length = front ++ (joining ++ rest) := by
    rw [cut, List.eraseIdx_append_of_length_le (Nat.le_refl _), Nat.sub_self]
    rfl
  have horizonThen : horizonOf (front ++ (joining ++ rest)) = front.length + joining.length := by
    rw [← List.append_assoc, ← List.length_append]
    exact horizonOf_append (List.forall_mem_append.mpr ⟨frontState, joiningState⟩) restTalks
  have start : Sweep.Joins front [] joining rest (eviction.removed + 1)
      ⟨front ++ (joining ++ rest), front.length, front.length + joining.length,
        eviction.removed + 1⟩ :=
    ⟨rfl, rfl, rfl, rfl⟩
  obtain ⟨last, ends, eventsThen, joiningThen, -, removedThen⟩ := start.joinAll?
  refine ⟨⟨last.events, eviction.used - 1, last.removed⟩, ?_, ?_, rfl, ?_⟩
  · simp only [dropOldest?, horizon, left, horizonThen, ends]
    rfl
  · rw [evicted]
    exact eventsThen
  · rw [Counts, cut, List.length_append, List.length_cons, List.length_append] at counts
    show last.removed + last.events.length = events.length
    rw [eventsThen, List.length_append, ← joiningThen, List.nil_append]
    omega

/-- Evictions at the horizon leave what as many evictions from the whole list leave. -/
theorem oldest?_eq (limit : Nat) (events : List Event) :
    ∃ last, oldest? limit events = some last ∧
      last.events = evictOldest (budgetUse events - limit) events ∧ last.Counts events := by
  let invariant (eviction : Eviction) : Prop :=
    evictOldest (eviction.used - limit) eviction.events =
      evictOldest (budgetUse events - limit) events ∧ eviction.Counts events
  have step : ∀ eviction, invariant eviction →
      (eviction.exceeds limit && horizonOf eviction.events != eviction.events.length) = true →
      ∃ next, eviction.dropOldest? = some next ∧ invariant next ∧ next.used < eviction.used := by
    rintro eviction ⟨toDo, counts⟩ goesOn
    obtain ⟨exceeds, talks⟩ := Bool.and_eq_true_iff.mp goesOn
    have above : limit < eviction.used := of_decide_eq_true exceeds
    obtain ⟨next, steps, eventsThen, usedThen, countsThen⟩ :=
      dropOldest?_eq counts (bne_iff_ne.mp talks)
    refine ⟨next, steps, ⟨?_, countsThen⟩, by omega⟩
    have oneMore : eviction.used - limit = next.used - limit + 1 := by omega
    rw [← toDo, oneMore, evictOldest, eventsThen]
  have start : invariant (ofEvents events) := ⟨rfl, Nat.zero_add _⟩
  obtain ⟨last, ends, ⟨done, counts⟩, stopped⟩ :=
    repeatWhile?_of_invariant step start (Nat.le_refl _)
  refine ⟨last, ends, ?_, counts⟩
  rcases Bool.and_eq_false_iff.mp stopped with within | silent
  · have nothing : last.used - limit = 0 := by
      have notAbove := of_decide_eq_false within
      omega
    rw [nothing] at done
    exact done
  · have horizon : horizonOf last.events = last.events.length := by simpa using silent
    have allState : ∀ event ∈ last.events, event.isState = true := by
      intro event present
      simpa using List.findIdx_eq_length.mp horizon event present
    rw [evictOldest_of_allState allState] at done
    exact done

/-- Giving up the newest event leaves as much to do on the rest of a newest-first list. -/
theorem dropNewest?_eq
    {limit : Nat}
    {events : List Event}
    {eviction : Eviction}
    (counts : eviction.Counts events)
    (above : limit < eviction.used)
    (notEmpty : eviction.events ≠ []) :
    ∃ next, eviction.dropNewest? = some next ∧
      dropNewest (next.used - limit) next.events.reverse =
        dropNewest (eviction.used - limit) eviction.events.reverse ∧
      next.events.length < eviction.events.length ∧ next.Counts events := by
  rcases List.eq_nil_or_concat' eviction.events with nothing | ⟨older, newest, split⟩
  · exact absurd nothing notEmpty
  have oneMore : eviction.used - limit = eviction.used - 1 - limit + 1 := by omega
  rw [Counts, split, List.length_append, List.length_singleton] at counts
  rw [dropNewest?, split, List.getLast?_concat, List.dropLast_concat]
  refine ⟨_, rfl, ?_, ?_, ?_⟩
  · rw [List.reverse_concat, oneMore, dropNewest]
    show dropNewest ((if newest.isState then eviction.used else eviction.used - 1) - limit)
      older.reverse = _
    cases newest.isState with
    | true => rw [if_pos rfl, if_pos rfl, oneMore]
    | false => rw [if_neg Bool.false_ne_true, if_neg Bool.false_ne_true]
  · show older.length < (older ++ [newest]).length
    rw [List.length_append, List.length_singleton]
    exact Nat.lt_succ_self older.length
  · show eviction.removed + 1 + older.length = events.length
    omega

/-- Evictions of the newest event leave what the evictions from the newest-first list leave. -/
theorem newest?_eq (limit : Nat) (events : List Event) :
    ∃ last, newest? limit events = some last ∧
      last.events = evictNewest (budgetUse events - limit) events ∧ last.Counts events := by
  let invariant (eviction : Eviction) : Prop :=
    dropNewest (eviction.used - limit) eviction.events.reverse =
      dropNewest (budgetUse events - limit) events.reverse ∧ eviction.Counts events
  have step : ∀ eviction, invariant eviction →
      (eviction.exceeds limit && !eviction.events.isEmpty) = true →
      ∃ next, eviction.dropNewest? = some next ∧ invariant next ∧
        next.events.length < eviction.events.length := by
    rintro eviction ⟨toDo, counts⟩ goesOn
    obtain ⟨exceeds, filled⟩ := Bool.and_eq_true_iff.mp goesOn
    have notEmpty : eviction.events ≠ [] := by simpa using filled
    obtain ⟨next, steps, toDoThen, fewer, countsThen⟩ :=
      dropNewest?_eq counts (of_decide_eq_true exceeds) notEmpty
    exact ⟨next, steps, ⟨toDoThen.trans toDo, countsThen⟩, fewer⟩
  have start : invariant (ofEvents events) := ⟨rfl, Nat.zero_add _⟩
  obtain ⟨last, ends, ⟨done, counts⟩, stopped⟩ :=
    repeatWhile?_of_invariant step start (Nat.le_refl _)
  refine ⟨last, ends, ?_, counts⟩
  have nothingToDo : dropNewest (last.used - limit) last.events.reverse = last.events.reverse := by
    rcases Bool.and_eq_false_iff.mp stopped with within | empty
    · have nothing : last.used - limit = 0 := by
        have notAbove := of_decide_eq_false within
        omega
      rw [nothing, dropNewest_zero]
    · have nothing : last.events = [] := by simpa using empty
      rw [nothing, List.reverse_nil, dropNewest_nil]
  rw [evictNewest, ← done, nothingToDo, List.reverse_reverse]

end Eviction

/-- The budget is restored whatever the events are, and the events given up are counted. -/
theorem trim?_eq (limit : Nat) (direction : Direction) (events : List Event) :
    ∃ removed, trim? limit direction events =
        some (restoreBudget limit direction events, removed) ∧
      removed + (restoreBudget limit direction events).length = events.length := by
  unfold trim? restoreBudget
  split
  · exact ⟨0, rfl, Nat.zero_add _⟩
  split
  · exact ⟨0, rfl, Nat.zero_add _⟩
  cases direction with
  | backward =>
      obtain ⟨last, ends, left, counts⟩ := Eviction.newest?_eq limit events
      dsimp only
      rw [ends, ← left]
      exact ⟨last.removed, rfl, counts⟩
  | forward =>
      obtain ⟨last, ends, left, counts⟩ := Eviction.oldest?_eq limit events
      dsimp only
      rw [ends, ← left]
      exact ⟨last.removed, rfl, counts⟩

end RoomHistory
