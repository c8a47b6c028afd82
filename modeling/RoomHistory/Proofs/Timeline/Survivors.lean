import RoomHistory.Proofs.Timeline.Sweeping

/-!
# Which events a budget leaves

The budget is restored by giving up one event after another, and at the oldest end every eviction
lets state events join the front.  Which events are left in the end can be read off the places of
the events in one look.  The cut stands before the oldest of the events that use the budget and
need not go.  Growth toward the present leaves everything from the cut on, and before it every
state event that no later one of its slot supersedes, as those behind the horizon do.  Growth into
history leaves the longest beginning of the events that keeps to the budget.
-/

namespace RoomHistory

/-- An event that is no state event shares no slot. -/
theorem Event.sharesSlot_of_talks
    {event : Event}
    (talks : event.isState = false)
    (other : Event) :
    other.sharesSlot event = false := by
  have slotless : event.slot? = none := by simpa [isState] using talks
  rw [← Bool.not_eq_true, sharesSlot_iff]
  rintro ⟨slot, -, speaks⟩
  rw [slotless] at speaks
  cases speaks

/-- The places of the events that are not state events, the oldest first. -/
def chatterPlaces (events : List Event) : List Nat :=
  (events.zipIdx.filter fun entry => !entry.1.isState).map Prod.snd

/-- The place of the event that is not a state event and has `older` such events before it, or the
end. -/
def chatterPlace (events : List Event) (older : Nat) : Nat :=
  (chatterPlaces events)[older]?.getD events.length

/-- Whether a later event of the slot of the event at a place stands between two other places. -/
def isSuperseded (events : List Event) (front cut : Nat) (entry : Event × Nat) : Bool :=
  events.zipIdx.any fun later =>
    decide (entry.2 < later.2 ∧ front < later.2 ∧ later.2 < cut) && entry.1.sharesSlot later.1

/-- Whether the event at a place is left when all events before the cut are given up or join the
front. -/
def outlasts (events : List Event) (front cut : Nat) (entry : Event × Nat) : Bool :=
  decide (cut ≤ entry.2) || entry.1.isState && !isSuperseded events front cut entry

/-- The state events that are left when all others are given up and what stands behind the place
`front` joins the front. -/
def gathered (front : Nat) (events : List Event) : List Event :=
  (events.zipIdx.filter fun entry =>
    entry.1.isState && !isSuperseded events front events.length entry).map Prod.fst

/-- The events that growth toward the present leaves of a budget. -/
def survivors (limit : Nat) (events : List Event) : List Event :=
  (events.zipIdx.filter
    (outlasts events (horizonOf events) (chatterPlace events (budgetUse events - limit)))).map
      Prod.fst

/-- The longest beginning of some events that keeps to a budget. -/
structure LongestWithin (limit : Nat) (events held : List Event) : Prop where
  isPrefix : held <+: events
  withinBudget : budgetUse held ≤ limit
  longest : ∀ other, other <+: events → budgetUse other ≤ limit → other.length ≤ held.length

section

variable {front middle older later : List Event}

theorem length_chatterPlaces (events : List Event) :
    (chatterPlaces events).length = budgetUse events := by
  rw [chatterPlaces, List.length_map, ← List.countP_eq_length_filter, budgetUse]
  conv_rhs => rw [← List.zipIdx_map_fst 0 events, List.countP_map]
  rfl

/-- The place of an event that uses the budget tells how many such events are older. -/
theorem chatterPlace_append (older : List Event) (talks : StartsTalking later) :
    chatterPlace (older ++ later) (budgetUse older) = older.length := by
  have places : chatterPlaces (older ++ later) = chatterPlaces older ++
      ((later.zipIdx older.length).filter fun entry => !entry.1.isState).map Prod.snd := by
    rw [chatterPlaces, List.zipIdx_append, List.filter_append, List.map_append, Nat.zero_add,
      ← chatterPlaces]
  rw [chatterPlace, places, List.getElem?_append_right (Nat.le_of_eq (length_chatterPlaces older)),
    length_chatterPlaces, Nat.sub_self]
  cases later with
  | nil => simp
  | cons first rest => simp [talks first rfl]

/-- Evicting all events that use the budget from between lets the state events among them join the
front. -/
theorem evictOldest_append
    (frontState : ∀ event ∈ front, event.isState = true)
    (talks : StartsTalking middle)
    (laterTalks : StartsTalking later) :
    evictOldest (budgetUse middle) (front ++ (middle ++ later)) =
      (middle.filter (·.isState)).foldl absorb front ++ later := by
  induction used : budgetUse middle generalizing front middle with
  | zero =>
      cases middle with
      | nil => rfl
      | cons first rest =>
          have state := budgetUse_eq_zero_iff.mp used first List.mem_cons_self
          rw [talks first rfl] at state
          cases state
  | succ count hypothesis =>
      cases middle with
      | nil => cases used
      | cons first rest =>
          have firstTalks : first.isState = false := talks first rfl
          obtain ⟨joining, behind, rfl, unused, behindTalks⟩ :=
            exists_talking (Nat.zero_le (budgetUse rest))
          have joiningState := budgetUse_eq_zero_iff.mp unused
          have usedBehind : budgetUse behind = count := by
            rw [budgetUse, List.countP_cons, ← budgetUse, budgetUse_append, unused,
              firstTalks] at used
            simpa using used
          have stillState := foldl_absorb_allState frontState joiningState
          have joins : (first :: (joining ++ behind)).filter (·.isState) =
              joining ++ behind.filter (·.isState) := by
            rw [List.filter_cons_of_neg (by simp [firstTalks]), List.filter_append,
              List.filter_eq_self.mpr joiningState]
          rw [evictOldest, joins, List.foldl_append, ← hypothesis stillState behindTalks usedBehind]
          congr 1
          rw [List.cons_append, List.append_assoc]
          exact evictOnce_append frontState firstTalks joiningState (behindTalks.append laterTalks)

/-- What stands at the cut or behind it supersedes nothing. -/
theorem isSuperseded_append
    {start cut : Nat}
    (atCut : cut ≤ older.length)
    (entry : Event × Nat) :
    isSuperseded (older ++ later) start cut entry = isSuperseded older start cut entry := by
  have behind : ((later.zipIdx older.length).any fun other =>
      decide (entry.2 < other.2 ∧ start < other.2 ∧ other.2 < cut) &&
        entry.1.sharesSlot other.1) = false := by
    rw [List.any_eq_false]
    intro other present
    have place := (List.mem_zipIdx present).1
    have noSooner : ¬(entry.2 < other.2 ∧ start < other.2 ∧ other.2 < cut) := by omega
    simp [noSooner]
  rw [isSuperseded, List.zipIdx_append, List.any_append, Nat.zero_add, behind, Bool.or_false,
    ← isSuperseded]

/-- Between places that are next to each other nothing stands. -/
theorem isSuperseded_of_narrow
    {start cut : Nat}
    {entry : Event × Nat}
    (narrow : cut ≤ start + 1 ∨ cut ≤ entry.2 + 1)
    (events : List Event) :
    isSuperseded events start cut entry = false := by
  rw [isSuperseded, List.any_eq_false]
  intro later _
  have nowhere : ¬(entry.2 < later.2 ∧ start < later.2 ∧ later.2 < cut) := by omega
  simp [nowhere]

/-- One more event before the cut supersedes the older ones of its slot. -/
theorem isSuperseded_concat
    {start : Nat}
    {event : Event}
    {entry : Event × Nat}
    (isOlder : entry.2 < older.length)
    (behind : event.isState = true → start < older.length) :
    isSuperseded (older ++ [event]) start (older.length + 1) entry =
      (isSuperseded older start older.length entry || entry.1.sharesSlot event) := by
  have before : (older.zipIdx.any fun later =>
      decide (entry.2 < later.2 ∧ start < later.2 ∧ later.2 < older.length + 1) &&
        entry.1.sharesSlot later.1) = isSuperseded older start older.length entry := by
    rw [isSuperseded, Bool.eq_iff_iff, List.any_eq_true, List.any_eq_true]
    apply exists_congr
    intro later
    apply and_congr_right
    intro present
    have place := (List.mem_zipIdx present).2.1
    have same : (entry.2 < later.2 ∧ start < later.2 ∧ later.2 < older.length + 1) ↔
        (entry.2 < later.2 ∧ start < later.2 ∧ later.2 < older.length) := by omega
    simp only [same]
  have atCut : (decide (entry.2 < older.length ∧ start < older.length ∧
      older.length < older.length + 1) && entry.1.sharesSlot event) =
        entry.1.sharesSlot event := by
    cases state : event.isState with
    | true => simp [isOlder, behind state]
    | false => rw [Event.sharesSlot_of_talks state, Bool.and_false]
  rw [isSuperseded, List.zipIdx_append, List.any_append, before, Nat.zero_add,
    List.zipIdx_singleton, List.any_cons, List.any_nil, Bool.or_false, atCut]

/-- Of a front that nothing joins everything is left. -/
theorem gathered_front (frontState : ∀ event ∈ front, event.isState = true) :
    gathered front.length front = front := by
  have whole : (front.zipIdx.filter fun entry => entry.1.isState &&
      !isSuperseded front front.length front.length entry) = front.zipIdx := by
    apply List.filter_eq_self.mpr
    intro entry present
    rw [frontState entry.1 (List.fst_mem_of_mem_zipIdx present),
      isSuperseded_of_narrow (Or.inl (Nat.le_succ _))]
    rfl
  rw [gathered, whole, List.zipIdx_map_fst]

/-- One more state event joins what was gathered, and one more other event is given up. -/
theorem gathered_concat
    {start : Nat}
    {event : Event}
    (behind : event.isState = true → start < older.length) :
    gathered start (older ++ [event]) =
      if event.isState then absorb (gathered start older) event else gathered start older := by
  have earlier : (older.zipIdx.filter fun entry => entry.1.isState &&
      !isSuperseded (older ++ [event]) start (older.length + 1) entry) =
        (older.zipIdx.filter fun entry => entry.1.isState &&
          !isSuperseded older start older.length entry).filter
            ((fun before => !before.sharesSlot event) ∘ Prod.fst) := by
    rw [List.filter_filter]
    apply List.filter_congr
    intro entry present
    rw [isSuperseded_concat (by simpa using (List.mem_zipIdx present).2.1) behind]
    simp [Bool.and_comm, Bool.and_left_comm, Bool.and_assoc]
  have last : isSuperseded (older ++ [event]) start (older.length + 1)
      (event, older.length) = false :=
    isSuperseded_of_narrow (Or.inr (Nat.le_refl _)) _
  rw [gathered, List.length_append, List.length_singleton, List.zipIdx_append,
    List.filter_append, List.map_append, earlier, ← List.filter_map, ← gathered, Nat.zero_add,
    List.zipIdx_singleton, List.filter_cons, last, List.filter_nil]
  cases state : event.isState with
  | true => rfl
  | false =>
      have unshared : ∀ before ∈ gathered start older, (!before.sharesSlot event) = true := by
        intro before _
        rw [Event.sharesSlot_of_talks state]
        rfl
      rw [List.filter_eq_self.mpr unshared]
      simp

/-- State events that join a front leave of it, and of each other, what is not superseded. -/
theorem foldl_absorb_eq_gathered
    (frontState : ∀ event ∈ front, event.isState = true)
    (talks : StartsTalking middle) :
    (middle.filter (·.isState)).foldl absorb front =
      gathered front.length (front ++ middle) := by
  induction middle using List.reverseRecOn with
  | nil => rw [List.append_nil, gathered_front frontState, List.filter_nil, List.foldl_nil]
  | append_singleton middle event hypothesis =>
      have behind : event.isState = true → front.length < (front ++ middle).length := by
        intro state
        cases middle with
        | nil =>
            rw [talks event rfl] at state
            cases state
        | cons first rest =>
            rw [List.length_append, List.length_cons]
            omega
      rw [← List.append_assoc, gathered_concat behind, ← hypothesis talks.of_append,
        List.filter_append, List.foldl_append]
      cases state : event.isState with
      | true => simp [state]
      | false => simp [state]

/-- Before the cut the survivors are gathered, and from there on everything survives. -/
theorem survivors_append
    {limit : Nat}
    (frontState : ∀ event ∈ front, event.isState = true)
    (talks : StartsTalking middle)
    (laterTalks : StartsTalking later)
    (used : budgetUse (front ++ (middle ++ later)) - limit = budgetUse middle) :
    survivors limit (front ++ (middle ++ later)) =
      gathered front.length (front ++ middle) ++ later := by
  have horizon := horizonOf_append frontState (talks.append laterTalks)
  have cut : chatterPlace (front ++ (middle ++ later)) (budgetUse middle) =
      (front ++ middle).length := by
    have usedBefore : budgetUse middle = budgetUse (front ++ middle) := by
      rw [budgetUse_append, budgetUse_eq_zero_iff.mpr frontState, Nat.zero_add]
    rw [usedBefore, ← List.append_assoc]
    exact chatterPlace_append (front ++ middle) laterTalks
  rw [survivors, used, cut, horizon, ← List.append_assoc]
  generalize front ++ middle = older
  have before : older.zipIdx.filter (outlasts (older ++ later) front.length older.length) =
      older.zipIdx.filter fun entry =>
        entry.1.isState && !isSuperseded older front.length older.length entry := by
    apply List.filter_congr
    intro entry present
    have place := (List.mem_zipIdx present).2.1
    have notBehind : ¬older.length ≤ entry.2 := by omega
    rw [outlasts, isSuperseded_append (Nat.le_refl _), decide_eq_false notBehind, Bool.false_or]
  have behind : (later.zipIdx older.length).filter
      (outlasts (older ++ later) front.length older.length) = later.zipIdx older.length := by
    apply List.filter_eq_self.mpr
    intro entry present
    rw [outlasts, decide_eq_true (List.mem_zipIdx present).1, Bool.true_or]
  rw [List.zipIdx_append, List.filter_append, List.map_append, Nat.zero_add, before, behind,
    ← gathered, List.zipIdx_map_fst]

/-- What the evictions at the oldest end leave is what survives. -/
theorem evictOldest_eq_survivors (limit : Nat) (events : List Event) :
    evictOldest (budgetUse events - limit) events = survivors limit events := by
  obtain ⟨older, later, rfl, usedOlder, laterTalks⟩ :=
    exists_talking (Nat.sub_le (budgetUse events) limit)
  obtain ⟨front, middle, rfl, usedFront, talks⟩ := exists_talking (Nat.zero_le (budgetUse older))
  have frontState := budgetUse_eq_zero_iff.mp usedFront
  rw [budgetUse_append front middle, usedFront, Nat.zero_add] at usedOlder
  rw [List.append_assoc] at usedOlder ⊢
  rw [survivors_append frontState talks laterTalks usedOlder.symm, ← usedOlder,
    evictOldest_append frontState talks laterTalks, foldl_absorb_eq_gathered frontState talks]

/-- A newest-first list from which events are given up ends with every end of it that uses no more
of the budget. -/
theorem suffix_dropNewest
    (count : Nat)
    (events : List Event)
    {other : List Event}
    (within : count ≤ budgetUse events)
    (isSuffix : other <:+ events)
    (uses : budgetUse other ≤ budgetUse events - count) :
    other <:+ dropNewest count events := by
  fun_induction dropNewest count events with
  | case1 => exact isSuffix
  | case2 => exact isSuffix
  | case3 count newest older state hypothesis =>
      have sameUse : budgetUse (newest :: older) = budgetUse older := by simp [budgetUse, state]
      rw [sameUse] at within uses
      rcases List.suffix_cons_iff.mp isSuffix with rfl | inOlder
      · rw [sameUse] at uses
        omega
      · exact hypothesis within inOlder uses
  | case4 count newest older talks hypothesis =>
      have moreUse : budgetUse (newest :: older) = budgetUse older + 1 := by simp [budgetUse, talks]
      rw [moreUse] at within uses
      rcases List.suffix_cons_iff.mp isSuffix with rfl | inOlder
      · rw [moreUse] at uses
        omega
      · exact hypothesis (by omega) inOlder (by omega)

/-- What the evictions at the newest end leave is the longest beginning within the budget. -/
theorem evictNewest_longest (limit : Nat) (events : List Event) :
    LongestWithin limit events (evictNewest (budgetUse events - limit) events) where
  isPrefix := evictNewest_isPrefix _ events
  withinBudget := by
    rw [budgetUse_evictNewest]
    omega
  longest other isPrefix uses := by
    have bounded : budgetUse other ≤ budgetUse events := isPrefix.sublist.countP_le
    have kept : other.reverse <:+ dropNewest (budgetUse events - limit) events.reverse := by
      apply suffix_dropNewest _ _ _ (List.reverse_suffix.mpr isPrefix)
      · rw [budgetUse_reverse, budgetUse_reverse]
        omega
      · rw [budgetUse_reverse]
        omega
    rw [evictNewest, List.length_reverse]
    have shorter := kept.length_le
    rw [List.length_reverse] at shorter
    exact shorter

end

/-- What trimming leaves: after growth toward the present the survivors, in their order, after growth
into history the longest beginning within the budget, and without a limit everything.  It counts
exactly the events that are given up. -/
theorem trim_leaves
    {limit : Nat}
    (bounded : 0 < limit)
    (events : List Event) :
    (∃ removed, trim? limit .forward events = some (survivors limit events, removed) ∧
      removed + (survivors limit events).length = events.length) ∧
    (∃ kept removed, trim? limit .backward events = some (kept, removed) ∧
      LongestWithin limit events kept ∧ removed + kept.length = events.length) ∧
    ∀ direction, trim? 0 direction events = some (events, 0) := by
  refine ⟨?_, ?_, fun direction => rfl⟩
  · obtain ⟨removed, trims, counts⟩ := trim?_eq limit .forward events
    have left : restoreBudget limit .forward events = survivors limit events :=
      (restoreBudget_of_pos bounded .forward events).trans (evictOldest_eq_survivors limit events)
    rw [left] at trims counts
    exact ⟨removed, trims, counts⟩
  · obtain ⟨removed, trims, counts⟩ := trim?_eq limit .backward events
    have left : restoreBudget limit .backward events =
        evictNewest (budgetUse events - limit) events :=
      restoreBudget_of_pos bounded .backward events
    rw [left] at trims counts
    exact ⟨_, removed, trims, evictNewest_longest limit events, counts⟩

/-- A member who leaves and joins again between messages, after the room was named. -/
def rejoined : List Event := [
  Event.state "$name" ⟨"m.room.name", ""⟩ (.ofMembers [("name", .string "den")]),
  Event.state "$in" ⟨Event.memberType, "@a:x"⟩ (.ofMembers [("membership", .string "join")]),
  Event.bare "$one" "m.room.message",
  Event.state "$out" ⟨Event.memberType, "@a:x"⟩ (.ofMembers [("membership", .string "leave")]),
  Event.bare "$two" "m.room.message",
  Event.state "$back" ⟨Event.memberType, "@a:x"⟩ (.ofMembers [("membership", .string "join")]),
  Event.bare "$three" "m.room.message",
  Event.state "$topic" ⟨"m.room.topic", ""⟩ (.ofMembers [("topic", .string "fox")])]

theorem trim_leaves_rejoined :
    0 < 1 ∧
    (trim? 1 .forward rejoined).map (fun result => (result.1.map (·.id), result.2)) =
      some (["$name", "$back", "$three", "$topic"], 4) ∧
    (∃ removed, trim? 1 .forward rejoined = some (survivors 1 rejoined, removed) ∧
      removed + (survivors 1 rejoined).length = rejoined.length) ∧
    (trim? 1 .backward rejoined).map (fun result => (result.1.map (·.id), result.2)) =
      some (["$name", "$in", "$one", "$out"], 4) ∧
    ∃ kept removed, trim? 1 .backward rejoined = some (kept, removed) ∧
      LongestWithin 1 rejoined kept ∧ removed + kept.length = rejoined.length := by
  obtain ⟨forward, backward, -⟩ := trim_leaves (by decide : 0 < 1) rejoined
  exact ⟨by decide, by decide, forward, by decide, backward⟩

end RoomHistory
