import RoomHistory.Directory.Entry
import RoomHistory.Proofs.CurrentState.Newest
import RoomHistory.Proofs.Timeline.Runs

/-!
# Remembered answers

States and horizons are remembered with the generation of the timeline that they were read off.
An entry counts as current when its generation is not behind that of the timeline.  What makes
this right is that an entry never is ahead: it was read off its timeline at the generation it
names, and as long as the timeline has not counted another change it holds the same events.
-/

namespace RoomHistory

namespace Timeline

/-- One state of a timeline comes later than another: it has counted more changes, or holds the
same events. -/
structure Follows (later earlier : Timeline) : Prop where
  tag : later.tag = earlier.tag
  changed : earlier.generation < later.generation ∨
    later.generation = earlier.generation ∧ later.events = earlier.events

theorem Follows.refl (timeline : Timeline) : timeline.Follows timeline :=
  ⟨rfl, Or.inr ⟨rfl, rfl⟩⟩

theorem applyTo_follows (timeline : Timeline) (insertion : Insertion) :
    (insertion.applyTo timeline).2.Follows timeline := by
  rcases timeline.applyTo_cases insertion with same | ⟨_, _, -, changed⟩
  · rw [same]
    exact Follows.refl timeline
  · rw [changed]
    exact ⟨rfl, Or.inl (Nat.lt_succ_self timeline.generation)⟩

theorem rememberHorizon_follows (timeline : Timeline) :
    timeline.rememberHorizon.Follows timeline :=
  ⟨rfl, Or.inr ⟨rfl, rfl⟩⟩

/-- The horizon that is remembered was read off no later than now, and is right if nothing changed
since. -/
def VouchesHorizon (timeline : Timeline) : Prop :=
  ∀ generation place, timeline.horizonMemo = some (generation, place) →
    generation ≤ timeline.generation ∧
      (generation = timeline.generation → place = horizonOf timeline.events)

theorem VouchesHorizon.horizon_eq
    {timeline : Timeline}
    (vouches : timeline.VouchesHorizon) :
    timeline.horizon = horizonOf timeline.events := by
  unfold horizon
  split
  next generation place remembered =>
    split
    next current => exact (vouches generation place remembered).2 current
    next => rfl
  next => rfl

theorem VouchesHorizon.applyTo
    {timeline : Timeline}
    (vouches : timeline.VouchesHorizon)
    (insertion : Insertion) :
    (insertion.applyTo timeline).2.VouchesHorizon := by
  rcases timeline.applyTo_cases insertion with same | ⟨_, _, -, changed⟩
  · rw [same]
    exact vouches
  · rw [changed]
    intro generation place remembered
    have notAhead : generation ≤ timeline.generation := (vouches generation place remembered).1
    refine ⟨Nat.le_succ_of_le notAhead, ?_⟩
    intro current
    exact absurd current (Nat.ne_of_lt (Nat.lt_succ_of_le notAhead))

theorem VouchesHorizon.rememberHorizon
    {timeline : Timeline}
    (vouches : timeline.VouchesHorizon) :
    timeline.rememberHorizon.VouchesHorizon := by
  intro generation place remembered
  have read : timeline.generation = generation ∧ timeline.horizon = place := by
    simpa [Timeline.rememberHorizon] using remembered
  obtain ⟨rfl, rfl⟩ := read
  exact ⟨Nat.le_refl timeline.generation, fun _ => vouches.horizon_eq⟩

end Timeline

/-- The horizon is the place of the oldest event that is not a state event, or the end. -/
theorem horizonOf_spec (events : List Event) :
    horizonOf events ≤ events.length ∧
      (∀ event ∈ events.take (horizonOf events), event.isState = true) ∧
      ∀ event, events[horizonOf events]? = some event → event.isState = false := by
  refine ⟨List.findIdx_le_length, ?_, ?_⟩
  · intro event present
    obtain ⟨place, before, rfl⟩ := List.mem_take_iff_getElem.mp present
    have notFound := List.not_of_lt_findIdx (Nat.lt_of_lt_of_le before (Nat.min_le_left _ _))
    simpa using notFound
  · intro event found
    obtain ⟨inside, rfl⟩ := List.getElem?_eq_some_iff.mp found
    have stopped : (!events[horizonOf events].isState) = true :=
      List.findIdx_getElem (p := fun event : Event => !event.isState)
    simpa using stopped

namespace CurrentState

theorem ofTimeline_of_events
    {left right : Timeline}
    (same : left.events = right.events)
    (type : String) :
    ofTimeline left type = ofTimeline right type := by
  apply ofTimeline_congr
  intro key
  rw [same]

end CurrentState

/-- An entry that was read off a timeline was read off it no later than now, and its state is right
if nothing changed since. -/
def MemoEntry.Vouches (entry : MemoEntry) (timeline : Timeline) (type : String) : Prop :=
  ∀ generation, entry.source = some (timeline.tag, generation) →
    generation ≤ timeline.generation ∧
      (generation = timeline.generation →
        entry.state = CurrentState.ofTimeline timeline type)

theorem MemoEntry.Vouches.state_eq
    {entry : MemoEntry}
    {timeline : Timeline}
    {type : String}
    (vouches : entry.Vouches timeline type)
    (current : entry.isCurrent timeline = true) :
    entry.state = CurrentState.ofTimeline timeline type := by
  unfold isCurrent at current
  split at current
  next tag generation read =>
    simp only [Bool.and_eq_true, beq_iff_eq, decide_eq_true_eq] at current
    obtain ⟨rfl, notBehind⟩ := current
    obtain ⟨notAhead, right⟩ := vouches generation read
    exact right (Nat.le_antisymm notAhead notBehind)
  next => exact absurd current Bool.false_ne_true

theorem MemoEntry.Vouches.follow
    {entry : MemoEntry}
    {earlier later : Timeline}
    {type : String}
    (vouches : entry.Vouches earlier type)
    (follows : later.Follows earlier) :
    entry.Vouches later type := by
  intro generation read
  rw [follows.tag] at read
  obtain ⟨notAhead, right⟩ := vouches generation read
  rcases follows.changed with older | ⟨sameGeneration, sameEvents⟩
  · refine ⟨Nat.le_of_lt (Nat.lt_of_le_of_lt notAhead older), ?_⟩
    intro current
    exact absurd current (Nat.ne_of_lt (Nat.lt_of_le_of_lt notAhead older))
  · rw [sameGeneration, CurrentState.ofTimeline_of_events sameEvents]
    exact ⟨notAhead, right⟩

namespace StateMemo

/-- A memo answers for a timeline with its current state, whatever type it is asked for. -/
def Faithful (memo : StateMemo) (timeline : Timeline) : Prop :=
  ∀ type, (memo.get timeline type).1 = CurrentState.ofTimeline timeline type

/-- Every entry of a memo vouches for its state. -/
def Vouches (memo : StateMemo) (timeline : Timeline) : Prop :=
  ∀ (type : String) (entry : MemoEntry), memo.entries[type]? = some entry →
    entry.Vouches timeline type

theorem get_fst (memo : StateMemo) (timeline : Timeline) (type : String) :
    (memo.get timeline type).1 =
      (memo.remembered? timeline type).getD (CurrentState.ofTimeline timeline type) := by
  unfold get
  split
  next remembered => rw [remembered, Option.getD_some]
  next forgotten => rw [forgotten, Option.getD_none]

theorem get_snd (memo : StateMemo) (timeline : Timeline) (type : String) :
    (memo.get timeline type).2 = memo ∨
      (memo.get timeline type).2 =
        memo.remember timeline type (CurrentState.ofTimeline timeline type) := by
  unfold get
  split
  · exact Or.inl rfl
  · exact Or.inr rfl

section

variable {memo : StateMemo} {timeline other : Timeline}

theorem Vouches.faithful (vouches : memo.Vouches timeline) : memo.Faithful timeline := by
  intro type
  rw [get_fst, remembered?]
  cases present : memo.entries[type]? with
  | none => rfl
  | some entry =>
      cases current : entry.isCurrent timeline with
      | true => simpa [current] using (vouches type entry present).state_eq current
      | false => simp [current]

/-- What a memo counts as current is the current state. -/
theorem Vouches.remembers_right
    {type : String}
    (vouches : memo.Vouches timeline)
    (remembers : memo.remembers timeline type = true) :
    memo.entries[type]?.map (·.state) = some (CurrentState.ofTimeline timeline type) := by
  unfold StateMemo.remembers at remembers
  split at remembers
  next entry present =>
    rw [present, Option.map_some, (vouches type entry present).state_eq remembers]
  next => exact absurd remembers Bool.false_ne_true

theorem Vouches.follow
    {later : Timeline}
    (vouches : memo.Vouches timeline)
    (follows : later.Follows timeline) :
    memo.Vouches later :=
  fun type entry present => (vouches type entry present).follow follows

/-- An entry that vouches may be put in a memo. -/
theorem Vouches.insert
    {type : String}
    {entry : MemoEntry}
    (vouches : memo.Vouches timeline)
    (entryVouches : entry.Vouches timeline type) :
    Vouches ⟨memo.entries.insert type entry⟩ timeline := by
  intro otherType otherEntry present
  rw [Std.ExtTreeMap.getElem?_insert] at present
  split at present
  next same =>
    rw [← Option.some.inj present, ← Std.LawfulEqOrd.eq_of_compare same]
    exact entryVouches
  next => exact vouches otherType otherEntry present

theorem Vouches.forget (vouches : memo.Vouches timeline) (type : String) :
    (memo.forget type).Vouches timeline := by
  apply vouches.insert
  intro generation read
  cases read

/-- Asking about any timeline leaves a memo that vouches, unless two timelines share a tag. -/
theorem Vouches.get
    (vouches : memo.Vouches timeline)
    (told : other.tag = timeline.tag → other = timeline)
    (type : String) :
    (memo.get other type).2.Vouches timeline := by
  rcases memo.get_snd other type with unchanged | remembered
  · rw [unchanged]
    exact vouches
  · rw [remembered]
    apply vouches.insert
    intro generation read
    have source : other.tag = timeline.tag ∧ other.generation = generation := by
      simpa using read
    rw [← source.2, told source.1]
    exact ⟨Nat.le_refl timeline.generation, fun _ => rfl⟩

theorem Faithful.get
    (faithful : memo.Faithful timeline)
    (type : String) :
    (memo.get timeline type).2.Faithful timeline := by
  intro otherType
  rcases memo.get_snd timeline type with unchanged | remembered
  · rw [unchanged]
    exact faithful otherType
  · rw [remembered, get_fst]
    by_cases same : type = otherType
    · rw [← same]
      simp [remembered?, remember, MemoEntry.isCurrent]
    · have untouched : (memo.remember timeline type
          (CurrentState.ofTimeline timeline type)).remembered? timeline otherType =
            memo.remembered? timeline otherType := by
        simp [remembered?, remember, Std.ExtTreeMap.getElem?_insert, same]
      rw [untouched, ← get_fst]
      exact faithful otherType

/-- What a directory shows of a room is digested from its current state. -/
theorem Faithful.directoryEntry_eq (faithful : memo.Faithful timeline) :
    (memo.directoryEntry timeline).1 =
      DirectoryEntry.ofState timeline.room (CurrentState.ofTimeline timeline) := by
  have asked : ∀ types, (memo.getAll timeline types).Faithful timeline := by
    intro types
    induction types generalizing memo with
    | nil => exact faithful
    | cons type rest hypothesis => exact hypothesis (faithful.get type)
  have answers : (fun type =>
      ((memo.getAll timeline DirectoryEntry.digestedTypes).get timeline type).1) =
        CurrentState.ofTimeline timeline := by
    funext type
    exact asked DirectoryEntry.digestedTypes type
  exact congrArg (DirectoryEntry.ofState timeline.room) answers

end

theorem vouches_initial (timeline : Timeline) : initial.Vouches timeline := by
  have held : ∀ (types : List String) (memo : StateMemo), memo.Vouches timeline →
      Vouches ⟨types.foldl (fun entries type => entries.insert type (.defaults type))
        memo.entries⟩ timeline := by
    intro types
    induction types with
    | nil => exact fun memo vouches => vouches
    | cons type rest hypothesis =>
        intro memo vouches
        exact hypothesis (memo.forget type) (vouches.forget type)
  apply held CurrentState.wellKnownTypes ⟨∅⟩
  intro type entry present
  simp at present

end StateMemo

end RoomHistory
