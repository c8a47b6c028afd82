import RoomHistory.CurrentState.Derivation

/-!
# Remembered state

A memo keeps the state of each type it was asked for, with the timeline and the generation that
the state was read off.  An entry is used only for that timeline, and only until the timeline
changes.  A memo may be asked about several timelines.
-/

namespace RoomHistory

/-- The state of one type, and where it was read off, if anywhere. -/
structure MemoEntry where
  source : Option (TimelineTag × Generation)
  state : StateByKey

/-- Remembered states, by type. -/
structure StateMemo where
  entries : Std.ExtTreeMap String MemoEntry

namespace MemoEntry

/-- The defaults of a type, which hold for no timeline. -/
def defaults (type : String) : MemoEntry := ⟨none, CurrentState.initial type⟩

/-- Whether the entry holds for a timeline as it is now. -/
def isCurrent (entry : MemoEntry) (timeline : Timeline) : Bool :=
  match entry.source with
  | some (tag, generation) => tag == timeline.tag && decide (timeline.generation ≤ generation)
  | none => false

end MemoEntry

namespace StateMemo

/-- A memo that holds nothing but defaults. -/
def initial : StateMemo where
  entries := CurrentState.wellKnownTypes.foldl
    (fun entries type => entries.insert type (.defaults type)) ∅

/-- Whether the entry of a type holds for a timeline as it is now. -/
def remembers (memo : StateMemo) (timeline : Timeline) (type : String) : Bool :=
  match memo.entries[type]? with
  | some entry => entry.isCurrent timeline
  | none => false

/-- The remembered state of a type, if it holds for the timeline as it is now. -/
def remembered? (memo : StateMemo) (timeline : Timeline) (type : String) : Option StateByKey :=
  match memo.entries[type]? with
  | some entry => if entry.isCurrent timeline then some entry.state else none
  | none => none

/-- Remembers the state of a type as read off a timeline. -/
def remember (memo : StateMemo) (timeline : Timeline) (type : String) (state : StateByKey) :
    StateMemo :=
  ⟨memo.entries.insert type ⟨some (timeline.tag, timeline.generation), state⟩⟩

/-- The state of a type, from memory where that holds, and the memo afterwards. -/
def get (memo : StateMemo) (timeline : Timeline) (type : String) : StateByKey × StateMemo :=
  match memo.remembered? timeline type with
  | some state => (state, memo)
  | none =>
      let state := CurrentState.ofTimeline timeline type
      (state, memo.remember timeline type state)

/-- Replaces the entry of a type by the defaults, so that it is read off again. -/
def forget (memo : StateMemo) (type : String) : StateMemo :=
  ⟨memo.entries.insert type (.defaults type)⟩

/-- The current event of one slot. -/
def event? (memo : StateMemo) (timeline : Timeline) (type key : String) :
    Option Event × StateMemo :=
  let (state, memo) := memo.get timeline type
  (state[key]?, memo)

/-- The contents of the current events of a type, by state key. -/
def contents (memo : StateMemo) (timeline : Timeline) (type : String) :
    Std.ExtTreeMap String Json × StateMemo :=
  let (state, memo) := memo.get timeline type
  (state.map fun _ event => event.content, memo)

end StateMemo

end RoomHistory
