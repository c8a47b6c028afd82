import RoomHistory.Sorting.Short

/-!
# Sorting by runs

A list is cut into runs, and neighbouring runs are merged until one is left.  A stretch that is in
order already, forward or backward, is a run if it is long enough.  Elsewhere an eager sort makes
short sorted runs, and a patient one leaves runs unsorted, which join to longer ones as long as no
sorted run is met.  The merges form a binary tree: where two runs meet is a node, and the nearer
it is to a place that halves the list often, the deeper it lies and the earlier it is merged.
-/

namespace RoomHistory

namespace Sorting

variable {α : Type} (before : α → α → Bool)

/-- Neighbouring items of a list. -/
structure Run (α : Type) where
  items : List α
  isSorted : Bool

/-- How many items go on, from the last one seen, in a direction. -/
def onward (backward : Bool) : α → List α → Nat
  | last, next :: rest =>
      if before next last = backward then onward backward next rest + 1 else 0
  | _, [] => 0

/-- The stretch at the front of a list that is in order forward, or strictly in order backward;
it is given forward. -/
def leadingStretch : List α → List α
  | first :: second :: rest =>
      let backward := before second first
      let stretch := (first :: second :: rest).take (onward before backward second rest + 2)
      if backward then stretch.reverse else stretch
  | items => items

/-- The run at the front of a list, if a sorted one can be made. -/
def leadingRun? (eager : Bool) (longEnough : Nat) (items : List α) : Option (Run α) :=
  let stretch := leadingStretch before items
  if longEnough ≤ stretch.length then some ⟨stretch, true⟩
  else if eager then (sortShort? before (items.take shortLength)).map (⟨·, true⟩)
  else some ⟨items.take longEnough, false⟩

/-- The runs of a list, at most `count` of them. -/
def cutRuns? (eager : Bool) (longEnough : Nat) : Nat → List α → Option (List (Run α))
  | count + 1, item :: rest => do
      let run ← leadingRun? before eager longEnough (item :: rest)
      let later ← cutRuns? eager longEnough count ((item :: rest).drop run.items.length)
      return run :: later
  | _, _ => some []

/-- Two sorted lists as one, merged from the end at which the shorter lies. -/
def mergeSorted (left right : List α) : List α :=
  if left.length ≤ right.length then
    List.merge left right fun earlier later => !before later earlier
  else
    (List.merge right.reverse left.reverse fun later earlier => !before later earlier).reverse

/-- The items of a run in order, where `finish` sorts those of an unsorted one. -/
def Run.sorted? (finish : List α → Option (List α)) (run : Run α) : Option (List α) :=
  if run.isSorted then some run.items else finish run.items

/-- Two neighbouring runs as one. -/
def Run.join? (finish : List α → Option (List α)) (left right : Run α) : Option (Run α) :=
  if left.isSorted || right.isSorted then do
    let leftSorted ← left.sorted? finish
    let rightSorted ← right.sorted? finish
    return ⟨mergeSorted before leftSorted rightSorted, true⟩
  else some ⟨left.items ++ right.items, false⟩

/-- How deep the node of two runs lies: how many leading binary digits their midpoints have in
common, as parts of the whole length. -/
def nodeDepth (length start middle stop : Nat) : Nat :=
  let scale := (4611686018427387904 + length - 1) / length
  let difference := (scale * (start + middle)) ^^^ (scale * (middle + stop))
  if difference = 0 then 64 else 63 - difference.log2

/-- A run that waits to be merged with what follows it, and the depth of that node. -/
structure WaitingRun (α : Type) where
  run : Run α
  depth : Nat

/-- Merges a run with those that wait, the last first, as long as their nodes lie no less deep
than `depth`. -/
def settle? (finish : List α → Option (List α)) (depth : Nat) :
    List (WaitingRun α) → Run α → Option (List (WaitingRun α) × Run α)
  | last :: earlier, run =>
      if depth ≤ last.depth then do
        let joined ← last.run.join? before finish run
        settle? finish depth earlier joined
      else some (last :: earlier, run)
  | [], run => some ([], run)

/-- Merges a run, which ends at `place`, with those that wait and those that follow. -/
def mergeRuns? (finish : List α → Option (List α)) (length : Nat) :
    List (WaitingRun α) → Nat → Run α → List (Run α) → Option (Run α)
  | waiting, place, run, next :: later => do
      let stop := place + next.items.length
      let depth := nodeDepth length (place - run.items.length) place stop
      let (waiting, run) ← settle? before finish depth waiting run
      mergeRuns? finish length (⟨run, depth⟩ :: waiting) stop next later
  | waiting, _, run, [] => (settle? before finish 0 waiting run).map Prod.snd

/-- How long a stretch must be in a list of a given length so as to make a run: half the length
at first, then sixty-four, then about the square root. -/
def runLength (length : Nat) : Nat :=
  if length ≤ 4096 then min (length - length / 2) 64
  else
    let half := (1 + length.log2) / 2
    ((1 <<< half) + (length >>> half)) / 2

/-- A list in order, if there is an order, where `finish` sorts what is left unsorted. -/
def byRuns? (eager : Bool) (finish : List α → Option (List α)) (items : List α) :
    Option (List α) := do
  match ← cutRuns? before eager (runLength items.length) items.length items with
  | [] => return []
  | first :: later =>
      let whole ← mergeRuns? before finish items.length [] first.items.length first later
      whole.sorted? finish

end Sorting

end RoomHistory
