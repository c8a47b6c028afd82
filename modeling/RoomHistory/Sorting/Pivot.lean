import RoomHistory.Sorting.Runs

/-!
# Sorting by pivots

A long list without order is parted by a pivot: the items that come before it, and the others.
Each part is sorted in the same way, until it is short or a limit of partings is reached.  The
pivot is a median of medians.  If nothing comes before the pivot, or the pivot does not follow the
one that bounds the list from the left, then the items that do not follow it are settled already.
-/

namespace RoomHistory

namespace Sorting

variable {α : Type} (before : α → α → Bool)

/-- The median of three places. -/
def medianOfThree (precedes : Nat → Nat → Bool) (first second third : Nat) : Nat :=
  let low := precedes first second
  if low = precedes first third then
    if precedes second third = low then second else third
  else first

/-- The median of three places, each of them replaced by a median of the `width` places from it
on, as long as these are eight or more. -/
def medianOfMedians (precedes : Nat → Nat → Bool) (width first second third : Nat) : Nat :=
  if 8 ≤ width then
    let part := width / 8
    let median (start : Nat) : Nat :=
      medianOfMedians precedes part start (start + part * 4) (start + part * 7)
    medianOfThree precedes (median first) (median second) (median third)
  else medianOfThree precedes first second third
termination_by width

/-- The place of the pivot of a list. -/
def pivotPlace (items : List α) : Nat :=
  let array := items.toArray
  let precedes (left right : Nat) : Bool :=
    match array[left]?, array[right]? with
    | some leftItem, some rightItem => before leftItem rightItem
    | _, _ => false
  let part := items.length / 8
  medianOfMedians precedes part 0 (part * 4) (part * 7)

/-- Parts a list by a test, the item at a place by decree. -/
def partAt (place : Nat) (goesLeft : Bool) (test : α → Bool) (items : List α) :
    List α × List α :=
  let (left, right) := items.zipIdx.partition fun entry =>
    if entry.2 = place then goesLeft else test entry.1
  (left.map Prod.fst, right.map Prod.fst)

/-- A list in order, if there is an order.  All its items follow the pivot `bound`, or come with
it. -/
def byPivots? : Nat → Option α → List α → Option (List α)
  | 0, _, items =>
      if items.length ≤ shortLength then sortShort? before items
      else byRuns? before true (sortShort? before) items
  | limit + 1, bound, items =>
      if items.length ≤ shortLength then sortShort? before items
      else
        let place := pivotPlace before items
        match items[place]? with
        | none => none
        | some pivot =>
            let isBound := bound.any fun least => !before least pivot
            let (earlier, others) :=
              if isBound then ([], items) else partAt place false (before · pivot) items
            if earlier.isEmpty then
              let (settled, later) := partAt place true (fun item => !before pivot item) items
              (byPivots? limit none later).map (settled ++ ·)
            else do
              let right ← byPivots? limit (some pivot) others
              let left ← byPivots? limit bound earlier
              return left ++ right

/-- A list in order, if there is an order, by at most twice as many partings as its length has
binary digits. -/
def byAllPivots? (items : List α) : Option (List α) :=
  byPivots? before (2 * items.length.log2) none items

/-- A list in order, if there is an order.  A short list is sorted eagerly. -/
def sort? (items : List α) : Option (List α) :=
  byRuns? before (items.length ≤ 2 * shortLength) (byAllPivots? before) items

end Sorting

end RoomHistory
