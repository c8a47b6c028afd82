import RoomHistory.Sorting.Insertion

/-!
# Sorting short lists

A short list is cut in the middle.  Each half is sorted by itself, its first four items by
comparing them in pairs and the others by insertion.  The halves are then merged from both ends at
once, until each end has made as many steps as the first half is long.  With a strict order the
two ends share out the items; where they claim one item twice there is no result.
-/

namespace RoomHistory

namespace Sorting

variable {α : Type} (before : α → α → Bool)

/-- Two items in order. -/
def sortTwo (first second : α) : α × α :=
  if before second first then (second, first) else (first, second)

/-- Four items in order, by five comparisons. -/
def sortFour (first second third fourth : α) : List α :=
  let (low, high) := sortTwo before first second
  let (left, right) := sortTwo before third fourth
  let (least, greatest, inner) :=
    match before left low, before right high with
    | false, false => (low, right, sortTwo before high left)
    | false, true => (low, high, sortTwo before left right)
    | true, false => (left, right, sortTwo before low high)
    | true, true => (left, high, sortTwo before low right)
  [least, inner.1, inner.2, greatest]

/-- A half in order; `byFours` tells whether its first four items are compared in pairs. -/
def sortHalf (byFours : Bool) : List α → List α
  | first :: second :: third :: fourth :: others =>
      if byFours then
        (placeAll before (sortFour before first second third fourth).reverse others).reverse
      else byInsertion before (first :: second :: third :: fourth :: others)
  | items => byInsertion before items

/-- What becomes of two lists that are merged from their fronts. -/
structure Merging (α : Type) where
  /-- The items taken, in the sequence in which they were taken. -/
  taken : List α
  /-- What is left of the first list. -/
  first : List α
  /-- What is left of the second list. -/
  second : List α

/-- Takes items from the fronts of two lists, up to `count` of them.  The second list gives one
where its front comes before the front of the first. -/
def takeFronts : Nat → List α → List α → Merging α
  | count + 1, left :: lefts, right :: rights =>
      if before right left then
        let later := takeFronts count (left :: lefts) rights
        { later with taken := right :: later.taken }
      else
        let later := takeFronts count lefts (right :: rights)
        { later with taken := left :: later.taken }
  | _, lefts, rights => ⟨[], lefts, rights⟩

/-- Two sorted halves as one list, unless the merges from both ends claim one item twice. -/
def mergeHalves? (left right : List α) : Option (List α) :=
  let front := takeFronts before left.length left right
  let back := takeFronts (fun later earlier => before earlier later) left.length
    right.reverse left.reverse
  let leftByBack := left.length - back.second.length
  let rightByBack := right.length - back.first.length
  if leftByBack ≤ front.first.length ∧ rightByBack ≤ front.second.length then
    some (front.taken ++ front.first.take (front.first.length - leftByBack) ++
      front.second.take (front.second.length - rightByBack) ++ back.taken.reverse)
  else none

/-- How long a list counts as short. -/
def shortLength : Nat := 32

/-- A short list in order, if there is an order. -/
def sortShort? (items : List α) : Option (List α) :=
  let middle := items.length / 2
  let byFours := decide (8 ≤ items.length)
  mergeHalves? before (sortHalf before byFours (items.take middle))
    (sortHalf before byFours (items.drop middle))

/-- Merging from the fronts loses nothing. -/
theorem takeFronts_perm (count : Nat) (left right : List α) :
    ((takeFronts before count left right).taken ++
      ((takeFronts before count left right).first ++
        (takeFronts before count left right).second)).Perm (left ++ right) := by
  fun_induction takeFronts before count left right with
  | case1 count left lefts right rights precedes later hypothesis =>
      exact (hypothesis.cons right).trans List.perm_middle.symm
  | case2 count left lefts right rights precedes later hypothesis =>
      exact hypothesis.cons left
  | case3 => exact List.Perm.refl _

end Sorting

end RoomHistory
