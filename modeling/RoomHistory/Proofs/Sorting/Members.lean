import RoomHistory.Sorting.Pivot

/-!
# Sorting makes up no items

Whatever the relation is that items are sorted by, also where it has cycles, each item of a sorted
list was given.  Every way to sort takes lists apart, and puts them together again from items that
it was given, and so do runs, merges and pivots.
-/

namespace RoomHistory

namespace Sorting

variable {α : Type} {before : α → α → Bool}

/-- A sort whose results, if there are any, hold only given items. -/
def MakesUpNothing (sort? : List α → Option (List α)) : Prop :=
  ∀ items sorted, sort? items = some sorted → sorted ⊆ items

section

variable {items left right whole : List α}

theorem sortFour_subset (first second third fourth : α) :
    sortFour before first second third fourth ⊆ [first, second, third, fourth] := by
  intro item present
  simp only [sortFour, sortTwo] at present
  grind

theorem byInsertion_subset (items : List α) : byInsertion before items ⊆ items :=
  (byInsertion_perm before items).subset

theorem sortHalf_subset (byFours : Bool) (items : List α) :
    sortHalf before byFours items ⊆ items := by
  unfold sortHalf
  split
  next first second third fourth others =>
    split
    next _ =>
      intro item present
      have placed := (placeAll_perm before _ others).subset (List.mem_reverse.mp present)
      rcases List.mem_append.mp placed with later | early
      · exact List.mem_append_right [first, second, third, fourth] later
      · exact List.mem_append_left others
          (sortFour_subset first second third fourth (List.mem_reverse.mp early))
    next _ => exact byInsertion_subset _
  next _ => exact byInsertion_subset _

/-- Whatever is taken from the fronts of two lists or is left of them was in one of them. -/
theorem takeFronts_subset
    (before : α → α → Bool)
    (count : Nat)
    (left right : List α) :
    (takeFronts before count left right).taken ⊆ left ++ right ∧
      (takeFronts before count left right).first ⊆ left ++ right ∧
      (takeFronts before count left right).second ⊆ left ++ right := by
  have all := (takeFronts_perm before count left right).subset
  rw [List.append_subset, List.append_subset] at all
  exact all

theorem mergeHalves?_subset
    {merged : List α}
    (merges : mergeHalves? before left right = some merged) :
    merged ⊆ left ++ right := by
  simp only [mergeHalves?] at merges
  split at merges
  next _ =>
    obtain ⟨fromFront, first, second⟩ := takeFronts_subset before left.length left right
    have fromBack := (takeFronts_subset (fun later earlier => before earlier later) left.length
      right.reverse left.reverse).1
    rw [← Option.some.inj merges]
    simp only [List.append_subset]
    refine ⟨⟨⟨fromFront, ?_⟩, ?_⟩, ?_⟩
    · exact List.Subset.trans (List.take_subset _ _) first
    · exact List.Subset.trans (List.take_subset _ _) second
    · intro item present
      have taken := fromBack (List.mem_reverse.mp present)
      rw [← List.reverse_append] at taken
      exact List.mem_reverse.mp taken
  next _ => cases merges

theorem sortShort?_makesUpNothing : MakesUpNothing (sortShort? before) := by
  intro items sorted sorts
  refine List.Subset.trans (mergeHalves?_subset sorts) (List.append_subset.mpr ⟨?_, ?_⟩)
  · exact List.Subset.trans (sortHalf_subset _ _) (List.take_subset _ _)
  · exact List.Subset.trans (sortHalf_subset _ _) (List.drop_subset _ _)

theorem leadingStretch_subset (items : List α) : leadingStretch before items ⊆ items := by
  unfold leadingStretch
  split
  next first second rest =>
    simp only
    split
    · exact fun item present => List.take_subset _ _ (List.mem_reverse.mp present)
    · exact List.take_subset _ _
  next _ => exact List.Subset.refl _

theorem leadingRun?_subset
    {eager : Bool}
    {longEnough : Nat}
    {run : Run α}
    (leads : leadingRun? before eager longEnough items = some run) :
    run.items ⊆ items := by
  simp only [leadingRun?] at leads
  split at leads
  next _ =>
    rw [← Option.some.inj leads]
    exact leadingStretch_subset items
  next _ =>
    split at leads
    next _ =>
      obtain ⟨sorted, sorts, rfl⟩ := Option.map_eq_some_iff.mp leads
      exact List.Subset.trans (sortShort?_makesUpNothing _ _ sorts) (List.take_subset _ _)
    next _ =>
      rw [← Option.some.inj leads]
      exact List.take_subset _ _

theorem cutRuns?_subset
    {eager : Bool}
    {longEnough count : Nat}
    {runs : List (Run α)}
    (within : items ⊆ whole)
    (cuts : cutRuns? before eager longEnough count items = some runs) :
    ∀ run ∈ runs, run.items ⊆ whole := by
  induction count generalizing items runs with
  | zero =>
      rw [cutRuns?] at cuts
      · rw [← Option.some.inj cuts]
        exact List.forall_mem_nil _
      · rintro _ _ _ ⟨⟩
  | succ count hypothesis =>
      cases items with
      | nil =>
          rw [← Option.some.inj cuts]
          exact List.forall_mem_nil _
      | cons item rest =>
          obtain ⟨run, leads, later, cutsLater, rfl⟩ :
              ∃ run, leadingRun? before eager longEnough (item :: rest) = some run ∧
                ∃ later, cutRuns? before eager longEnough count
                  ((item :: rest).drop run.items.length) = some later ∧ run :: later = runs := by
            simpa [cutRuns?, Option.bind_eq_some_iff] using cuts
          exact List.forall_mem_cons.mpr ⟨List.Subset.trans (leadingRun?_subset leads) within,
            hypothesis (List.Subset.trans (List.drop_subset _ _) within) cutsLater⟩

theorem mergeSorted_subset (left right : List α) :
    mergeSorted before left right ⊆ left ++ right := by
  unfold mergeSorted
  split
  · exact (List.merge_perm_append _).subset
  · intro item present
    have merged := (List.merge_perm_append _).subset (List.mem_reverse.mp present)
    rw [← List.reverse_append] at merged
    exact List.mem_reverse.mp merged

section

variable {finish : List α → Option (List α)}

theorem Run.sorted?_subset
    {run : Run α}
    {sorted : List α}
    (finishes : MakesUpNothing finish)
    (sorts : run.sorted? finish = some sorted) :
    sorted ⊆ run.items := by
  rw [Run.sorted?] at sorts
  split at sorts
  next _ =>
    rw [← Option.some.inj sorts]
    exact List.Subset.refl _
  next _ => exact finishes _ _ sorts

theorem Run.join?_subset
    {first second joined : Run α}
    (finishes : MakesUpNothing finish)
    (firstIn : first.items ⊆ whole)
    (secondIn : second.items ⊆ whole)
    (joins : first.join? before finish second = some joined) :
    joined.items ⊆ whole := by
  rw [Run.join?] at joins
  split at joins
  next _ =>
    obtain ⟨firstSorted, sortsFirst, secondSorted, sortsSecond, rfl⟩ :
        ∃ firstSorted, first.sorted? finish = some firstSorted ∧
          ∃ secondSorted, second.sorted? finish = some secondSorted ∧
            ⟨mergeSorted before firstSorted secondSorted, true⟩ = joined := by
      simpa [Option.bind_eq_some_iff] using joins
    refine List.Subset.trans (mergeSorted_subset _ _) (List.append_subset.mpr ⟨?_, ?_⟩)
    · exact List.Subset.trans (Run.sorted?_subset finishes sortsFirst) firstIn
    · exact List.Subset.trans (Run.sorted?_subset finishes sortsSecond) secondIn
  next _ =>
    rw [← Option.some.inj joins]
    exact List.append_subset.mpr ⟨firstIn, secondIn⟩

theorem settle?_subset
    {depth : Nat}
    {waiting stillWaiting : List (WaitingRun α)}
    {run merged : Run α}
    (finishes : MakesUpNothing finish)
    (waitingIn : ∀ entry ∈ waiting, entry.run.items ⊆ whole)
    (runIn : run.items ⊆ whole)
    (settles : settle? before finish depth waiting run = some (stillWaiting, merged)) :
    (∀ entry ∈ stillWaiting, entry.run.items ⊆ whole) ∧ merged.items ⊆ whole := by
  induction waiting generalizing run with
  | nil =>
      cases settles
      exact ⟨waitingIn, runIn⟩
  | cons last earlier hypothesis =>
      obtain ⟨lastIn, earlierIn⟩ := List.forall_mem_cons.mp waitingIn
      rw [settle?] at settles
      split at settles
      next _ =>
        obtain ⟨joined, joins, settlesThen⟩ := Option.bind_eq_some_iff.mp settles
        exact hypothesis earlierIn (Run.join?_subset finishes lastIn runIn joins) settlesThen
      next _ =>
        cases settles
        exact ⟨waitingIn, runIn⟩

theorem mergeRuns?_subset
    {length place : Nat}
    {waiting : List (WaitingRun α)}
    {run merged : Run α}
    {later : List (Run α)}
    (finishes : MakesUpNothing finish)
    (waitingIn : ∀ entry ∈ waiting, entry.run.items ⊆ whole)
    (runIn : run.items ⊆ whole)
    (laterIn : ∀ next ∈ later, next.items ⊆ whole)
    (merges : mergeRuns? before finish length waiting place run later = some merged) :
    merged.items ⊆ whole := by
  induction later generalizing waiting place run with
  | nil =>
      obtain ⟨⟨stillWaiting, settled⟩, settles, rfl⟩ := Option.map_eq_some_iff.mp merges
      exact (settle?_subset finishes waitingIn runIn settles).2
  | cons next rest hypothesis =>
      obtain ⟨nextIn, restIn⟩ := List.forall_mem_cons.mp laterIn
      obtain ⟨⟨stillWaiting, settled⟩, settles, mergesThen⟩ := Option.bind_eq_some_iff.mp merges
      obtain ⟨stillIn, settledIn⟩ := settle?_subset finishes waitingIn runIn settles
      exact hypothesis (List.forall_mem_cons.mpr ⟨settledIn, stillIn⟩) nextIn restIn mergesThen

theorem byRuns?_makesUpNothing
    {eager : Bool}
    (finishes : MakesUpNothing finish) :
    MakesUpNothing (byRuns? before eager finish) := by
  intro items sorted sorts
  obtain ⟨runs, cuts, sortsRuns⟩ := Option.bind_eq_some_iff.mp sorts
  have runsIn := cutRuns?_subset (List.Subset.refl items) cuts
  cases runs with
  | nil =>
      cases sortsRuns
      exact List.nil_subset _
  | cons first later =>
      obtain ⟨firstIn, laterIn⟩ := List.forall_mem_cons.mp runsIn
      obtain ⟨whole, merges, sortsWhole⟩ := Option.bind_eq_some_iff.mp sortsRuns
      exact List.Subset.trans (Run.sorted?_subset finishes sortsWhole)
        (mergeRuns?_subset finishes (List.forall_mem_nil _) firstIn laterIn merges)

end

theorem partAt_subset (place : Nat) (goesLeft : Bool) (test : α → Bool) (items : List α) :
    (partAt place goesLeft test items).1 ⊆ items ∧
      (partAt place goesLeft test items).2 ⊆ items := by
  have numbered : ∀ {part : List (α × Nat)}, part ⊆ items.zipIdx → part.map Prod.fst ⊆ items := by
    intro part partIn item present
    obtain ⟨entry, entryIn, rfl⟩ := List.mem_map.mp present
    exact List.fst_mem_of_mem_zipIdx (partIn entryIn)
  rw [partAt, List.partition_eq_filter_filter]
  exact ⟨numbered List.filter_sublist.subset, numbered List.filter_sublist.subset⟩

/-- Where parts are sorted and put together, or one part is and put behind what is settled, the
items are those of the parts. -/
theorem byParts_subset
    {sortLater sortRight sortLeft : List α → Option (List α)}
    {settled later earlier others sorted : List α}
    (laterSorts : MakesUpNothing sortLater)
    (rightSorts : MakesUpNothing sortRight)
    (leftSorts : MakesUpNothing sortLeft)
    (settledIn : settled ⊆ items ∧ later ⊆ items)
    (partsIn : earlier ⊆ items ∧ others ⊆ items)
    (sorts : (if earlier.isEmpty then (sortLater later).map (settled ++ ·)
      else do
        let right ← sortRight others
        let left ← sortLeft earlier
        return left ++ right) = some sorted) :
    sorted ⊆ items := by
  split at sorts
  next _ =>
    obtain ⟨rest, sortsRest, rfl⟩ := Option.map_eq_some_iff.mp sorts
    exact List.append_subset.mpr
      ⟨settledIn.1, List.Subset.trans (laterSorts _ _ sortsRest) settledIn.2⟩
  next _ =>
    obtain ⟨right, sortsRight, sortsThen⟩ := Option.bind_eq_some_iff.mp sorts
    obtain ⟨left, sortsLeft, same⟩ := Option.bind_eq_some_iff.mp sortsThen
    rw [← Option.some.inj same]
    exact List.append_subset.mpr ⟨List.Subset.trans (leftSorts _ _ sortsLeft) partsIn.1,
      List.Subset.trans (rightSorts _ _ sortsRight) partsIn.2⟩

theorem byPivots?_makesUpNothing (limit : Nat) (bound : Option α) :
    MakesUpNothing (byPivots? before limit bound) := by
  induction limit generalizing bound with
  | zero =>
      intro items sorted sorts
      rw [byPivots?] at sorts
      split at sorts
      · exact sortShort?_makesUpNothing items sorted sorts
      · exact byRuns?_makesUpNothing sortShort?_makesUpNothing items sorted sorts
  | succ limit hypothesis =>
      intro items sorted sorts
      rw [byPivots?] at sorts
      split at sorts
      · exact sortShort?_makesUpNothing items sorted sorts
      · simp only at sorts
        split at sorts
        next _ => cases sorts
        next pivot _ =>
          have settledIn := partAt_subset (pivotPlace before items) true
            (fun item => !before pivot item) items
          -- Either no item stands before the pivot for the bound's sake, or the pivot parts them.
          split at sorts
          next _ =>
            exact byParts_subset (hypothesis none) (hypothesis (some pivot)) (hypothesis bound)
              settledIn ⟨List.nil_subset items, List.Subset.refl items⟩ sorts
          next _ =>
            exact byParts_subset (hypothesis none) (hypothesis (some pivot)) (hypothesis bound)
              settledIn (partAt_subset _ _ _ items) sorts

/-- What a sort gives, if it gives anything, was given to it. -/
theorem sort?_makesUpNothing : MakesUpNothing (sort? before) := by
  have finishes : MakesUpNothing (byAllPivots? before) := fun items sorted sorts =>
    byPivots?_makesUpNothing (2 * items.length.log2) none items sorted sorts
  exact fun items sorted sorts => byRuns?_makesUpNothing finishes items sorted sorts

end

end Sorting

end RoomHistory
