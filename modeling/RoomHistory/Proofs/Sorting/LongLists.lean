import RoomHistory.Proofs.Sorting.Ranks

/-!
# Sorting long lists keeps to coarser ranks

The runs that a list is cut into are sorted by rank where they count as sorted, and so are those
that come of merging them.  A pivot parts a list into items of a rank no higher and no lower than
its own, and where items are settled at once they all have the rank of the pivot.
-/

namespace RoomHistory

namespace Sorting

variable {α : Type} {before : α → α → Bool} {notAfter : α → α → Prop}

/-- A sort that makes up no items and puts those of a list by rank, if it gives a result. -/
structure SortsByRank (notAfter : α → α → Prop) (whole : List α)
    (sort? : List α → Option (List α)) : Prop where
  makesUpNothing : MakesUpNothing sort?
  byRank : ∀ items sorted, items ⊆ whole → sort? items = some sorted → sorted.Pairwise notAfter

/-- A run of items of a list, by rank where it counts as sorted. -/
structure Run.ByRank (notAfter : α → α → Prop) (whole : List α) (run : Run α) : Prop where
  within : run.items ⊆ whole
  sorted : run.isSorted = true → run.items.Pairwise notAfter

section

variable {whole items left right : List α}

theorem Ranks.onward
    {last : α}
    (ranks : Ranks before notAfter whole)
    (backward : Bool)
    (within : last :: items ⊆ whole) :
    (last :: items.take (onward before backward last items)).IsChain fun first second =>
      if backward then notAfter second first else notAfter first second := by
  fun_induction Sorting.onward before backward last items with
  | case1 last next rest goesOn hypothesis =>
      obtain ⟨lastIn, restIn⟩ := List.cons_subset.mp within
      refine List.IsChain.cons_cons ?_ (hypothesis restIn)
      have nextIn := restIn List.mem_cons_self
      cases backward with
      | true => exact ranks.of_before nextIn lastIn goesOn
      | false => exact ranks.of_not_before nextIn lastIn goesOn
  | case2 => exact List.IsChain.singleton _
  | case3 => exact List.IsChain.singleton _

theorem Ranks.leadingStretch
    (ranks : Ranks before notAfter whole)
    (within : items ⊆ whole) :
    (leadingStretch before items).Pairwise notAfter := by
  unfold Sorting.leadingStretch
  split
  next first second rest =>
    obtain ⟨firstIn, restIn⟩ := List.cons_subset.mp within
    have secondIn := restIn List.mem_cons_self
    have chain := ranks.onward (before second first) restIn
    simp only [List.take_succ_cons]
    split
    next descends =>
      simp only [descends, if_true] at chain
      rw [List.pairwise_reverse, descends]
      exact ranks.flip.pairwise_of_isChain
        (chain.cons_cons (ranks.of_before secondIn firstIn descends))
    next ascends =>
      simp only [ascends, Bool.false_eq_true, if_false] at chain
      rw [Bool.not_eq_true] at ascends
      rw [ascends]
      exact ranks.pairwise_of_isChain
        (chain.cons_cons (ranks.of_not_before secondIn firstIn ascends))
  next short =>
    apply pairwise_of_short
    match items, short with
    | [], _ => exact Nat.zero_le 1
    | [item], _ => exact Nat.le_refl 1
    | first :: second :: rest, short => exact absurd rfl (short first second rest)

theorem Ranks.leadingRun?
    {eager : Bool}
    {longEnough : Nat}
    {run : Run α}
    (ranks : Ranks before notAfter whole)
    (within : items ⊆ whole)
    (leads : leadingRun? before eager longEnough items = some run) :
    run.ByRank notAfter whole := by
  refine ⟨List.Subset.trans (leadingRun?_subset leads) within, ?_⟩
  simp only [Sorting.leadingRun?] at leads
  split at leads
  next _ =>
    cases leads
    exact fun _ => ranks.leadingStretch within
  next _ =>
    split at leads
    next _ =>
      obtain ⟨sorted, sorts, rfl⟩ := Option.map_eq_some_iff.mp leads
      exact fun _ => ranks.sortShort? (List.Subset.trans (List.take_subset _ _) within) sorts
    next _ =>
      cases leads
      exact fun isSorted => absurd isSorted Bool.false_ne_true

theorem Ranks.cutRuns?
    {eager : Bool}
    {longEnough count : Nat}
    {runs : List (Run α)}
    (ranks : Ranks before notAfter whole)
    (within : items ⊆ whole)
    (cuts : cutRuns? before eager longEnough count items = some runs) :
    ∀ run ∈ runs, run.ByRank notAfter whole := by
  induction count generalizing items runs with
  | zero =>
      rw [Sorting.cutRuns?] at cuts
      · cases cuts
        exact List.forall_mem_nil _
      · rintro _ _ _ ⟨⟩
  | succ count hypothesis =>
      cases items with
      | nil =>
          cases cuts
          exact List.forall_mem_nil _
      | cons item rest =>
          obtain ⟨run, leads, later, cutsLater, rfl⟩ :
              ∃ run, Sorting.leadingRun? before eager longEnough (item :: rest) = some run ∧
                ∃ later, Sorting.cutRuns? before eager longEnough count
                  ((item :: rest).drop run.items.length) = some later ∧ run :: later = runs := by
            simpa [Sorting.cutRuns?, Option.bind_eq_some_iff] using cuts
          exact List.forall_mem_cons.mpr ⟨ranks.leadingRun? within leads,
            hypothesis (List.Subset.trans (List.drop_subset _ _) within) cutsLater⟩

/-- Sorted lists are merged by rank. -/
theorem Ranks.merge
    (ranks : Ranks before notAfter whole)
    (leftIn : left ⊆ whole)
    (rightIn : right ⊆ whole)
    (leftSorted : left.Pairwise notAfter)
    (rightSorted : right.Pairwise notAfter) :
    (List.merge left right fun earlier later => !before later earlier).Pairwise notAfter := by
  fun_induction List.merge left right fun earlier later => !before later earlier with
  | case1 right => exact rightSorted
  | case2 left => exact leftSorted
  | case3 first lefts second rights follows hypothesis =>
      obtain ⟨firstIn, leftsIn⟩ := List.cons_subset.mp leftIn
      have firstSecond := ranks.of_not_before (rightIn List.mem_cons_self) firstIn
        ((Bool.not_eq_true' _).mp follows)
      refine List.pairwise_cons.mpr
        ⟨?_, hypothesis leftsIn rightIn leftSorted.of_cons rightSorted⟩
      intro other present
      exact ranks.front leftSorted rightSorted firstSecond (List.mem_merge.mp present)
  | case4 first lefts second rights precedes hypothesis =>
      obtain ⟨secondIn, rightsIn⟩ := List.cons_subset.mp rightIn
      have secondFirst := ranks.of_before secondIn (leftIn List.mem_cons_self)
        (by simpa using precedes)
      refine List.pairwise_cons.mpr
        ⟨?_, hypothesis leftIn rightsIn leftSorted rightSorted.of_cons⟩
      intro other present
      exact ranks.front rightSorted leftSorted secondFirst (List.mem_merge.mp present).symm

theorem Ranks.mergeSorted
    (ranks : Ranks before notAfter whole)
    (leftIn : left ⊆ whole)
    (rightIn : right ⊆ whole)
    (leftSorted : left.Pairwise notAfter)
    (rightSorted : right.Pairwise notAfter) :
    (mergeSorted before left right).Pairwise notAfter := by
  unfold Sorting.mergeSorted
  split
  · exact ranks.merge leftIn rightIn leftSorted rightSorted
  · rw [List.pairwise_reverse]
    exact ranks.flip.merge (List.reverse_subset.mpr rightIn) (List.reverse_subset.mpr leftIn)
      (List.pairwise_reverse.mpr rightSorted) (List.pairwise_reverse.mpr leftSorted)

section

variable {finish : List α → Option (List α)}

/-- The items of a run, in order, stand by rank. -/
theorem Run.ByRank.sorted?
    {run : Run α}
    {sorted : List α}
    (byRank : run.ByRank notAfter whole)
    (finishes : SortsByRank notAfter whole finish)
    (sorts : run.sorted? finish = some sorted) :
    sorted ⊆ whole ∧ sorted.Pairwise notAfter := by
  refine ⟨List.Subset.trans (Run.sorted?_subset finishes.makesUpNothing sorts) byRank.within, ?_⟩
  rw [Run.sorted?] at sorts
  split at sorts
  next isSorted =>
    cases sorts
    exact byRank.sorted isSorted
  next _ => exact finishes.byRank _ _ byRank.within sorts

theorem Ranks.join?
    {first second joined : Run α}
    (ranks : Ranks before notAfter whole)
    (finishes : SortsByRank notAfter whole finish)
    (firstByRank : first.ByRank notAfter whole)
    (secondByRank : second.ByRank notAfter whole)
    (joins : first.join? before finish second = some joined) :
    joined.ByRank notAfter whole := by
  refine ⟨Run.join?_subset finishes.makesUpNothing firstByRank.within secondByRank.within joins,
    ?_⟩
  rw [Run.join?] at joins
  split at joins
  next _ =>
    obtain ⟨left, sortsLeft, right, sortsRight, rfl⟩ :
        ∃ left, first.sorted? finish = some left ∧ ∃ right, second.sorted? finish = some right ∧
          ⟨Sorting.mergeSorted before left right, true⟩ = joined := by
      simpa [Option.bind_eq_some_iff] using joins
    obtain ⟨leftIn, leftSorted⟩ := firstByRank.sorted? finishes sortsLeft
    obtain ⟨rightIn, rightSorted⟩ := secondByRank.sorted? finishes sortsRight
    exact fun _ => ranks.mergeSorted leftIn rightIn leftSorted rightSorted
  next _ =>
    cases joins
    exact fun isSorted => absurd isSorted Bool.false_ne_true

theorem Ranks.settle?
    {depth : Nat}
    {waiting stillWaiting : List (WaitingRun α)}
    {run merged : Run α}
    (ranks : Ranks before notAfter whole)
    (finishes : SortsByRank notAfter whole finish)
    (waitingByRank : ∀ entry ∈ waiting, entry.run.ByRank notAfter whole)
    (runByRank : run.ByRank notAfter whole)
    (settles : settle? before finish depth waiting run = some (stillWaiting, merged)) :
    (∀ entry ∈ stillWaiting, entry.run.ByRank notAfter whole) ∧ merged.ByRank notAfter whole := by
  induction waiting generalizing run with
  | nil =>
      cases settles
      exact ⟨waitingByRank, runByRank⟩
  | cons last earlier hypothesis =>
      obtain ⟨lastByRank, earlierByRank⟩ := List.forall_mem_cons.mp waitingByRank
      rw [Sorting.settle?] at settles
      split at settles
      next _ =>
        obtain ⟨joined, joins, settlesThen⟩ := Option.bind_eq_some_iff.mp settles
        exact hypothesis earlierByRank (ranks.join? finishes lastByRank runByRank joins)
          settlesThen
      next _ =>
        cases settles
        exact ⟨waitingByRank, runByRank⟩

theorem Ranks.mergeRuns?
    {length place : Nat}
    {waiting : List (WaitingRun α)}
    {run merged : Run α}
    {later : List (Run α)}
    (ranks : Ranks before notAfter whole)
    (finishes : SortsByRank notAfter whole finish)
    (waitingByRank : ∀ entry ∈ waiting, entry.run.ByRank notAfter whole)
    (runByRank : run.ByRank notAfter whole)
    (laterByRank : ∀ next ∈ later, next.ByRank notAfter whole)
    (merges : mergeRuns? before finish length waiting place run later = some merged) :
    merged.ByRank notAfter whole := by
  induction later generalizing waiting place run with
  | nil =>
      obtain ⟨⟨stillWaiting, settled⟩, settles, rfl⟩ := Option.map_eq_some_iff.mp merges
      exact (ranks.settle? finishes waitingByRank runByRank settles).2
  | cons next rest hypothesis =>
      obtain ⟨nextByRank, restByRank⟩ := List.forall_mem_cons.mp laterByRank
      obtain ⟨⟨stillWaiting, settled⟩, settles, mergesThen⟩ := Option.bind_eq_some_iff.mp merges
      obtain ⟨stillByRank, settledByRank⟩ :=
        ranks.settle? finishes waitingByRank runByRank settles
      exact hypothesis (List.forall_mem_cons.mpr ⟨settledByRank, stillByRank⟩) nextByRank
        restByRank mergesThen

/-- Sorting by runs puts items by rank if finishing the unsorted ones does. -/
theorem Ranks.byRuns?
    {eager : Bool}
    (ranks : Ranks before notAfter whole)
    (finishes : SortsByRank notAfter whole finish) :
    SortsByRank notAfter whole (byRuns? before eager finish) where
  makesUpNothing := byRuns?_makesUpNothing finishes.makesUpNothing
  byRank items sorted within sorts := by
    obtain ⟨runs, cuts, sortsRuns⟩ := Option.bind_eq_some_iff.mp sorts
    have runsByRank := ranks.cutRuns? within cuts
    cases runs with
    | nil =>
        cases sortsRuns
        exact List.Pairwise.nil
    | cons first later =>
        obtain ⟨firstByRank, laterByRank⟩ := List.forall_mem_cons.mp runsByRank
        obtain ⟨merged, merges, sortsMerged⟩ := Option.bind_eq_some_iff.mp sortsRuns
        have mergedByRank := ranks.mergeRuns? finishes (List.forall_mem_nil _) firstByRank
          laterByRank merges
        exact (mergedByRank.sorted? finishes sortsMerged).2

end

/-- Items are parted by a test, and the one at the place by decree. -/
theorem mem_partAt_iff
    {place : Nat}
    {goesLeft : Bool}
    {test : α → Bool}
    {item : α} :
    (item ∈ (partAt place goesLeft test items).1 ↔
      ∃ index, items[index]? = some item ∧
        (if index = place then goesLeft else test item) = true) ∧
    (item ∈ (partAt place goesLeft test items).2 ↔
      ∃ index, items[index]? = some item ∧
        (if index = place then goesLeft else test item) = false) := by
  rw [partAt, List.partition_eq_filter_filter]
  simp [List.mem_zipIdx_iff_getElem?]

theorem mem_partAt
    {item : α}
    (place : Nat)
    (goesLeft : Bool)
    (test : α → Bool)
    (present : item ∈ items) :
    item ∈ (partAt place goesLeft test items).1 ∨ item ∈ (partAt place goesLeft test items).2 := by
  obtain ⟨index, here⟩ := List.mem_iff_getElem?.mp present
  cases side : if index = place then goesLeft else test item with
  | true => exact Or.inl (mem_partAt_iff.1.mpr ⟨index, here, side⟩)
  | false => exact Or.inr (mem_partAt_iff.2.mpr ⟨index, here, side⟩)

section

variable {pivot : α} {place : Nat}

/-- A pivot stands between the items that are parted by comparing them with it. -/
theorem Ranks.partAt
    {test : α → Bool}
    (ranks : Ranks before notAfter whole)
    (goesLeft : Bool)
    (within : items ⊆ whole)
    (isPivot : items[place]? = some pivot)
    (goLeft : ∀ item ∈ items, test item = true → notAfter item pivot)
    (goRight : ∀ item ∈ items, test item = false → notAfter pivot item) :
    (∀ item ∈ (partAt place goesLeft test items).1, notAfter item pivot) ∧
      ∀ item ∈ (Sorting.partAt place goesLeft test items).2, notAfter pivot item := by
  have pivotSelf := ranks.refl (within (List.mem_of_getElem? isPivot))
  constructor
  · intro item present
    obtain ⟨index, here, side⟩ := mem_partAt_iff.1.mp present
    split at side
    next isPlace =>
      rw [isPlace, isPivot] at here
      exact Option.some.inj here ▸ pivotSelf
    next _ => exact goLeft item (List.mem_of_getElem? here) side
  · intro item present
    obtain ⟨index, here, side⟩ := mem_partAt_iff.2.mp present
    split at side
    next isPlace =>
      rw [isPlace, isPivot] at here
      exact Option.some.inj here ▸ pivotSelf
    next _ => exact goRight item (List.mem_of_getElem? here) side

/-- Around a pivot two sorted lists stand by rank. -/
theorem Ranks.around
    (ranks : Ranks before notAfter whole)
    (lower : ∀ item ∈ left, notAfter item pivot)
    (higher : ∀ item ∈ right, notAfter pivot item)
    (leftSorted : left.Pairwise notAfter)
    (rightSorted : right.Pairwise notAfter) :
    (left ++ right).Pairwise notAfter :=
  List.pairwise_append.mpr ⟨leftSorted, rightSorted, fun first firstIn second secondIn =>
    ranks.trans (lower first firstIn) (higher second secondIn)⟩

/-- A pivot that no item has a lower rank than is settled with those that do not come after it. -/
theorem Ranks.settled
    {sortLater : List α → Option (List α)}
    {sorted : List α}
    (ranks : Ranks before notAfter whole)
    (within : items ⊆ whole)
    (isPivot : items[place]? = some pivot)
    (least : ∀ item ∈ items, notAfter pivot item)
    (laterSorts : SortsByRank notAfter whole sortLater)
    (sorts : (sortLater (Sorting.partAt place true (fun item => !before pivot item) items).2).map
      ((Sorting.partAt place true (fun item => !before pivot item) items).1 ++ ·) = some sorted) :
    sorted.Pairwise notAfter := by
  have pivotIn := within (List.mem_of_getElem? isPivot)
  obtain ⟨settledIn, laterIn⟩ := partAt_subset place true (fun item => !before pivot item) items
  have goLeft : ∀ item ∈ items, (!before pivot item) = true → notAfter item pivot :=
    fun item present follows =>
      ranks.of_not_before pivotIn (within present) ((Bool.not_eq_true' _).mp follows)
  have goRight : ∀ item ∈ items, (!before pivot item) = false → notAfter pivot item :=
    fun item present precedes =>
      ranks.of_before pivotIn (within present) ((Bool.not_eq_false' _).mp precedes)
  obtain ⟨settledFirst, laterLast⟩ := ranks.partAt true within isPivot goLeft goRight
  obtain ⟨later, sortsLater, rfl⟩ := Option.map_eq_some_iff.mp sorts
  refine ranks.around settledFirst ?_ ?_ ?_
  · exact fun item present => laterLast item (laterSorts.makesUpNothing _ _ sortsLater present)
  · apply List.pairwise_of_forall_mem_list
    intro first firstIn second secondIn
    exact ranks.trans (settledFirst first firstIn) (least second (settledIn secondIn))
  · exact laterSorts.byRank _ _ (List.Subset.trans laterIn within) sortsLater

end

/-- Whatever bounds a list from the left, sorting by pivots puts its items by rank. -/
theorem Ranks.byPivots?
    {limit : Nat}
    {bound : Option α}
    {sorted : List α}
    (ranks : Ranks before notAfter whole)
    (within : items ⊆ whole)
    (bounded : ∀ least ∈ bound, least ∈ whole ∧ ∀ item ∈ items, notAfter least item)
    (sorts : byPivots? before limit bound items = some sorted) :
    sorted.Pairwise notAfter := by
  have short : SortsByRank notAfter whole (Sorting.sortShort? before) :=
    ⟨sortShort?_makesUpNothing, fun _ _ within sorts => ranks.sortShort? within sorts⟩
  induction limit generalizing bound items sorted with
  | zero =>
      rw [Sorting.byPivots?] at sorts
      split at sorts
      · exact ranks.sortShort? within sorts
      · exact (ranks.byRuns? short).byRank _ _ within sorts
  | succ limit hypothesis =>
      have unbounded : SortsByRank notAfter whole (Sorting.byPivots? before limit none) :=
        ⟨byPivots?_makesUpNothing limit none, fun _ _ within sorts =>
          hypothesis within (fun _ impossible => (Option.not_mem_none _ impossible).elim) sorts⟩
      rw [Sorting.byPivots?] at sorts
      split at sorts
      · exact ranks.sortShort? within sorts
      · simp only at sorts
        split at sorts
        next _ => cases sorts
        next pivot isPivot =>
          have pivotIn := List.mem_of_getElem? isPivot
          have goLeft : ∀ item ∈ items, before item pivot = true → notAfter item pivot :=
            fun item present => ranks.of_before (within present) (within pivotIn)
          have goRight : ∀ item ∈ items, before item pivot = false → notAfter pivot item :=
            fun item present => ranks.of_not_before (within present) (within pivotIn)
          obtain ⟨lower, higher⟩ := ranks.partAt false within isPivot goLeft goRight
          split at sorts
          next isBound =>
            -- the pivot is of the rank of the bound, and so no item is of a lower one
            obtain ⟨least, bounds, notBefore⟩ := (Option.any_eq_true _ _).mp isBound
            obtain ⟨leastIn, isLeast⟩ := bounded least bounds
            have pivotLeast := ranks.of_not_before leastIn (within pivotIn)
              ((Bool.not_eq_true' _).mp notBefore)
            exact ranks.settled within isPivot
              (fun item present => ranks.trans pivotLeast (isLeast item present)) unbounded sorts
          next _ =>
            split at sorts
            next noneEarlier =>
              refine ranks.settled within isPivot ?_ unbounded sorts
              intro item present
              rcases mem_partAt (pivotPlace before items) false (before · pivot) present with
                inEarlier | inOthers
              · rw [List.isEmpty_iff.mp noneEarlier] at inEarlier
                exact absurd inEarlier List.not_mem_nil
              · exact higher item inOthers
            next _ =>
              obtain ⟨right, sortsRight, sortsThen⟩ := Option.bind_eq_some_iff.mp sorts
              obtain ⟨left, sortsLeft, same⟩ := Option.bind_eq_some_iff.mp sortsThen
              obtain ⟨earlierIn, othersIn⟩ :=
                partAt_subset (pivotPlace before items) false (before · pivot) items
              have leftLower : ∀ item ∈ left, notAfter item pivot := fun item present =>
                lower item (byPivots?_makesUpNothing limit bound _ _ sortsLeft present)
              have rightHigher : ∀ item ∈ right, notAfter pivot item := fun item present =>
                higher item (byPivots?_makesUpNothing limit _ _ _ sortsRight present)
              rw [← Option.some.inj same]
              refine ranks.around leftLower rightHigher ?_ ?_
              · refine hypothesis (List.Subset.trans earlierIn within) ?_ sortsLeft
                intro least bounds
                obtain ⟨leastIn, isLeast⟩ := bounded least bounds
                exact ⟨leastIn, fun item present => isLeast item (earlierIn present)⟩
              · refine hypothesis (List.Subset.trans othersIn within) ?_ sortsRight
                intro least bounds
                obtain rfl := Option.some.inj bounds
                exact ⟨within pivotIn, higher⟩

/-- Sorting puts items by rank. -/
theorem Ranks.sort?
    {sorted : List α}
    (ranks : Ranks before notAfter whole)
    (within : items ⊆ whole)
    (sorts : sort? before items = some sorted) :
    sorted.Pairwise notAfter := by
  have finishes : SortsByRank notAfter whole (byAllPivots? before) := by
    refine ⟨fun items sorted sorts => byPivots?_makesUpNothing _ none items sorted sorts, ?_⟩
    intro items sorted within sorts
    exact ranks.byPivots? within (fun _ impossible => (Option.not_mem_none _ impossible).elim) sorts
  exact (ranks.byRuns? finishes).byRank items sorted within sorts

end

end Sorting

end RoomHistory
